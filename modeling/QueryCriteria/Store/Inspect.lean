import QueryCriteria.Store.Repository
import QueryCriteria.Text.Inspect

/-! Repositories and their parts as they are shown to programmers. -/
namespace QueryCriteria

def RetryPolicy.inspect (policy : RetryPolicy) : String :=
  Inspect.labelled "RetryPolicy" [("max_retries", toString policy.maxRetries),
    ("base_delay", policy.baseDelay.display)]

def Codec.inspectMapper {α : Type} (codec : Codec α) : String :=
  Inspect.labelled "SerdeMapper" [("aggregate", Inspect.text codec.typeName)]

/-- A repository whose builder of commands is already shown. -/
def Repository.inspect {m : Type → Type} {κ α : Type} (repo : Repository m κ α) (commands : String) :
    String :=
  Inspect.labelled "DataSourceRepository" [("backend", Inspect.text repo.source.backend),
    ("commands", commands), ("retry", repo.retry.inspect)]

end QueryCriteria
