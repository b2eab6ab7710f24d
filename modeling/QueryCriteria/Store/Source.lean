import QueryCriteria.Json.Basic
import QueryCriteria.Store.Error

/-! Sources of records: three calls that run commands, in whatever monad the source lives in. -/
namespace QueryCriteria

structure DataSource (m : Type → Type) (κ : Type) where
  /-- The name of the source in errors. -/
  backend : String
  /-- Runs a command that yields no records. -/
  execute : κ → m (Except StoreError Unit)
  /-- Runs a command and keeps its first record. -/
  fetchOne : κ → m (Except StoreError (Option Record))
  /-- Runs a command that yields records. -/
  fetch : κ → m (Except StoreError (List Record))

end QueryCriteria
