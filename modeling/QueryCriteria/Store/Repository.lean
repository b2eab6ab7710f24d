import QueryCriteria.Store.Command
import QueryCriteria.Store.Mapper
import QueryCriteria.Store.Retry
import QueryCriteria.Store.Source

/-!
Repositories: aggregates in a source of records. All calls may be repeated, so they are retried. An
error of the mapper or of the builder of commands is returned before the source is called, and as it
is; an error of the source is returned under the name of the repository's own operation.
-/
namespace QueryCriteria

structure Repository (m : Type → Type) (κ α : Type) where
  source : DataSource m κ
  commands : CommandBuilder κ
  mapper : Mapper α
  retry : RetryPolicy
  /-- Waits between two attempts. -/
  sleep : Duration → m Unit

/-- The identifier of a record: a text that is not empty, or a number as it is written. -/
def recordId (idField : String) (record : Record) : Except StoreError String :=
  let refused := (StoreError.validation
    ("Record must have a non-empty string or numeric '" ++ idField ++ "' field")).withOperation .save
  match Entries.get? record idField with
  | some (.text id) => if id = "" then .error refused else .ok id
  | some (.number n) => .ok n.render
  | _ => .error refused

namespace Repository

variable {m : Type → Type} [Monad m] {κ α β : Type}

/-- Calls the source, with retries; its errors get the operation and perhaps an identifier. -/
def attempt (repo : Repository m κ α) (operation : StoreOperation) (id : Option String)
    (call : m (Except StoreError β)) : m (Except StoreError β) := do
  let result ← repo.retry.run repo.sleep call
  return result.mapError fun e => { e with operation, entityId := id.or e.entityId }

/-- The identifier of an aggregate, and the command that stores it. -/
def saveCommand (repo : Repository m κ α) (aggregate : α) : Except StoreError (String × κ) := do
  let record ← repo.mapper.toRecord aggregate
  let id ← recordId repo.commands.idField record
  return (id, ← repo.commands.upsert id record)

/-- Stores an aggregate, in place of one with the same identifier. -/
def save (repo : Repository m κ α) (aggregate : α) : m (Except StoreError Unit) :=
  match repo.saveCommand aggregate with
  | .error e => pure (.error e)
  | .ok (id, command) => repo.attempt .save (some id) (repo.source.execute command)

/-- The aggregate with an identifier; its absence is no error. -/
def searchById (repo : Repository m κ α) (id : String) : m (Except StoreError (Option α)) :=
  match repo.commands.findById id with
  | .error e => pure (.error e)
  | .ok command => do
    let found ← repo.attempt .searchById (some id) (repo.source.fetchOne command)
    return found.bind fun
      | some record => (repo.mapper.toAggregate record).map some
      | none => .ok none

/-- Fetches records and maps them; the first record that cannot be mapped decides. -/
private def fetchAll (repo : Repository m κ α) (operation : StoreOperation)
    (plan : Except StoreError (QueryPlan κ)) : m (Except StoreError (List α)) :=
  match plan with
  | .error e => pure (.error e)
  | .ok plan => do
    let records ← repo.attempt operation none (repo.source.fetch plan.command)
    return records.bind fun records => (plan.residual.apply records).mapM repo.mapper.toAggregate

def searchAll (repo : Repository m κ α) : m (Except StoreError (List α)) :=
  repo.fetchAll .searchAll (repo.commands.findAll.map .native)

/-- The aggregates that criteria select; empty criteria ask for all of them. -/
def matching (repo : Repository m κ α) (c : Criteria) : m (Except StoreError (List α)) :=
  if c.isEmpty then repo.searchAll
  else repo.fetchAll .matching (repo.commands.matching c)

/-- Removes the aggregate with an identifier; its absence is no error. -/
def delete (repo : Repository m κ α) (id : String) : m (Except StoreError Unit) :=
  match repo.commands.delete id with
  | .error e => pure (.error e)
  | .ok command => repo.attempt .delete (some id) (repo.source.execute command)

end Repository

end QueryCriteria
