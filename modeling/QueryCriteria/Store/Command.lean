import QueryCriteria.Matching.Residual
import QueryCriteria.Store.Error

/-! The commands that a repository needs, as one record of functions for each backend. -/
namespace QueryCriteria

/-- The attribute that identifies records unless another one is named. -/
def defaultIdField : String := "id"

/-- Builds the commands of one collection of records. -/
structure CommandBuilder (κ : Type) where
  /-- The attribute that identifies a record. -/
  idField : String
  /-- Stores a record, in place of one with the same identifier. -/
  upsert : String → Record → Except StoreError κ
  /-- Fetches the record with an identifier. -/
  findById : String → Except StoreError κ
  /-- Fetches every record. -/
  findAll : Except StoreError κ
  /-- Fetches the records that criteria select. -/
  matching : Criteria → Except StoreError (QueryPlan κ)
  /-- Removes the record with an identifier. -/
  delete : String → Except StoreError κ

end QueryCriteria
