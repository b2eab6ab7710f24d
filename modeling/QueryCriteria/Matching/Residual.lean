import QueryCriteria.Matching.Evaluate

/-!
Query plans: a command for a backend, and what the backend could not express, which is done on the
records that it returns.
-/
namespace QueryCriteria

/-- Filtering, sorting and pagination that are still to be done. -/
structure Residual where
  criteria : Option Criteria
  order : Order
  offset : Option UInt64
  limit : Option UInt64

namespace Residual

/-- Nothing is left to do. -/
def none : Residual := ⟨Option.none, .none, Option.none, Option.none⟩

/-- Only pagination is left to do. -/
def pagination (limit offset : Option UInt64) : Residual :=
  { none with limit, offset }

/-- All that a tree asks for is left to do. -/
def ofCriteria (c : Criteria) : Residual where
  criteria := if c.isUnconstrained then Option.none else some c
  order := c.order
  offset := c.offset
  limit := c.limit

/-- Whether the residual leaves every list of records as it is by its form alone. -/
def isEmpty (residual : Residual) : Bool :=
  residual.criteria.isNone && !residual.order.isOrdered && residual.offset.isNone
    && residual.limit.isNone

/-- The records that the predicate selects. -/
def selected (residual : Residual) (records : List Record) : List Record :=
  match residual.criteria with
  | some c => records.filter (Criteria.selects · c)
  | Option.none => records

/-- The records sorted, if there is an order. -/
def sorted (residual : Residual) (records : List Record) : List Record :=
  if residual.order.isOrdered then Record.sort residual.order records else records

/-- The page that offset and limit cut out. -/
def page (residual : Residual) (records : List Record) : List Record :=
  let rest := records.drop ((residual.offset.map UInt64.toNat).getD 0)
  match residual.limit with
  | some limit => rest.take limit.toNat
  | Option.none => rest

/--
Filters, sorts and paginates records, unless nothing is left to do. The sort is the one that cannot
crash: this is what comes out where none does.
-/
def apply (residual : Residual) (records : List Record) : List Record :=
  if residual.isEmpty then records
  else residual.page (residual.sorted (residual.selected records))

/-- An empty residual changes nothing. -/
theorem apply_of_isEmpty {residual : Residual} (h : residual.isEmpty = true)
    (records : List Record) : residual.apply records = records :=
  if_pos h

/-- Where nothing is left to do, no step changes anything. -/
theorem steps_of_isEmpty {residual : Residual} (h : residual.isEmpty = true)
    (records : List Record) :
    residual.selected records = records ∧ residual.order.isOrdered = false ∧
      residual.page records = records := by
  obtain ⟨criteria, order, offset, limit⟩ := residual
  simp only [isEmpty, Bool.and_eq_true, Option.isNone_iff_eq_none, Bool.not_eq_true'] at h
  obtain ⟨⟨⟨rfl, hOrder⟩, rfl⟩, rfl⟩ := h
  exact ⟨rfl, hOrder, rfl⟩

theorem apply_eq (residual : Residual) (records : List Record) :
    residual.apply records = residual.page (residual.sorted (residual.selected records)) := by
  unfold apply
  split
  · rename_i h
    obtain ⟨hSelected, hOrder, hPage⟩ := steps_of_isEmpty h records
    simp [hSelected, sorted, hOrder, hPage]
  · rfl

/-- The records sorted, if there is an order, by a sort that may crash. -/
def sortedBy? (sort? : Order → List Record → Option (List Record)) (residual : Residual)
    (records : List Record) : Option (List Record) :=
  if residual.order.isOrdered then sort? residual.order records else some records

/-- Filters, sorts and paginates records by a sort that may crash, unless nothing is left to do. -/
def appliedBy? (sort? : Order → List Record → Option (List Record)) (residual : Residual)
    (records : List Record) : Option (List Record) :=
  if residual.isEmpty then some records
  else (residual.sortedBy? sort? (residual.selected records)).map residual.page

/-- Filters, sorts and paginates records. There is no result if the sort crashes. -/
def applied? (residual : Residual) (records : List Record) : Option (List Record) :=
  residual.appliedBy? Record.sort? records

theorem appliedBy?_eq (sort? : Order → List Record → Option (List Record)) (residual : Residual)
    (records : List Record) :
    residual.appliedBy? sort? records =
      (residual.sortedBy? sort? (residual.selected records)).map residual.page := by
  unfold appliedBy?
  split
  · rename_i h
    obtain ⟨hSelected, hOrder, hPage⟩ := steps_of_isEmpty h records
    simp [hSelected, sortedBy?, hOrder, hPage]
  · rfl

end Residual

/-- A command, and what is left to do on the records that it yields. -/
structure QueryPlan (κ : Type) where
  command : κ
  residual : Residual

/-- A plan that its command expresses completely. -/
def QueryPlan.native {κ : Type} (command : κ) : QueryPlan κ :=
  ⟨command, .none⟩

end QueryCriteria
