import QueryCriteria.Criteria.Tree
import QueryCriteria.Proofs.Success

/-!
What a caller's request has to pass to become criteria: one condition for each part, and the check of
the fields beside them if only some are allowed.
-/
namespace QueryCriteria

variable {allowed : Option (List String)}

theorem Filter.new_eq_ok_iff {field : FieldName} {operator : Operator} {value : Value} {filter : Filter} :
    new field operator value = .ok filter ↔
      field = filter.field ∧ Test.ofValue operator value = .ok filter.test := by
  unfold new
  cases Test.ofValue operator value with
  | error fault => exact ⟨nofun, nofun⟩
  | ok test =>
    constructor
    · intro h
      obtain rfl := Except.ok.inj h
      exact ⟨rfl, rfl⟩
    · rintro ⟨rfl, htest⟩
      rw [Except.ok.inj htest]

/-- Field, operator and value read, and the value suits the operator. -/
theorem Filter.ofInput_eq_ok_iff {input : FilterInput} {filter : Filter} :
    ofInput input = .ok filter ↔ ∃ operator value, FieldName.parse input.field = .ok filter.field ∧
      parseOperator input.operator = .ok operator ∧ Value.ofJson input.value = .ok value ∧
        Test.ofValue operator value = .ok filter.test := by
  constructor
  · intro h
    obtain ⟨field, hfield, h⟩ := exists_of_bind_ok h
    obtain ⟨operator, hoperator, h⟩ := exists_of_bind_ok h
    cases hvalue : Value.ofJson input.value with
    | error fault =>
      rw [hvalue] at h
      cases h
    | ok value =>
      rw [hvalue] at h
      obtain ⟨rfl, htest⟩ := new_eq_ok_iff.mp h
      exact ⟨operator, value, hfield, hoperator, rfl, htest⟩
  · rintro ⟨operator, value, hfield, hoperator, hvalue, htest⟩
    refine bind_eq_ok_iff.mpr ⟨filter.field, hfield, bind_eq_ok_iff.mpr ⟨operator, hoperator, ?_⟩⟩
    rw [hvalue]
    exact new_eq_ok_iff.mpr ⟨rfl, htest⟩

/-- Every filter reads, and all their fields are allowed. -/
theorem Filters.create_eq_ok_iff {inputs : List FilterInput} {filters : Filters} :
    create inputs allowed = .ok filters ↔
      inputs.mapM Filter.ofInput = .ok filters ∧ ∀ names ∈ allowed, checkFields names filters = .ok () := by
  cases allowed with
  | none =>
    refine bind_eq_ok_iff.trans ⟨?_, ?_⟩
    · rintro ⟨read, hread, h⟩
      obtain rfl : read = filters := Except.ok.inj h
      exact ⟨hread, nofun⟩
    · rintro ⟨hread, _⟩
      exact ⟨filters, hread, rfl⟩
  | some names =>
    refine bind_eq_ok_iff.trans ⟨?_, ?_⟩
    · rintro ⟨read, hread, h⟩
      obtain ⟨_, hcheck, h⟩ := exists_of_bind_ok h
      obtain rfl : read = filters := Except.ok.inj h
      exact ⟨hread, fun _ hn => Option.mem_some.mp hn ▸ hcheck⟩
    · rintro ⟨hread, hcheck⟩
      exact ⟨filters, hread, bind_eq_ok_iff.mpr ⟨(), hcheck names rfl, rfl⟩⟩

namespace Order

theorem create_of_absent {fields : Option String} (h : present fields = Option.none)
    (type : Option String) : create fields type allowed = .ok none := by
  rw [create, h]

/-- The fields read, all of them are allowed, and the direction is one. -/
theorem create_eq_ok_iff {fields type : Option String} {order : Order} {text : String}
    (h : present fields = some text) :
    create fields type allowed = .ok order ↔ parseFields text = .ok order.fields ∧
      (∀ names ∈ allowed, order.checkFields names = .ok ()) ∧ direction type = .ok order.type := by
  rw [create, h]
  refine bind_eq_ok_iff.trans ?_
  cases allowed with
  | none =>
    constructor
    · rintro ⟨read, hread, h⟩
      obtain ⟨chosen, hchosen, h⟩ := exists_of_bind_ok h
      obtain rfl := Except.ok.inj h
      exact ⟨hread, nofun, hchosen⟩
    · rintro ⟨hread, _, hchosen⟩
      exact ⟨order.fields, hread, bind_eq_ok_iff.mpr ⟨order.type, hchosen, rfl⟩⟩
  | some names =>
    constructor
    · rintro ⟨read, hread, h⟩
      obtain ⟨_, hcheck, h⟩ := exists_of_bind_ok h
      obtain ⟨chosen, hchosen, h⟩ := exists_of_bind_ok h
      obtain rfl := Except.ok.inj h
      exact ⟨hread, fun _ hn => Option.mem_some.mp hn ▸ hcheck, hchosen⟩
    · rintro ⟨hread, hcheck, hchosen⟩
      exact ⟨order.fields, hread, bind_eq_ok_iff.mpr
        ⟨(), hcheck names rfl, bind_eq_ok_iff.mpr ⟨order.type, hchosen, rfl⟩⟩⟩

end Order

theorem Criteria.create_eq_ok_iff {inputs : List FilterInput} {orderBy orderType : Option String}
    {limit offset : Option Int64} {c : Criteria} :
    create inputs orderBy orderType limit offset allowed = .ok c ↔
      Filters.create inputs allowed = .ok c.filters ∧ Order.create orderBy orderType allowed = .ok c.order ∧
        pageBound .limit limit = .ok c.limit ∧ pageBound .offset offset = .ok c.offset ∧
          c.branches = [] := by
  unfold create
  simp only [bind_eq_ok_iff]
  constructor
  · rintro ⟨filters, hfilters, order, horder, first, hfirst, second, hsecond, h⟩
    obtain rfl := Except.ok.inj h
    exact ⟨hfilters, horder, hfirst, hsecond, rfl⟩
  · obtain ⟨filters, order, first, second, branches⟩ := c
    rintro ⟨hfilters, horder, hfirst, hsecond, rfl⟩
    exact ⟨filters, hfilters, order, horder, first, hfirst, second, hsecond, rfl⟩

end QueryCriteria
