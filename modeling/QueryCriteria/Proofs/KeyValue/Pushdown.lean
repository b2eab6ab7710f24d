import QueryCriteria.KeyValue.Commands
import QueryCriteria.Proofs.Criteria.Filter
import QueryCriteria.Proofs.Matching.Tree
import QueryCriteria.Store.Repository

/-!
The filter that becomes a lookup of keys. A key is the text of an identifier, and the texts of a
number and of a text may be the same; only then does the lookup take one for the other.
-/
namespace QueryCriteria

/-- The identifier of a record is a text, or the text of a number. -/
theorem recordId_column {idField id : String} {record : Record}
    (h : recordId idField record = .ok id) :
    record.column idField = .text id ∨
      ∃ n, record.column idField = .number n ∧ n.render = id := by
  rw [recordId] at h
  split at h
  · rename_i s hs
    split at h
    · cases h
    · cases h
      exact .inl (by rw [Record.column, hs, Option.getD_some])
  · rename_i n hn
    cases h
    exact .inr ⟨n, by rw [Record.column, hn, Option.getD_some], rfl⟩
  · cases h

theorem recordId_reaches {idField id : String} {record : Record}
    (h : recordId idField record = .ok id) : record.Reaches idField := by
  intro hnone
  rw [recordId, hnone] at h
  cases h

namespace KeyValue

/-- Whether a key is among those that are looked up. -/
def Collection.Lookup.finds : Collection.Lookup → String → Bool
  | .key id, k => k == id
  | .keysFrom start, k => start.toList.isPrefixOf k.toList

/-- The tests that become lookups, and the lookups they become. -/
inductive Pushed : Test → Collection.Lookup → Prop where
  | text (s : String) : Pushed (.equal (some (.text s))) (.key s)
  | integer (n : Int64) : Pushed (.equal (some (.integer n))) (.key (toString n.toInt))
  | start (s : String) : Pushed (.text .beginsWith s) (.keysFrom s)

namespace Collection

theorem keyLookup?_pushed {filter : Filter} {lookup : Lookup} (h : keyLookup? filter = some lookup) :
    Pushed filter.test lookup := by
  rw [keyLookup?] at h
  split at h
  · rename_i operand ht
    obtain ⟨id, hid, rfl⟩ := Option.map_eq_some_iff.mp h
    rw [ht]
    cases operand with
    | text s =>
      cases hid
      exact .text _
    | integer n =>
      cases hid
      exact .integer _
    | bool b => cases hid
    | float x => cases hid
  · cases h

theorem rangeLookup?_pushed {filter : Filter} {lookup : Lookup}
    (h : rangeLookup? filter = some lookup) : Pushed filter.test lookup := by
  rw [rangeLookup?] at h
  split at h
  · rename_i start ht
    cases h
    rw [ht]
    exact .start start
  · cases h

theorem firstLookup?_eq_some {lookup? : Filter → Option Lookup} {filters : Filters}
    {pushed : Filter} {lookup : Lookup} (h : firstLookup? lookup? filters = some (pushed, lookup)) :
    pushed ∈ filters ∧ lookup? pushed = some lookup := by
  obtain ⟨filter, hmem, hlookup⟩ := List.exists_of_findSome?_eq_some h
  obtain ⟨found, hfound, heq⟩ := Option.map_eq_some_iff.mp hlookup
  cases heq
  exact ⟨hmem, hfound⟩

variable {collection : Collection} {c : Criteria} {pushed : Filter} {lookup : Lookup}

theorem branches_of_pushdown? (h : collection.pushdown? c = some (pushed, lookup)) :
    c.branches = [] := by
  rw [pushdown?] at h
  split at h
  · rename_i hb
    exact List.isEmpty_iff.mp hb
  · cases h

/-- What becomes a lookup is a filter of the root that asks for identifiers. -/
theorem pushed_of_pushdown? (h : collection.pushdown? c = some (pushed, lookup)) :
    pushed ∈ c.filters ∧ pushed.field.text = collection.idField ∧ Pushed pushed.test lookup := by
  have hfound : pushed ∈ c.filters.filter (Filter.isOn collection.idField) ∧
      Pushed pushed.test lookup := by
    rw [pushdown?] at h
    split at h
    · rcases Option.or_eq_some_iff.mp h with hkey | ⟨-, hrange⟩
      · obtain ⟨hmem, hlookup⟩ := firstLookup?_eq_some hkey
        exact ⟨hmem, keyLookup?_pushed hlookup⟩
      · obtain ⟨hmem, hlookup⟩ := firstLookup?_eq_some hrange
        exact ⟨hmem, rangeLookup?_pushed hlookup⟩
    · cases h
  obtain ⟨hmem, htest⟩ := hfound
  obtain ⟨hmem, hon⟩ := List.mem_filter.mp hmem
  exact ⟨hmem, beq_iff_eq.mp hon, htest⟩

/-- The filters all hold when the pushed one holds and the remaining ones do. -/
theorem selects_iff_remaining (h : collection.pushdown? c = some (pushed, lookup)) {record : Record} :
    c.selects record = true ↔
      pushed.holds record = true ∧ ∀ f ∈ remaining pushed c.filters, f.holds record = true := by
  obtain ⟨hmem, -, -⟩ := pushed_of_pushdown? h
  rw [Criteria.selects_iff_of_branches_nil (branches_of_pushdown? h), remaining]
  by_cases htext : pushed.value.text?.isSome = true
  · rw [if_pos htext]
    constructor
    · intro hall
      exact ⟨hall pushed hmem, fun f hf => hall f (List.mem_filter.mp hf).1⟩
    · rintro ⟨hpushed, hrest⟩ f hf
      by_cases hs : f.same pushed = true
      · rw [Filter.eq_of_same htext hs]
        exact hpushed
      · exact hrest f (List.mem_filter.mpr ⟨hf, by simpa using hs⟩)
  · rw [if_neg htext]
    exact ⟨fun hall => ⟨hall pushed hmem, hall⟩, fun hall => hall.2⟩

end Collection

theorem equals_text {s t : String} : Test.equals (.text s) (.text t) = true ↔ s = t := by
  have hlt : s < t → s ≠ t := fun hlt heq => String.lt_irrefl t (heq ▸ hlt)
  by_cases hst : s < t
  · simp [Test.equals, Json.compare?, Json.compareTexts, hst, hlt hst]
  · by_cases heq : s = t <;> simp [Test.equals, Json.compare?, Json.compareTexts, hst, heq]

/--
The identifier is a number, and looking up its text is not what the test asks for: no text equals a
number or begins it, and numbers that are equal may be written differently.
-/
def Misread : Test → Json → Prop
  | .equal (some (.text s)), .number n => n.render = s
  | .text .beginsWith s, .number n => s.toList <+: n.render.toList
  | .equal (some (.integer m)), .number n =>
    Test.equals (.number n) (.ofInt64 m) = true ∧ n.render ≠ toString m.toInt
  | _, _ => False

theorem misread_iff {test : Test} {lookup : Collection.Lookup} (hp : Pushed test lookup)
    {value : Json} {k : String} (hid : value = .text k ∨ ∃ n, value = .number n ∧ n.render = k)
    (hkept : test.value.text?.isSome = false → test.holds value = true) :
    Misread test value ↔ ¬ (lookup.finds k = true ↔ test.holds value = true) := by
  cases hp with
  | text s =>
    rcases hid with rfl | ⟨n, rfl, rfl⟩
    · have hholds : (Test.equal (some (.text s))).holds (.text k) = true ↔ k = s := equals_text
      simp [Misread, Collection.Lookup.finds, hholds]
    · have hholds : (Test.equal (some (.text s))).holds (.number n) = false := rfl
      simp [Misread, Collection.Lookup.finds, hholds]
  | start s =>
    rcases hid with rfl | ⟨n, rfl, rfl⟩
    · have hholds : (Test.text .beginsWith s).holds (.text k) = s.toList.isPrefixOf k.toList := rfl
      simp [Misread, Collection.Lookup.finds, hholds]
    · have hholds : (Test.text .beginsWith s).holds (.number n) = false := rfl
      simp [Misread, Collection.Lookup.finds, hholds]
  | integer m =>
    -- This filter is not dropped, so a record under the wrong key is refused; one may only be missed.
    have hholds := hkept rfl
    rcases hid with rfl | ⟨n, rfl, rfl⟩
    · cases hholds
    · have hequals : Test.equals (.number n) (.ofInt64 m) = true := hholds
      simp [Misread, Collection.Lookup.finds, hholds, hequals]

namespace Collection

/--
Whether the collection answers criteria wrongly for a record: the pushed filter is misread, and the
remaining filters do not settle the matter.
-/
def Confuses (collection : Collection) (c : Criteria) (record : Record) : Prop :=
  ∃ pushed lookup, collection.pushdown? c = some (pushed, lookup) ∧
    Misread pushed.test (record.column collection.idField) ∧
    ∀ f ∈ remaining pushed c.filters, f.holds record = true

variable {collection : Collection} {c : Criteria} {pushed : Filter} {lookup : Lookup}

theorem confuses_iff (h : collection.pushdown? c = some (pushed, lookup)) {record : Record} :
    collection.Confuses c record ↔
      Misread pushed.test (record.column collection.idField) ∧
        ∀ f ∈ remaining pushed c.filters, f.holds record = true := by
  constructor
  · rintro ⟨pushed', lookup', h', hmis, hrest⟩
    rw [h] at h'
    cases h'
    exact ⟨hmis, hrest⟩
  · rintro ⟨hmis, hrest⟩
    exact ⟨pushed, lookup, h, hmis, hrest⟩

/-- A lookup with the remaining filters selects what the criteria select, unless there is confusion. -/
theorem finds_iff_selects (h : collection.pushdown? c = some (pushed, lookup)) {record : Record}
    {k : String} (hid : recordId collection.idField record = .ok k) :
    ((lookup.finds k = true ∧ ∀ f ∈ remaining pushed c.filters, f.holds record = true) ↔
        c.selects record = true) ↔
      ¬ collection.Confuses c record := by
  obtain ⟨hmem, hfield, hp⟩ := pushed_of_pushdown? h
  have hreaches := recordId_reaches hid
  rw [← hfield] at hreaches
  have hholds := Filter.holds_eq_column hreaches
  rw [hfield] at hholds
  rw [selects_iff_remaining h, confuses_iff h]
  by_cases hrest : ∀ f ∈ remaining pushed c.filters, f.holds record = true
  · have hkept : pushed.test.value.text?.isSome = false →
        pushed.test.holds (record.column collection.idField) = true := by
      intro hnot
      rw [← hholds]
      refine hrest pushed ?_
      rw [remaining, Filter.value, hnot]
      exact hmem
    rw [misread_iff hp (recordId_column hid) hkept, hholds]
    simp only [and_iff_left hrest, Decidable.not_not]
  · simp only [hrest, and_false, not_false_eq_true]

end Collection

end KeyValue

end QueryCriteria
