import QueryCriteria.Proofs.KeyValue.Pushdown
import QueryCriteria.Proofs.KeyValue.Range
import QueryCriteria.Proofs.KeyValue.Stored
import QueryCriteria.Proofs.Matching.Sort

/-!
Lookups of keys against plain evaluation. A repository over a store in memory answers criteria as
evaluating them on all records does, as long as no number is confused with its text.
-/
namespace QueryCriteria

/-- Records as aggregates of their own. -/
def Mapper.records : Mapper Record := ⟨.ok, .ok⟩

theorem Mapper.mapM_records (records : List Record) :
    records.mapM Mapper.records.toAggregate = .ok records := by
  induction records with
  | nil => rfl
  | cons record rest ih =>
    rw [List.mapM_cons, ih]
    rfl

namespace KeyValue.Collection

variable (collection : Collection) (c : Criteria)

/-- Whether the command for criteria yields the record under a key. -/
def finds (k : String) : Bool :=
  match collection.pushdown? c with
  | some (_, lookup) => lookup.finds k
  | none => true

/-- The records that the command for criteria yields. -/
def yielded (entries : Entries Record) : List Record :=
  (entries.filter fun e => collection.finds c e.1).map (·.2)

/-- The criteria that are left to be evaluated on what the command yields. -/
def leftover : Criteria :=
  match collection.pushdown? c with
  | some (pushed, _) => { c with filters := remaining pushed c.filters }
  | none => c

theorem plan_residual : (collection.plan c).residual = .ofCriteria (collection.leftover c) := by
  rw [plan, leftover]
  cases collection.pushdown? c with
  | none => rfl
  | some found => rfl

/-- The order and the page are left as they are. -/
theorem apply_leftover (records : List Record) :
    (Residual.ofCriteria (collection.leftover c)).apply records =
      (Residual.ofCriteria c).page ((Residual.ofCriteria c).sorted
        ((Residual.ofCriteria (collection.leftover c)).selected records)) := by
  rw [Residual.apply_eq, leftover]
  cases collection.pushdown? c with
  | none => rfl
  | some found => rfl

variable {collection c} {memory : Memory}

theorem fetch_plan (h : (memory.collection collection.name).Ascending) :
    memory.fetch .fetch (collection.plan c).command =
      .ok (collection.yielded c (memory.collection collection.name)) := by
  simp only [plan, yielded, finds]
  rcases collection.pushdown? c with _ | ⟨pushed, id | start⟩
  · simp [Memory.fetch, Memory.scan, Entries.values]
  · have hkey := Entries.filter_key h id
    simp only [Memory.fetch, Memory.get?, Lookup.finds]
    rw [hkey]
  · simp only [Memory.fetch, Memory.scan, Lookup.finds]
    rw [range_eq_filter h]

theorem pushdown?_of_isUnconstrained (h : c.isUnconstrained = true) : collection.pushdown? c = none := by
  cases hp : collection.pushdown? c with
  | none => rfl
  | some found =>
    have hmem := (pushed_of_pushdown? hp).1
    rw [(Criteria.isUnconstrained_iff.mp h).1] at hmem
    cases hmem

/-- Empty criteria leave nothing to be done. -/
theorem apply_leftover_of_isEmpty (h : c.isEmpty = true) (entries : Entries Record) :
    (Residual.ofCriteria (collection.leftover c)).apply (collection.yielded c entries) =
      entries.values := by
  rw [Criteria.isEmpty, Bool.and_eq_true] at h
  obtain ⟨hu, hm⟩ := h
  have hempty : (Residual.ofCriteria c).isEmpty = true := by
    rw [Bool.not_eq_true', Criteria.hasModifiers, Bool.or_eq_false_iff, Bool.or_eq_false_iff] at hm
    obtain ⟨⟨horder, hlimit⟩, hoffset⟩ := hm
    simp_all [Residual.isEmpty, Residual.ofCriteria]
  have hp : collection.pushdown? c = none := pushdown?_of_isUnconstrained hu
  have hall : entries.filter (fun e => collection.finds c e.1) = entries :=
    List.filter_eq_self.mpr fun e _ => by rw [finds, hp]
  rw [leftover, hp, yielded, hall]
  exact Residual.apply_of_isEmpty hempty entries.values

theorem finds_leftover_iff {record : Record} {k : String}
    (hid : recordId collection.idField record = .ok k) :
    ((collection.finds c k && (collection.leftover c).selects record) = true ↔
        c.selects record = true) ↔ ¬ collection.Confuses c record := by
  rw [Bool.and_eq_true, finds, leftover]
  cases hp : collection.pushdown? c with
  | none =>
    have hnot : ¬ collection.Confuses c record := by
      rintro ⟨pushed, lookup, hp', -⟩
      rw [hp] at hp'
      cases hp'
    simp [hnot]
  | some found =>
    obtain ⟨pushed, lookup⟩ := found
    have hbranches := branches_of_pushdown? hp
    rw [Criteria.selects_iff_of_branches_nil (c := { c with filters := _ }) hbranches]
    exact finds_iff_selects hp hid

variable {entries : Entries Record}

theorem mem_selected_leftover {record : Record} :
    record ∈ (Residual.ofCriteria (collection.leftover c)).selected (collection.yielded c entries) ↔
      ∃ k, (k, record) ∈ entries ∧
        (collection.finds c k && (collection.leftover c).selects record) = true := by
  rw [Residual.selected_ofCriteria, yielded]
  simp only [List.mem_filter, List.mem_map, Prod.exists, Bool.and_eq_true]
  constructor
  · rintro ⟨⟨k, record, ⟨hmem, hfinds⟩, rfl⟩, hleft⟩
    exact ⟨k, hmem, hfinds, hleft⟩
  · rintro ⟨k, hmem, hfinds, hleft⟩
    exact ⟨⟨k, record, ⟨hmem, hfinds⟩, rfl⟩, hleft⟩

theorem selected_leftover (h : Stored collection.idField entries)
    (hc : ∀ record ∈ entries.values, ¬ collection.Confuses c record) :
    (Residual.ofCriteria (collection.leftover c)).selected (collection.yielded c entries) =
      (Residual.ofCriteria c).selected entries.values := by
  rw [Residual.selected_ofCriteria, Residual.selected_ofCriteria, yielded, Entries.values,
    List.filter_map, List.filter_map, List.filter_filter]
  congr 1
  refine List.filter_congr fun e he => ?_
  have hagree := (finds_leftover_iff (h.keys e he)).mpr (hc e.2 (List.mem_map_of_mem he))
  simpa [Bool.and_comm] using Bool.eq_iff_iff.mpr hagree

/-- Where the same records are selected, none is confused. -/
theorem not_confuses_of_perm (h : Stored collection.idField entries)
    (hperm : ((Residual.ofCriteria (collection.leftover c)).selected
      (collection.yielded c entries)).Perm ((Residual.ofCriteria c).selected entries.values))
    {record : Record} (hrecord : record ∈ entries.values) : ¬ collection.Confuses c record := by
  obtain ⟨⟨k, record⟩, he, rfl⟩ := List.mem_map.mp hrecord
  have hid := h.keys _ he
  rw [← finds_leftover_iff hid]
  have hmem := hperm.mem_iff (a := record)
  rw [mem_selected_leftover, Residual.selected_ofCriteria, List.mem_filter] at hmem
  constructor
  · intro hfound
    exact (hmem.mp ⟨k, he, hfound⟩).2
  · intro hsel
    obtain ⟨k', he', hfound⟩ := hmem.mpr ⟨hrecord, hsel⟩
    have hid' := h.keys _ he'
    rw [hid] at hid'
    cases hid'
    exact hfound

variable {α : Type} {retry : RetryPolicy} {w : World Memory}

theorem fetch_of_ok (guard : CallGuard) {command : Command} {records : List Record} (hw : w.cancelled = false)
    (h : w.server.fetch .fetch command = .ok records) :
    (Memory.source guard).fetch command w = (.ok records, w) := by
  rw [Memory.source_fetch, hw, h]
  rfl

variable {guard : CallGuard}

theorem searchAll_eq (hw : w.cancelled = false) (reader : Mapper α) :
    ((collection.repository guard reader retry).searchAll w).1 =
      (w.server.collection collection.name).values.mapM reader.toAggregate := by
  have hscan : w.server.fetch .fetch (.scan collection.name none) =
      .ok (w.server.collection collection.name).values := rfl
  have hfetch := fetch_of_ok guard hw hscan
  rw [(collection.repository guard reader retry).searchAll_of_fetch rfl hfetch]
  rfl

/-- Criteria are answered by a lookup of keys and by evaluating what is left. -/
theorem matching_eq (h : collection.Sound w) (hw : w.cancelled = false) (c : Criteria)
    (reader : Mapper α) :
    ((collection.repository guard reader retry).matching c w).1 =
      ((Residual.ofCriteria (collection.leftover c)).apply
        (collection.yielded c (w.server.collection collection.name))).mapM reader.toAggregate := by
  cases hc : c.isEmpty with
  | true =>
    rw [Repository.matching, hc, if_pos rfl, searchAll_eq hw, apply_leftover_of_isEmpty hc]
  | false =>
    have hfetch := fetch_of_ok guard hw (fetch_plan (c := c) h.ascending)
    rw [(collection.repository guard reader retry).matching_of_fetch hc rfl hfetch, ← plan_residual]
    rfl

/--
A repository over a store in memory answers criteria, on every page, as evaluating them on all
records does, if and only if it confuses no stored record.
-/
theorem matching_agrees_iff {mapper : Mapper α} (h : Reachable collection guard mapper retry w)
    (hw : w.cancelled = false) (c : Criteria) :
    ∃ stored, ((collection.repository guard .records retry).searchAll w).1 = .ok stored ∧
      ((∀ (limit offset : Option UInt64) (β : Type) (reader : Mapper β),
          ((collection.repository guard reader retry).matching { c with limit, offset } w).1 =
            ((Residual.ofCriteria { c with limit, offset }).apply stored).mapM reader.toAggregate) ↔
        ∀ record ∈ stored, ¬ collection.Confuses c record) := by
  have hsound := h.sound
  refine ⟨(w.server.collection collection.name).values, ?_, ?_, ?_⟩
  · rw [searchAll_eq hw, Mapper.mapM_records]
  · intro hagree record hrecord
    -- Without a page both sides are sorted lists of what was selected.
    have hall := hagree none none Record .records
    rw [matching_eq hsound hw, Mapper.mapM_records, Mapper.mapM_records, Except.ok.injEq,
      apply_leftover, Residual.apply_eq] at hall
    set bare : Criteria := { c with limit := none, offset := none }
    have hperm := (Residual.sorted_perm (.ofCriteria bare) _).symm.trans
      ((List.Perm.of_eq hall).trans (Residual.sorted_perm (.ofCriteria bare) _))
    exact not_confuses_of_perm hsound hperm hrecord
  · intro hnone limit offset β reader
    rw [matching_eq hsound hw, apply_leftover,
      selected_leftover (c := { c with limit, offset }) hsound hnone, ← Residual.apply_eq]

/-- Users in memory, identified by `id`. -/
def users : Repository (StateM (World Memory)) Command Record :=
  repository ⟨"users", "id"⟩ .default .records .never

def ada : Record := [("id", .ofInt64 7), ("name", .text "Ada")]

/-- The world after a user with a number as identifier was saved. -/
def withAda : World Memory := (users.save ada (World.start [])).2

def withId (id : Scalar) : Criteria :=
  .ofFilters [⟨⟨"id", rfl, by decide⟩, .equal (some id)⟩]

theorem withAda_reachable : Reachable ⟨"users", "id"⟩ .default .records .never withAda :=
  .save (.start (World.start []) rfl) ada

theorem matching_agrees_iff_withAda :
    withAda.cancelled = false ∧
      ∃ stored, (users.searchAll withAda).1 = .ok stored ∧
        ((∀ (limit offset : Option UInt64) (β : Type) (reader : Mapper β),
            ((repository ⟨"users", "id"⟩ .default reader .never).matching
              { withId (.integer 7) with limit, offset } withAda).1 =
              ((Residual.ofCriteria { withId (.integer 7) with limit, offset }).apply
                stored).mapM reader.toAggregate) ↔
          ∀ record ∈ stored, ¬ Confuses ⟨"users", "id"⟩ (withId (.integer 7)) record) :=
  ⟨rfl, matching_agrees_iff withAda_reachable rfl (withId (.integer 7))⟩

/-- The number 7 is found when the text "7" is asked for, which it does not equal. -/
theorem matching_confuses_number :
    Reachable ⟨"users", "id"⟩ .default .records .never withAda ∧
      withAda.cancelled = false ∧
      (users.searchAll withAda).1 = .ok [ada] ∧
      (users.matching (withId (.text "7")) withAda).1 = .ok [ada] ∧
      (Residual.ofCriteria (withId (.text "7"))).apply [ada] = [] :=
  ⟨withAda_reachable, rfl, rfl, rfl, rfl⟩

end KeyValue.Collection

end QueryCriteria
