import QueryCriteria.Proofs.Criteria.Filter
import QueryCriteria.Proofs.Criteria.Form

/-!
Renaming fields across a tree. The new names are read before anything is changed, and then every field is
replaced once, whatever the other fields become. A record in which the new fields hold what the old ones
held is selected as before.
-/
namespace QueryCriteria.Criteria

theorem mapFiltersAll_eq_map (f : Filters → Filters) (branches : List Criteria) :
    mapFiltersAll f branches = branches.map (mapFilters f) := by
  induction branches with
  | nil => rfl
  | cons b rest ih => rw [mapFiltersAll, ih, List.map_cons]

/-- What a node makes of the verdicts of its filters and of those of its branches. -/
def verdict (own below : List Bool) : Bool :=
  if !own.isEmpty && own.all id then true else if below.isEmpty then own.isEmpty else below.any id

theorem selects_eq_verdict (record : Record) (c : Criteria) :
    c.selects record = verdict (c.filters.map (·.holds record)) (c.branches.map (selects record)) := by
  obtain ⟨filters, order, limit, offset, branches⟩ := c
  rw [selects, anySelects_eq_any, verdict, List.isEmpty_map, List.isEmpty_map, List.all_map]
  rfl

/-- A tree whose filters are replaced one by one selects what the replacements accept. -/
theorem selects_mapFilters {r r' : Record} {g : Filter → Filter} {c : Criteria}
    (h : ∀ f ∈ c.allFilters, (g f).holds r' = f.holds r) :
    (c.mapFilters (List.map g)).selects r' = c.selects r := by
  induction c using Criteria.induction with
  | node filters order limit offset branches ih =>
    obtain ⟨hown, hbelow⟩ := forall_allFilters.mp h
    rw [mapFilters, mapFiltersAll_eq_map, selects_eq_verdict, selects_eq_verdict r, List.map_map,
      List.map_map]
    exact congrArg₂ verdict (List.map_congr_left hown)
      (List.map_congr_left fun b hb => ih b hb (hbelow b hb))

/-- The caller is left with the new tree, or with the old one if the request is refused. -/
theorem rename_eq (targets : Entries String) (c : Criteria) :
    rename targets c =
      ((c.renameFilters targets).map fun _ => (), (c.renameFilters targets).toOption.getD c) := by
  rw [rename, renameFilters]
  cases Renaming.parse targets <;> rfl

/-- Where a field goes: to its target without the blanks around it, and without a target nowhere. -/
def substitute (targets : List (String × String)) (field : String) : String :=
  (targets.lookup field).elim field Text.trim

/-- The filter on the field's new name, and otherwise the same. -/
structure RenamedFilter (rename : String → String) (f g : Filter) : Prop where
  field : g.field.text = rename f.field.text
  operator : g.operator = f.operator
  value : g.value = f.value

/-- Trees that are the same, but that each field of a filter has its new name. -/
inductive Renamed (rename : String → String) : Criteria → Criteria → Prop where
  | node {c d : Criteria} (filters : List.Forall₂ (RenamedFilter rename) c.filters d.filters)
      (order : d.order = c.order) (limit : d.limit = c.limit) (offset : d.offset = c.offset)
      (branches : List.Forall₂ (Renamed rename) c.branches d.branches) : Renamed rename c d

/-- The new name of a filter's field and what the filter keeps leave no choice. -/
theorem RenamedFilter.unique {rename : String → String} {f g g' : Filter} (h : RenamedFilter rename f g)
    (h' : RenamedFilter rename f g') : g = g' := by
  have hfield : g.field = g'.field := FieldName.ext (h.field.trans h'.field.symm)
  have htest : g.test = g'.test :=
    Test.eq_of_operator_value (h.operator.trans h'.operator.symm) (h.value.trans h'.value.symm)
  cases g
  cases g'
  simp_all

theorem renamed_mapFilters {rename : String → String} {g : Filter → Filter}
    (h : ∀ f, RenamedFilter rename f (g f)) (c : Criteria) : Renamed rename c (c.mapFilters (List.map g)) := by
  induction c using Criteria.induction with
  | node filters order limit offset branches ih =>
    have hfilters : List.Forall₂ (RenamedFilter rename) filters (filters.map g) := by
      rw [List.forall₂_map_right_iff, List.forall₂_same]
      exact fun f _ => h f
    have hbranches : List.Forall₂ (Renamed rename) branches (branches.map (mapFilters (List.map g))) := by
      rw [List.forall₂_map_right_iff, List.forall₂_same]
      exact ih
    rw [mapFilters, mapFiltersAll_eq_map]
    exact .node hfilters rfl rfl rfl hbranches

section Targets

variable {targets : List (String × String)}

theorem lookup_cons_eq_ite (e : String × String) (rest : List (String × String)) (field : String) :
    (e :: rest).lookup field = if e.1 = field then some e.2 else rest.lookup field := by
  rw [List.lookup_cons]
  by_cases h : e.1 = field
  · rw [if_pos h, beq_iff_eq.mpr h.symm]
  · rw [if_neg h, beq_eq_false_iff_ne.mpr (Ne.symm h)]

theorem parse_of_blank (h : ∃ e ∈ targets, Text.trim e.2 = "") :
    Renaming.parse targets = .error .emptyField := by
  induction targets with
  | nil => simp at h
  | cons e rest ih =>
    rw [Renaming.parse, List.mapM_cons]
    by_cases he : Text.trim e.2 = ""
    · have hname : FieldName.parse e.2 = .error .emptyField := dif_neg (not_not.mpr he)
      simp only [hname]
      rfl
    · have hname : FieldName.parse e.2 = .ok ⟨Text.trim e.2, Text.trim_trim e.2, he⟩ := dif_pos he
      have hrest : ∃ e ∈ rest, Text.trim e.2 = "" := by simpa [he] using h
      simp only [hname]
      change (Renaming.parse rest >>= fun names => _) = _
      rw [ih hrest]
      rfl

/-- Of the targets that are not blank each is read without the blanks around it. -/
theorem exists_parse (h : ∀ e ∈ targets, Text.trim e.2 ≠ "") :
    ∃ names, Renaming.parse targets = .ok names ∧
      ∀ field, (Entries.get? names field).map FieldName.text = (targets.lookup field).map Text.trim := by
  induction targets with
  | nil => exact ⟨[], rfl, fun field => rfl⟩
  | cons e rest ih =>
    obtain ⟨he, hrest⟩ := List.forall_mem_cons.mp h
    obtain ⟨names, hnames, hget⟩ := ih hrest
    refine ⟨(e.1, ⟨Text.trim e.2, Text.trim_trim e.2, he⟩) :: names, ?_, ?_⟩
    · have hname : FieldName.parse e.2 = .ok ⟨Text.trim e.2, Text.trim_trim e.2, he⟩ := dif_pos he
      rw [Renaming.parse, List.mapM_cons]
      simp only [hname]
      change (Renaming.parse rest >>= fun names => _) = _
      rw [hnames]
      rfl
    · intro field
      rw [Entries.get?, lookup_cons_eq_ite]
      by_cases hkey : e.1 = field
      · simp [hkey]
      · simp [hkey, hget]

theorem renamedFilter_apply {names : Renaming}
    (h : ∀ field, (Entries.get? names field).map FieldName.text = (targets.lookup field).map Text.trim)
    (f : Filter) : RenamedFilter (substitute targets) f (names.apply f) := by
  have hfield := h f.field.text
  rw [Renaming.apply]
  split
  · rename_i name hname
    rw [hname] at hfield
    refine ⟨?_, rfl, rfl⟩
    cases htarget : targets.lookup f.field.text with
    | none => simp [htarget] at hfield
    | some target => simpa [htarget, substitute, Filter.renamed] using hfield
  · rename_i hname
    rw [hname] at hfield
    refine ⟨?_, rfl, rfl⟩
    cases htarget : targets.lookup f.field.text with
    | none => simp [htarget, substitute]
    | some target => simp [htarget] at hfield

/-- Targets that are not blank give a tree in which every filter is renamed once. -/
theorem exists_renameFilters (h : ∀ e ∈ targets, Text.trim e.2 ≠ "") :
    ∃ g : Filter → Filter, (∀ f, RenamedFilter (substitute targets) f (g f)) ∧
      ∀ c : Criteria, c.renameFilters targets = .ok (c.mapFilters (List.map g)) := by
  obtain ⟨names, hparse, hget⟩ := exists_parse h
  refine ⟨names.apply, renamedFilter_apply hget, fun c => ?_⟩
  rw [renameFilters, hparse]
  rfl

theorem renameFilters_of_blank (h : ∃ e ∈ targets, Text.trim e.2 = "") (c : Criteria) :
    c.renameFilters targets = .error .emptyField := by
  rw [renameFilters, parse_of_blank h]
  rfl

/-- In a map without two entries for one key the order of the entries does not matter. -/
theorem lookup_eq_of_perm {targets' : List (String × String)} (h : targets.Perm targets')
    (hkeys : (targets.map Prod.fst).Nodup) (field : String) :
    targets.lookup field = targets'.lookup field := by
  induction h with
  | nil => rfl
  | cons e _ ih =>
    rw [lookup_cons_eq_ite, lookup_cons_eq_ite, ih (List.nodup_cons.mp hkeys).2]
  | swap a b rest =>
    have hne : a.1 ≠ b.1 := by
      rintro heq
      simp [heq] at hkeys
    simp only [lookup_cons_eq_ite]
    by_cases ha : a.1 = field
    · subst ha
      simp [Ne.symm hne]
    · simp [ha]
  | trans hfirst _ ih ih' =>
    exact (ih hkeys).trans (ih' ((hfirst.map Prod.fst).nodup_iff.mp hkeys))

theorem renameFilters_eq_of_perm {targets' : List (String × String)} (h : targets.Perm targets')
    (hkeys : (targets.map Prod.fst).Nodup) (c : Criteria) :
    c.renameFilters targets' = c.renameFilters targets := by
  by_cases hblank : ∃ e ∈ targets, Text.trim e.2 = ""
  · have hblank' : ∃ e ∈ targets', Text.trim e.2 = "" := by
      obtain ⟨e, he, htrim⟩ := hblank
      exact ⟨e, h.mem_iff.mp he, htrim⟩
    rw [renameFilters_of_blank hblank, renameFilters_of_blank hblank']
  · have hnamed : ∀ e ∈ targets, Text.trim e.2 ≠ "" := by
      intro e he htrim
      exact hblank ⟨e, he, htrim⟩
    obtain ⟨g, hg, hc⟩ := exists_renameFilters hnamed
    obtain ⟨g', hg', hc'⟩ := exists_renameFilters fun e he => hnamed e (h.mem_iff.mpr he)
    have hsame : substitute targets' = substitute targets := by
      funext field
      rw [substitute, substitute, lookup_eq_of_perm h hkeys]
    have hfilters : g' = g := by
      funext f
      exact (hg' f).unique (hsame ▸ hg f)
    rw [hc, hc', hfilters]

/--
Renaming replaces all fields at once. A blank target anywhere refuses the request, and the tree that the
caller keeps stays as it is. Otherwise the tree is the same but for the names, each field going to its own
target only; it selects a record exactly when the old tree selects one that has under the old names what
the record has under the new ones. The order of the targets does not matter.
-/
theorem renaming_substitutes (hkeys : (targets.map Prod.fst).Nodup) (c : Criteria) :
    ((∃ e ∈ targets, Text.trim e.2 = "") →
      c.renameFilters targets = .error .emptyField ∧ rename targets c = (.error .emptyField, c)) ∧
    ((∀ e ∈ targets, Text.trim e.2 ≠ "") → ∃ d, c.renameFilters targets = .ok d ∧
      rename targets c = (.ok (), d) ∧ Renamed (substitute targets) c d ∧
      ∀ r r' : Record, (∀ f ∈ c.allFilters,
          r'.resolve (substitute targets f.field.text) = r.resolve f.field.text) →
        d.selects r' = c.selects r) ∧
    ∀ targets', targets.Perm targets' → c.renameFilters targets' = c.renameFilters targets ∧
      rename targets' c = rename targets c := by
  refine ⟨?_, ?_, ?_⟩
  · intro hblank
    have hrefused := renameFilters_of_blank hblank c
    rw [rename_eq, hrefused]
    exact ⟨rfl, rfl⟩
  · intro hnamed
    obtain ⟨g, hg, hrename⟩ := exists_renameFilters hnamed
    refine ⟨c.mapFilters (List.map g), hrename c, ?_, renamed_mapFilters hg c, ?_⟩
    · rw [rename_eq, hrename]
      rfl
    · intro r r' hresolve
      refine selects_mapFilters fun f hf => ?_
      obtain ⟨hfield, hoperator, hvalue⟩ := hg f
      rw [Filter.holds, Filter.holds, Test.eq_of_operator_value hoperator hvalue, hfield, hresolve f hf]
  · intro targets' hperm
    have hsame := renameFilters_eq_of_perm hperm hkeys c
    rw [rename_eq, rename_eq targets, hsame]
    exact ⟨rfl, rfl⟩

end Targets

/-- Two fields that take each other's name, and one that takes a new name. -/
def exchange : List (String × String) :=
  [("role", " name "), ("name", "role"), ("age", "years")]

theorem renaming_substitutes_exchange :
    (exchange.map Prod.fst).Nodup ∧
      (∃ d, rename exchange admitted = (.ok (), d) ∧
        d.allFilters.map (·.field.text) = ["years", "name", "role"] ∧
        d.selects [("role", .text "Ada"), ("years", .ofInt64 12)] =
          admitted.selects [("age", .ofInt64 12), ("name", .text "Ada")]) ∧
      rename exchange.reverse admitted = rename exchange admitted ∧
      rename (("nick", " ") :: exchange) admitted = (.error .emptyField, admitted) := by
  have hkeys : (exchange.map Prod.fst).Nodup := by decide
  have hkeys' : ((("nick", " ") :: exchange).map Prod.fst).Nodup := by decide
  obtain ⟨_, hnamed, hperm⟩ := renaming_substitutes hkeys admitted
  obtain ⟨hblank, _, _⟩ := renaming_substitutes hkeys' admitted
  have htargets : ∀ e ∈ exchange, Text.trim e.2 ≠ "" := by decide +kernel
  obtain ⟨d, hd, hrename, _, hselects⟩ := hnamed htargets
  refine ⟨hkeys, ⟨d, hrename, ?_, hselects _ _ ?_⟩, (hperm _ exchange.reverse_perm.symm).2, ?_⟩
  · obtain rfl : _ = d := Except.ok.inj hd
    rfl
  · intro f hf
    have hmem : f ∈ [_, _, _] := hf
    simp only [List.mem_cons, List.not_mem_nil, or_false] at hmem
    rcases hmem with rfl | rfl | rfl <;> rfl
  · exact (hblank ⟨("nick", " "), List.mem_cons_self, by decide +kernel⟩).2

end QueryCriteria.Criteria
