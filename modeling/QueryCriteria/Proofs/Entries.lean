import QueryCriteria.Entries

/-! What is found in maps that were built from lists of entries. -/
namespace QueryCriteria.Entries

variable {α : Type}

private theorem get?_foldl_insert {entries : List (String × α)} {m : Entries α} {key : String}
    {value : α} (hu : ∀ e ∈ entries, e.1 = key → e.2 = value)
    (h : get? m key = some value ∨ ∃ e ∈ entries, e.1 = key) :
    get? (entries.foldl (fun m e => insert m e.1 e.2) m) key = some value := by
  induction entries generalizing m with
  | nil => exact h.resolve_right nofun
  | cons e rest ih =>
    obtain ⟨he, hrest⟩ := List.forall_mem_cons.mp hu
    refine ih hrest ?_
    rw [get?_insert]
    by_cases hk : e.1 = key
    · exact .inl (by rw [if_pos hk, he hk])
    · rw [if_neg hk]
      refine h.imp_right ?_
      rintro ⟨other, hmem, hother⟩
      rcases List.mem_cons.mp hmem with rfl | hmem
      · exact absurd hother hk
      · exact ⟨other, hmem, hother⟩

/-- A key with one value only has that value in the map. -/
theorem get?_ofList {entries : List (String × α)} {key : String} {value : α}
    (hm : (key, value) ∈ entries) (hu : ∀ e ∈ entries, e.1 = key → e.2 = value) :
    get? (ofList entries) key = some value :=
  get?_foldl_insert hu (.inr ⟨_, hm, rfl⟩)

/-- Whatever is in a map was put in. -/
theorem mem_of_mem_ofList {entries : List (String × α)} {e : String × α} (h : e ∈ ofList entries) :
    e ∈ entries := by
  have hfold : ∀ (l : List (String × α)) (m : Entries α),
      e ∈ l.foldl (fun m e => insert m e.1 e.2) m → e ∈ m ∨ e ∈ l := by
    intro l
    induction l with
    | nil => exact fun m h => .inl h
    | cons first rest ih =>
      intro m h
      rcases ih _ h with hm | hrest
      · rcases mem_insert hm with rfl | hm
        · exact .inr List.mem_cons_self
        · exact .inl hm
      · exact .inr (List.mem_cons_of_mem first hrest)
  exact (hfold entries [] h).resolve_left nofun

/-- A key of a map leads to one entry. -/
theorem get?_eq_some_iff {m : Entries α} (h : m.Ascending) {key : String} {value : α} :
    get? m key = some value ↔ (key, value) ∈ m := by
  induction m with
  | nil => simp
  | cons e rest ih =>
    obtain ⟨k, v⟩ := e
    obtain ⟨hfirst, hrest⟩ := List.pairwise_cons.mp h
    rw [get?, List.mem_cons, Prod.mk.injEq]
    split
    · rename_i hk
      subst hk
      have hnot : (k, value) ∉ rest := fun hmem => String.lt_irrefl k (hfirst _ hmem)
      rw [Option.some.injEq]
      exact ⟨fun he => .inl ⟨rfl, he.symm⟩, fun hor => (hor.resolve_right hnot).2.symm⟩
    · rename_i hk
      rw [ih hrest]
      exact ⟨.inr, fun hor => hor.resolve_left fun he => hk he.1.symm⟩

/-- The map of entries of which no two have one key and two values holds just them. -/
theorem mem_ofList_iff {entries : List (String × α)}
    (hu : ∀ a ∈ entries, ∀ b ∈ entries, a.1 = b.1 → a.2 = b.2) {e : String × α} :
    e ∈ ofList entries ↔ e ∈ entries := by
  refine ⟨mem_of_mem_ofList, fun he => ?_⟩
  have hget : get? (ofList entries) e.1 = some e.2 := get?_ofList he fun a ha hk => hu a ha e he hk
  exact (get?_eq_some_iff (ascending_ofList entries)).mp hget

/-- What is found under a key are the entries with the key. -/
theorem filter_key {m : Entries α} (h : m.Ascending) (key : String) :
    (m.filter fun e => e.1 == key).map (·.2) = (get? m key).toList := by
  induction m with
  | nil => rfl
  | cons e rest ih =>
    obtain ⟨k, v⟩ := e
    obtain ⟨hfirst, hrest⟩ := List.pairwise_cons.mp h
    rw [get?]
    split
    · rename_i hk
      subst hk
      have hnone : rest.filter (fun e => e.1 == k) = [] := by
        refine List.filter_eq_nil_iff.mpr fun e he => ?_
        have hlt : k < e.1 := hfirst e he
        exact fun heq => String.lt_irrefl k (beq_iff_eq.mp heq ▸ hlt)
      simp [hnone]
    · rename_i hk
      have hne : ((k, v).1 == key) = false := by simpa using hk
      rw [List.filter_cons, hne]
      exact ih hrest

theorem get?_erase (m : Entries α) (key other : String) :
    (m.erase key).get? other = if key = other then none else m.get? other := by
  induction m with
  | nil => simp [erase]
  | cons e rest ih =>
    obtain ⟨k, v⟩ := e
    rw [erase] at ih ⊢
    by_cases hk : k = key
    · subst hk
      rw [List.filter_cons_of_neg (by simp), ih, get?]
      by_cases ho : k = other <;> simp [ho]
    · rw [List.filter_cons_of_pos (by simpa using hk), get?, get?, ih]
      by_cases ho : k = other
      · subst ho
        simp [Ne.symm hk]
      · simp [ho]

theorem mem_keys_iff {m : Entries α} {key : String} : key ∈ keys m ↔ (get? m key).isSome = true := by
  induction m with
  | nil => simp [keys]
  | cons e rest ih =>
    rw [keys, List.map_cons, List.mem_cons, get?]
    by_cases hk : e.1 = key
    · simp [hk]
    · rw [if_neg hk, ← ih, keys]
      exact or_iff_right (Ne.symm hk)

/-- Erasing a key that is not there changes nothing. -/
theorem erase_of_get?_none {m : Entries α} {key : String} (h : get? m key = none) :
    m.erase key = m := by
  refine List.filter_eq_self.mpr fun e he => ?_
  induction m with
  | nil => cases he
  | cons first rest ih =>
    obtain ⟨k, v⟩ := first
    rw [get?] at h
    split at h
    · cases h
    · rename_i hk
      rcases List.mem_cons.mp he with rfl | he
      · simpa using hk
      · exact ih h he

/-- Inserting what is there already changes nothing. -/
theorem insert_of_get? {m : Entries α} (hm : m.Ascending) {key : String} {value : α}
    (h : get? m key = some value) : m.insert key value = m := by
  induction m with
  | nil => cases h
  | cons e rest ih =>
    obtain ⟨k, v⟩ := e
    obtain ⟨hfirst, hrest⟩ := List.pairwise_cons.mp hm
    rw [get?] at h
    rw [insert]
    split at h
    · rename_i hk
      subst hk
      cases h
      rw [if_neg (String.lt_irrefl k), if_pos rfl]
    · rename_i hk
      have hlt : k < key := hfirst _ ((get?_eq_some_iff hrest).mp h)
      rw [if_neg (String.lt_asymm hlt), if_neg (Ne.symm hk), ih hrest h]

theorem mem_of_mem_erase {m : Entries α} {key : String} {e : String × α} (h : e ∈ m.erase key) :
    e ∈ m :=
  (List.mem_filter.mp h).1

end QueryCriteria.Entries
