/-!
Splitting at a separator character and joining again. Main statements: joining undoes splitting, and
splitting undoes the joining of pieces that do not hold the separator.
-/
namespace QueryCriteria.Text

/-- The pieces between the occurrences of a separator; there is always one piece at least. -/
def splitChars (sep : Char) : List Char → List (List Char)
  | [] => [[]]
  | c :: rest =>
    if c = sep then [] :: splitChars sep rest
    else
      match splitChars sep rest with
      | [] => [[c]]
      | piece :: pieces => (c :: piece) :: pieces

/-- The pieces of a text between the occurrences of a separator. -/
def split (sep : Char) (s : String) : List String :=
  (splitChars sep s.toList).map String.ofList

/-- Texts one after another with a separator between them. -/
def join (sep : String) : List String → String
  | [] => ""
  | [s] => s
  | s :: rest => s ++ sep ++ join sep rest

theorem splitChars_ne_nil (sep : Char) (cs : List Char) : splitChars sep cs ≠ [] := by
  cases cs with
  | nil => simp [splitChars]
  | cons c rest =>
    simp only [splitChars]
    split
    · simp
    · split <;> simp

theorem not_mem_of_mem_splitChars {sep : Char} {cs piece : List Char}
    (h : piece ∈ splitChars sep cs) : sep ∉ piece := by
  induction cs generalizing piece with
  | nil =>
    rw [List.mem_singleton.mp h]
    exact List.not_mem_nil
  | cons c rest ih =>
    simp only [splitChars] at h
    split at h
    · rcases List.mem_cons.mp h with rfl | h
      · exact List.not_mem_nil
      · exact ih h
    · rename_i hc
      split at h
      · rw [List.mem_singleton.mp h, List.mem_singleton]
        exact fun he => hc he.symm
      · rename_i first pieces hs
        rcases List.mem_cons.mp h with rfl | h
        · have hfirst : sep ∉ first := ih (hs ▸ List.mem_cons_self)
          exact fun hm => (List.mem_cons.mp hm).elim (fun he => hc he.symm) hfirst
        · exact ih (hs ▸ List.mem_cons_of_mem first h)

/-- The first piece in front of the others, with one separator between each two. -/
private def joinChars (sep : Char) : List (List Char) → List Char
  | [] => []
  | [piece] => piece
  | piece :: rest => piece ++ sep :: joinChars sep rest

private theorem joinChars_splitChars (sep : Char) (cs : List Char) :
    joinChars sep (splitChars sep cs) = cs := by
  induction cs with
  | nil => rfl
  | cons c rest ih =>
    simp only [splitChars]
    split
    · rename_i h
      subst h
      cases hs : splitChars c rest with
      | nil => exact absurd hs (splitChars_ne_nil c rest)
      | cons piece pieces =>
        rw [hs] at ih
        simp [joinChars, ih]
    · cases hs : splitChars sep rest with
      | nil => exact absurd hs (splitChars_ne_nil sep rest)
      | cons piece pieces =>
        rw [hs] at ih
        cases pieces with
        | nil => simpa [joinChars] using ih
        | cons next pieces => simpa [joinChars] using ih

private theorem toList_join_map (sep : Char) (pieces : List (List Char)) :
    (join (String.singleton sep) (pieces.map String.ofList)).toList = joinChars sep pieces := by
  induction pieces with
  | nil => rfl
  | cons piece rest ih =>
    cases rest with
    | nil => simp [join, joinChars]
    | cons next rest =>
      simp only [List.map_cons, join, joinChars, String.toList_append] at ih ⊢
      simp [ih]

/-- The pieces with the separator between them are the text that was split. -/
theorem join_split (sep : Char) (s : String) : join (String.singleton sep) (split sep s) = s := by
  apply String.toList_inj.1
  rw [split, toList_join_map, joinChars_splitChars]

theorem splitChars_of_not_mem {sep : Char} {cs : List Char} (h : sep ∉ cs) : splitChars sep cs = [cs] := by
  induction cs with
  | nil => rfl
  | cons c rest ih =>
    have hc : ¬ c = sep := fun he => h (List.mem_cons.mpr (.inl he.symm))
    rw [splitChars, if_neg hc, ih fun hm => h (List.mem_cons_of_mem c hm)]

theorem splitChars_append {sep : Char} {piece : List Char} (h : sep ∉ piece) (rest : List Char) :
    splitChars sep (piece ++ sep :: rest) = piece :: splitChars sep rest := by
  induction piece with
  | nil => rw [List.nil_append, splitChars, if_pos rfl]
  | cons c piece ih =>
    have hc : ¬ c = sep := fun he => h (List.mem_cons.mpr (.inl he.symm))
    rw [List.cons_append, splitChars, if_neg hc, ih fun hm => h (List.mem_cons_of_mem c hm)]

/-- Pieces that do not hold the separator are found again in the text that they were joined to. -/
theorem split_join {sep : Char} {pieces : List String} (hne : pieces ≠ [])
    (h : ∀ piece ∈ pieces, sep ∉ piece.toList) :
    split sep (join (String.singleton sep) pieces) = pieces := by
  induction pieces with
  | nil => exact absurd rfl hne
  | cons piece rest ih =>
    have hpiece : sep ∉ piece.toList := h piece List.mem_cons_self
    have hrest : ∀ p ∈ rest, sep ∉ p.toList := fun p hp => h p (List.mem_cons_of_mem piece hp)
    cases rest with
    | nil =>
      rw [join, split, splitChars_of_not_mem hpiece, List.map_singleton, String.ofList_toList]
    | cons next rest =>
      have hjoin : (join (String.singleton sep) (piece :: next :: rest)).toList =
          piece.toList ++ sep :: (join (String.singleton sep) (next :: rest)).toList := by
        simp [join, String.toList_append]
      have hsplit := ih (List.cons_ne_nil next rest) hrest
      rw [split] at hsplit
      rw [split, hjoin, splitChars_append hpiece, List.map_cons, String.ofList_toList, hsplit]

/-- A joined text has all characters of its pieces. -/
theorem mem_join {sep piece : String} {pieces : List String} {c : Char} (hp : piece ∈ pieces)
    (hc : c ∈ piece.toList) : c ∈ (join sep pieces).toList := by
  induction pieces with
  | nil => exact absurd hp List.not_mem_nil
  | cons first rest ih =>
    cases rest with
    | nil =>
      obtain rfl := List.mem_singleton.mp hp
      exact hc
    | cons next rest =>
      rw [join, String.toList_append, String.toList_append, List.mem_append]
      · rcases List.mem_cons.mp hp with rfl | hp
        · exact .inl (List.mem_append_left _ hc)
        · exact .inr (ih hp)
      · exact List.cons_ne_nil next rest

/-- No piece holds the separator. -/
theorem not_mem_of_mem_split {sep : Char} {s piece : String} (h : piece ∈ split sep s) :
    sep ∉ piece.toList := by
  obtain ⟨cs, hcs, rfl⟩ := List.mem_map.mp h
  rw [String.toList_ofList]
  exact not_mem_of_mem_splitChars hcs

end QueryCriteria.Text
