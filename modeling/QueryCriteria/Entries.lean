/-!
Finite maps from texts, as lists of entries with ascending keys. Texts are ordered by code point,
which is the byte order of their UTF-8 form. Insertion keeps the keys ascending.
-/
namespace QueryCriteria

/-- A map from texts; `Entries.Ascending` is the invariant that every operation keeps. -/
abbrev Entries (α : Type) := List (String × α)

namespace Entries

variable {α β : Type}

/-- The keys stand in strictly ascending order. -/
def Ascending (m : Entries α) : Prop :=
  m.Pairwise fun a b => a.1 < b.1

private theorem lt_of_not_lt_of_ne {a b : String} (h : ¬ a < b) (hne : a ≠ b) : b < a := by
  rcases Decidable.em (b < a) with hlt | hlt
  · exact hlt
  · exact absurd (String.le_antisymm (String.not_lt.1 hlt) (String.not_lt.1 h)) hne

/-- The value of the first entry with the key. -/
def get? : Entries α → String → Option α
  | [], _ => none
  | (k, v) :: rest, key => if k = key then some v else get? rest key

def keys (m : Entries α) : List String :=
  m.map (·.1)

def values (m : Entries α) : List α :=
  m.map (·.2)

/-- Puts an entry at its place, replacing one with the same key. -/
def insert : Entries α → String → α → Entries α
  | [], key, value => [(key, value)]
  | (k, v) :: rest, key, value =>
    if key < k then (key, value) :: (k, v) :: rest
    else if key = k then (key, value) :: rest
    else (k, v) :: insert rest key value

/-- Drops the entries with the key. -/
def erase (m : Entries α) (key : String) : Entries α :=
  m.filter fun entry => entry.1 ≠ key

/-- The map with these entries; of two with one key the later counts. -/
def ofList (entries : List (String × α)) : Entries α :=
  entries.foldl (fun m entry => insert m entry.1 entry.2) []

@[simp] theorem get?_nil (key : String) : get? ([] : Entries α) key = none := rfl

theorem mem_insert {m : Entries α} {key : String} {value : α} {entry : String × α}
    (h : entry ∈ m.insert key value) : entry = (key, value) ∨ entry ∈ m := by
  induction m with
  | nil => simpa [insert] using h
  | cons head rest ih =>
    obtain ⟨k, v⟩ := head
    simp only [insert] at h
    split at h
    · simpa using h
    · split at h
      · rcases List.mem_cons.1 h with h | h
        · exact .inl h
        · exact .inr (List.mem_cons_of_mem _ h)
      · simp only [List.mem_cons] at h ⊢
        rcases h with h | h
        · exact .inr (.inl h)
        · rcases ih h with h | h
          · exact .inl h
          · exact .inr (.inr h)

theorem ascending_insert {m : Entries α} (h : m.Ascending) (key : String) (value : α) :
    (m.insert key value).Ascending := by
  induction m with
  | nil => simp [insert, Ascending]
  | cons head rest ih =>
    obtain ⟨k, v⟩ := head
    have hrest : Ascending rest := (List.pairwise_cons.1 h).2
    have hk := (List.pairwise_cons.1 h).1
    simp only [insert]
    split
    · rename_i hlt
      refine List.pairwise_cons.2 ⟨fun entry he => ?_, h⟩
      rcases List.mem_cons.1 he with rfl | he
      · exact hlt
      · exact String.lt_trans hlt (hk entry he)
    · split
      · rename_i heq
        subst heq
        exact List.pairwise_cons.2 ⟨hk, hrest⟩
      · rename_i hge hne
        refine List.pairwise_cons.2 ⟨fun entry he => ?_, ih hrest⟩
        rcases mem_insert he with rfl | he
        · exact lt_of_not_lt_of_ne hge hne
        · exact hk entry he

theorem get?_insert (m : Entries α) (key other : String) (value : α) :
    (m.insert key value).get? other = if key = other then some value else m.get? other := by
  induction m with
  | nil => simp [insert, get?]
  | cons head rest ih =>
    obtain ⟨k, v⟩ := head
    simp only [insert]
    split
    · simp [get?]
    · split
      · rename_i heq
        subst heq
        by_cases h : key = other <;> simp [get?, h]
      · rename_i hne
        simp only [get?, ih]
        by_cases h : k = other
        · subst h
          simp [hne]
        · simp [h]

theorem ascending_erase {m : Entries α} (h : m.Ascending) (key : String) :
    (m.erase key).Ascending :=
  h.filter _

theorem ascending_ofList (entries : List (String × α)) : (ofList entries).Ascending := by
  unfold ofList
  have go : ∀ (l : List (String × α)) (m : Entries α), m.Ascending →
      (l.foldl (fun m entry => insert m entry.1 entry.2) m).Ascending := by
    intro l
    induction l with
    | nil => exact fun m h => h
    | cons entry l ih => exact fun m h => ih _ (ascending_insert h _ _)
  exact go entries [] List.Pairwise.nil

end Entries

end QueryCriteria
