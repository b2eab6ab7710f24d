/-! Parts of a text that are measured in the bytes of its UTF-8 form. -/
namespace QueryCriteria.Text

/-- The front of a text with a number of bytes; none if that cuts through a character. -/
def takeBytes? : Nat → List Char → Option (List Char)
  | 0, _ => some []
  | _ + 1, [] => none
  | n + 1, c :: rest =>
    if c.utf8Size ≤ n + 1 then (takeBytes? (n + 1 - c.utf8Size) rest).map (c :: ·) else none

/-- The text behind a number of bytes; none if that cuts through a character. -/
def dropBytes? : Nat → List Char → Option (List Char)
  | 0, cs => some cs
  | _ + 1, [] => none
  | n + 1, c :: rest => if c.utf8Size ≤ n + 1 then dropBytes? (n + 1 - c.utf8Size) rest else none

/-- The part from one place up to another, both measured in bytes. -/
def cutBytes? (start stop : Nat) (cs : List Char) : Option (List Char) :=
  (dropBytes? start cs).bind (takeBytes? (stop - start))

theorem takeBytes?_append_dropBytes? {n : Nat} {cs front behind : List Char}
    (hf : takeBytes? n cs = some front) (hb : dropBytes? n cs = some behind) :
    front ++ behind = cs := by
  induction cs generalizing n front with
  | nil =>
    cases n with
    | zero => simp_all [takeBytes?, dropBytes?]
    | succ n => simp [takeBytes?] at hf
  | cons c rest ih =>
    cases n with
    | zero => simp_all [takeBytes?, dropBytes?]
    | succ n =>
      simp only [takeBytes?, dropBytes?] at hf hb
      split at hf
      · rename_i hle
        rw [if_pos hle] at hb
        obtain ⟨front', hf', rfl⟩ := Option.map_eq_some_iff.1 hf
        simp [ih hf' hb]
      · cases hf

end QueryCriteria.Text
