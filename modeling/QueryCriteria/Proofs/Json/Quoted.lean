import QueryCriteria.Json.Parser

/-! Quoted texts without escapes are read as they stand, and so are the marks between them. -/
namespace QueryCriteria.Json

/-- A character that needs no escape. -/
def isVerbatim (c : Char) : Bool :=
  c != '"' && c != '\\' && !(c.toNat < 0x20)

theorem scanText_plain {cs : List Char} (h : cs.all isVerbatim = true) (acc tail : List Char) :
    scanText acc (cs ++ '"' :: tail) = .ok (acc.reverse ++ cs, tail) := by
  induction cs generalizing acc with
  | nil =>
    rw [List.nil_append, scanText, if_pos (by rfl), List.append_nil]
  | cons c cs ih =>
    rw [List.all_cons, Bool.and_eq_true] at h
    obtain ⟨hc, hcs⟩ := h
    simp only [isVerbatim, Bool.and_eq_true, bne_iff_ne, ne_eq, Bool.not_eq_true',
      decide_eq_false_iff_not] at hc
    rw [List.cons_append, scanText]
    simp only [beq_iff_eq, hc, if_false, ih hcs, List.reverse_cons, List.append_assoc,
      List.cons_append, List.nil_append]

theorem tokens_quoted {cs : List Char} (h : cs.all isVerbatim = true) (tail : List Char) :
    tokens ('"' :: (cs ++ '"' :: tail)) = (tokens tail).map (.text (String.ofList cs) :: ·) := by
  have hscan : scanText [] (cs ++ '"' :: tail) = .ok (cs, tail) := scanText_plain h [] tail
  rw [tokens.eq_def]
  dsimp only
  iterate 7 rw [if_neg (by decide)]
  rw [if_pos (by rfl)]
  split
  · rename_i s rest hok
    rw [hscan] at hok
    cases hok
    rfl
  · rename_i fault herror
    rw [hscan] at herror
    cases herror

theorem tokens_openObject (rest : List Char) :
    tokens ('\x7b' :: rest) = (tokens rest).map (.openObject :: ·) := by
  rw [tokens.eq_def]
  rfl

theorem tokens_closeObject (rest : List Char) :
    tokens ('\x7d' :: rest) = (tokens rest).map (.closeObject :: ·) := by
  rw [tokens.eq_def]
  rfl

theorem tokens_comma (rest : List Char) : tokens (',' :: rest) = (tokens rest).map (.comma :: ·) := by
  rw [tokens.eq_def]
  rfl

theorem tokens_colon (rest : List Char) : tokens (':' :: rest) = (tokens rest).map (.colon :: ·) := by
  rw [tokens.eq_def]
  rfl

end QueryCriteria.Json
