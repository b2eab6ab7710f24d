import QueryCriteria.Matching.Evaluate
import QueryCriteria.Pattern.Wildcard
import QueryCriteria.Proofs.Pattern.Accepts

/-! Escaped texts in LIKE patterns mean themselves, and wildcards keep the pattern they stand for. -/
namespace QueryCriteria.Pattern

/-- Between a LIKE text and its tokens, escaping undoes nothing but the special meanings. -/
theorem ofLike_escapeLike (v : String) (rest : List Char) :
    ofLike ((escapeLike v).toList ++ rest) = v.toList.map .literal ++ ofLike rest := by
  simp only [escapeLike, escapeWhere, String.toList_ofList]
  induction v.toList with
  | nil => rfl
  | cons c cs ih =>
    rw [List.flatMap_cons, List.append_assoc]
    split_ifs with hc
    · simpa [ofLike] using ih
    · simp only [Bool.or_eq_true, beq_iff_eq, not_or] at hc
      obtain ⟨⟨hb, hp⟩, hu⟩ := hc
      simpa [ofLike, hb, hp, hu] using ih

theorem matches_literals_iff {v : List Char} {pattern : Pattern} {text : List Char} :
    Matches (v.map .literal ++ pattern) text ↔ ∃ rest, text = v ++ rest ∧ Matches pattern rest := by
  induction v generalizing text with
  | nil => simp
  | cons c v ih =>
    constructor
    · rintro (_ | _ | _ | ⟨_, h⟩)
      obtain ⟨rest, rfl, hm⟩ := ih.mp h
      exact ⟨rest, rfl, hm⟩
    · rintro ⟨rest, rfl, hm⟩
      exact .literal c (ih.mpr ⟨rest, rfl, hm⟩)

theorem matches_run (text : List Char) : Matches [.run] text :=
  matches_run_iff.mpr ⟨[], List.nil_suffix, .nil⟩

theorem occursIn_iff {needle text : List Char} : occursIn needle text = true ↔ needle <:+: text := by
  induction text with
  | nil => simp [occursIn]
  | cons c text ih =>
    simp only [occursIn, Bool.or_eq_true, ih, List.isPrefixOf_iff_prefix, List.infix_cons_iff]

/-- A pattern of an escaped text and a final run accepts what begins with the text. -/
theorem like_escapeLike_run (v s : String) :
    like s (escapeLike v ++ "%") = v.toList.isPrefixOf s.toList := by
  rw [Bool.eq_iff_iff, like, accepts_iff, String.toList_append, ofLike_escapeLike,
    matches_literals_iff, List.isPrefixOf_iff_prefix]
  constructor
  · rintro ⟨rest, he, _⟩
    exact ⟨rest, he.symm⟩
  · rintro ⟨rest, he⟩
    exact ⟨rest, he.symm, matches_run rest⟩

/-- A pattern of an escaped text between two runs accepts what the text occurs in. -/
theorem like_run_escapeLike_run (v s : String) :
    like s ("%" ++ escapeLike v ++ "%") = occursIn v.toList s.toList := by
  have hp : ofLike ("%" ++ escapeLike v ++ "%").toList =
      .run :: (v.toList.map .literal ++ [.run]) := by
    rw [String.toList_append, String.toList_append, List.append_assoc]
    exact congrArg (.run :: ·) (ofLike_escapeLike v ['%'])
  rw [Bool.eq_iff_iff, like, accepts_iff, hp, matches_run_iff, occursIn_iff]
  simp only [matches_literals_iff]
  constructor
  · rintro ⟨tail, ⟨before, hb⟩, rest, rfl, _⟩
    exact ⟨before, rest, by rw [List.append_assoc, hb]⟩
  · rintro ⟨before, rest, he⟩
    exact ⟨v.toList ++ rest, ⟨before, by rw [← List.append_assoc, he]⟩, rest, rfl, matches_run rest⟩

/-- Wildcards are read back as the tokens that they were made of. -/
theorem ofWildcard_flatMap_toWildcard (pattern : Pattern) :
    ofWildcard (pattern.flatMap Token.toWildcard) = pattern := by
  induction pattern with
  | nil => rfl
  | cons token pattern ih =>
    rw [List.flatMap_cons]
    cases token with
    | run => exact congrArg (.run :: ·) ih
    | one => exact congrArg (.one :: ·) ih
    | literal c =>
      rw [Token.toWildcard]
      split_ifs with hc
      · exact congrArg (.literal c :: ·) ih
      · simp only [Bool.or_eq_true, beq_iff_eq, not_or] at hc
        obtain ⟨⟨hs, hq⟩, hb⟩ := hc
        simp [ofWildcard, hb, ih]

theorem ofWildcard_likeToWildcard (pattern : String) :
    ofWildcard (likeToWildcard pattern).toList = ofLike pattern.toList := by
  rw [likeToWildcard, String.toList_ofList, ofWildcard_flatMap_toWildcard]

end QueryCriteria.Pattern
