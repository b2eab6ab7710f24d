import Mathlib.Data.List.Forall2
import QueryCriteria.Pattern.Like
import QueryCriteria.Proofs.Pattern.Accepts

/-!
What a LIKE text means, without a matcher: its characters spell tokens one after another, and a text
belongs to it if it falls into pieces, one for each token. The matcher decides exactly this.
-/
namespace QueryCriteria.Pattern

/-- The tokens that a LIKE text spells, from its first character to its last. -/
inductive LikeSpells : List Char → Pattern → Prop where
  | nil : LikeSpells [] []
  | run {rest : List Char} {tokens : Pattern} (h : LikeSpells rest tokens) :
      LikeSpells ('%' :: rest) (.run :: tokens)
  | one {rest : List Char} {tokens : Pattern} (h : LikeSpells rest tokens) :
      LikeSpells ('_' :: rest) (.one :: tokens)
  | escaped (c : Char) {rest : List Char} {tokens : Pattern} (h : LikeSpells rest tokens) :
      LikeSpells ('\\' :: c :: rest) (.literal c :: tokens)
  | trailing : LikeSpells ['\\'] [.literal '\\']
  | plain {c : Char} {rest : List Char} {tokens : Pattern} (hc : c ∉ ['%', '_', '\\'])
      (h : LikeSpells rest tokens) : LikeSpells (c :: rest) (.literal c :: tokens)

/-- Every LIKE text spells tokens, and no others than those it is read as. -/
theorem likeSpells_iff {pattern : List Char} {tokens : Pattern} :
    LikeSpells pattern tokens ↔ ofLike pattern = tokens := by
  constructor
  · intro h
    induction h with
    | nil => rfl
    | run _ ih => exact congrArg (.run :: ·) ih
    | one _ ih => exact congrArg (.one :: ·) ih
    | escaped c _ ih => exact congrArg (.literal c :: ·) ih
    | trailing => rfl
    | @plain c rest tokens hc _ ih =>
      simp only [List.mem_cons, List.not_mem_nil, or_false, not_or] at hc
      obtain ⟨hrun, hone, hescape⟩ := hc
      simp [ofLike, hescape, ih]
  · rintro rfl
    fun_induction ofLike pattern with
    | case1 => exact .nil
    | case2 rest ih => exact .run ih
    | case3 rest ih => exact .one ih
    | case4 => exact .trailing
    | case5 c rest ih => exact .escaped c ih
    | case6 c rest hrun hone hlast hescape ih =>
      have hbackslash : c ≠ '\\' := by
        intro hc
        cases rest with
        | nil => exact hlast hc rfl
        | cons d rest => exact hescape d rest hc rfl
      refine .plain ?_ ih
      simp only [List.mem_cons, List.not_mem_nil, or_false, not_or]
      exact ⟨hrun, hone, hbackslash⟩

namespace Token

/-- The pieces of a text that a token matches. -/
def Covers : Token → List Char → Prop
  | .run, _ => True
  | .one, piece => ∃ c, piece = [c]
  | .literal c, piece => piece = [c]

end Token

/-- A text belongs to a pattern if it is a concatenation of one piece for each token. -/
theorem matches_iff_pieces {tokens : Pattern} {text : List Char} :
    Matches tokens text ↔ ∃ pieces, List.Forall₂ Token.Covers tokens pieces ∧ pieces.flatten = text := by
  constructor
  · intro h
    induction h with
    | nil => exact ⟨[], .nil, rfl⟩
    | run skipped _ ih =>
      obtain ⟨pieces, hcovers, rfl⟩ := ih
      exact ⟨skipped :: pieces, .cons trivial hcovers, rfl⟩
    | one c _ ih =>
      obtain ⟨pieces, hcovers, rfl⟩ := ih
      exact ⟨[c] :: pieces, .cons ⟨c, rfl⟩ hcovers, rfl⟩
    | literal c _ ih =>
      obtain ⟨pieces, hcovers, rfl⟩ := ih
      exact ⟨[c] :: pieces, .cons rfl hcovers, rfl⟩
  · rintro ⟨pieces, hcovers, rfl⟩
    induction hcovers with
    | nil => exact .nil
    | @cons token piece tokens pieces hcover _ ih =>
      cases token with
      | run => exact .run piece ih
      | one =>
        obtain ⟨c, rfl⟩ := hcover
        exact .one c ih
      | literal c =>
        obtain rfl := hcover
        exact .literal c ih

/--
The LIKE matcher always comes to an answer, without leaving the bounds of text and pattern, and the
answer is whether the text falls into pieces that the tokens of the pattern match one by one.
-/
theorem like_decides_language (text pattern : String) :
    ∃ accepted, answer? (ofLike pattern.toList) text.toList = some accepted ∧
      like text pattern = accepted ∧
      (accepted = true ↔ ∃ tokens pieces, LikeSpells pattern.toList tokens ∧
        List.Forall₂ Token.Covers tokens pieces ∧ pieces.flatten = text.toList) := by
  obtain ⟨accepted, hanswer, hmatches⟩ := exists_answer (ofLike pattern.toList) text.toList
  refine ⟨accepted, hanswer, ?_, hmatches.trans ?_⟩
  · rw [like, accepts, hanswer]
    cases accepted <;> rfl
  · rw [matches_iff_pieces]
    constructor
    · rintro ⟨pieces, hcovers, hflatten⟩
      exact ⟨_, pieces, likeSpells_iff.mpr rfl, hcovers, hflatten⟩
    · rintro ⟨tokens, pieces, hspells, hcovers, hflatten⟩
      rw [likeSpells_iff.mp hspells]
      exact ⟨pieces, hcovers, hflatten⟩

end QueryCriteria.Pattern
