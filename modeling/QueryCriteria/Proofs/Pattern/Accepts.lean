import Mathlib.Data.List.Basic
import QueryCriteria.Pattern.Basic

/-!
The matcher ends, stays within text and pattern, and accepts exactly the texts that belong to the
pattern. Going back to the latest run is enough: what an earlier run reaches by skipping more, the
latest one reaches as well, as only single characters are matched between a run and the cursor.
-/
namespace QueryCriteria.Pattern

/-- A run skips any more characters. -/
theorem Matches.run_of_suffix {pattern : Pattern} {tail text : List Char}
    (h : Matches (.run :: pattern) tail) (hs : tail <:+ text) : Matches (.run :: pattern) text := by
  obtain ⟨before, rfl⟩ := hs
  cases h with
  | run skipped h =>
    rw [← List.append_assoc]
    exact .run _ h

theorem matches_run_iff {pattern : Pattern} {text : List Char} :
    Matches (.run :: pattern) text ↔ ∃ tail, tail <:+ text ∧ Matches pattern tail := by
  constructor
  · intro h
    cases h with
    | @run _ tail skipped h => exact ⟨tail, ⟨skipped, rfl⟩, h⟩
  · rintro ⟨tail, ⟨skipped, rfl⟩, h⟩
    exact .run skipped h

theorem matches_run_cons_iff {pattern : Pattern} {c : Char} {text : List Char} :
    Matches (.run :: pattern) (c :: text) ↔
      Matches pattern (c :: text) ∨ Matches (.run :: pattern) text := by
  simp only [matches_run_iff, List.suffix_cons_iff, or_and_right, exists_or, exists_eq_left]

theorem matches_one_cons_iff {pattern : Pattern} {c : Char} {text : List Char} :
    Matches (.one :: pattern) (c :: text) ↔ Matches pattern text := by
  constructor
  · rintro (_ | _ | ⟨_, h⟩ | _)
    exact h
  · exact .one c

theorem matches_literal_cons_iff {pattern : Pattern} {c d : Char} {text : List Char} :
    Matches (.literal c :: pattern) (d :: text) ↔ c = d ∧ Matches pattern text := by
  constructor
  · rintro (_ | _ | _ | ⟨_, h⟩)
    exact ⟨rfl, h⟩
  · rintro ⟨rfl, h⟩
    exact .literal c h

/-- Only runs match the empty text. -/
theorem matches_nil_iff {pattern : Pattern} : Matches pattern [] ↔ ∀ token ∈ pattern, token = .run := by
  induction pattern with
  | nil => simp [Matches.nil]
  | cons token pattern ih =>
    rw [List.forall_mem_cons, ← ih]
    constructor
    · intro h
      generalize ht : ([] : List Char) = text at h
      cases h with
      | run skipped h =>
        obtain ⟨rfl, rfl⟩ := List.append_eq_nil_iff.mp ht.symm
        exact ⟨rfl, h⟩
      | one c h => cases ht
      | literal c h => cases ht
    · rintro ⟨rfl, h⟩
      exact .run [] h

/-- Tokens other than runs match as many characters as they are. -/
theorem Matches.drop_of_append {fixed pattern : Pattern} {text : List Char} (hfixed : .run ∉ fixed)
    (h : Matches (fixed ++ pattern) text) :
    fixed.length ≤ text.length ∧ Matches pattern (text.drop fixed.length) := by
  induction fixed generalizing text with
  | nil => exact ⟨Nat.zero_le _, h⟩
  | cons token fixed ih =>
    obtain ⟨htoken, hrest⟩ := not_or.mp (mt List.mem_cons.mpr hfixed)
    cases h with
    | run => exact absurd rfl htoken
    | one c h => exact ⟨Nat.succ_le_succ (ih hrest h).1, (ih hrest h).2⟩
    | literal c h => exact ⟨Nat.succ_le_succ (ih hrest h).1, (ih hrest h).2⟩

namespace Cursor

section

variable (pattern : Array Token) (text : Array Char) (cursor : Cursor)

/-- The latest run can skip more characters, so that the pattern behind it matches the rest. -/
def FindsLater : Prop :=
  ∃ run, cursor.latest = some run ∧ run.char < text.size ∧
    Matches (.run :: pattern.toList.drop (run.token + 1)) (text.toList.drop (run.char + 1))

/-- The rest of the pattern matches the rest of the text, or the latest run helps out. -/
def Finds : Prop :=
  Matches (pattern.toList.drop cursor.token) (text.toList.drop cursor.char) ∨
    cursor.FindsLater pattern text

/-- Between the latest run and the cursor, single characters are matched by tokens other than runs. -/
structure Sound : Prop where
  token_le : cursor.token ≤ pattern.size
  char_le : cursor.char ≤ text.size
  aligned : ∀ run, cursor.latest = some run → ∃ fixed : Pattern, .run ∉ fixed ∧
    pattern.toList.drop (run.token + 1) = fixed ++ pattern.toList.drop cursor.token ∧
    run.token + 1 + fixed.length = cursor.token ∧ run.char + fixed.length = cursor.char

/--
The tokens behind the latest run, the characters that it may still skip, and the tokens behind the
cursor: a round makes the first smaller, or else the second, or else the third.
-/
def remaining : Nat × Nat × Nat :=
  match cursor.latest with
  | some run => (pattern.size - (run.token + 1), text.size - run.char, pattern.size - cursor.token)
  | none => (pattern.size, text.size, pattern.size - cursor.token)

/-- A round goes on: what is to be found stays the same, and less remains. -/
structure Continues (following : Cursor) : Prop where
  sound : following.Sound pattern text
  finds : following.Finds pattern text ↔ cursor.Finds pattern text
  less : Prod.Lex (· < ·) (Prod.Lex (· < ·) (· < ·)) (following.remaining pattern text)
    (cursor.remaining pattern text)

/-- What a round comes to: it goes on, or its answer is whether there is anything to be found. -/
def Settles : Round → Prop
  | .goOn following => cursor.Continues pattern text following
  | .done accepted => accepted = true ↔ cursor.Finds pattern text

end

variable {pattern : Array Token} {text : Array Char} {cursor : Cursor}

theorem sound_start : start.Sound pattern text :=
  ⟨Nat.zero_le _, Nat.zero_le _, fun _ h => by cases h⟩

theorem finds_start_iff : start.Finds pattern text ↔ Matches pattern.toList text.toList := by
  constructor
  · rintro (h | ⟨_, h, _⟩)
    · exact h
    · cases h
  · exact .inl

/-- What the latest run reaches by skipping more, the rest of the pattern matches further behind. -/
theorem Sound.exists_of_findsLater (hsound : cursor.Sound pattern text)
    (h : cursor.FindsLater pattern text) :
    ∃ place, cursor.char < place ∧ place ≤ text.size ∧
      Matches (pattern.toList.drop cursor.token) (text.toList.drop place) := by
  obtain ⟨run, hrun, hmore, h⟩ := h
  obtain ⟨fixed, hfixed, hdrop, -, hchar⟩ := hsound.aligned run hrun
  obtain ⟨tail, ⟨skipped, htail⟩, h⟩ := matches_run_iff.mp h
  rw [hdrop] at h
  obtain ⟨hlength, h⟩ := h.drop_of_append hfixed
  have htext : text.toList.drop (run.char + 1 + skipped.length) = tail := by
    rw [← List.drop_drop, ← htail, List.drop_left]
  have hsize := congrArg List.length htail
  simp only [List.length_append, List.length_drop, Array.length_toList] at hsize
  refine ⟨run.char + 1 + skipped.length + fixed.length, by omega, by omega, ?_⟩
  rw [← List.drop_drop, htext]
  exact h

theorem drop_eq_cons {α : Type} {items : Array α} {place : Nat} {a : α} (h : items[place]? = some a) :
    items.toList.drop place = a :: items.toList.drop (place + 1) := by
  obtain ⟨hlt, rfl⟩ := Array.getElem?_eq_some_iff.mp h
  exact List.drop_eq_getElem_cons (by simpa using hlt)

theorem drop_char {place : Nat} (h : place < text.size) :
    text.toList.drop place = text[place] :: text.toList.drop (place + 1) :=
  drop_eq_cons (Array.getElem?_eq_getElem h)

/-- The places of a latest run come before those of the cursor. -/
theorem Sound.latest_lt (hsound : cursor.Sound pattern text) {run : Passed}
    (h : cursor.latest = some run) : run.token < cursor.token ∧ run.char ≤ cursor.char := by
  obtain ⟨fixed, -, -, htoken, hchar⟩ := hsound.aligned run h
  omega

section Behind

variable {run : Passed} (htoken : run.token < pattern.size) (hchar : run.char ≤ text.size)

include htoken hchar in
theorem sound_behind : run.behind.Sound pattern text := by
  refine ⟨htoken, hchar, ?_⟩
  intro _ hrun
  obtain rfl := Option.some.inj hrun
  exact ⟨[], List.not_mem_nil, rfl, rfl, rfl⟩

include hchar in
/-- Behind a run, all that the run makes possible is still to be found. -/
theorem finds_behind_iff :
    run.behind.Finds pattern text ↔
      Matches (.run :: pattern.toList.drop (run.token + 1)) (text.toList.drop run.char) := by
  have hlater : run.behind.FindsLater pattern text ↔ run.char < text.size ∧
      Matches (.run :: pattern.toList.drop (run.token + 1)) (text.toList.drop (run.char + 1)) := by
    constructor
    · rintro ⟨_, hrun, h⟩
      obtain rfl := Option.some.inj hrun
      exact h
    · exact fun h => ⟨run, rfl, h⟩
  rw [Finds, hlater]
  rcases Nat.lt_or_eq_of_le hchar with hlt | heq
  · rw [drop_char hlt, matches_run_cons_iff, ← drop_char hlt]
    exact or_congr_right (and_iff_right hlt)
  · have hnil : text.toList.drop run.char = [] := by simp [heq]
    have hbehind : text.toList.drop run.behind.char = [] := hnil
    rw [hnil, hbehind, matches_nil_iff, matches_nil_iff, List.forall_mem_cons, heq]
    simp [Passed.behind]

end Behind

/-- At a run, an earlier one is of no more use. -/
theorem Sound.continues_pass (hsound : cursor.Sound pattern text)
    (htoken : pattern[cursor.token]? = some .run) :
    cursor.Continues pattern text cursor.pass := by
  have hlt := (Array.getElem?_eq_some_iff.mp htoken).1
  refine ⟨sound_behind hlt hsound.char_le, ?_, ?_⟩
  · rw [pass, finds_behind_iff hsound.char_le, ← drop_eq_cons htoken]
    refine ⟨.inl, ?_⟩
    rintro (h | h)
    · exact h
    · obtain ⟨place, hplace, -, h⟩ := hsound.exists_of_findsLater h
      have hsuffix : text.toList.drop place <:+ text.toList.drop cursor.char := by
        have := List.drop_suffix (place - cursor.char) (text.toList.drop cursor.char)
        rwa [List.drop_drop, Nat.add_sub_cancel' (Nat.le_of_lt hplace)] at this
      rw [drop_eq_cons htoken] at h ⊢
      exact h.run_of_suffix hsuffix
  · refine .left _ _ ?_
    cases hlatest : cursor.latest with
    | none =>
      change pattern.size - (cursor.token + 1) < pattern.size
      omega
    | some run =>
      have := (hsound.latest_lt hlatest).1
      change pattern.size - (cursor.token + 1) < pattern.size - (run.token + 1)
      omega

/-- A token that is no run takes the character that it matches. -/
theorem Sound.continues_next (hsound : cursor.Sound pattern text) (hchar : cursor.char < text.size)
    {token : Token} (htoken : pattern[cursor.token]? = some token) (hrun : token ≠ .run)
    (hmatches : ∀ rest tail, Matches (token :: rest) (text[cursor.char] :: tail) ↔ Matches rest tail) :
    cursor.Continues pattern text cursor.next := by
  have hlt := (Array.getElem?_eq_some_iff.mp htoken).1
  refine ⟨⟨hlt, hchar, ?_⟩, ?_, ?_⟩
  · intro run hlatest
    obtain ⟨fixed, hfixed, hdrop, htokens, hchars⟩ := hsound.aligned run hlatest
    refine ⟨fixed ++ [token], ?_, ?_, ?_, ?_⟩
    · simpa [hfixed] using Ne.symm hrun
    · rw [hdrop, drop_eq_cons htoken, List.append_assoc]
      rfl
    · simp only [List.length_append, List.length_singleton, next]
      omega
    · simp only [List.length_append, List.length_singleton, next]
      omega
  · refine or_congr_left ?_
    rw [drop_eq_cons htoken, drop_char hchar, hmatches]
    rfl
  · have hless : pattern.size - (cursor.token + 1) < pattern.size - cursor.token := by omega
    unfold remaining next
    cases cursor.latest with
    | none => exact .right _ (.right _ hless)
    | some run => exact .right _ (.right _ hless)

/-- Where the rest of the pattern does not match, the latest run has to skip more. -/
theorem Sound.continues_back (hsound : cursor.Sound pattern text) (hchar : cursor.char < text.size)
    (hno : ¬ Matches (pattern.toList.drop cursor.token) (text.toList.drop cursor.char)) {run : Passed}
    (hlatest : cursor.latest = some run) :
    cursor.Continues pattern text run.skipOne.behind := by
  obtain ⟨htokens, hchars⟩ := hsound.latest_lt hlatest
  have hsize := hsound.token_le
  have hmore : run.char < text.size := by omega
  have hskip : run.skipOne.char ≤ text.size := hmore
  refine ⟨sound_behind (Nat.lt_of_lt_of_le htokens hsize) hskip, ?_, ?_⟩
  · rw [finds_behind_iff hskip, Finds, or_iff_right hno]
    constructor
    · exact fun h => ⟨run, hlatest, hmore, h⟩
    · rintro ⟨_, hrun, -, h⟩
      obtain rfl := Option.some.inj (hlatest.symm.trans hrun)
      exact h
  · have hless : text.size - (run.char + 1) < text.size - run.char := by omega
    unfold remaining
    rw [hlatest]
    exact .right _ (.left _ _ hless)

theorem Sound.settles_retry (hsound : cursor.Sound pattern text) (hchar : cursor.char < text.size)
    (hno : ¬ Matches (pattern.toList.drop cursor.token) (text.toList.drop cursor.char)) :
    cursor.Settles pattern text cursor.retry := by
  unfold retry
  cases hlatest : cursor.latest with
  | some run => exact hsound.continues_back hchar hno hlatest
  | none =>
    refine iff_of_false Bool.false_ne_true ?_
    rintro (h | ⟨run, hrun, -⟩)
    · exact hno h
    · rw [hlatest] at hrun
      cases hrun

/-- At the end of the text, only runs may be left. -/
theorem Sound.settles_end (hsound : cursor.Sound pattern text) (hchar : ¬ cursor.char < text.size) :
    cursor.Settles pattern text (.done ((pattern.toList.drop cursor.token).all (· == .run))) := by
  have hend := hsound.char_le
  have hnil : text.toList.drop cursor.char = [] := by
    simp only [List.drop_eq_nil_iff, Array.length_toList]
    omega
  have hlater : ¬ cursor.FindsLater pattern text := by
    intro h
    obtain ⟨place, hlt, hle, -⟩ := hsound.exists_of_findsLater h
    omega
  rw [Settles, Finds, or_iff_left hlater, hnil, matches_nil_iff]
  simp only [List.all_eq_true, beq_iff_eq]

/-- From where the matcher can stand, a round stays within bounds, and it keeps what is to be found. -/
theorem Sound.exists_round (hsound : cursor.Sound pattern text) :
    ∃ round, cursor.round? pattern text = some round ∧ cursor.Settles pattern text round := by
  unfold round?
  by_cases hchar : cursor.char < text.size
  · rw [if_pos hchar]
    cases htoken : pattern[cursor.token]? with
    | none =>
      refine ⟨_, rfl, hsound.settles_retry hchar ?_⟩
      have hnil : pattern.toList.drop cursor.token = [] := by simpa using htoken
      rw [hnil, drop_char hchar]
      intro h
      cases h
    | some token =>
      cases token with
      | run => exact ⟨_, rfl, hsound.continues_pass htoken⟩
      | one =>
        exact ⟨_, rfl, hsound.continues_next hchar htoken (by simp) fun _ _ => matches_one_cons_iff⟩
      | literal c =>
        rw [Array.getElem?_eq_getElem hchar]
        refine ⟨_, rfl, ?_⟩
        split_ifs with hc
        · refine hsound.continues_next hchar htoken (by simp) fun _ _ => ?_
          rw [matches_literal_cons_iff, and_iff_right hc]
        · refine hsound.settles_retry hchar ?_
          rw [drop_eq_cons htoken, drop_char hchar, matches_literal_cons_iff]
          exact fun h => hc h.1
  · rw [if_neg hchar, if_pos hsound.token_le]
    exact ⟨_, rfl, hsound.settles_end hchar⟩

/-- The rounds come to an answer, which says whether there was anything to be found. -/
theorem Sound.exists_run {cursor : Cursor} (hsound : cursor.Sound pattern text) :
    ∃ accepted, cursor.run? pattern text = some accepted ∧
      (accepted = true ↔ cursor.Finds pattern text) := by
  obtain ⟨round, hround, hsettles⟩ := hsound.exists_round
  rw [run?, hround]
  cases round with
  | done accepted => exact ⟨accepted, rfl, hsettles⟩
  | goOn following =>
    obtain ⟨accepted, hrun, hfinds⟩ := hsettles.sound.exists_run
    exact ⟨accepted, hrun, hfinds.trans hsettles.finds⟩
termination_by cursor.remaining pattern text
decreasing_by exact hsettles.less

end Cursor

/-- The matcher always answers, and says whether the text belongs to the pattern. -/
theorem exists_answer (pattern : Pattern) (text : List Char) :
    ∃ accepted, answer? pattern text = some accepted ∧ (accepted = true ↔ Matches pattern text) := by
  have hstart : Cursor.start.Sound pattern.toArray text.toArray := Cursor.sound_start
  obtain ⟨accepted, hrun, hfinds⟩ := hstart.exists_run
  exact ⟨accepted, hrun, hfinds.trans Cursor.finds_start_iff⟩

/-- A text is accepted exactly when it is a concatenation of one matching piece for each token. -/
theorem accepts_iff (pattern : Pattern) (text : List Char) :
    accepts pattern text = true ↔ Matches pattern text := by
  obtain ⟨accepted, hanswer, hmatches⟩ := exists_answer pattern text
  rw [accepts, hanswer, ← hmatches]
  simp

end QueryCriteria.Pattern
