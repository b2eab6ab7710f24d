import QueryCriteria.Proofs.Effect.Returns

/-!
Servers whose answers are given beforehand. Whatever is asked, the next answer is the one that is next;
all that such a server learns is what it was asked.
-/
namespace QueryCriteria

/-- The answers to all requests, the first one first, and the requests so far. -/
structure Dialogue (ρ α : Type) where
  script : Nat → α
  asked : List ρ

namespace Dialogue

variable {ρ α : Type}

/-- An answer to come, the next one being the answer 0. -/
def upcoming (d : Dialogue ρ α) (i : Nat) : α :=
  d.script (d.asked.length + i)

/-- The next answers. -/
def answers (d : Dialogue ρ α) (n : Nat) : List α :=
  (List.range n).map d.upcoming

/-- The dialogue after more requests. -/
def after (d : Dialogue ρ α) (requests : List ρ) : Dialogue ρ α :=
  { d with asked := d.asked ++ requests }

/-- Takes a request, and gives the next answer. -/
def reply (request : ρ) : StateM (Dialogue ρ α) α := fun d => (d.upcoming 0, d.after [request])

theorem upcoming_after (d : Dialogue ρ α) (request : ρ) (i : Nat) :
    (d.after [request]).upcoming i = d.upcoming (i + 1) := by
  rw [upcoming, upcoming, after, List.length_append, List.length_singleton, Nat.add_assoc,
    Nat.add_comm 1 i]

theorem after_nil (d : Dialogue ρ α) : d.after [] = d := by
  rw [after, List.append_nil]

theorem after_after (d : Dialogue ρ α) (requests more : List ρ) :
    (d.after requests).after more = d.after (requests ++ more) := by
  rw [after, after, after, List.append_assoc]

theorem length_answers (d : Dialogue ρ α) (n : Nat) : (d.answers n).length = n := by
  rw [answers, List.length_map, List.length_range]

/-- The first ones of the next answers. -/
theorem answers_prefix (d : Dialogue ρ α) {l m : List α} (h : d.answers (l ++ m).length = l ++ m) :
    d.answers l.length = l := by
  have htake : (d.answers (l ++ m).length).take l.length = d.answers l.length := by
    rw [answers, answers, ← List.map_take, List.take_range, List.length_append,
      Nat.min_eq_left (Nat.le_add_right _ _)]
  rw [← htake, h, List.take_left]

/-- The first of the next answers, and those after it; they are the same whatever is asked. -/
theorem answers_succ (d : Dialogue ρ α) (request : ρ) (n : Nat) :
    d.answers (n + 1) = d.upcoming 0 :: (d.after [request]).answers n := by
  rw [answers, List.range_succ_eq_map, List.map_cons, List.map_map, answers]
  exact congrArg _ (List.map_congr_left fun i _ => (upcoming_after d request i).symm)

/-- Asking once moves the dialogue by one request. -/
theorem returns_reply (d : Dialogue ρ α) (request : ρ) :
    Returns (Call.onServer (reply request)) (fun s => s = d) fun answer s =>
      answer = d.upcoming 0 ∧ s = d.after [request] := by
  refine Returns.onServer fun s hs => ?_
  subst hs
  exact ⟨rfl, rfl⟩

end Dialogue

end QueryCriteria
