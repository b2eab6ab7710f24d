import QueryCriteria.Store.Error

/-!
Connections that are made on first use. A slot holds the connection once it is made; a failed
attempt leaves the slot empty. The second part follows several callers at once: whoever makes the
connection has the slot alone until it is done.
-/
namespace QueryCriteria

/-- A place for a connection, and how many connections were made for it. -/
structure Slot (γ : Type) where
  current : Option γ
  connects : Nat

namespace Slot

variable {γ : Type}

def empty : Slot γ := ⟨none, 0⟩

/-- A slot with a connection that was made elsewhere. -/
def connected (connection : γ) : Slot γ := ⟨some connection, 0⟩

/-- The slot after an attempt to connect. -/
def complete (slot : Slot γ) : Except StoreError γ → Slot γ
  | .ok connection => ⟨some connection, slot.connects + 1⟩
  | .error _ => slot

/-- Drops the connection. -/
def reset (slot : Slot γ) : Slot γ := { slot with current := none }

/-- The connection, made now if there is none yet. -/
def getOrConnect {m : Type → Type} [Monad m] (connect : m (Except StoreError γ)) (slot : Slot γ) :
    m (Except StoreError γ × Slot γ) :=
  match slot.current with
  | some connection => pure (.ok connection, slot)
  | none => do
    let outcome ← connect
    return (outcome, slot.complete outcome)

end Slot

/-- How far a caller has come. -/
inductive CallerPhase (γ : Type) where
  | arriving
  /-- The slot was empty when it was read; now the caller waits to have it alone. -/
  | waiting
  /-- The caller has the slot alone, and has yet to look at it again. -/
  | holding
  /-- The slot was still empty. The caller keeps it alone until the connection is made. -/
  | connecting
  | done (outcome : Except StoreError γ)
  | dropped

/-- A slot and its callers. -/
structure Callers (γ : Type) where
  slot : Slot γ
  phases : List (CallerPhase γ)

/-- A step of one caller. -/
inductive CallerStep (γ : Type) where
  | read
  | acquire
  | check
  | finish (outcome : Except StoreError γ)
  | drop

/-- What happens at a slot: a step of one of its callers, or someone drops the connection. -/
inductive SlotEvent (γ : Type) where
  | step (i : Nat) (step : CallerStep γ)
  | reset

namespace CallerPhase

variable {γ : Type}

/-- Whether the caller has the slot for itself. -/
def owns : CallerPhase γ → Bool
  | .holding | .connecting => true
  | _ => false

/-- What a caller does with the slot as it finds it. -/
def onFound (slot : Slot γ) (whenEmpty : CallerPhase γ) : CallerPhase γ :=
  match slot.current with
  | some connection => .done (.ok connection)
  | none => whenEmpty

end CallerPhase

namespace Callers

variable {γ : Type}

/-- Whether a caller has the slot for itself. -/
def held (callers : Callers γ) : Bool :=
  callers.phases.any CallerPhase.owns

/-- Moves one caller to another phase. -/
def place (callers : Callers γ) (i : Nat) (phase : CallerPhase γ) : Callers γ :=
  { callers with phases := callers.phases.set i phase }

/--
The effect of a step, if it is possible. The slot is read and taken only while no one has it. A caller
who is not done may be dropped; what it had of the slot is then free again.
-/
def step? (callers : Callers γ) (i : Nat) (step : CallerStep γ) : Option (Callers γ) :=
  match callers.phases[i]?, step with
  | some .arriving, .read =>
    if callers.held then none
    else some (callers.place i (CallerPhase.onFound callers.slot .waiting))
  | some .waiting, .acquire => if callers.held then none else some (callers.place i .holding)
  | some .holding, .check =>
    some (callers.place i (CallerPhase.onFound callers.slot .connecting))
  | some .connecting, .finish outcome =>
    some { callers.place i (.done outcome) with slot := callers.slot.complete outcome }
  | some .arriving, .drop | some .waiting, .drop | some .holding, .drop | some .connecting, .drop =>
    some (callers.place i .dropped)
  | _, _ => none

/-- The effect of an event, if it is possible. The connection is dropped only while no one has the slot. -/
def next? (callers : Callers γ) : SlotEvent γ → Option (Callers γ)
  | .step i step => callers.step? i step
  | .reset => if callers.held then none else some { callers with slot := callers.slot.reset }

/-- The effect of a step, or none where it is not possible. -/
def step (callers : Callers γ) (i : Nat) (s : CallerStep γ) : Callers γ :=
  (callers.step? i s).getD callers

/-- A number of callers who come to a slot. -/
def arrive (slot : Slot γ) (n : Nat) : Callers γ :=
  ⟨slot, List.replicate n .arriving⟩

/-- What a caller does once the slot is free for it, up to the end of its attempt to connect. -/
def visit (callers : Callers γ) (i : Nat) (outcome : Except StoreError γ) : Callers γ :=
  ((callers.step i .acquire).step i .check).step i (.finish outcome)

/-- All callers read the slot, and then take it in the order in which they came. -/
def inOrder (slot : Slot γ) (outcomes : List (Except StoreError γ)) : Callers γ :=
  let arrived := (List.range outcomes.length).foldl (fun c i => c.step i .read)
    (arrive slot outcomes.length)
  outcomes.zipIdx.foldl (fun c entry => c.visit entry.2 entry.1) arrived

/-- The outcomes of the callers who are done. -/
def outcomes (callers : Callers γ) : List (Except StoreError γ) :=
  callers.phases.filterMap fun
    | .done outcome => some outcome
    | _ => none

end Callers

end QueryCriteria
