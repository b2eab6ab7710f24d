import QueryCriteria.Effect.Call
import QueryCriteria.Store.Source
import QueryCriteria.Wire.Errors

/-!
Sources that follow a script, for trying out repositories: a list of faults decides which calls
fail, and every call is logged.
-/
namespace QueryCriteria.Scripted

/-- The faults and replies to come, a log of the calls, and the state of a source behind. -/
structure Script (ω : Type) where
  behind : ω
  /-- Objects are faults; anything else lets a call pass. -/
  faults : List Json
  replies : List (List Record)
  /-- Calls in the order in which they were made, each with its command. -/
  log : List (String × Json)

variable {ω κ α : Type}

/-- A step with the state behind the script. -/
def behind (step : StateM (World ω) α) : StateM (World (Script ω)) α := fun w =>
  let (a, inner) := step { w with server := w.server.behind }
  (a, { inner with server := { w.server with behind := inner.server } })

/-- Logs a call and takes the next fault from the script. -/
def called (call : String) (command : Json) : StateM (World (Script ω)) (Option StoreError) := fun w =>
  let script := { w.server with log := w.server.log ++ [(call, command)] }
  let fault := match script.faults.head? with
    | some (.object fields) => some (.ofJson (.object fields))
    | _ => none
  (fault, { w with server := { script with faults := script.faults.tail } })

/-- The next reply; there is always an empty one. -/
def nextReply : StateM (World (Script ω)) (List Record) := fun w =>
  ((w.server.replies.head?).getD [], { w with server := { w.server with replies := w.server.replies.tail } })

/-- Fails with the next fault of the script, or goes on. -/
def unlessFault (call : String) (command : Json)
    (next : StateM (World (Script ω)) (Except StoreError α)) :
    StateM (World (Script ω)) (Except StoreError α) := do
  match ← called call command with
  | some e => return .error e
  | none => next

def backendName : String := "stub"

/-- A source that answers from the script. -/
def source (describe : κ → Json) : DataSource (StateM (World (Script ω))) κ where
  backend := backendName
  execute command := unlessFault "execute" (describe command) (return .ok ())
  fetchOne command := unlessFault "fetch_one" (describe command) (return .ok (← nextReply).head?)
  fetch command := unlessFault "fetch" (describe command) (return .ok (← nextReply))

/-- Another source that is called only when the script has no fault. -/
def sourceBefore (describe : κ → Json) (inner : DataSource (StateM (World ω)) κ) :
    DataSource (StateM (World (Script ω))) κ where
  backend := backendName
  execute command := unlessFault "execute" (describe command) (behind (inner.execute command))
  fetchOne command := unlessFault "fetch_one" (describe command) (behind (inner.fetchOne command))
  fetch command := unlessFault "fetch" (describe command) (behind (inner.fetch command))

/-- The source behind the script, without the script. -/
def sourceBehind (inner : DataSource (StateM (World ω)) κ) : DataSource (StateM (World (Script ω))) κ where
  backend := inner.backend
  execute command := behind (inner.execute command)
  fetchOne command := behind (inner.fetchOne command)
  fetch command := behind (inner.fetch command)

/-- A script of outcomes, and the times at which they were taken, the latest first. -/
structure Outcomes where
  pending : List Json
  takenAt : List Nat

/-- The next outcome: an object is an error, anything else a value; an exhausted script yields null. -/
def nextOutcome : StateM (World Outcomes) (Except StoreError Json) := fun w =>
  let result := match w.server.pending.head? with
    | some (.object fields) => .error (.ofJson (.object fields))
    | some value => .ok value
    | none => .ok .null
  (result, { w with server := ⟨w.server.pending.tail, w.clock :: w.server.takenAt⟩ })

end QueryCriteria.Scripted
