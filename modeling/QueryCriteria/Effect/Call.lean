import QueryCriteria.Effect.Duration

/-!
Calls that take time. A world is a server's state with a clock in milliseconds and a token that can
cancel calls; a call either finishes, or time runs out for it and whatever it still had to do is not
done. A call may also crash, and then the program has come to its end.
-/
namespace QueryCriteria

/-- The state that calls act on. -/
structure World (ω : Type) where
  server : ω
  /-- Milliseconds since the start. -/
  clock : Nat
  cancelled : Bool
  /-- When the token is going to be cancelled. -/
  cancelAt : Option Nat
  /-- Whether the program has crashed. What is returned after that is no answer. -/
  crashed : Bool

namespace World

/-- A world at its start. -/
def start {ω : Type} (server : ω) : World ω := ⟨server, 0, false, none, false⟩

/-- Waits outside of any call: the clock moves, and a cancellation that falls due takes place. -/
def sleep {ω : Type} (d : Duration) : StateM (World ω) Unit :=
  modify fun w =>
    let clock := w.clock + d.millisUp
    let due := 0 < d.millisUp && w.cancelAt.any (· ≤ clock)
    { w with clock, cancelled := w.cancelled || due }

/-- A step of the server. -/
def onServer {ω α : Type} (step : StateM ω α) : StateM (World ω) α := fun w =>
  let (a, server) := step w.server
  (a, { w with server })

end World

/-- A call under a deadline; it yields no value if it does not finish. -/
abbrev Call (ω : Type) := ReaderT Nat (OptionT (StateM (World ω)))

namespace Call

variable {ω α : Type}

/-- A step of the server, which takes no time. -/
def onServer (step : StateM ω α) : Call ω α := fun _ =>
  OptionT.mk (some <$> World.onServer step)

/--
Lets the clock reach an instant, or any later one if there is none. A cancellation before the
instant and before the deadline ends the call; so does the deadline, if the instant is behind it.
-/
def waitUntil (instant : Option Nat) : Call ω Unit := fun deadline => OptionT.mk fun w =>
  let last := match instant with
    | some t => min t deadline
    | none => deadline
  match w.cancelAt.filter (· < last) with
  | some t => (none, { w with clock := max w.clock t, cancelled := true })
  | none =>
    let inTime := instant.any (· ≤ deadline)
    (if inTime then some () else none, { w with clock := last })

/-- Waits for a span of time; none at all passes at once. -/
def sleep (d : Duration) : Call ω Unit := do
  let w ← (get : StateM (World ω) (World ω))
  if d.millisUp = 0 then return ()
  waitUntil (some (w.clock + d.millisUp))

/-- Never finishes. -/
def hang : Call ω α := do
  waitUntil none
  fun _ => OptionT.fail

/-- Crashes, with all that the call still had to do. -/
def crash : Call ω α := fun _ => OptionT.mk fun w => (none, { w with crashed := true })

end Call

end QueryCriteria
