import QueryCriteria.Store.Guard
import QueryCriteria.Store.Link

/-!
Calls that certainly return. A call under a deadline may be cut off or cancelled; these are triples
for calls to which neither happens, one rule for each way of putting calls together.
-/
namespace QueryCriteria

variable {ω α β : Type}

/--
From every state with the precondition the call finishes, without being cancelled, and its result and
the state it leaves satisfy the postcondition.
-/
def Returns (call : Call ω α) (pre : ω → Prop) (post : α → ω → Prop) : Prop :=
  ∀ (deadline : Nat) (w : World ω), w.cancelled = false → pre w.server →
    ∃ a w', call deadline w = (some a, w') ∧ w'.cancelled = false ∧ post a w'.server

namespace Returns

variable {pre : ω → Prop} {post : α → ω → Prop} {call : Call ω α}

theorem mono (h : Returns call pre post) {pre' : ω → Prop} {post' : α → ω → Prop}
    (hpre : ∀ s, pre' s → pre s) (hpost : ∀ a s, post a s → post' a s) : Returns call pre' post' := by
  intro deadline w hw hp
  obtain ⟨a, w', hrun, hw', hq⟩ := h deadline w hw (hpre _ hp)
  exact ⟨a, w', hrun, hw', hpost _ _ hq⟩

/-- A part of the precondition that is not about the state. -/
theorem of_and {fact : Prop} (h : fact → Returns call pre post) :
    Returns call (fun s => fact ∧ pre s) post :=
  fun deadline w hw hp => h hp.1 deadline w hw hp.2

theorem of_exists {ι : Type} {pre : ι → ω → Prop} (h : ∀ i, Returns call (pre i) post) :
    Returns call (fun s => ∃ i, pre i s) post :=
  fun deadline w hw ⟨i, hp⟩ => h i deadline w hw hp

theorem pure {a : α} (h : ∀ s, pre s → post a s) : Returns (Pure.pure a : Call ω α) pre post :=
  fun _ w hw hp => ⟨a, w, rfl, hw, h _ hp⟩

theorem bind {next : α → Call ω β} {middle : α → ω → Prop} {post : β → ω → Prop}
    (h : Returns call pre middle) (hnext : ∀ a, Returns (next a) (middle a) post) :
    Returns (call >>= next) pre post := by
  intro deadline w hw hp
  obtain ⟨a, w', hrun, hw', hmiddle⟩ := h deadline w hw hp
  obtain ⟨b, w'', hrun', hw'', hq⟩ := hnext a deadline w' hw' hmiddle
  refine ⟨b, w'', ?_, hw'', hq⟩
  simp only [Bind.bind, ReaderT.bind, OptionT.bind, OptionT.mk, StateT.bind] at hrun ⊢
  rw [hrun]
  exact hrun'

theorem onServer {step : StateM ω α} (h : ∀ s, pre s → post (step s).1 (step s).2) :
    Returns (Call.onServer step) pre post :=
  fun _ w hw hp => ⟨(step w.server).1, { w with server := (step w.server).2 }, rfl, hw, h _ hp⟩

/-- The first attempt is the only one. -/
theorem retry {attempt : Call ω (Except StoreError α)} (policy : RetryPolicy)
    {sleep : Duration → Call ω Unit}
    (h : Returns attempt pre fun result s => ∃ a, result = .ok a ∧ post a s) :
    Returns (policy.run sleep attempt) pre fun result s => ∃ a, result = .ok a ∧ post a s := by
  rw [RetryPolicy.run]
  cases policy.maxRetries.toNat with
  | zero => exact h
  | succ left =>
    refine bind h fun result => of_exists fun a => of_and ?_
    rintro rfl
    exact pure fun _ hs => ⟨a, rfl, hs⟩

end Returns

/-- The call of a server returns, so the call of a source that is linked to it does. -/
theorem Linked.returns_ask {γ σ : Type} {call : Call σ α} {pre : σ → Prop} {post : α → σ → Prop}
    (h : Returns call pre post) :
    Returns (Linked.ask call : Call (Linked γ σ) α) (fun s => pre s.server)
      fun a s => post a s.server := by
  intro deadline w hw hp
  obtain ⟨a, w', hrun, hw', hq⟩ := h deadline { w with server := w.server.server } hw hp
  refine ⟨a, { w' with server := { w.server with server := w'.server } }, ?_, hw', hq⟩
  simp only [Linked.ask, OptionT.mk, hrun]

/-- From every state with the precondition the attempt returns and succeeds. -/
def Succeeds (attempt : Attempt ω α) (pre : ω → Prop) (post : α → ω → Prop) : Prop :=
  Returns attempt.run pre fun result s => ∃ a, result = .ok a ∧ post a s

namespace Succeeds

variable {pre : ω → Prop} {post : α → ω → Prop} {attempt : Attempt ω α}

theorem mono (h : Succeeds attempt pre post) {pre' : ω → Prop} {post' : α → ω → Prop}
    (hpre : ∀ s, pre' s → pre s) (hpost : ∀ a s, post a s → post' a s) :
    Succeeds attempt pre' post' :=
  Returns.mono h hpre fun _ s ⟨a, ha, hq⟩ => ⟨a, ha, hpost a s hq⟩

theorem pure {a : α} (h : ∀ s, pre s → post a s) : Succeeds (Pure.pure a : Attempt ω α) pre post :=
  Returns.pure fun s hs => ⟨a, rfl, h s hs⟩

theorem bind {next : α → Attempt ω β} {middle : α → ω → Prop} {post : β → ω → Prop}
    (h : Succeeds attempt pre middle) (hnext : ∀ a, Succeeds (next a) (middle a) post) :
    Succeeds (attempt >>= next) pre post := by
  refine Returns.bind h fun result => Returns.of_exists fun a => Returns.of_and ?_
  rintro rfl
  exact hnext a

theorem of_and {fact : Prop} (h : fact → Succeeds attempt pre post) :
    Succeeds attempt (fun s => fact ∧ pre s) post :=
  Returns.of_and h

theorem of_exists {ι : Type} {pre : ι → ω → Prop} (h : ∀ i, Succeeds attempt (pre i) post) :
    Succeeds attempt (fun s => ∃ i, pre i s) post :=
  Returns.of_exists h

/-- What is known to succeed already. -/
theorem ofOk {a : α} (h : ∀ s, pre s → post a s) :
    Succeeds (liftM (Except.ok a : Except StoreError α) : Attempt ω α) pre post :=
  Returns.pure fun s hs => ⟨a, rfl, h s hs⟩

theorem lift {call : Call ω α} (h : Returns call pre post) :
    Succeeds (liftM call : Attempt ω α) pre post :=
  Returns.bind h fun a => Returns.pure fun _ hs => ⟨a, rfl, hs⟩

end Succeeds

/-- From every state with the precondition the attempt returns, and comes to this value or this error. -/
def Yields (attempt : Attempt ω α) (pre : ω → Prop) (result : Except StoreError α) (post : ω → Prop) :
    Prop :=
  Returns attempt.run pre fun found s => found = result ∧ post s

namespace Yields

variable {pre middle post : ω → Prop} {attempt : Attempt ω α} {next : α → Attempt ω β}

theorem pure (a : α) : Yields (Pure.pure a : Attempt ω α) pre (.ok a) pre :=
  Returns.pure fun _ hs => ⟨rfl, hs⟩

theorem fail (e : StoreError) : Yields (throw e : Attempt ω α) pre (.error e) pre :=
  Returns.pure fun _ hs => ⟨rfl, hs⟩

theorem bind_ok {a : α} {result : Except StoreError β} (h : Yields attempt pre (.ok a) middle)
    (hnext : Yields (next a) middle result post) : Yields (attempt >>= next) pre result post := by
  refine Returns.bind h fun found => Returns.of_and ?_
  rintro rfl
  exact hnext

/-- An error is the end of it. -/
theorem bind_error {e : StoreError} (h : Yields attempt pre (.error e) post) :
    Yields (attempt >>= next) pre (.error e) post := by
  refine Returns.bind h fun found => Returns.of_and ?_
  rintro rfl
  exact Returns.pure fun _ hs => ⟨rfl, hs⟩

/-- What is made of the value, if there is one. -/
theorem map {result : Except StoreError α} (f : α → β) (h : Yields attempt pre result post) :
    Yields (do return f (← attempt)) pre (result.map f) post := by
  cases result with
  | ok a => exact bind_ok h (pure (f a))
  | error e => exact bind_error h

/-- What is known already. -/
theorem known (result : Except StoreError α) : Yields (liftM result : Attempt ω α) pre result pre :=
  Returns.pure fun _ hs => ⟨rfl, hs⟩

theorem lift {call : Call ω α} {a : α} (h : Returns call pre fun found s => found = a ∧ post s) :
    Yields (liftM call : Attempt ω α) pre (.ok a) post := by
  refine Returns.bind h fun found => Returns.of_and ?_
  rintro rfl
  exact Returns.pure fun _ hs => ⟨rfl, hs⟩

end Yields

/-- An attempt without a value succeeds in one way. -/
theorem Succeeds.yields {pre post : ω → Prop} {attempt : Attempt ω Unit}
    (h : Succeeds attempt pre fun _ => post) : Yields attempt pre (.ok ()) post := by
  refine Returns.mono h (fun _ hs => hs) ?_
  rintro result s ⟨_, hok, hs⟩
  exact ⟨hok, hs⟩

/-- The connection of a source is there, or it is made. -/
theorem Linked.succeeds_connection {γ σ : Type} (policy : RetryPolicy)
    {connect : Call σ (Except StoreError γ)} {P : σ → Prop}
    (h : Returns connect P fun result s => ∃ c, result = .ok c ∧ P s) :
    Succeeds (Linked.connection policy connect) (fun s => P s.server) fun _ s => P s.server := by
  have hconnect : ∀ slot : Slot γ, Returns
      (slot.getOrConnect (policy.run Call.sleep (Linked.ask connect : Call (Linked γ σ) _)))
      (fun s => P s.server) fun found s => ∃ c, found.1 = .ok c ∧ P s.server := by
    intro slot
    rw [Slot.getOrConnect]
    cases slot.current with
    | some c => exact Returns.pure fun _ hs => ⟨c, rfl, hs⟩
    | none =>
      refine Returns.bind (Returns.retry policy (Linked.returns_ask h)) fun outcome => ?_
      exact Returns.pure fun _ hs => hs
  have hget : Returns (liftM (get : StateM (World (Linked γ σ)) _) : Call (Linked γ σ) _)
      (fun s => P s.server) fun _ s => P s.server :=
    fun _ w hw hp => ⟨w, w, rfl, hw, hp⟩
  refine Returns.bind hget fun w => Returns.bind (hconnect w.server.slot) ?_
  rintro ⟨outcome, slot⟩
  have hkeep : Returns (Call.onServer (modify fun linked => { linked with slot }))
      (fun s : Linked γ σ => ∃ c, outcome = .ok c ∧ P s.server)
      fun _ s => ∃ c, outcome = .ok c ∧ P s.server :=
    Returns.onServer fun _ hs => hs
  exact Returns.bind hkeep fun _ => Returns.pure fun _ hs => hs

/-- Under a guard, what certainly succeeds is what is returned. -/
theorem CallGuard.run_of_succeeds (guard : CallGuard) (backend : String) (operation : StoreOperation)
    {attempt : Attempt ω α} {pre : ω → Prop} {post : α → ω → Prop} (h : Succeeds attempt pre post)
    {w : World ω} (hw : w.cancelled = false) (hp : pre w.server) :
    ∃ a w', guard.run backend operation attempt.run w = (.ok a, w') ∧ w'.cancelled = false ∧
      post a w'.server := by
  obtain ⟨result, w', hrun, hw', a, rfl, hq⟩ := h (w.clock + guard.timeout.millisUp) w hw hp
  refine ⟨a, w', ?_, hw', hq⟩
  simp only [CallGuard.run, CallGuard.settle, hw, hrun, hw']
  rfl

/-- An error that names the backend already stays as it is. -/
theorem mapError_withBackend {result : Except StoreError α} {backend : String}
    (h : ∀ e, result = .error e → e.backend = some backend) :
    result.mapError (·.withBackend backend) = result := by
  cases result with
  | ok a => rfl
  | error e =>
    have hnamed := h e rfl
    obtain ⟨operation, kind, message, named, entityId⟩ := e
    obtain rfl : named = some backend := hnamed
    rfl

/-- Under a guard, an attempt that is no more than an error leaves the world as it is. -/
theorem CallGuard.run_throw (guard : CallGuard) (backend : String) (operation : StoreOperation)
    (e : StoreError) {w : World ω} (hw : w.cancelled = false) :
    guard.run backend operation (throw e : Attempt ω α).run w = (.error (e.withBackend backend), w) := by
  obtain ⟨server, clock, cancelled, cancelAt⟩ := w
  cases hw
  rfl

/-- Under a guard, what an attempt comes to is what is returned, with the backend named in an error. -/
theorem CallGuard.run_of_yields (guard : CallGuard) (backend : String) (operation : StoreOperation)
    {attempt : Attempt ω α} {pre post : ω → Prop} {result : Except StoreError α}
    (h : Yields attempt pre result post) {w : World ω} (hw : w.cancelled = false) (hp : pre w.server) :
    ∃ w', guard.run backend operation attempt.run w = (result.mapError (·.withBackend backend), w') ∧
      w'.cancelled = false ∧ post w'.server := by
  obtain ⟨_, w', hrun, hw', rfl, hq⟩ := h (w.clock + guard.timeout.millisUp) w hw hp
  refine ⟨w', ?_, hw', hq⟩
  simp only [CallGuard.run, CallGuard.settle, hw, hrun, hw']
  rfl

end QueryCriteria
