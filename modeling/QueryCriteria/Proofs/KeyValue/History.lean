import Mathlib.Data.List.Induction
import QueryCriteria.Proofs.KeyValue.Agreement
import QueryCriteria.Proofs.Text.Utf8

/-!
Histories of repositories over one store in memory. The callers share the store; each has a collection,
a time limit, a clock and a token of its own. What they read is what the history says was saved last.
-/
namespace QueryCriteria.KeyValue

/-- A call of a repository of records. -/
inductive Request where
  | save (record : Record)
  | delete (id : String)
  | searchById (id : String)
  | searchAll

/-- What a call that succeeds returns. -/
abbrev Request.Answer : Request → Type
  | .save _ => Unit
  | .delete _ => Unit
  | .searchById _ => Option Record
  | .searchAll => List Record

def Request.perform (repo : Repository (StateM (World Memory)) Command Record) :
    (request : Request) → StateM (World Memory) (Except StoreError request.Answer)
  | .save record => repo.save record
  | .delete id => repo.delete id
  | .searchById id => repo.searchById id
  | .searchAll => repo.searchAll

/-- A repository over a clone of the store, at the moment of a call. -/
structure Caller where
  collection : Collection
  guard : CallGuard
  retry : RetryPolicy
  clock : Nat
  cancelled : Bool
  cancelAt : Option Nat

namespace Caller

variable (caller : Caller)

abbrev name : String := caller.collection.name

abbrev repository : Repository (StateM (World Memory)) Command Record :=
  caller.collection.repository caller.guard .records caller.retry

/-- The shared store as the caller sees it. -/
def world (memory : Memory) : World Memory :=
  ⟨memory, caller.clock, caller.cancelled, caller.cancelAt, false⟩

/-- What a call leaves to the others: its answer and the store, without the clock and the token. -/
def shared {α : Type} (outcome : α × World Memory) : α × Memory :=
  (outcome.1, outcome.2.server)

/-- The answer to a call, and the store after it. -/
def call (request : Request) (memory : Memory) : Except StoreError request.Answer × Memory :=
  shared (request.perform caller.repository (caller.world memory))

end Caller

/-- A call that was made, and its answer. -/
structure Event where
  caller : Caller
  request : Request
  answer : Except StoreError request.Answer

/-- One more call on the store, which is recorded. -/
def nextCall : List Event × Memory → Caller × Request → List Event × Memory
  | (events, memory), (caller, request) =>
    let (answer, after) := caller.call request memory
    (events ++ [⟨caller, request, answer⟩], after)

/-- Makes calls, one after the other, on a store that is empty at first. -/
def history (calls : List (Caller × Request)) : List Event × Memory :=
  calls.foldl nextCall ([], [])

namespace Event

/-- The record was saved, and this is its identifier. -/
def Saves (e : Event) (name x : String) (r : Record) : Prop :=
  e.caller.name = name ∧ e.request = .save r ∧ recordId e.caller.collection.idField r = .ok x ∧
    e.answer.isOk = true

def Deletes (e : Event) (name x : String) : Prop :=
  e.caller.name = name ∧ e.request = .delete x ∧ e.answer.isOk = true

def Changes (e : Event) (name x : String) : Prop :=
  e.Deletes name x ∨ ∃ r, e.Saves name x r

theorem not_changes_of_error {e : Event} (h : e.answer.isOk = false) (name x : String) :
    ¬ e.Changes name x := by
  rintro (⟨-, -, hok⟩ | ⟨r, -, -, -, hok⟩)
  · rw [h] at hok
    cases hok
  · rw [h] at hok
    cases hok

theorem not_changes_searchById {caller : Caller} {id : String} {answer : Except StoreError (Option Record)}
    (name x : String) : ¬ Changes ⟨caller, .searchById id, answer⟩ name x := by
  rintro (⟨-, hrequest, -⟩ | ⟨r, -, hrequest, -⟩) <;> cases hrequest

theorem not_changes_searchAll {caller : Caller} {answer : Except StoreError (List Record)}
    (name x : String) : ¬ Changes ⟨caller, .searchAll, answer⟩ name x := by
  rintro (⟨-, hrequest, -⟩ | ⟨r, -, hrequest, -⟩) <;> cases hrequest

end Event

/-- The last save under the identifier was of this record, and no delete came after it. -/
def Live (events : List Event) (name x : String) (r : Record) : Prop :=
  ∃ before e later, events = before ++ e :: later ∧ e.Saves name x r ∧
    ∀ u ∈ later, ¬ u.Changes name x

theorem not_live_nil (name x : String) (r : Record) : ¬ Live [] name x r := by
  rintro ⟨before, e, later, h, -⟩
  cases before <;> cases h

theorem live_append_iff {events : List Event} {e : Event} {name x : String} {r : Record} :
    Live (events ++ [e]) name x r ↔
      e.Saves name x r ∨ (Live events name x r ∧ ¬ e.Changes name x) := by
  constructor
  · rintro ⟨before, saving, later, h, hsaves, hlater⟩
    -- The save is the last event, or the last event is one of those after it.
    rcases List.eq_nil_or_concat later with rfl | ⟨front, last, rfl⟩
    · obtain ⟨-, hlast⟩ := List.append_inj' h rfl
      obtain rfl := List.singleton_inj.mp hlast
      exact .inl hsaves
    · have hsplit : events ++ [e] = (before ++ saving :: front) ++ [last] := by simp [h]
      obtain ⟨hevents, hlast⟩ := List.append_inj' hsplit rfl
      obtain rfl := List.singleton_inj.mp hlast
      rw [List.concat_eq_append] at hlater
      refine .inr ⟨⟨before, saving, front, hevents, hsaves, fun u hu => hlater u ?_⟩, hlater e ?_⟩
      · exact List.mem_append_left _ hu
      · exact List.mem_append_right _ List.mem_cons_self
  · rintro (hsaves | ⟨⟨before, saving, later, rfl, hsaves, hlater⟩, hkeeps⟩)
    · exact ⟨events, e, [], rfl, hsaves, fun u hu => absurd hu List.not_mem_nil⟩
    · refine ⟨before, saving, later ++ [e], by simp, hsaves, fun u hu => ?_⟩
      rcases List.mem_append.mp hu with hu | hu
      · exact hlater u hu
      · obtain rfl := List.mem_singleton.mp hu
        exact hkeeps

/-- The error of a call after the token was cancelled. -/
def cancelledCall (step operation : StoreOperation) (id : Option String) : StoreError :=
  { CallGuard.cancelledError Memory.backendName step with operation, entityId := id }

namespace Caller

variable (caller : Caller) (memory : Memory)

private theorem execute_eq (operation : StoreOperation) (id : String) (command : Command) {after : Memory}
    (h : memory.execute command = (.ok (), after)) :
    caller.repository.attempt operation (some id) ((Memory.source caller.guard).execute command)
        (caller.world memory) =
      if caller.cancelled then (.error (cancelledCall .execute operation (some id)), caller.world memory)
      else (.ok (), caller.world after) := by
  have hstep := Memory.source_execute caller.guard command (caller.world memory)
  by_cases hc : caller.cancelled = true
  · rw [if_pos hc]
    rw [if_pos (show (caller.world memory).cancelled = true from hc)] at hstep
    rw [Repository.attempt_of_error _ _ _ hstep rfl]
    rfl
  · rw [if_neg hc]
    rw [if_neg (show ¬ (caller.world memory).cancelled = true from hc)] at hstep
    change _ = ((memory.execute command).1.mapError _,
      (⟨(memory.execute command).2, _, _, _, _⟩ : World Memory)) at hstep
    rw [h] at hstep
    rw [Repository.attempt_of_ok _ _ _ hstep]
    rfl

/-- The identifier is looked for before the store is called. -/
theorem call_save (r : Record) :
    caller.call (.save r) memory =
      match recordId caller.collection.idField r with
      | .error e => (.error e, memory)
      | .ok id =>
        if caller.cancelled then (.error (cancelledCall .execute .save (some id)), memory)
        else (.ok (), memory.put caller.name id r) := by
  have hcommand : caller.repository.saveCommand r =
      (recordId caller.collection.idField r).map fun id => (id, .put caller.name id r) := by
    change (recordId caller.collection.idField r >>= _) = _
    cases recordId caller.collection.idField r <;> rfl
  rw [call, Request.perform, Repository.save, hcommand]
  cases recordId caller.collection.idField r with
  | error e => rfl
  | ok id =>
    change shared (caller.repository.attempt .save (some id)
      ((Memory.source caller.guard).execute (.put caller.name id r)) (caller.world memory)) = _
    rw [execute_eq caller memory .save id _ rfl]
    cases caller.cancelled <;> rfl

theorem call_delete (id : String) :
    caller.call (.delete id) memory =
      if caller.cancelled then (.error (cancelledCall .execute .delete (some id)), memory)
      else (.ok (), memory.remove caller.name id) := by
  change shared (caller.repository.attempt .delete (some id)
    ((Memory.source caller.guard).execute (.delete caller.name id)) (caller.world memory)) = _
  rw [execute_eq caller memory .delete id _ rfl]
  cases caller.cancelled <;> rfl

theorem call_searchById (id : String) :
    caller.call (.searchById id) memory =
      if caller.cancelled then (.error (cancelledCall .fetchOne .searchById (some id)), memory)
      else (.ok (memory.get? caller.name id), memory) := by
  have hstep := Memory.source_fetchOne caller.guard (.get caller.name id) (caller.world memory)
  change shared (caller.repository.searchById id (caller.world memory)) = _
  by_cases hc : caller.cancelled = true
  · rw [if_pos hc]
    rw [if_pos (show (caller.world memory).cancelled = true from hc)] at hstep
    rw [Repository.searchById_of_error _ rfl hstep rfl]
    rfl
  · rw [if_neg hc]
    rw [if_neg (show ¬ (caller.world memory).cancelled = true from hc)] at hstep
    rw [Repository.searchById_of_fetchOne _ rfl hstep]
    change shared ((memory.get? caller.name id).toList.head?.elim _ _, _) = _
    cases memory.get? caller.name id <;> rfl

theorem call_searchById_snd (id : String) : (caller.call (.searchById id) memory).2 = memory := by
  rw [call_searchById]
  split <;> rfl

theorem call_searchAll :
    caller.call .searchAll memory =
      if caller.cancelled then (.error (cancelledCall .fetch .searchAll none), memory)
      else (.ok (memory.collection caller.name).values, memory) := by
  have hstep := Memory.source_fetch caller.guard (.scan caller.name none) (caller.world memory)
  change shared (caller.repository.searchAll (caller.world memory)) = _
  by_cases hc : caller.cancelled = true
  · rw [if_pos hc]
    rw [if_pos (show (caller.world memory).cancelled = true from hc)] at hstep
    rw [Repository.searchAll_of_error _ rfl hstep rfl]
    rfl
  · rw [if_neg hc]
    rw [if_neg (show ¬ (caller.world memory).cancelled = true from hc)] at hstep
    rw [Repository.searchAll_of_fetch _ rfl hstep]
    exact congrArg (·, memory) (Mapper.mapM_records (memory.collection caller.name).values)

theorem call_searchAll_snd : (caller.call .searchAll memory).2 = memory := by
  rw [call_searchAll]
  split <;> rfl

end Caller

/-- The store holds what is live, and its keys ascend. -/
structure Agrees (events : List Event) (memory : Memory) : Prop where
  ascending : memory.Ascending
  collections : ∀ name, (memory.collection name).Ascending
  live : ∀ name x r, memory.get? name x = some r ↔ Live events name x r

namespace Agrees

variable {events : List Event} {memory : Memory}

theorem nil : Agrees [] [] where
  ascending := .nil
  collections _ := .nil
  live name x r := iff_of_false (by intro h; cases h) (not_live_nil name x r)

/-- A call that changes nothing. -/
theorem append (h : Agrees events memory) {e : Event} (he : ∀ name x, ¬ e.Changes name x) :
    Agrees (events ++ [e]) memory where
  ascending := h.ascending
  collections := h.collections
  live name x r := by
    rw [h.live, live_append_iff]
    constructor
    · exact fun hlive => .inr ⟨hlive, he name x⟩
    · rintro (hsaves | ⟨hlive, -⟩)
      · exact absurd (.inr ⟨r, hsaves⟩) (he name x)
      · exact hlive

theorem put (h : Agrees events memory) {caller : Caller} {r : Record} {id : String}
    (hid : recordId caller.collection.idField r = .ok id) :
    Agrees (events ++ [⟨caller, .save r, .ok ()⟩]) (memory.put caller.name id r) where
  ascending := Entries.ascending_insert h.ascending _ _
  collections := Memory.ascending_put h.collections _ _ _
  live name x r' := by
    have hsaves : ∀ r', Event.Saves ⟨caller, .save r, .ok ()⟩ name x r' ↔
        (caller.name = name ∧ id = x) ∧ r = r' := by
      intro r'
      simp only [Event.Saves, Request.save.injEq]
      constructor
      · rintro ⟨hn, rfl, hx, -⟩
        rw [hid, Except.ok.injEq] at hx
        exact ⟨⟨hn, hx⟩, rfl⟩
      · rintro ⟨⟨hn, rfl⟩, rfl⟩
        exact ⟨hn, rfl, hid, rfl⟩
    have hchanges : Event.Changes ⟨caller, .save r, .ok ()⟩ name x ↔ caller.name = name ∧ id = x := by
      simp [Event.Changes, Event.Deletes, hsaves]
    rw [Memory.get?_put, live_append_iff, hsaves, hchanges]
    by_cases hx : caller.name = name ∧ id = x
    · simp [hx]
    · simp [hx, h.live]

theorem remove (h : Agrees events memory) (caller : Caller) (id : String) :
    Agrees (events ++ [⟨caller, .delete id, .ok ()⟩]) (memory.remove caller.name id) where
  ascending := by
    rw [Memory.remove]
    split
    · exact Entries.ascending_insert h.ascending _ _
    · exact h.ascending
  collections := Memory.ascending_remove h.collections _ _
  live name x r := by
    have hchanges : Event.Changes ⟨caller, .delete id, .ok ()⟩ name x ↔ caller.name = name ∧ id = x := by
      simp [Event.Changes, Event.Deletes, Event.Saves, Except.isOk, Except.toBool]
    have hsaves : ¬ Event.Saves ⟨caller, .delete id, .ok ()⟩ name x r := by
      rintro ⟨-, hsave, -⟩
      cases hsave
    rw [Memory.get?_remove, live_append_iff, hchanges]
    by_cases hx : caller.name = name ∧ id = x
    · simp [hx, hsaves]
    · simp [hx, hsaves, h.live]

theorem nextCall (h : Agrees events memory) (caller : Caller) (request : Request) :
    Agrees (KeyValue.nextCall (events, memory) (caller, request)).1
      (KeyValue.nextCall (events, memory) (caller, request)).2 := by
  change Agrees (events ++ [⟨caller, request, (caller.call request memory).1⟩])
    (caller.call request memory).2
  cases request with
  | save r =>
    rw [Caller.call_save]
    cases hid : recordId caller.collection.idField r with
    | error e => exact h.append (Event.not_changes_of_error rfl)
    | ok id =>
      dsimp only
      split
      · exact h.append (Event.not_changes_of_error rfl)
      · exact h.put hid
  | delete id =>
    rw [Caller.call_delete]
    split
    · exact h.append (Event.not_changes_of_error rfl)
    · exact h.remove caller id
  | searchById id =>
    rw [Caller.call_searchById_snd]
    exact h.append Event.not_changes_searchById
  | searchAll =>
    rw [Caller.call_searchAll_snd]
    exact h.append Event.not_changes_searchAll

end Agrees

theorem history_concat (calls : List (Caller × Request)) (call : Caller × Request) :
    history (calls ++ [call]) = nextCall (history calls) call :=
  List.foldl_concat ..

/-- Whatever was called, the store holds what the history says. -/
theorem agrees_history (calls : List (Caller × Request)) :
    Agrees (history calls).1 (history calls).2 := by
  induction calls using List.reverseRecOn with
  | nil => exact .nil
  | append_singleton calls call ih =>
    rw [history_concat]
    exact ih.nextCall call.1 call.2

/-- The events of a history are its calls. -/
theorem history_calls (calls : List (Caller × Request)) :
    (history calls).1.map (fun e => (e.caller, e.request)) = calls := by
  induction calls using List.reverseRecOn with
  | nil => rfl
  | append_singleton calls call ih =>
    rw [history_concat, nextCall, List.map_append, ih]
    rfl

/-- The attribute is missing, an empty text, or neither a text nor a number. -/
def Unidentified (idField : String) (r : Record) : Prop :=
  ∀ value, Entries.get? r idField = some value →
    value = .text "" ∨ ¬ ((∃ s, value = .text s) ∨ ∃ n, value = .number n)

theorem recordId_of_unidentified {idField : String} {r : Record} (h : Unidentified idField r) :
    ∃ e, recordId idField r = .error e ∧ e.kind = .validation := by
  rw [recordId]
  cases hv : Entries.get? r idField with
  | none => exact ⟨_, rfl, rfl⟩
  | some value =>
    rcases h value hv with rfl | hneither
    · exact ⟨_, if_pos rfl, rfl⟩
    · cases value with
      | text s => exact absurd (.inl ⟨s, rfl⟩) hneither
      | number n => exact absurd (.inr ⟨n, rfl⟩) hneither
      | null => exact ⟨_, rfl, rfl⟩
      | bool b => exact ⟨_, rfl, rfl⟩
      | array items => exact ⟨_, rfl, rfl⟩
      | object fields => exact ⟨_, rfl, rfl⟩

theorem recordId_of_identified {idField : String} {r : Record} (h : ¬ Unidentified idField r) :
    ∃ id, recordId idField r = .ok id := by
  rw [Unidentified, Classical.not_forall] at h
  obtain ⟨value, h⟩ := h
  rw [Classical.not_imp, not_or, Classical.not_not] at h
  obtain ⟨hv, hempty, ⟨s, rfl⟩ | ⟨n, rfl⟩⟩ := h
  · have hs : s ≠ "" := fun hs => hempty (congrArg Json.text hs)
    rw [recordId, hv]
    exact ⟨s, if_neg hs⟩
  · rw [recordId, hv]
    exact ⟨n.render, rfl⟩

namespace Caller

variable {caller : Caller} {memory : Memory}

theorem collection_call_of_ne {other : String} (h : other ≠ caller.name) (request : Request) :
    (caller.call request memory).2.collection other = memory.collection other := by
  cases request with
  | save r =>
    rw [call_save]
    split
    · rfl
    · split
      · rfl
      · exact Memory.collection_put_of_ne memory (Ne.symm h) _ _
  | delete id =>
    rw [call_delete]
    split
    · rfl
    · exact Memory.collection_remove_of_ne memory (Ne.symm h)
  | searchById id => rw [call_searchById_snd]
  | searchAll => rw [call_searchAll_snd]

/-- A caller sees of the store its own collection only. -/
theorem answer_eq_of_collection {memory' : Memory}
    (h : memory.collection caller.name = memory'.collection caller.name) (request : Request) :
    (caller.call request memory).1 = (caller.call request memory').1 := by
  cases request with
  | save r =>
    rw [call_save, call_save]
    split
    · rfl
    · split <;> rfl
  | delete id => rw [call_delete, call_delete]; split <;> rfl
  | searchById id =>
    rw [call_searchById, call_searchById, Memory.get?, Memory.get?, h]
    split <;> rfl
  | searchAll =>
    rw [call_searchAll, call_searchAll, h]
    split <;> rfl

theorem call_delete_of_absent (h : memory.Ascending) (hc : caller.cancelled = false) {id : String}
    (hid : memory.get? caller.name id = none) : caller.call (.delete id) memory = (.ok (), memory) := by
  have hremove : memory.remove caller.name id = memory := by
    rw [Memory.get?, Memory.collection] at hid
    rw [Memory.remove]
    cases hm : Entries.get? memory caller.name with
    | none => rfl
    | some records =>
      rw [hm, Option.getD_some] at hid
      dsimp only
      rw [Entries.erase_of_get?_none hid, Entries.insert_of_get? h hm]
  rw [call_delete, hc, hremove]
  rfl

end Caller

/-- What the history says about the calls that the caller may make next. -/
structure Answers (events : List Event) (memory : Memory) (caller : Caller) : Prop where
  searchById : ∀ x, ∃ found, caller.call (.searchById x) memory = (.ok found, memory) ∧
    ∀ r, found = some r ↔ Live events caller.name x r
  searchAll : ∃ entries : List (String × Record),
    caller.call .searchAll memory = (.ok (entries.map (·.2)), memory) ∧
      entries.Pairwise (fun a b => Text.utf8 a.1 < Text.utf8 b.1) ∧
      ∀ x r, (x, r) ∈ entries ↔ Live events caller.name x r
  delete : ∀ x, (caller.call (.delete x) memory).1 = .ok ()
  deleteAbsent : ∀ x, (∀ r, ¬ Live events caller.name x r) →
    caller.call (.delete x) memory = (.ok (), memory)
  save : ∀ r, ¬ Unidentified caller.collection.idField r → (caller.call (.save r) memory).1 = .ok ()
  saveUnidentified : ∀ r, Unidentified caller.collection.idField r →
    ∃ e, caller.call (.save r) memory = (.error e, memory) ∧ e.kind = .validation
  /-- What is called on one collection changes no answer on another. -/
  others : ∀ (request : Request) (other : Caller) (next : Request), other.name ≠ caller.name →
    (other.call next (caller.call request memory).2).1 = (other.call next memory).1

/--
Whatever was called before, on any collections and through any clones of the store, a repository whose
token is not cancelled is a map from identifiers to the records that are live.
-/
theorem answers_history (calls : List (Caller × Request)) {caller : Caller}
    (hc : caller.cancelled = false) :
    Answers (history calls).1 (history calls).2 caller where
  searchById x := by
    refine ⟨(history calls).2.get? caller.name x, ?_, (agrees_history calls).live caller.name x⟩
    rw [Caller.call_searchById, hc]
    rfl
  searchAll := by
    have h := agrees_history calls
    refine ⟨(history calls).2.collection caller.name, ?_, ?_, fun x r => ?_⟩
    · rw [Caller.call_searchAll, hc]
      rfl
    · exact (h.collections caller.name).imp fun hlt => (Text.lt_iff_utf8_lt _ _).mp hlt
    · rw [← h.live, Memory.get?, Entries.get?_eq_some_iff (h.collections caller.name)]
  delete x := by
    rw [Caller.call_delete, hc]
    rfl
  deleteAbsent x hx := by
    have h := agrees_history calls
    have hnone : (history calls).2.get? caller.name x = none :=
      Option.eq_none_iff_forall_ne_some.mpr fun r hr => hx r ((h.live _ _ _).mp hr)
    exact Caller.call_delete_of_absent h.ascending hc hnone
  save r hr := by
    obtain ⟨id, hid⟩ := recordId_of_identified hr
    rw [Caller.call_save, hid, hc]
    rfl
  saveUnidentified r hr := by
    obtain ⟨e, he, hkind⟩ := recordId_of_unidentified hr
    refine ⟨e, ?_, hkind⟩
    rw [Caller.call_save, he]
  others request other next hne :=
    Caller.answer_eq_of_collection (Caller.collection_call_of_ne hne request) next

/-- One who calls for users in memory, identified by `id`. -/
def forUsers : Caller := ⟨⟨"users", "id"⟩, .default, .never, 0, false, none⟩

/-- Ada is saved as a user and as a guest; the guest leaves, the user stays, as a token was cancelled. -/
def someCalls : List (Caller × Request) :=
  let forGuests : Caller := { forUsers with collection := ⟨"guests", "name"⟩ }
  [(forUsers, .save Collection.ada), (forGuests, .save Collection.ada), (forGuests, .delete "Ada"),
    ({ forUsers with cancelled := true }, .delete "7")]

theorem answers_history_someCalls :
    forUsers.cancelled = false ∧ Answers (history someCalls).1 (history someCalls).2 forUsers ∧
      (forUsers.call (.searchById "7") (history someCalls).2).1 = .ok (some Collection.ada) :=
  ⟨rfl, answers_history someCalls rfl, rfl⟩

end QueryCriteria.KeyValue
