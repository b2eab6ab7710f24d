import QueryCriteria.Proofs.Store.Run
import QueryCriteria.Proofs.Success

/-!
Repositories over a source whose outcomes are given beforehand, and which keeps the calls it receives.
An operation fails before the source is called, or it repeats one call; the last outcome decides.
-/
namespace QueryCriteria

/-- The calls of a source. -/
inductive SourceCall where
  | execute
  | fetchOne
  | fetch

/-- The outcomes of all calls, the first one first, and the calls received so far with their commands. -/
structure Session (κ : Type) where
  script : Nat → Except StoreError (List Record)
  calls : List (SourceCall × κ)

namespace Session

variable {κ α β γ : Type}

/-- The outcome of a call to come, the next one being the call 0. -/
def upcoming (s : Session κ) (i : Nat) : Except StoreError (List Record) :=
  s.script (s.calls.length + i)

/-- The session after more calls. -/
def received (s : Session κ) (calls : List (SourceCall × κ)) : Session κ :=
  { s with calls := s.calls ++ calls }

theorem upcoming_received (s : Session κ) (call : SourceCall × κ) (i : Nat) :
    (s.received [call]).upcoming i = s.upcoming (i + 1) := by
  rw [upcoming, upcoming, received, List.length_append, List.length_singleton, Nat.add_assoc,
    Nat.add_comm 1 i]

theorem received_received (s : Session κ) (calls more : List (SourceCall × κ)) :
    (s.received calls).received more = s.received (calls ++ more) := by
  rw [received, received, received, List.append_assoc]

/-- Takes a call, and answers with the next outcome. -/
def answer (call : SourceCall) (command : κ) :
    StateM (World (Session κ)) (Except StoreError (List Record)) :=
  World.onServer fun s => (s.upcoming 0, s.received [(call, command)])

/-- A source that answers from the script; a call that yields fewer records drops the others. -/
def source (backend : String) : DataSource (StateM (World (Session κ))) κ where
  backend
  execute command := return (← answer .execute command).map fun _ => ()
  fetchOne command := return (← answer .fetchOne command).map List.head?
  fetch command := answer .fetch command

/-- A repository over such a source. -/
def repository (backend : String) (commands : CommandBuilder κ) (mapper : Mapper α)
    (retry : RetryPolicy) : Repository (StateM (World (Session κ))) κ α :=
  ⟨source backend, commands, mapper, retry, World.sleep⟩

/--
How often a call is retried when so many retries are allowed: each outcome before the last one is an
error that may pass, and the last one is not, unless the retries are used up.
-/
structure Retries (allowed : Nat) (s : Session κ) (n : Nat) : Prop where
  bound : n ≤ allowed
  passing : ∀ i < n, ∃ e, s.upcoming i = .error e ∧ e.isRetriable = true
  final : n < allowed → ∀ e, s.upcoming n = .error e → e.isRetriable = false

theorem Retries.none {allowed : Nat} {s : Session κ}
    (h : 0 < allowed → ∀ e, s.upcoming 0 = .error e → e.isRetriable = false) : Retries allowed s 0 :=
  ⟨Nat.zero_le allowed, fun i hi => absurd hi (Nat.not_lt_zero i), h⟩

/-- One more retry in front of those that follow. -/
theorem Retries.succ {allowed n : Nat} {s : Session κ} {call : SourceCall × κ} {e : StoreError}
    (h : Retries allowed (s.received [call]) n) (hfirst : s.upcoming 0 = .error e)
    (he : e.isRetriable = true) : Retries (allowed + 1) s (n + 1) := by
  obtain ⟨hbound, hpassing, hfinal⟩ := h
  refine ⟨Nat.succ_le_succ hbound, ?_, ?_⟩
  · intro i hi
    cases i with
    | zero => exact ⟨e, hfirst, he⟩
    | succ i =>
      rw [← upcoming_received s call]
      exact hpassing i (Nat.lt_of_succ_lt_succ hi)
  · intro hn e' he'
    rw [← upcoming_received s call] at he'
    exact hfinal (Nat.lt_of_succ_lt_succ hn) e' he'

/-- The outcomes and the policy decide how often a call is retried. -/
theorem Retries.unique {allowed m n : Nat} {s : Session κ} (hm : Retries allowed s m)
    (hn : Retries allowed s n) : m = n := by
  -- The last outcome of the shorter run is one that the longer run passes over.
  have hle : ∀ {m n : Nat}, Retries allowed s m → Retries allowed s n → n ≤ m := by
    intro m n hm hn
    apply Nat.le_of_not_lt
    intro hlt
    obtain ⟨e, he, hretriable⟩ := hn.passing m hlt
    have hfinal := hm.final (Nat.lt_of_lt_of_le hlt hn.bound) e he
    rw [hfinal] at hretriable
    cases hretriable
  exact Nat.le_antisymm (hle hn hm) (hle hm hn)

/-- A call of the source with what it reads off the records. -/
def Calls (call : SourceCall) (command : κ) (read : List Record → γ)
    (attempt : StateM (World (Session κ)) (Except StoreError γ)) : Prop :=
  ∀ w, attempt w =
    ((w.server.upcoming 0).map read, { w with server := w.server.received [(call, command)] })

variable {call : SourceCall} {command : κ} {read : List Record → γ}
  {attempt : StateM (World (Session κ)) (Except StoreError γ)}

/-- Retries under a policy are the same call over and over, up to the outcome that counts. -/
theorem exists_retries_runFrom (policy : RetryPolicy) (hcall : Calls call command read attempt)
    (left retry : Nat) (w : World (Session κ)) :
    ∃ n w', Retries left w.server n ∧
      w'.server = w.server.received (List.replicate (n + 1) (call, command)) ∧
      policy.runFrom World.sleep attempt left retry w = ((w.server.upcoming n).map read, w') := by
  induction left generalizing retry w with
  | zero =>
    exact ⟨0, { w with server := w.server.received [(call, command)] },
      .none fun h => absurd h (Nat.lt_irrefl 0), rfl, hcall w⟩
  | succ left ih =>
    rw [RetryPolicy.runFrom_succ, hcall]
    cases hfirst : w.server.upcoming 0 with
    | ok records =>
      refine ⟨0, { w with server := w.server.received [(call, command)] },
        .none ?_, rfl, by rw [hfirst]; rfl⟩
      intro _ e he
      cases hfirst.symm.trans he
    | error e =>
      cases he : e.isRetriable with
      | false =>
        refine ⟨0, { w with server := w.server.received [(call, command)] },
          .none ?_, rfl, ?_⟩
        · intro _ e' he'
          obtain rfl := Except.error.inj (hfirst.symm.trans he')
          exact he
        · rw [hfirst]
          exact if_neg (ne_true_of_eq_false he)
      | true =>
        let next : World (Session κ) := (World.sleep (policy.delayFor (retry + 1))
          { w with server := w.server.received [(call, command)] }).2
        have hserver : next.server = w.server.received [(call, command)] := World.sleep_server _ _
        obtain ⟨n, w', hretries, hw', hrun⟩ := ih (retry + 1) next
        rw [hserver] at hretries hw' hrun
        refine ⟨n + 1, w', hretries.succ hfirst he, ?_, ?_⟩
        · rw [hw', received_received]
          rfl
        · rw [← upcoming_received w.server (call, command), ← hrun]
          exact if_pos he

/-- What the attempts of a repository's operation come to. -/
theorem exists_retries_attempt (backend : String) (commands : CommandBuilder κ) (mapper : Mapper α)
    (policy : RetryPolicy) (operation : StoreOperation) (id : Option String)
    (hcall : Calls call command read attempt) (w : World (Session κ)) :
    ∃ n w', Retries policy.maxRetries.toNat w.server n ∧
      w'.server = w.server.received (List.replicate (n + 1) (call, command)) ∧
      (repository backend commands mapper policy).attempt operation id attempt w =
        (((w.server.upcoming n).map read).mapError
          fun e => { e with operation, entityId := id.or e.entityId }, w') := by
  obtain ⟨n, w', hretries, hserver, hrun⟩ :=
    exists_retries_runFrom policy hcall policy.maxRetries.toNat 0 w
  refine ⟨n, w', hretries, hserver, ?_⟩
  rw [Repository.attempt_eq]
  change ((policy.runFrom World.sleep attempt policy.maxRetries.toNat 0 w).1.mapError _,
    (policy.runFrom World.sleep attempt policy.maxRetries.toNat 0 w).2) = _
  rw [hrun]

/-- The computation fails at once and changes nothing; above all the source receives no call. -/
def Refuses (run : StateM (World (Session κ)) (Except StoreError β)) (e : StoreError) : Prop :=
  ∀ w, run w = (.error e, w)

/-- An error of what is needed first is the answer; else the computation goes on as specified. -/
def Needs (prepared : Except StoreError γ)
    (run : StateM (World (Session κ)) (Except StoreError β)) (next : γ → Prop) : Prop :=
  (∀ e, prepared = .error e → Refuses run e) ∧ ∀ c, prepared = .ok c → next c

theorem Needs.of_eq_pure {prepared : Except StoreError γ}
    {run : StateM (World (Session κ)) (Except StoreError β)} {next : γ → Prop}
    (herror : ∀ e, prepared = .error e → run = pure (.error e)) (hok : ∀ c, prepared = .ok c → next c) :
    Needs prepared run next := by
  refine ⟨?_, hok⟩
  intro e he w
  rw [herror e he]
  rfl

theorem Needs.mono {prepared : Except StoreError γ}
    {run : StateM (World (Session κ)) (Except StoreError β)} {next next' : γ → Prop}
    (h : Needs prepared run next) (hnext : ∀ c, next c → next' c) : Needs prepared run next' :=
  ⟨h.1, fun c hc => hnext c (h.2 c hc)⟩

/-- What is prepared in two steps. -/
theorem Needs.of_bind {δ : Type} {first : Except StoreError δ} {second : δ → Except StoreError γ}
    {run : StateM (World (Session κ)) (Except StoreError β)} {next : γ → Prop}
    (h : Needs (first >>= second) run next) : Needs first run fun a => Needs (second a) run next := by
  obtain ⟨herror, hok⟩ := h
  refine ⟨?_, ?_⟩
  · intro e he
    exact herror e (bind_eq_error_iff.mpr (.inl he))
  · intro a ha
    refine ⟨?_, ?_⟩
    · intro e he
      exact herror e (bind_eq_error_iff.mpr (.inr ⟨a, ha, he⟩))
    · intro c hc
      exact hok c (bind_eq_ok_iff.mpr ⟨a, ha, hc⟩)

/--
The computation repeats one call under a policy. An error that remains is returned under the operation
and perhaps with an identifier; records that are returned lead to a result as specified.
-/
def Asks (policy : RetryPolicy) (call : SourceCall) (command : κ) (operation : StoreOperation)
    (id : Option String) (spec : List Record → Except StoreError β → Prop)
    (run : StateM (World (Session κ)) (Except StoreError β)) : Prop :=
  ∀ w, ∃ n result w', run w = (result, w') ∧ Retries policy.maxRetries.toNat w.server n ∧
    w'.server = w.server.received (List.replicate (n + 1) (call, command)) ∧
    (∀ e, w.server.upcoming n = .error e →
      result = .error { e with operation, entityId := id.or e.entityId }) ∧
    ∀ records, w.server.upcoming n = .ok records → spec records result

/-- All records are decoded, in order; otherwise the first one that is not decides. -/
inductive Decodes (decode : Record → Except StoreError α) (records : List Record) :
    Except StoreError (List α) → Prop where
  | all {aggregates : List α} (h : List.Forall₂ (fun r a => decode r = .ok a) records aggregates) :
      Decodes decode records (.ok aggregates)
  | first {before after : List Record} {r : Record} {e : StoreError}
      (hsplit : records = before ++ r :: after) (hbefore : ∀ b ∈ before, ∃ a, decode b = .ok a)
      (h : decode r = .error e) : Decodes decode records (.error e)

theorem decodes_mapM (decode : Record → Except StoreError α) (records : List Record) :
    Decodes decode records (records.mapM decode) := by
  cases h : records.mapM decode with
  | ok aggregates => exact .all (forall₂_of_mapM_ok h)
  | error e =>
    obtain ⟨before, r, after, hsplit, hbefore, hr⟩ := mapM_eq_error_iff.mp h
    exact .first hsplit hbefore hr

section Operations

variable (backend : String) (commands : CommandBuilder κ) (mapper : Mapper α) (policy : RetryPolicy)
  {operation : StoreOperation} {id : Option String}
  {run : StateM (World (Session κ)) (Except StoreError β)}

theorem repository_commands : (repository backend commands mapper policy).commands = commands := rfl

/-- Attempts of a repository, and what is made of the records that they return. -/
theorem asks_of_attempt_bind (hcall : Calls call command read attempt)
    (finish : γ → Except StoreError β) {spec : List Record → Except StoreError β → Prop}
    (hspec : ∀ records, spec records (finish (read records)))
    (hrun : run = do
      let found ← (repository backend commands mapper policy).attempt operation id attempt
      return found.bind finish) :
    Asks policy call command operation id spec run := by
  intro w
  obtain ⟨n, w', hretries, hserver, hattempt⟩ :=
    exists_retries_attempt backend commands mapper policy operation id hcall w
  refine ⟨n, (((w.server.upcoming n).map read).mapError fun e =>
    { e with operation, entityId := id.or e.entityId }).bind finish, w', ?_, hretries, hserver, ?_, ?_⟩
  · rw [hrun]
    exact World.run_map hattempt fun found => found.bind finish
  · intro e he
    rw [he]
    rfl
  · intro records hrecords
    rw [hrecords]
    exact hspec records

/-- The same where nothing is made of the records. -/
theorem asks_of_attempt {attempt : StateM (World (Session κ)) (Except StoreError β)}
    {read : List Record → β} (hcall : Calls call command read attempt)
    (hrun : run = (repository backend commands mapper policy).attempt operation id attempt) :
    Asks policy call command operation id (fun records result => result = .ok (read records)) run := by
  have hok : ∀ found : Except StoreError β, found.bind .ok = found := by
    intro found
    cases found <;> rfl
  apply asks_of_attempt_bind backend commands mapper policy hcall .ok
  · intro records
    rfl
  · rw [hrun]
    simp only [hok, bind_pure]

theorem calls_execute (command : κ) :
    Calls .execute command (fun _ => ()) ((source backend).execute command) := by
  intro w
  rfl

theorem calls_fetchOne (command : κ) :
    Calls .fetchOne command List.head? ((source backend).fetchOne command) := by
  intro w
  rfl

theorem calls_fetch (command : κ) :
    Calls .fetch command (fun records => records) ((source backend).fetch command) := by
  intro w
  change (w.server.upcoming 0, _) = _
  cases w.server.upcoming 0 <;> rfl

theorem needs_save (a : α) :
    Needs (mapper.toRecord a) ((repository backend commands mapper policy).save a) fun record =>
      Needs (recordId commands.idField record) ((repository backend commands mapper policy).save a)
        fun id => Needs (commands.upsert id record)
          ((repository backend commands mapper policy).save a) fun command =>
            Asks policy .execute command .save (some id) (fun _ result => result = .ok ())
              ((repository backend commands mapper policy).save a) := by
  let repo := repository backend commands mapper policy
  have hprepared : Needs (repo.saveCommand a) (repo.save a) fun prepared =>
      Asks policy .execute prepared.2 .save (some prepared.1) (fun _ result => result = .ok ())
        (repo.save a) := by
    apply Needs.of_eq_pure
    · intro e he
      rw [Repository.save, he]
    · intro prepared hprepared
      apply asks_of_attempt backend commands mapper policy (calls_execute backend prepared.2)
      rw [Repository.save, hprepared]
      rfl
  apply hprepared.of_bind.mono
  intro record hrecord
  apply hrecord.of_bind.mono
  intro id hid
  apply hid.of_bind.mono
  intro command hcommand
  exact hcommand.2 _ rfl

theorem needs_searchById (id : String) :
    Needs (commands.findById id) ((repository backend commands mapper policy).searchById id)
      fun command => Asks policy .fetchOne command .searchById (some id)
        (fun records result => result = records.head?.mapM mapper.toAggregate)
        ((repository backend commands mapper policy).searchById id) := by
  apply Needs.of_eq_pure
  · intro e he
    rw [Repository.searchById, repository_commands, he]
  · intro command hcommand
    apply asks_of_attempt_bind backend commands mapper policy (calls_fetchOne backend command)
      (·.mapM mapper.toAggregate)
    · intro records
      rfl
    · rw [Repository.searchById, repository_commands, hcommand]
      apply bind_congr
      intro found
      rcases found with e | _ | record <;> rfl

theorem needs_delete (id : String) :
    Needs (commands.delete id) ((repository backend commands mapper policy).delete id)
      fun command => Asks policy .execute command .delete (some id) (fun _ result => result = .ok ())
        ((repository backend commands mapper policy).delete id) := by
  apply Needs.of_eq_pure
  · intro e he
    rw [Repository.delete, repository_commands, he]
  · intro command hcommand
    apply asks_of_attempt backend commands mapper policy (calls_execute backend command)
    rw [Repository.delete, repository_commands, hcommand]
    rfl

theorem needs_searchAll :
    Needs commands.findAll (repository backend commands mapper policy).searchAll
      fun command => Asks policy .fetch command .searchAll none (Decodes mapper.toAggregate)
        (repository backend commands mapper policy).searchAll := by
  apply Needs.of_eq_pure
  · intro e he
    rw [Repository.searchAll, repository_commands, he]
    rfl
  · intro command hcommand
    apply asks_of_attempt_bind backend commands mapper policy (calls_fetch backend command)
      fun records => (Residual.none.apply records).mapM mapper.toAggregate
    · intro records
      have hnone : Residual.none.apply records = records := Residual.apply_of_isEmpty rfl records
      rw [hnone]
      exact decodes_mapM mapper.toAggregate records
    · rw [Repository.searchAll, repository_commands, hcommand]
      rfl

theorem needs_matching {c : Criteria} (hc : c.isEmpty = false) :
    Needs (commands.matching c) ((repository backend commands mapper policy).matching c)
      fun plan => Asks policy .fetch plan.command .matching none
        (fun records => Decodes mapper.toAggregate (plan.residual.apply records))
        ((repository backend commands mapper policy).matching c) := by
  apply Needs.of_eq_pure
  · intro e he
    rw [Repository.matching, hc, repository_commands, he]
    rfl
  · intro plan hplan
    apply asks_of_attempt_bind backend commands mapper policy (calls_fetch backend plan.command)
      fun records => (plan.residual.apply records).mapM mapper.toAggregate
    · intro records
      exact decodes_mapM mapper.toAggregate _
    · rw [Repository.matching, hc, repository_commands, hplan]
      rfl

/-- Records that the residual drops are not decoded: another mapper may treat them otherwise. -/
theorem matching_congr {other : Mapper α} {c : Criteria} {plan : QueryPlan κ} (hc : c.isEmpty = false)
    (hplan : commands.matching c = .ok plan) {w : World (Session κ)} {n : Nat}
    (hn : Retries policy.maxRetries.toNat w.server n)
    (hagree : ∀ records, w.server.upcoming n = .ok records →
      ∀ r ∈ plan.residual.apply records, other.toAggregate r = mapper.toAggregate r) :
    (repository backend commands other policy).matching c w =
      (repository backend commands mapper policy).matching c w := by
  obtain ⟨n', w', hretries, -, hattempt⟩ := exists_retries_attempt backend commands mapper policy
    .matching none (calls_fetch backend plan.command) w
  obtain rfl := hretries.unique hn
  have hmatching : ∀ m : Mapper α, (repository backend commands m policy).matching c w =
      ((((w.server.upcoming n').map fun records => records).mapError
        fun e => { e with operation := .matching, entityId := none.or e.entityId }).bind
          fun records => (plan.residual.apply records).mapM m.toAggregate, w') := by
    intro m
    rw [Repository.matching, hc, repository_commands, hplan]
    exact World.run_map hattempt fun found =>
      found.bind fun records => (plan.residual.apply records).mapM m.toAggregate
  rw [hmatching, hmatching]
  cases hrecords : w.server.upcoming n' with
  | error e => rfl
  | ok records =>
    change ((plan.residual.apply records).mapM other.toAggregate, w') =
      ((plan.residual.apply records).mapM mapper.toAggregate, w')
    rw [mapM_congr (hagree records hrecords)]

/--
Every operation of a repository: what it needs before the source is called, the one call that it repeats,
and what becomes of the last outcome.
-/
theorem operations_disciplined (backend : String) (commands : CommandBuilder κ) (mapper : Mapper α)
    (policy : RetryPolicy) :
    let repo := repository backend commands mapper policy
    (∀ a, Needs (mapper.toRecord a) (repo.save a) fun record =>
      Needs (recordId commands.idField record) (repo.save a) fun id =>
        Needs (commands.upsert id record) (repo.save a) fun command =>
          Asks policy .execute command .save (some id) (fun _ result => result = .ok ()) (repo.save a)) ∧
    (∀ id, Needs (commands.findById id) (repo.searchById id) fun command =>
      Asks policy .fetchOne command .searchById (some id)
        (fun records result => result = records.head?.mapM mapper.toAggregate) (repo.searchById id)) ∧
    (∀ id, Needs (commands.delete id) (repo.delete id) fun command =>
      Asks policy .execute command .delete (some id) (fun _ result => result = .ok ()) (repo.delete id)) ∧
    (Needs commands.findAll repo.searchAll fun command =>
      Asks policy .fetch command .searchAll none (Decodes mapper.toAggregate) repo.searchAll) ∧
    (∀ c, c.isEmpty = true → repo.matching c = repo.searchAll) ∧
    ∀ c, c.isEmpty = false → Needs (commands.matching c) (repo.matching c) fun plan =>
      Asks policy .fetch plan.command .matching none
        (fun records => Decodes mapper.toAggregate (plan.residual.apply records)) (repo.matching c) ∧
      ∀ other w n, Retries policy.maxRetries.toNat w.server n →
        (∀ records, w.server.upcoming n = .ok records →
          ∀ r ∈ plan.residual.apply records, other.toAggregate r = mapper.toAggregate r) →
        (repository backend commands other policy).matching c w = repo.matching c w := by
  intro repo
  refine ⟨needs_save backend commands mapper policy, needs_searchById backend commands mapper policy,
    needs_delete backend commands mapper policy, needs_searchAll backend commands mapper policy, ?_, ?_⟩
  · intro c hc
    rw [Repository.matching, hc]
    rfl
  · intro c hc
    obtain ⟨herror, hok⟩ := needs_matching backend commands mapper policy hc
    refine ⟨herror, ?_⟩
    intro plan hplan
    refine ⟨hok plan hplan, ?_⟩
    intro other w n hn hagree
    exact matching_congr backend commands mapper policy hc hplan hn hagree

end Operations

/-- A record that the filter drops need not be an aggregate; among all records it is an error. -/
example :
    let commands : CommandBuilder Unit := ⟨"id", fun _ _ => .ok (), fun _ => .ok (), .ok (),
      fun c => .ok ⟨(), .ofCriteria c⟩, fun _ => .ok ()⟩
    let nameless := StoreError.new .convert .serialization "a person without a name"
    let mapper : Mapper Record := ⟨.ok, fun record =>
      if (Entries.get? record "name").isSome then .ok record else .error nameless⟩
    let people : World (Session Unit) :=
      .start ⟨fun _ => .ok [[("id", .text "u1")], [("id", .text "u2"), ("name", .text "Ada")]], []⟩
    let repo := repository "people" commands mapper .never
    (repo.matching (.ofFilters [⟨⟨"name", rfl, by decide⟩, .equal (some (.text "Ada"))⟩]) people).1 =
        .ok [[("id", .text "u2"), ("name", .text "Ada")]] ∧
      (repo.searchAll people).1 = .error nameless :=
  ⟨rfl, rfl⟩

end Session

end QueryCriteria
