import QueryCriteria.Proofs.Json.Quoted
import QueryCriteria.Proofs.KeyValue.Range
import QueryCriteria.Proofs.KeyValue.Stored
import QueryCriteria.Proofs.Redis.Calls
import QueryCriteria.Proofs.Redis.Schedule

/-!
A source on a server against a store in memory. As long as the server is reachable and texts can be read
back, no sequence of calls tells one from the other.
-/
namespace QueryCriteria

namespace KeyValue

/-- One of the calls of a source. -/
inductive Access where
  | execute
  | fetchOne
  | fetch

/-- What a call that succeeds returns. -/
abbrev Access.Answer : Access → Type
  | .execute => Unit
  | .fetchOne => Option Record
  | .fetch => List Record

def Access.run {m : Type → Type} (source : DataSource m Command) :
    (access : Access) → Command → m (Except StoreError access.Answer)
  | .execute => source.execute
  | .fetchOne => source.fetchOne
  | .fetch => source.fetch

/-- The world after calls, one after the other. -/
def afterCalls {ω : Type} (source : DataSource (StateM (World ω)) Command)
    (calls : List (Access × Command)) (w : World ω) : World ω :=
  calls.foldl (fun w call => (call.1.run source call.2 w).2) w

/-- What a scan finds, with the identifiers. -/
def Memory.found (memory : Memory) (name : String) (start : Option String) : Entries Record :=
  (memory.collection name).filter fun e => (start.getD "").toList.isPrefixOf e.1.toList

theorem Memory.scan_eq {memory : Memory} {name : String} (h : (memory.collection name).Ascending)
    (start : Option String) : memory.scan name start = Entries.values (memory.found name start) := by
  cases start with
  | none =>
    have hall : memory.found name none = memory.collection name :=
      List.filter_eq_self.mpr fun _ _ => rfl
    rw [hall]
    rfl
  | some start => exact range_eq_filter h start

end KeyValue

namespace Redis

open KeyValue (Command Memory Access afterCalls)

/-- The texts on the server are those of the records in memory. -/
structure Represents (memory : Memory) (texts : String → Option String) : Prop where
  ascending : ∀ name, (memory.collection name).Ascending
  texts : ∀ name id, isCollectionName name = true →
    texts (keyOf name id) = (memory.get? name id).map payload
  legible : ∀ name id record, isCollectionName name = true → memory.get? name id = some record →
    Legible record

namespace Represents

variable {memory : Memory} {texts : String → Option String}

theorem nil : Represents [] fun _ => none where
  ascending _ := .nil
  texts _ _ _ := rfl
  legible _ _ _ _ h := by cases h

theorem put (h : Represents memory texts) {name id : String} (hname : isCollectionName name = true)
    {record : Record} (hrecord : Legible record) :
    Represents (memory.put name id record)
      (Function.update texts (keyOf name id) (some (payload record))) where
  ascending := Memory.ascending_put h.ascending name id record
  texts other x hother := by
    rw [update_keyOf hname hother, Memory.get?_put]
    split
    · rfl
    · exact h.texts other x hother
  legible other x r hother hr := by
    rw [Memory.get?_put] at hr
    split at hr
    · cases hr
      exact hrecord
    · exact h.legible other x r hother hr

theorem remove (h : Represents memory texts) {name id : String}
    (hname : isCollectionName name = true) :
    Represents (memory.remove name id) (Function.update texts (keyOf name id) none) where
  ascending := Memory.ascending_remove h.ascending name id
  texts other x hother := by
    rw [update_keyOf hname hother, Memory.get?_remove]
    split
    · rfl
    · exact h.texts other x hother
  legible other x r hother hr := by
    rw [Memory.get?_remove] at hr
    split at hr
    · cases hr
    · exact h.legible other x r hother hr

/-- A record of the collection, and the text of it on the server. -/
theorem mem_iff (h : Represents memory texts) {name id : String} {record : Record} :
    (id, record) ∈ memory.collection name ↔ memory.get? name id = some record :=
  (Entries.get?_eq_some_iff (h.ascending name)).symm

end Represents

/-- What a scan finds, under the keys on the server. -/
def keyed (name : String) (entries : Entries Record) : Entries Record :=
  entries.map fun e => (keyOf name e.1, e.2)

theorem ascending_keyed (name : String) {entries : Entries Record} (h : entries.Ascending) :
    (keyed name entries).Ascending := by
  rw [keyed, Entries.Ascending, List.pairwise_map]
  exact h.imp fun hlt => (keyOf_lt_iff name _ _).mpr hlt

theorem values_keyed (name : String) (entries : Entries Record) :
    Entries.values (keyed name entries) = Entries.values entries := by
  rw [keyed, Entries.values, Entries.values, List.map_map]
  rfl

namespace Represents

variable {memory : Memory} {texts : String → Option String} {name : String}

/-- A scan of the server finds the records that a scan in memory finds. -/
theorem stored_keyed (h : Represents memory texts) (hname : isCollectionName name = true)
    (start : Option String) {e : String × Record} (he : e ∈ keyed name (memory.found name start)) :
    texts e.1 = some (payload e.2) ∧ Legible e.2 := by
  obtain ⟨⟨id, record⟩, hmem, rfl⟩ := List.mem_map.mp he
  have hget := h.mem_iff.mp (List.mem_filter.mp hmem).1
  refine ⟨?_, h.legible name id record hname hget⟩
  rw [h.texts name id hname, hget]
  rfl

theorem mem_keys_keyed (h : Represents memory texts) (hname : isCollectionName name = true)
    (start : Option String) (key : String) :
    key ∈ Entries.keys (keyed name (memory.found name start)) ↔ (texts key).isSome = true ∧
      (keyOf name (start.getD "")).toList <+: key.toList := by
  rw [Entries.keys, keyed, List.map_map, List.mem_map, keyOf_prefix_iff]
  constructor
  · rintro ⟨⟨id, record⟩, hmem, rfl⟩
    obtain ⟨hmem, hprefix⟩ := List.mem_filter.mp hmem
    refine ⟨?_, id, rfl, List.isPrefixOf_iff_prefix.mp hprefix⟩
    rw [Function.comp_apply, h.texts name id hname, h.mem_iff.mp hmem]
    rfl
  · rintro ⟨hsome, id, rfl, hprefix⟩
    rw [h.texts name id hname, Option.isSome_map] at hsome
    obtain ⟨record, hget⟩ := Option.isSome_iff_exists.mp hsome
    refine ⟨(id, record), List.mem_filter.mpr ⟨h.mem_iff.mpr hget, ?_⟩, rfl⟩
    exact List.isPrefixOf_iff_prefix.mpr hprefix

end Represents

/-- A command on a collection that may be; a record that it stores can be read back. -/
structure Admitted (command : Command) : Prop where
  name : isCollectionName command.collection = true
  legible : ∀ collection id record, command = .put collection id record → Legible record

namespace Source

variable {σ : Type} {source : Source σ} {stored : σ → String → Option String}
  {texts : String → Option String} {memory : Memory} {command : Command} {operation : StoreOperation}

theorem fetch_succeeds (hserver : Serves source.client source.config stored)
    (hscan : ScansInTime source.client stored texts) (h : Represents memory texts)
    (hname : isCollectionName command.collection = true) {records : List Record}
    (hfetch : memory.fetch operation command = .ok records) :
    Succeeds (source.fetch operation command) (Holds stored texts) fun result s =>
      result = records ∧ Holds stored texts s := by
  cases command with
  | put name id record => cases hfetch
  | delete name id => cases hfetch
  | get name id =>
    cases hfetch
    have hget := get_succeeds hserver hname id (h.texts name id hname) fun record hr =>
      h.legible name id record hname hr
    refine Succeeds.bind hget fun found => Succeeds.of_and ?_
    rintro rfl
    exact Succeeds.pure fun _ hs => ⟨rfl, hs⟩
  | scan name start =>
    cases hfetch
    rw [Memory.scan_eq (h.ascending name), ← values_keyed name]
    exact scan_succeeds hserver hname hscan start (ascending_keyed name ((h.ascending name).filter _))
      (h.mem_keys_keyed hname start) fun e he => h.stored_keyed hname start he

/-- What yields no records in memory is refused before the server is called. -/
theorem fetch_eq_throw {e : StoreError} (hfetch : memory.fetch operation command = .error e) :
    source.fetch operation command = throw e := by
  cases command with
  | put name id record => cases hfetch; rfl
  | delete name id => cases hfetch; rfl
  | get name id => cases hfetch
  | scan name start => cases hfetch

theorem execute_eq_throw {e : StoreError} (hexecute : (memory.execute command).1 = .error e) :
    source.execute command = throw e ∧ (memory.execute command).2 = memory := by
  cases command with
  | put name id record => cases hexecute
  | delete name id => cases hexecute
  | get name id => cases hexecute; exact ⟨rfl, rfl⟩
  | scan name start => cases hexecute; exact ⟨rfl, rfl⟩

theorem execute_succeeds (hserver : Serves source.client source.config stored)
    (httl : source.config.timeToLive ≠ some 0) (h : Represents memory texts)
    (hcommand : Admitted command) (hexecute : (memory.execute command).1 = .ok ()) :
    Succeeds (source.execute command) (Holds stored texts) fun _ linked =>
      Represents (memory.execute command).2 (stored linked.server) := by
  cases command with
  | put name id record =>
    have hput : Succeeds (source.put name id record) (Holds stored texts) _ :=
      put_succeeds hserver hcommand.name id httl record
    refine hput.mono (fun _ hs => hs) fun _ s hs => ?_
    rw [hs]
    exact h.put hcommand.name (hcommand.legible name id record rfl)
  | delete name id =>
    have hremove : Succeeds (source.remove name id) (Holds stored texts) _ :=
      remove_succeeds hserver hcommand.name id
    refine hremove.mono (fun _ hs => hs) fun _ s hs => ?_
    rw [hs]
    exact h.remove hcommand.name
  | get name id => cases hexecute
  | scan name start => cases hexecute

/-- The worlds of a source and of a store in memory with the same records; nothing is cancelled. -/
structure Related (stored : σ → String → Option String) (w : World (Linked Unit σ)) (v : World Memory) :
    Prop where
  calm : w.cancelled = false
  calmMemory : v.cancelled = false
  represents : Represents v.server (stored w.server.server)

variable {w : World (Linked Unit σ)} {v : World Memory}

theorem toOption_mapError {ε ε' α : Type} (f : ε → ε') (x : Except ε α) :
    (x.mapError f).toOption = x.toOption := by
  cases x <;> rfl

theorem eq_ok_of_toOption {ε α : Type} {x : Except ε α} {a : α} (hx : x.toOption = some a) :
    x = .ok a := by
  cases x with
  | error e => cases hx
  | ok b => exact congrArg Except.ok (Option.some.inj hx)

/-- An attempt that only reads, against what is expected of it. -/
private theorem run_of_expected {α : Type} {attempt : Attempt (Linked Unit σ) α}
    {expected : Except StoreError α} (guard : CallGuard) (operation : StoreOperation) (hw : w.cancelled = false)
    (htexts : Holds stored texts w.server)
    (hok : ∀ a, expected = .ok a → Succeeds attempt (Holds stored texts) fun result s =>
      result = a ∧ Holds stored texts s)
    (herror : ∀ e, expected = .error e → attempt = throw e) :
    (guard.run backendName operation attempt.run w).1.toOption = expected.toOption ∧
      (guard.run backendName operation attempt.run w).2.cancelled = false ∧
      Holds stored texts (guard.run backendName operation attempt.run w).2.server := by
  cases expected with
  | error e =>
    rw [herror e rfl, CallGuard.run_throw _ _ _ _ hw]
    exact ⟨rfl, hw, htexts⟩
  | ok a =>
    obtain ⟨_, w', hrun, hw', rfl, htexts'⟩ :=
      guard.run_of_succeeds backendName operation (hok a rfl) hw htexts
    rw [hrun]
    exact ⟨rfl, hw', htexts'⟩

variable (hserver : Serves source.client source.config stored) (h : Related stored w v)
  (guard : CallGuard)

include hserver h

theorem execute_related (httl : source.config.timeToLive ≠ some 0) (hcommand : Admitted command) :
    (source.toDataSource.execute command w).1.toOption =
        ((Memory.source guard).execute command v).1.toOption ∧
      Related stored (source.toDataSource.execute command w).2
        ((Memory.source guard).execute command v).2 := by
  rw [Memory.source_execute, if_neg (ne_true_of_eq_false h.calmMemory),
    toOption_mapError]
  change (source.guard.run backendName .execute (source.execute command).run w).1.toOption = _ ∧
    Related stored (source.guard.run backendName .execute (source.execute command).run w).2 _
  cases hexecute : (v.server.execute command).1 with
  | error e =>
    obtain ⟨hthrow, hsame⟩ : source.execute command = throw e ∧ _ := execute_eq_throw hexecute
    rw [hthrow, CallGuard.run_throw _ _ _ _ h.calm, hsame]
    exact ⟨rfl, h⟩
  | ok u =>
    obtain ⟨_, w', hrun, hw', hrepresents⟩ := source.guard.run_of_succeeds backendName .execute
      (execute_succeeds hserver httl h.represents hcommand hexecute) h.calm rfl
    rw [hrun]
    exact ⟨rfl, hw', h.calmMemory, hrepresents⟩

theorem fetch_related (hscan : ScansInTime source.client stored (stored w.server.server))
    (hcommand : Admitted command) :
    (source.toDataSource.fetch command w).1.toOption =
        ((Memory.source guard).fetch command v).1.toOption ∧
      Related stored (source.toDataSource.fetch command w).2
        ((Memory.source guard).fetch command v).2 := by
  rw [Memory.source_fetch, if_neg (ne_true_of_eq_false h.calmMemory), toOption_mapError]
  obtain ⟨hresult, hcalm, htexts⟩ := run_of_expected source.guard .fetch h.calm rfl
    (fun _ hok => fetch_succeeds hserver hscan h.represents hcommand.name hok)
    fun _ herror => fetch_eq_throw herror
  exact ⟨hresult, hcalm, h.calmMemory, (congrArg (Represents v.server) htexts).mpr h.represents⟩

theorem fetchOne_related (hscan : ScansInTime source.client stored (stored w.server.server))
    (hcommand : Admitted command) :
    (source.toDataSource.fetchOne command w).1.toOption =
        ((Memory.source guard).fetchOne command v).1.toOption ∧
      Related stored (source.toDataSource.fetchOne command w).2
        ((Memory.source guard).fetchOne command v).2 := by
  rw [Memory.source_fetchOne, if_neg (ne_true_of_eq_false h.calmMemory),
    toOption_mapError]
  have hok : ∀ found, (v.server.fetch .fetchOne command).map List.head? = .ok found →
      Succeeds (do return (← source.fetch .fetchOne command).head?)
        (Holds stored (stored w.server.server)) fun result s =>
          result = found ∧ Holds stored (stored w.server.server) s := by
    intro found hfound
    obtain ⟨records, hrecords, rfl⟩ := exists_of_map_ok hfound
    refine Succeeds.bind (fetch_succeeds hserver hscan h.represents hcommand.name hrecords)
      fun result => Succeeds.of_and ?_
    rintro rfl
    exact Succeeds.pure fun _ hs => ⟨rfl, hs⟩
  have herror : ∀ e, (v.server.fetch .fetchOne command).map List.head? = .error e →
      (do return (← source.fetch .fetchOne command).head? : Attempt (Linked Unit σ) _) = throw e := by
    intro e he
    cases hfetch : v.server.fetch .fetchOne command with
    | ok records => rw [hfetch] at he; cases he
    | error e' =>
      rw [hfetch] at he
      cases he
      rw [fetch_eq_throw hfetch]
      rfl
  obtain ⟨hresult, hcalm, htexts⟩ :=
    run_of_expected source.guard .fetchOne h.calm rfl hok herror
  exact ⟨hresult, hcalm, h.calmMemory, (congrArg (Represents v.server) htexts).mpr h.represents⟩

theorem run_related (httl : source.config.timeToLive ≠ some 0)
    (hscan : ScansInTime source.client stored (stored w.server.server))
    (hcommand : Admitted command) (access : Access) :
    (access.run source.toDataSource command w).1.toOption =
        (access.run (Memory.source guard) command v).1.toOption ∧
      Related stored (access.run source.toDataSource command w).2
        (access.run (Memory.source guard) command v).2 := by
  cases access with
  | execute => exact execute_related hserver h guard httl hcommand
  | fetchOne => exact fetchOne_related hserver h guard hscan hcommand
  | fetch => exact fetch_related hserver h guard hscan hcommand

theorem fetch_scan_eq (hscan : ScansInTime source.client stored (stored w.server.server))
    {collection : String} (hname : isCollectionName collection = true) {start : Option String} :
    (source.toDataSource.fetch (.scan collection start) w).1 = .ok (v.server.scan collection start) := by
  have hadmitted : Admitted (.scan collection start) := ⟨hname, by intro _ _ _ he; cases he⟩
  refine eq_ok_of_toOption ?_
  rw [(fetch_related hserver h .default hscan hadmitted).1, Memory.source_fetch, h.calmMemory]
  rfl

theorem fetchOne_get_eq (hscan : ScansInTime source.client stored (stored w.server.server))
    {collection : String} (hname : isCollectionName collection = true) {id : String} :
    (source.toDataSource.fetchOne (.get collection id) w).1 = .ok (v.server.get? collection id) := by
  have hadmitted : Admitted (.get collection id) := ⟨hname, by intro _ _ _ he; cases he⟩
  refine eq_ok_of_toOption ?_
  rw [(fetchOne_related hserver h .default hscan hadmitted).1, Memory.source_fetchOne, h.calmMemory]
  change some (v.server.get? collection id).toList.head? = _
  cases v.server.get? collection id <;> rfl

/-- Any sequence of calls leads to worlds with the same records. -/
theorem afterCalls_related (httl : source.config.timeToLive ≠ some 0)
    {calls : List (Access × Command)} (hcalls : ∀ call ∈ calls, Admitted call.2)
    (hscans : ∀ before, before <+: calls → ScansInTime source.client stored
      (stored (afterCalls source.toDataSource before w).server.server)) :
    Related stored (afterCalls source.toDataSource calls w)
      (afterCalls (Memory.source guard) calls v) := by
  induction calls generalizing w v with
  | nil => exact h
  | cons call rest ih =>
    obtain ⟨hcall, hrest⟩ := List.forall_mem_cons.mp hcalls
    have hstep := run_related hserver h guard httl (hscans [] List.nil_prefix) hcall call.1
    -- What comes before a later call begins with this one.
    refine ih hstep.2 hrest fun before hbefore => ?_
    exact hscans (call :: before) (List.cons_prefix_cons.mpr ⟨rfl, hbefore⟩)

end Source

/--
Whatever was called before, a source on a server that is always reachable and a store in memory, both
empty at first, answer the next call alike: both refuse it, or both return the same records in the same
order. A scan yields the records whose identifiers begin with its text, each once and in the order of
the identifiers.
-/
theorem refines_memory {σ : Type} {source : Source σ} {stored : σ → String → Option String}
    (hserver : Serves source.client source.config stored)
    (httl : source.config.timeToLive ≠ some 0) (guard : CallGuard)
    {w : World (Linked Unit σ)} {v : World Memory}
    (hw : w.cancelled = false) (hv : v.cancelled = false)
    (hempty : stored w.server.server = fun _ => none) (hmemory : v.server = [])
    {calls : List (Access × Command)} (hcalls : ∀ call ∈ calls, Admitted call.2)
    (hscans : ∀ before, before <+: calls → ScansInTime source.client stored
      (stored (afterCalls source.toDataSource before w).server.server)) :
    (∀ (access : Access) (command : Command), Admitted command →
      (access.run source.toDataSource command (afterCalls source.toDataSource calls w)).1.toOption =
        (access.run (Memory.source guard) command
          (afterCalls (Memory.source guard) calls v)).1.toOption) ∧
    ∀ (collection : String) (start : Option String), isCollectionName collection = true →
      ∃ entries : List (String × Record),
        (source.toDataSource.fetch (.scan collection start)
          (afterCalls source.toDataSource calls w)).1 = .ok (entries.map (·.2)) ∧
        entries.Pairwise (fun a b => Text.utf8 a.1 < Text.utf8 b.1) ∧
        ∀ id record, (id, record) ∈ entries ↔ (start.getD "").toList <+: id.toList ∧
          (source.toDataSource.fetchOne (.get collection id)
            (afterCalls source.toDataSource calls w)).1 = .ok (some record) := by
  have hstart : Source.Related stored w v := by
    refine ⟨hw, hv, ?_⟩
    rw [hempty, hmemory]
    exact .nil
  have hrelated := Source.afterCalls_related hserver hstart guard httl hcalls hscans
  have hscan := hscans calls List.prefix_rfl
  refine ⟨fun access command hcommand => ?_, fun collection start hname => ?_⟩
  · exact (Source.run_related hserver hrelated guard httl hscan hcommand access).1
  · have hrepresents := hrelated.represents
    refine ⟨(afterCalls (Memory.source guard) calls v).server.found collection start, ?_, ?_,
      fun id record => ?_⟩
    · rw [Source.fetch_scan_eq hserver hrelated hscan hname,
        Memory.scan_eq (hrepresents.ascending collection)]
      rfl
    · exact ((hrepresents.ascending collection).filter _).imp fun hlt =>
        (Text.lt_iff_utf8_lt _ _).mp hlt
    · rw [Source.fetchOne_get_eq hserver hrelated hscan hname, Except.ok.injEq, Memory.found,
        List.mem_filter, hrepresents.mem_iff, List.isPrefixOf_iff_prefix, and_comm]

/-- All keys but the last come in reverse; after a page without keys, all of them come as they stand. -/
def backAndForth : Schedule := fun _ keys => [keys.reverse.drop 1, [], keys]

theorem backAndForth_legal : backAndForth.Legal 3 where
  mem_iff n keys key := by
    have hdrop : key ∈ keys.reverse.drop 1 → key ∈ keys := fun h =>
      List.mem_reverse.mp (List.mem_of_mem_drop h)
    simp only [backAndForth, List.flatten_cons, List.flatten_nil, List.nil_append, List.append_nil,
      List.mem_append]
    exact or_iff_right_of_imp hdrop
  ne_nil n keys := List.cons_ne_nil _ _
  length_le n keys := Nat.le_refl 3

def onShelves : Source Shelves :=
  .new (Shelves.client backAndForth 3) .default .default

def grace : Record := [("id", .text "8"), ("name", .text "Grace")]

theorem grace_legible : Legible grace := by
  have htokens : Json.tokens (payload grace).toList = .ok [.openObject, .text "id", .colon, .text "8",
      .comma, .text "name", .colon, .text "Grace", .closeObject] := by
    change Json.tokens ('\x7b' :: '"' :: (['i', 'd'] ++ '"' :: ':' :: '"' :: (['8'] ++ '"' :: ',' :: '"' ::
      (['n', 'a', 'm', 'e'] ++ '"' :: ':' :: '"' :: (['G', 'r', 'a', 'c', 'e'] ++ ['"', '\x7d']))))) = _
    rw [Json.tokens_openObject, Json.tokens_quoted (by rfl), Json.tokens_colon,
      Json.tokens_quoted (by rfl), Json.tokens_comma, Json.tokens_quoted (by rfl), Json.tokens_colon,
      Json.tokens_quoted (by rfl), Json.tokens_closeObject, Json.tokens]
    rfl
  rw [Legible, Json.parseRecord, Json.parseWith, htokens]
  rfl

def someCalls : List (Access × Command) :=
  [(.execute, .put "users" "8" grace), (.fetch, .scan "users" none), (.execute, .put "users" "10" grace),
    (.execute, .delete "users" "7"), (.fetch, .delete "users" "8")]

theorem refines_memory_someCalls :
    (∀ call ∈ someCalls, Admitted call.2) ∧
      (∀ before, before <+: someCalls → ScansInTime onShelves.client Shelves.stored
        (Shelves.stored (afterCalls onShelves.toDataSource before
          (World.start ⟨.empty, .empty⟩)).server.server)) ∧
      (Access.fetch.run onShelves.toDataSource (.scan "users" none)
        (afterCalls onShelves.toDataSource someCalls (World.start ⟨.empty, .empty⟩))).1.toOption =
      (Access.fetch.run (Memory.source .default) (.scan "users" none)
        (afterCalls (Memory.source .default) someCalls (World.start []))).1.toOption := by
  have husers : isCollectionName "users" = true := by decide
  have hput : ∀ id, Admitted (.put "users" id grace) := fun id =>
    ⟨husers, by intro _ _ _ he; cases he; exact grace_legible⟩
  have hdelete : ∀ id, Admitted (.delete "users" id) := fun id =>
    ⟨husers, by intro _ _ _ he; cases he⟩
  have hscan : Admitted (.scan "users" none) := ⟨husers, by intro _ _ _ he; cases he⟩
  have hcalls : ∀ call ∈ someCalls, Admitted call.2 := by
    simp only [someCalls, List.forall_mem_cons]
    exact ⟨hput _, hscan, hput _, hdelete _, hdelete _, fun _ h => absurd h List.not_mem_nil⟩
  have hscans : ∀ before, before <+: someCalls → ScansInTime onShelves.client Shelves.stored
      (Shelves.stored (afterCalls onShelves.toDataSource before
        (World.start ⟨.empty, .empty⟩)).server.server) :=
    fun _ _ => Shelves.scansInTime backAndForth_legal _
  exact ⟨hcalls, hscans, (refines_memory (Shelves.serves .default) (by decide) .default rfl rfl rfl rfl
    hcalls hscans).1 .fetch _ hscan⟩

end Redis

end QueryCriteria
