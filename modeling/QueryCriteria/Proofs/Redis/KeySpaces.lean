import QueryCriteria.Proofs.Effect.Returns
import QueryCriteria.Proofs.Redis.Glob
import QueryCriteria.Proofs.Redis.Keys
import QueryCriteria.Proofs.Store.Cancelled

/-!
The key spaces of the collections on one server. A name that is empty or holds a colon is refused before
anything is done. All other collections are kept apart by the colon behind their names and by the escaped
globs of their scans, whatever characters stand in names, identifiers and texts.
-/
namespace QueryCriteria

/-- Whether a command asks for records. -/
def KeyValue.Command.yieldsRecords : Command → Bool
  | .get .. | .scan .. => true
  | .put .. | .delete .. => false

/-- The calls of a source that run a command; the others turn it away as one of the other kind. -/
def KeyValue.Command.RunBy (command : Command) : SourceCall → Prop
  | .execute => command.yieldsRecords = false
  | .fetchOne | .fetch => command.yieldsRecords = true

namespace Redis

open KeyValue (Command)

variable {σ α : Type}

/-- What is wrong with a collection whose name is empty or holds a colon. -/
def nameError (collection : String) : StoreError where
  operation := .matching
  kind := .validation
  message := "Collection name '" ++ collection ++ "' must be non-empty and free of ':'"
  backend := some "redis"
  entityId := none

theorem recordKey_eq_error {collection : String} (h : isCollectionName collection = false)
    (id : String) : recordKey collection id = .error (nameError collection) := by
  rw [recordKey, if_neg (ne_true_of_eq_false h)]
  rfl

theorem isCollectionName_eq_false_iff {name : String} :
    isCollectionName name = false ↔ name = "" ∨ ':' ∈ name.toList := by
  rw [← Bool.not_eq_true, isCollectionName_iff, not_and_or, not_not, not_not]

namespace Source

/--
Every operation on a collection is an error of its name and no more than that. Called under the guard, where
only a cancellation comes before it, it leaves the world as it was: no connection is made, and the server is
not asked.
-/
structure Rejects (source : Source σ) (collection : String) : Prop where
  put : ∀ id record, source.put collection id record = throw (nameError collection)
  get : ∀ id, source.get collection id = throw (nameError collection)
  scan : ∀ start, source.scan collection start = throw (nameError collection)
  remove : ∀ id, source.remove collection id = throw (nameError collection)
  issue : ∀ command call w, command.collection = collection → command.RunBy call →
    source.toDataSource.issue command call w =
      (some (if w.cancelled then CallGuard.cancelledError "redis" call.operation
        else nameError collection), w)

section

variable (source : Source σ) {collection : String} (h : isCollectionName collection = false)

include h

/-- What begins with the key of a record comes to nothing but the error. -/
private theorem throw_of_key (id : String) (next : String → Attempt (Linked Unit σ) α) :
    (do
      let key ← recordKey collection id
      next key : Attempt (Linked Unit σ) α) = throw (nameError collection) := by
  rw [recordKey_eq_error h]
  rfl

theorem put_eq_throw (id : String) (record : Record) :
    source.put collection id record = throw (nameError collection) :=
  throw_of_key h id _

theorem get_eq_throw (id : String) : source.get collection id = throw (nameError collection) :=
  throw_of_key h id _

theorem scan_eq_throw (start : Option String) :
    source.scan collection start = throw (nameError collection) :=
  throw_of_key h (start.getD "") _

theorem remove_eq_throw (id : String) : source.remove collection id = throw (nameError collection) :=
  throw_of_key h id _

end

section

variable (source : Source σ) {command : Command} (h : isCollectionName command.collection = false)

include h

theorem execute_nameError (hcommand : command.yieldsRecords = false) :
    source.execute command = throw (nameError command.collection) := by
  cases command with
  | put collection id record => exact source.put_eq_throw h id record
  | delete collection id => exact source.remove_eq_throw h id
  | get | scan => cases hcommand

theorem fetch_nameError (hcommand : command.yieldsRecords = true) (operation : StoreOperation) :
    source.fetch operation command = throw (nameError command.collection) := by
  cases command with
  | get collection id =>
    have hget : source.get collection id = throw (nameError collection) := source.get_eq_throw h id
    rw [fetch, hget]
    rfl
  | scan collection start => exact source.scan_eq_throw h start
  | put | delete => cases hcommand

end

/-- Under the guard an error of a name stays as it is, and so does the world. -/
private theorem run_nameError (source : Source σ) (operation : StoreOperation) {collection : String}
    {attempt : Attempt (Linked Unit σ) α} (h : attempt = throw (nameError collection))
    {w : World (Linked Unit σ)} (hw : w.cancelled = false) :
    source.guard.run backendName operation attempt.run w = (.error (nameError collection), w) := by
  rw [h, CallGuard.run_throw _ _ _ _ hw]
  rfl

theorem rejects (source : Source σ) {collection : String} (h : isCollectionName collection = false) :
    source.Rejects collection where
  put := source.put_eq_throw h
  get := source.get_eq_throw h
  scan := source.scan_eq_throw h
  remove := source.remove_eq_throw h
  issue := by
    rintro command call w rfl hcall
    cases hw : w.cancelled with
    | true => exact (DataSource.Offered.redis source).refuses hw command call
    | false =>
      cases call with
      | execute =>
        exact World.run_map (source.run_nameError .execute (source.execute_nameError h hcall) hw) failure
      | fetchOne =>
        have hhead : (do return (← source.fetch .fetchOne command).head? : Attempt (Linked Unit σ) _) =
            throw (nameError command.collection) := by
          rw [source.fetch_nameError h hcall]
          rfl
        exact World.run_map (source.run_nameError .fetchOne hhead hw) failure
      | fetch =>
        exact World.run_map (source.run_nameError .fetch (source.fetch_nameError h hcall .fetch) hw)
          failure

end Source

/-- The requests of a scan with a glob: for pages of keys that match it, and for what is stored. -/
inductive Request.OfScan (glob : String) : Request → Prop where
  | scan (cursor : UInt64) : OfScan glob (.scan cursor glob)
  | getAll (keys : List String) : OfScan glob (.getAll keys)

/-- Two clients that differ at most in how other requests than these are answered. -/
structure Client.AgreesOn (requests : Request → Prop) (client other : Client σ) : Prop where
  makePool : other.makePool = client.makePool
  connect : other.connect = client.connect
  ask : ∀ request, requests request → other.ask request = client.ask request
  patience : other.patience = client.patience

namespace Source

/-- The same source with another client. -/
def withClient (source : Source σ) (client : Client σ) : Source σ :=
  { source with client }

section

variable {source : Source σ} {requests : Request → Prop} {other : Client σ}
  (h : source.client.AgreesOn requests other)

include h

theorem connect_withClient (operation : StoreOperation) :
    (source.withClient other).connect operation = source.connect operation := by
  simp only [connect, makePool, withClient, h.makePool, h.connect]

theorem ask_withClient (operation : StoreOperation) {request : Request} (hrequest : requests request)
    (read : Reply → Option α) :
    (source.withClient other).ask operation request read = source.ask operation request read := by
  simp only [ask, withClient, h.ask request hrequest]

theorem collectKeys_withClient {glob : String} (hscan : ∀ cursor, requests (.scan cursor glob))
    (patience : Nat) (cursor : UInt64) :
    (source.withClient other).collectKeys glob patience cursor = source.collectKeys glob patience cursor := by
  induction patience generalizing cursor with
  | zero => rfl
  | succ patience ih => simp only [collectKeys, ask_withClient h .fetch (hscan cursor), ih]

theorem fetchPages_withClient (hgetAll : ∀ keys, requests (.getAll keys)) (pages : List (List String)) :
    (source.withClient other).fetchPages pages = source.fetchPages pages := by
  induction pages with
  | nil => rfl
  | cons keys rest ih => simp only [fetchPages, ask_withClient h .fetch (hgetAll keys), ih]

end

theorem scan_eq (source : Source σ) {collection key : String} {start : Option String}
    (hkey : recordKey collection (start.getD "") = .ok key) :
    source.scan collection start = (do
      source.connect .fetch
      let keys ← source.collectKeys (keysFrom key) source.client.patience 0
      source.fetchPages (pieces pageSize (distinct keys))) := by
  rw [scan, hkey]
  rfl

/-- A scan depends on the server only by what it answers to requests with the glob of its key. -/
theorem scan_withClient {source : Source σ} {other : Client σ} {collection key : String}
    {start : Option String} (hkey : recordKey collection (start.getD "") = .ok key)
    (h : source.client.AgreesOn (Request.OfScan (keysFrom key)) other) :
    (source.withClient other).scan collection start = source.scan collection start := by
  have hpatience : (source.withClient other).client.patience = source.client.patience := h.patience
  rw [scan_eq _ hkey, scan_eq _ hkey, connect_withClient h, hpatience, collectKeys_withClient h .scan]
  simp only [fetchPages_withClient h .getAll]

/--
A glob that matches the keys of the records of a collection whose identifiers begin with a text, and no key
of another collection. The scan goes by no other glob: how the server answers to a request with another one
makes no difference to it.
-/
structure ScansExactly (source : Source σ) (collection : String) (start : Option String) (glob : String) :
    Prop where
  bytes : ∀ bytes, Glob.accepts (Glob.tokens glob) bytes = true ↔
    Text.utf8 (collection ++ ":" ++ start.getD "") <+: bytes
  text : ∀ key, globMatches glob key = true ↔
    (collection ++ ":" ++ start.getD "").toList <+: key.toList
  records : ∀ other id key, recordKey other id = .ok key →
    (globMatches glob key = true ↔ other = collection ∧ (start.getD "").toList <+: id.toList)
  requests : ∀ other, source.client.AgreesOn (Request.OfScan glob) other →
    (source.withClient other).scan collection start = source.scan collection start

theorem scansExactly (source : Source σ) {collection first : String} {start : Option String}
    (hfirst : recordKey collection (start.getD "") = .ok first) :
    source.ScansExactly collection start (keysFrom first) := by
  obtain ⟨hname, rfl⟩ := recordKey_eq_ok_iff.mp hfirst
  have htext : ∀ key, globMatches (keysFrom (keyOf collection (start.getD ""))) key = true ↔
      (keyOf collection (start.getD "")).toList <+: key.toList := by
    intro key
    rw [Glob.globMatches_keysFrom, List.isPrefixOf_iff_prefix]
  refine ⟨Glob.accepts_keysFrom _, htext, ?_, fun _ => scan_withClient hfirst⟩
  intro other id key hkey
  obtain ⟨hother, rfl⟩ := recordKey_eq_ok_iff.mp hkey
  rw [htext, keyOf_prefix_keyOf_iff hname hother]

end Source

/--
A key tells the collection and the identifier of its record. A scan goes by the glob that is made of its key,
escaped, and an asterisk; it matches the keys that begin with this key, and so those of records of the same
collection only. The names of collections are the texts that are not empty and hold no colon; everything that
is asked of a collection with another name fails before a connection is made.
-/
theorem key_spaces_disjoint (source : Source σ) :
    (∀ c d id x key, recordKey c id = .ok key → recordKey d x = .ok key → c = d ∧ id = x) ∧
    (∀ c start first, recordKey c (start.getD "") = .ok first →
      source.ScansExactly c start (Pattern.escapeGlob first ++ "*")) ∧
    (∀ c id key, recordKey c id = .ok key ↔ (c ≠ "" ∧ ':' ∉ c.toList) ∧ key = c ++ ":" ++ id) ∧
    ∀ c, c = "" ∨ ':' ∈ c.toList → source.Rejects c := by
  refine ⟨fun c d id x key hkey hother => ?_, fun c start first => source.scansExactly,
    fun c id key => ?_, fun c hname => ?_⟩
  · obtain ⟨hc, rfl⟩ := recordKey_eq_ok_iff.mp hkey
    obtain ⟨hd, hsame⟩ := recordKey_eq_ok_iff.mp hother
    exact keyOf_inj hc hd hsame
  · rw [recordKey_eq_ok_iff, isCollectionName_iff, keyOf]
  · exact source.rejects (isCollectionName_eq_false_iff.mpr hname)

/-- A server that never answers to anything but a scan. -/
def searchOnlyClient : Client Nat :=
  { countingClient with
    ask := fun
      | .scan cursor glob => countingClient.ask (.scan cursor glob)
      | .getAll keys => countingClient.ask (.getAll keys)
      | _ => Call.hang }

theorem agreesOn_searchOnlyClient (glob : String) :
    countingClient.AgreesOn (Request.OfScan glob) searchOnlyClient where
  makePool := rfl
  connect := rfl
  ask request h := by
    cases h with
    | scan cursor => rfl
    | getAll keys => rfl
  patience := rfl

def onCounting : Source Nat :=
  .new countingClient .default .default

theorem key_spaces_disjoint_escaped :
    recordKey "a*" "[7]" = .ok "a*:[7]" ∧ recordKey "a*" "[7]:\\" = .ok "a*:[7]:\\" ∧
      recordKey "ab" "7" = .ok "ab:7" ∧
      Pattern.escapeGlob "a*:[7]" ++ "*" = "a\\*:\\[7\\]*" ∧
      globMatches "a\\*:\\[7\\]*" "a*:[7]:\\" = true ∧ globMatches "a\\*:\\[7\\]*" "ab:7" = false ∧
      (onCounting.withClient searchOnlyClient).scan "a*" (some "[7]") = onCounting.scan "a*" (some "[7]") ∧
      onCounting.Rejects "" ∧ onCounting.Rejects "a:b" ∧
      onCounting.toDataSource.issue (.scan "a:b" none) .fetch (World.start ⟨.empty, 0⟩) =
        (some (nameError "a:b"), World.start ⟨.empty, 0⟩) := by
  obtain ⟨-, hscans, hkeys, hrejects⟩ := key_spaces_disjoint onCounting
  have hfirst : recordKey "a*" "[7]" = .ok "a*:[7]" := (hkeys _ _ _).mpr (by decide)
  have hsame : recordKey "a*" "[7]:\\" = .ok "a*:[7]:\\" := (hkeys _ _ _).mpr (by decide)
  have hother : recordKey "ab" "7" = .ok "ab:7" := (hkeys _ _ _).mpr (by decide)
  have hglob : Pattern.escapeGlob "a*:[7]" ++ "*" = "a\\*:\\[7\\]*" := by decide +kernel
  have hexact := hscans "a*" (some "[7]") "a*:[7]" hfirst
  rw [hglob] at hexact
  have hnested : onCounting.Rejects "a:b" := hrejects "a:b" (.inr (by decide))
  refine ⟨hfirst, hsame, hother, hglob, ?_, ?_, ?_, hrejects "" (.inl rfl), hnested, ?_⟩
  · exact (hexact.records "a*" "[7]:\\" _ hsame).mpr ⟨rfl, by decide⟩
  · rw [← Bool.not_eq_true, hexact.records "ab" "7" _ hother]
    intro h
    exact absurd h.1 (by decide)
  · exact hexact.requests searchOnlyClient (agreesOn_searchOnlyClient _)
  · exact hnested.issue (.scan "a:b" none) .fetch _ rfl rfl

end Redis

end QueryCriteria
