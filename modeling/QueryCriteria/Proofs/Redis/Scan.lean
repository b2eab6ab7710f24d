import QueryCriteria.Proofs.Json.Quoted
import QueryCriteria.Proofs.Redis.Batches
import QueryCriteria.Proofs.Redis.Calls
import QueryCriteria.Proofs.Store.Dialogue

/-!
Scans over a server whose replies are given beforehand. However the server pages the keys, the scan
goes on until the cursor is zero, and then asks for each key once. Any reply to these requests may be
an error; the first error is the result.
-/
namespace QueryCriteria.Redis

variable {α : Type}

/-- An error in a reply. -/
def refused (operation : StoreOperation) (message : String) : StoreError :=
  (StoreError.backendFailure operation message).withBackend backendName

/-- What a reply has of what is wanted, or what is wrong with it. -/
def readReply (operation : StoreOperation) (read : Reply → Option α) :
    Except Silence Reply → Except StoreError α
  | .error silence => .error (silence.toStoreError operation)
  | .ok (.failure message) =>
    .error (refused operation ("An error was signalled by the server: " ++ message))
  | .ok reply =>
    (read reply).elim (.error (refused operation "The reply has another type than expected")) .ok

/-- The page in a reply, if there is one. -/
def pageOf (answer : Except Silence Reply) : Option (UInt64 × List String) :=
  answer.toOption.bind Reply.page?

theorem pageOf_ofPage (next : UInt64) (keys : List String) :
    pageOf (.ok (.ofPage next keys)) = some (next, keys) :=
  Reply.page?_ofPage next keys

theorem readReply_page {answer : Except Silence Reply} {page : UInt64 × List String}
    (h : pageOf answer = some page) (operation : StoreOperation) :
    readReply operation Reply.page? answer = .ok page := by
  obtain ⟨reply, hreply, hpage⟩ := Option.bind_eq_some_iff.mp h
  cases answer with
  | error silence => cases hreply
  | ok answer =>
    cases hreply
    have hfailure : ∀ message, reply = .failure message → False := by
      rintro message rfl
      cases hpage
    rw [readReply, hpage]
    · rfl
    · exact hfailure

/--
The records in the reply to a request for stored texts. What has expired meanwhile is passed over; the
first text that is no record is an error.
-/
def recordsOf (answer : Except Silence Reply) : Except StoreError (List Record) := do
  let payloads ← readReply .fetch (Reply.list? Reply.textOrNil?) answer
  payloads.reduceOption.mapM (decode .fetch)

/-- The records in several replies, in their order, or the first error. -/
def fetched (answers : List (Except Silence Reply)) : Except StoreError (List Record) :=
  (answers.mapM recordsOf).map List.flatten

/-- How many of the replies count: all up to the first one with an error. -/
def counted (answers : List (Except Silence Reply)) : Nat :=
  min (answers.findIdx (fun answer => !(recordsOf answer).isOk) + 1) answers.length

section Replies

variable {answer : Except Silence Reply} (rest : List (Except Silence Reply))

theorem fetched_cons_of_error {e : StoreError} (h : recordsOf answer = .error e) :
    fetched (answer :: rest) = .error e := by
  rw [fetched, List.mapM_cons, h]
  rfl

theorem fetched_cons_of_ok {records : List Record} (h : recordsOf answer = .ok records) :
    fetched (answer :: rest) = (fetched rest).map (records ++ ·) := by
  rw [fetched, List.mapM_cons, h, fetched]
  cases rest.mapM recordsOf with
  | error e => rfl
  | ok lists => rfl

theorem counted_cons_of_error {e : StoreError} (h : recordsOf answer = .error e) :
    counted (answer :: rest) = 1 := by
  rw [counted, List.findIdx_cons, h, List.length_cons]
  exact Nat.min_eq_left (Nat.succ_le_succ (Nat.zero_le _))

theorem counted_cons_of_ok {records : List Record} (h : recordsOf answer = .ok records) :
    counted (answer :: rest) = counted rest + 1 := by
  rw [counted, List.findIdx_cons, h, List.length_cons, counted]
  exact Nat.succ_min_succ _ _

end Replies

/-- The replies of a server to a client. -/
abbrev Talk := Dialogue Request (Except Silence Reply)

namespace Talk

/-- A client of such a server, which is always reachable; nothing takes any time. -/
def client (patience : Nat) : Client Talk where
  makePool _ := pure (.ok ())
  connect := pure (.ok ())
  ask request := Call.onServer (Dialogue.reply request)
  patience

/-- A source over such a server. -/
def source (patience : Nat) (config : RedisConfig) (guard : CallGuard) (policy : RetryPolicy) :
    Source Talk :=
  ⟨client patience, config, guard, policy⟩

/-- The talk between a source and its server has come to this point. -/
def At (d : Talk) (linked : Linked Unit Talk) : Prop :=
  linked.server = d

variable {patience : Nat} {config : RedisConfig} {guard : CallGuard} {policy : RetryPolicy}

theorem connect_yields (operation : StoreOperation) (d : Talk) :
    Yields ((source patience config guard policy).connect operation) (At d) (.ok ()) (At d) := by
  have hreach : Returns (pure (.ok ()) : Call Talk (Except String Unit)) (fun s => s = d) fun result s =>
      result = .ok () ∧ s = d :=
    Returns.pure fun _ hs => ⟨rfl, hs⟩
  have hmake : Returns (pure (.ok ()) : Call Talk (Except PoolFault Unit)) (fun s => s = d)
      fun result s => result = .ok () ∧ s = d :=
    Returns.pure fun _ hs => ⟨rfl, hs⟩
  have hconnect : Succeeds ((source patience config guard policy).connect operation) (At d)
      fun _ => At d := by
    apply Source.connect_succeeds_of (P := fun s => s = d)
    · exact hmake
    · exact hreach
  exact hconnect.yields

/-- A request takes the next reply, and fails where the reply cannot be read. -/
theorem ask_yields (operation : StoreOperation) (request : Request) (read : Reply → Option α)
    (d : Talk) :
    Yields ((source patience config guard policy).ask operation request read) (At d)
      (readReply operation read (d.upcoming 0)) (At (d.after [request])) := by
  have hask : Yields (liftM (Linked.ask (Call.onServer (Dialogue.reply request)) :
      Call (Linked Unit Talk) _)) (At d) (.ok (d.upcoming 0)) (At (d.after [request])) :=
    Yields.lift (Linked.returns_ask (d.returns_reply request))
  refine Yields.bind_ok hask ?_
  split
  · rename_i silence hreply
    rw [hreply]
    exact Yields.fail _
  · rename_i message hreply
    rw [hreply]
    exact Yields.fail _
  · rename_i reply hfailure hreply
    rw [hreply, readReply]
    · cases read reply with
      | some a => exact Yields.pure a
      | none => exact Yields.fail _
    · exact hfailure

/-- The requests of a scan follow the cursors in the replies, up to the first that is zero. -/
theorem collectKeys_yields (glob : String) {turns : List (UInt64 × List String)}
    (hne : ∀ turn ∈ turns, turn.1 ≠ 0) (last : List String) {left : Nat} (hleft : turns.length < left)
    (cursor : UInt64) {d : Talk}
    (hpages : (d.answers (turns.length + 1)).map pageOf = (turns ++ [(0, last)]).map some) :
    Yields ((source patience config guard policy).collectKeys glob left cursor) (At d)
      (.ok ((turns ++ [(0, last)]).flatMap Prod.snd))
      (At (d.after ((cursor :: turns.map Prod.fst).map fun cursor => .scan cursor glob))) := by
  induction turns generalizing left cursor d with
  | nil =>
    obtain ⟨left, rfl⟩ := Nat.exists_eq_add_one.mpr hleft
    rw [List.length_nil, d.answers_succ (.scan cursor glob)] at hpages
    have hread := readReply_page (List.cons.inj hpages).1 .fetch
    have hask : Yields ((source patience config guard policy).ask .fetch (.scan cursor glob) Reply.page?)
        (At d) _ _ := ask_yields .fetch (.scan cursor glob) Reply.page? d
    rw [hread] at hask
    rw [Source.collectKeys, List.nil_append, List.flatMap_singleton]
    refine Yields.bind_ok hask ?_
    dsimp only
    rw [if_pos rfl]
    exact Yields.pure last
  | cons turn turns ih =>
    obtain ⟨hturn, hturns⟩ := List.forall_mem_cons.mp hne
    obtain ⟨left, rfl⟩ := Nat.exists_eq_add_one.mpr (Nat.zero_lt_of_lt hleft)
    rw [List.length_cons, d.answers_succ (.scan cursor glob)] at hpages
    obtain ⟨hfirst, hrest⟩ := List.cons.inj hpages
    have hask : Yields ((source patience config guard policy).ask .fetch (.scan cursor glob) Reply.page?)
        (At d) _ _ := ask_yields .fetch (.scan cursor glob) Reply.page? d
    rw [readReply_page hfirst] at hask
    rw [Source.collectKeys]
    refine Yields.bind_ok hask ?_
    dsimp only
    rw [if_neg hturn]
    have hmore := Yields.map (turn.2 ++ ·) (ih hturns (Nat.lt_of_succ_lt_succ hleft) turn.1 hrest)
    rw [Dialogue.after_after] at hmore
    exact hmore

/-- Requests for stored texts go on until one of the replies is an error. -/
theorem fetchPages_yields (batches : List (List String)) (d : Talk) :
    Yields ((source patience config guard policy).fetchPages batches) (At d)
      (fetched (d.answers batches.length))
      (At (d.after ((batches.take (counted (d.answers batches.length))).map .getAll))) := by
  induction batches generalizing d with
  | nil =>
    rw [List.take_nil, List.map_nil, Dialogue.after_nil]
    exact Yields.pure []
  | cons keys rest ih =>
    have hask : Yields ((source patience config guard policy).ask .fetch (.getAll keys)
        (Reply.list? Reply.textOrNil?)) (At d) _ _ :=
      ask_yields .fetch (.getAll keys) (Reply.list? Reply.textOrNil?) d
    rw [List.length_cons, d.answers_succ (.getAll keys), Source.fetchPages]
    cases hread : readReply .fetch (Reply.list? Reply.textOrNil?) (d.upcoming 0) with
    | error e =>
      have hrecords : recordsOf (d.upcoming 0) = .error e := by
        rw [recordsOf, hread]
        rfl
      rw [hread] at hask
      rw [fetched_cons_of_error _ hrecords, counted_cons_of_error _ hrecords]
      exact Yields.bind_error hask
    | ok payloads =>
      have hdecode : recordsOf (d.upcoming 0) = payloads.reduceOption.mapM (decode .fetch) := by
        rw [recordsOf, hread]
        rfl
      rw [hread] at hask
      refine Yields.bind_ok hask ?_
      rw [← hdecode]
      cases hrecords : recordsOf (d.upcoming 0) with
      | error e =>
        rw [fetched_cons_of_error _ hrecords, counted_cons_of_error _ hrecords]
        exact Yields.bind_error (Yields.known _)
      | ok records =>
        have hmore := Yields.map (records ++ ·) (ih (d.after [.getAll keys]))
        rw [Dialogue.after_after] at hmore
        rw [fetched_cons_of_ok _ hrecords, counted_cons_of_ok _ hrecords]
        exact Yields.bind_ok (Yields.known _) hmore

end Talk

/--
The replies to a full scan, each with the cursor of the next and the keys of its page. The cursor of
the last reply is zero, and no other is.
-/
structure Iteration where
  turns : List (UInt64 × List String)
  last : List String
  goesOn : ∀ turn ∈ turns, turn.1 ≠ 0

namespace Iteration

def pages (it : Iteration) : List (UInt64 × List String) :=
  it.turns ++ [(0, it.last)]

/-- The keys in all replies, as often as they are returned. -/
def keys (it : Iteration) : List String :=
  it.pages.flatMap Prod.snd

/-- One request for each reply: the first at the cursor zero, each other one at that of the last reply. -/
def requests (it : Iteration) (glob : String) : List Request :=
  (0 :: it.turns.map Prod.fst).map fun cursor => .scan cursor glob

end Iteration

open Talk in
/--
A scan makes one request for each page, up to the cursor zero, and then asks for the returned keys in
batches, each key once and in ascending order, whatever pages they came in. The result is what is
stored under them, or the first error, after which nothing more is asked.
-/
theorem scan_reads_each_key_once (patience : Nat) (config : RedisConfig) (guard : CallGuard)
    (policy : RetryPolicy) {collection : String} (start : Option String) (it : Iteration) (d : Talk)
    (hname : isCollectionName collection = true) (hpatience : it.pages.length ≤ patience)
    (hpages : (d.answers it.pages.length).map pageOf = it.pages.map some) :
    let scans := it.requests (keysFrom (keyOf collection (start.getD "")))
    ∃ batches, Batched it.keys batches ∧ (it.keys = [] → batches = []) ∧
      (∀ (other : Iteration) (more : List (List String)), (∀ key, key ∈ other.keys ↔ key ∈ it.keys) →
        Batched other.keys more → more = batches) ∧
      let answers := (d.after scans).answers batches.length
      Yields ((source patience config guard policy).scan collection start) (At d) (fetched answers)
        (At (d.after (scans ++ (batches.take (counted answers)).map .getAll))) := by
  intro scans
  refine ⟨pieces pageSize (distinct it.keys), Batched.pieces_distinct it.keys, ?_, ?_, ?_⟩
  · intro hnil
    have hbatched := Batched.pieces_distinct it.keys
    rw [hnil] at hbatched ⊢
    exact hbatched.eq_nil
  · intro other more hsame hmore
    exact Batched.unique (Batched.pieces_distinct it.keys) hmore hsame
  · intro answers
    have hlength : it.pages.length = it.turns.length + 1 := by
      rw [Iteration.pages, List.length_append, List.length_singleton]
    rw [hlength] at hpatience hpages
    have hcollect : Yields ((source patience config guard policy).collectKeys _ _ 0) (At d) _ _ :=
      collectKeys_yields (keysFrom (keyOf collection (start.getD ""))) it.goesOn it.last hpatience 0
        hpages
    have hfetch : Yields ((source patience config guard policy).fetchPages _) (At (d.after scans)) _ _ :=
      fetchPages_yields (pieces pageSize (distinct it.keys)) (d.after scans)
    rw [Dialogue.after_after] at hfetch
    rw [Source.scan, recordKey_eq hname]
    refine Yields.bind_ok (Yields.known _) ?_
    refine Yields.bind_ok (connect_yields .fetch d) ?_
    exact Yields.bind_ok hcollect hfetch

theorem empty_legible : Legible [] := by
  have htokens : Json.tokens (payload []).toList = .ok [.openObject, .closeObject] := by
    change Json.tokens ['\x7b', '\x7d'] = _
    rw [Json.tokens_openObject, Json.tokens_closeObject, Json.tokens]
    rfl
  rw [Legible, Json.parseRecord, Json.parseWith, htokens]
  rfl

theorem five_ne_zero : ∀ turn ∈ [((5 : UInt64), ["c:b", "c:a"])], turn.1 ≠ 0 :=
  List.forall_mem_singleton.mpr (by decide)

/-- Two pages with one key in both. -/
def twoPages : Iteration := ⟨[(5, ["c:b", "c:a"])], ["c:a"], five_ne_zero⟩

/-- A text under the first of two keys; the second has expired. -/
def oneStored : Reply := .array [.bulk (payload []), .nil]

def talkOfTwoPages : Talk where
  script i := [.ok (.ofPage 5 ["c:b", "c:a"]), .ok (.ofPage 0 ["c:a"]), .ok oneStored].getD i
    (.error .timedOut)
  asked := []

theorem recordsOf_oneStored : recordsOf (.ok oneStored) = .ok [[]] := by
  change (do return [← decode .fetch (payload [])] : Except StoreError (List Record)) = _
  rw [decode_payload empty_legible]
  rfl

theorem batched_twoPages : Batched twoPages.keys [["c:a", "c:b"]] where
  mem_iff key := by
    change key ∈ ["c:a", "c:b"] ↔ key ∈ ["c:b", "c:a", "c:a"]
    simp only [List.mem_cons, List.not_mem_nil, or_false, or_self]
    exact or_comm
  ascending := List.pairwise_pair.mpr ((Text.lt_iff_utf8_lt _ _).mp (by decide))
  sizes := List.forall_mem_singleton.mpr ⟨by decide, by decide⟩
  full _ h := absurd h List.not_mem_nil

theorem scan_reads_each_key_once_twoPages :
    isCollectionName "c" = true ∧ twoPages.pages.length ≤ 2 ∧
      (talkOfTwoPages.answers 2).map pageOf = twoPages.pages.map some ∧
      Yields ((Talk.source 2 .default .default .never).scan "c" none) (Talk.At talkOfTwoPages)
        (.ok [[]])
        (Talk.At (talkOfTwoPages.after
          [.scan 0 "c:*", .scan 5 "c:*", .getAll ["c:a", "c:b"]])) := by
  have hname : isCollectionName "c" = true := by decide
  have hpages : (talkOfTwoPages.answers 2).map pageOf = twoPages.pages.map some := by
    change [pageOf (.ok (.ofPage 5 ["c:b", "c:a"])), pageOf (.ok (.ofPage 0 ["c:a"]))] = _
    rw [pageOf_ofPage, pageOf_ofPage]
    rfl
  have hglob : keysFrom (keyOf "c" ((none : Option String).getD "")) = "c:*" := by decide +kernel
  refine ⟨hname, Nat.le_refl 2, hpages, ?_⟩
  obtain ⟨batches, hbatched, -, -, hscan⟩ := scan_reads_each_key_once 2 .default .default .never none
    twoPages talkOfTwoPages hname (Nat.le_refl 2) hpages
  obtain rfl := batched_twoPages.unique hbatched fun _ => Iff.rfl
  rw [hglob] at hscan
  change Yields _ _ (fetched [.ok oneStored]) (Talk.At (talkOfTwoPages.after
    ([.scan 0 "c:*", .scan 5 "c:*"] ++ ([["c:a", "c:b"]].take (counted [.ok oneStored])).map .getAll)))
    at hscan
  rw [fetched_cons_of_ok _ recordsOf_oneStored, counted_cons_of_ok _ recordsOf_oneStored] at hscan
  exact hscan

end QueryCriteria.Redis
