import Mathlib.Data.List.ReduceOption
import QueryCriteria.Proofs.Redis.Keys
import QueryCriteria.Proofs.Redis.Server
import QueryCriteria.Proofs.Success

/-!
The calls of a source against a server that is always reachable. Each succeeds; what it returns and
what it leaves on the server is said in terms of the stored texts.
-/
namespace QueryCriteria.Redis

/-- The text in which a record is stored. -/
def payload (record : Record) : String :=
  (Json.object record).render

/-- Decoding the text of the record gives the record back. -/
def Legible (record : Record) : Prop :=
  Json.parseRecord (payload record) = .ok record

theorem decode_payload {record : Record} (h : Legible record) (operation : StoreOperation) :
    decode operation (payload record) = .ok record := by
  rw [decode, h]

namespace Source

variable {σ α : Type} {source : Source σ} {stored : σ → String → Option String}
  {texts : String → Option String}

/-- The texts are what the server of a linked source stores. -/
def Holds (stored : σ → String → Option String) (texts : String → Option String)
    (linked : Linked Unit σ) : Prop :=
  stored linked.server = texts

/-- A pool and a connection can be had at any time, and this does not touch the server. -/
theorem connect_succeeds_of {P : σ → Prop}
    (hmake : Returns (source.client.makePool source.config) P fun result s => result = .ok () ∧ P s)
    (hconnect : Returns source.client.connect P fun result s => result = .ok () ∧ P s)
    (operation : StoreOperation) :
    Succeeds (source.connect operation) (fun linked => P linked.server) fun _ linked =>
      P linked.server := by
  have hpool : Returns source.makePool P fun result s => ∃ c, result = .ok c ∧ P s := by
    refine Returns.bind hmake fun made => Returns.of_and ?_
    rintro rfl
    refine Returns.bind hconnect fun connected => Returns.of_and ?_
    rintro rfl
    exact Returns.pure fun _ hs => ⟨(), rfl, hs⟩
  refine Succeeds.bind (Linked.succeeds_connection source.policy hpool) fun _ => ?_
  refine Succeeds.bind (Succeeds.lift (Linked.returns_ask hconnect)) fun result => Succeeds.of_and ?_
  rintro rfl
  exact Succeeds.pure fun _ hs => hs

theorem connect_succeeds (h : Serves source.client source.config stored) (operation : StoreOperation) :
    Succeeds (source.connect operation) (Holds stored texts) fun _ => Holds stored texts :=
  connect_succeeds_of (h.makePool texts) (h.connect texts) operation

/-- A reply that can be read as what is wanted. -/
theorem ask_succeeds_of {operation : StoreOperation} {request : Request} {read : Reply → Option α}
    (pre : σ → Prop) (post : α → σ → Prop)
    (h : Returns (source.client.ask request) pre fun result s => ∃ reply a, result = .ok reply ∧
      (∀ message, reply ≠ .failure message) ∧ read reply = some a ∧ post a s) :
    Succeeds (source.ask operation request read) (fun s => pre s.server) fun a s => post a s.server := by
  refine Succeeds.bind (Succeeds.lift (Linked.returns_ask h)) fun result =>
    Succeeds.of_exists fun reply => Succeeds.of_exists fun a => Succeeds.of_and ?_
  rintro rfl
  refine Succeeds.of_and fun hfailure => Succeeds.of_and fun hread => ?_
  split
  · rename_i hsilent
    cases hsilent
  · rename_i message hmessage
    cases hmessage
    exact absurd rfl (hfailure message)
  · rename_i other hother
    cases hother
    rw [hread]
    exact Succeeds.pure fun _ hs => hs

theorem ask_succeeds {operation : StoreOperation} {request : Request} {read : Reply → Option α}
    {reply : Reply} {a : α} {after : String → Option String}
    (h : Returns (source.client.ask request) (fun s => stored s = texts) fun result s =>
      result = .ok reply ∧ stored s = after)
    (hfailure : ∀ message, reply ≠ .failure message) (hread : read reply = some a) :
    Succeeds (source.ask operation request read) (Holds stored texts) fun result s =>
      result = a ∧ Holds stored after s := by
  refine ask_succeeds_of (fun s => stored s = texts) (fun result s => result = a ∧ stored s = after) ?_
  exact h.mono (fun _ hs => hs) fun _ _ hs => ⟨reply, a, hs.1, hfailure, hread, rfl, hs.2⟩

theorem ask_scan_succeeds {glob : String} {keys : List String} {rest : List (List String)}
    {cursor : UInt64} :
    Succeeds (source.ask .fetch (.scan cursor glob) Reply.page?)
      (fun linked => Iterates source.client stored glob (keys :: rest) cursor linked.server ∧
        Holds stored texts linked)
      fun page linked => page.2 = keys ∧
        (if page.1 = 0 then rest = [] else Iterates source.client stored glob rest page.1 linked.server) ∧
        Holds stored texts linked := by
  refine ask_succeeds_of
    (fun s => Iterates source.client stored glob (keys :: rest) cursor s ∧ stored s = texts)
    (fun (page : UInt64 × List String) s => page.2 = keys ∧
      (if page.1 = 0 then rest = [] else Iterates source.client stored glob rest page.1 s) ∧
      stored s = texts) ?_
  rintro deadline w hw ⟨hiterates, htexts⟩
  obtain ⟨_, w', hrun, hw', next, rfl, hstay, hnext⟩ := hiterates deadline w hw rfl
  refine ⟨_, w', hrun, hw', .ofPage next keys, (next, keys), rfl, ?_, Reply.page?_ofPage next keys,
    rfl, hnext, hstay.trans htexts⟩
  intro message hm
  cases hm

/-- All keys of the pages are collected, if the time suffices for the pages. -/
theorem collectKeys_succeeds {glob : String} {pages : List (List String)} {patience : Nat}
    (hpatience : pages.length ≤ patience) (cursor : UInt64) :
    Succeeds (source.collectKeys glob patience cursor)
      (fun linked => Iterates source.client stored glob pages cursor linked.server ∧
        Holds stored texts linked)
      fun keys linked => keys = pages.flatten ∧ Holds stored texts linked := by
  induction pages generalizing patience cursor with
  | nil => exact Succeeds.of_and fun hnil => hnil.elim
  | cons keys rest ih =>
    obtain ⟨left, rfl⟩ := Nat.exists_eq_add_of_lt hpatience
    rw [collectKeys]
    refine Succeeds.bind ask_scan_succeeds ?_
    rintro ⟨next, found⟩
    refine Succeeds.of_and ?_
    rintro rfl
    dsimp only
    split
    · refine Succeeds.of_and ?_
      rintro rfl
      exact Succeeds.pure fun _ hs => ⟨by simp, hs⟩
    · refine Succeeds.bind (ih (by omega) next) fun more => Succeeds.of_and ?_
      rintro rfl
      exact Succeeds.pure fun _ hs => ⟨rfl, hs⟩

/-- What is stored under the keys of entries, page by page. -/
theorem fetchPages_succeeds (h : Serves source.client source.config stored)
    {pages : List (Entries Record)} (hne : ∀ page ∈ pages, page ≠ [])
    (hstored : ∀ e ∈ pages.flatten, texts e.1 = some (payload e.2) ∧ Legible e.2) :
    Succeeds (source.fetchPages (pages.map Entries.keys)) (Holds stored texts) fun records s =>
      records = Entries.values pages.flatten ∧ Holds stored texts s := by
  induction pages with
  | nil => exact Succeeds.pure fun _ hs => ⟨rfl, hs⟩
  | cons page rest ih =>
    obtain ⟨hpage, hrest⟩ := List.forall_mem_cons.mp hne
    rw [List.flatten_cons] at hstored
    obtain ⟨htexts, hmore⟩ := List.forall_mem_append.mp hstored
    have hread : (Reply.array ((Entries.keys page).map fun key => .ofStored (texts key))).list?
        Reply.textOrNil? = some (page.map fun e => some (payload e.2)) := by
      rw [Reply.list?_map _ texts (fun key => Reply.textOrNil?_ofStored (texts key)), Entries.keys, List.map_map]
      exact congrArg some (List.map_congr_left fun e he => (htexts e he).1)
    have hdecode : (page.map fun e => some (payload e.2)).reduceOption.mapM (decode .fetch) =
        .ok (Entries.values page) := by
      have hreduce : (page.map fun e => some (payload e.2)).reduceOption =
          page.map fun e => payload e.2 := by
        simp [List.reduceOption, List.filterMap_map]
      rw [hreduce, List.mapM_map]
      exact mapM_eq_ok_map fun e he => decode_payload (htexts e he).2 .fetch
    have hkeys : Entries.keys page ≠ [] := by simpa [Entries.keys] using hpage
    rw [List.map_cons, fetchPages]
    refine Succeeds.bind (ask_succeeds (h.getAll texts _ hkeys) (by intro message hm; cases hm) hread)
      fun payloads => Succeeds.of_and ?_
    rintro rfl
    rw [hdecode]
    refine Succeeds.bind (Succeeds.ofOk (fun _ hs => ⟨rfl, hs⟩)) fun records => Succeeds.of_and ?_
    rintro rfl
    refine Succeeds.bind (ih hrest hmore) fun more => Succeeds.of_and ?_
    rintro rfl
    exact Succeeds.pure fun _ hs => ⟨by simp [Entries.values], hs⟩

variable (h : Serves source.client source.config stored) {collection : String}
  (hname : isCollectionName collection = true) (id : String)

include h hname

/-- The key is known, and the connection is there. -/
private theorem succeeds_of_key {operation : StoreOperation} {next : String → Attempt (Linked Unit σ) α}
    {post : α → Linked Unit σ → Prop}
    (hnext : Succeeds (next (keyOf collection id)) (Holds stored texts) post) :
    Succeeds (do
      let key ← recordKey collection id
      source.connect operation
      next key) (Holds stored texts) post := by
  rw [recordKey_eq hname]
  refine Succeeds.bind (Succeeds.ofOk (fun _ hs => ⟨rfl, hs⟩)) fun key => Succeeds.of_and ?_
  rintro rfl
  exact Succeeds.bind (connect_succeeds h operation) fun _ => hnext

theorem put_succeeds (httl : source.config.timeToLive ≠ some 0) (record : Record) :
    Succeeds (source.put collection id record) (Holds stored texts) fun _ =>
      Holds stored (Function.update texts (keyOf collection id) (some (payload record))) := by
  have hset : Succeeds (source.ask .execute
      (.set (keyOf collection id) (payload record) source.config.timeToLive) fun _ => some ())
      (Holds stored texts) fun result s => result = () ∧
        Holds stored (Function.update texts (keyOf collection id) (some (payload record))) s :=
    ask_succeeds (h.set texts _ _ _ httl) (by intro message hm; cases hm) rfl
  exact succeeds_of_key h hname id (hset.mono (fun _ hs => hs) fun _ _ hs => hs.2)

theorem remove_succeeds :
    Succeeds (source.remove collection id) (Holds stored texts) fun _ =>
      Holds stored (Function.update texts (keyOf collection id) none) := by
  refine succeeds_of_key h hname id ?_
  refine Succeeds.bind (ask_succeeds (h.del texts _) (by intro message hm; cases hm) rfl) fun _ => ?_
  exact Succeeds.pure fun _ hs => hs.2

theorem get_succeeds {found : Option Record} (hstored : texts (keyOf collection id) = found.map payload)
    (hlegible : ∀ record, found = some record → Legible record) :
    Succeeds (source.get collection id) (Holds stored texts) fun result s =>
      result = found ∧ Holds stored texts s := by
  refine succeeds_of_key h hname id ?_
  have hget := h.get texts (keyOf collection id)
  rw [hstored] at hget
  cases found with
  | none =>
    refine Succeeds.bind (ask_succeeds hget (by intro message hm; cases hm) rfl) fun result =>
      Succeeds.of_and ?_
    rintro rfl
    exact Succeeds.pure fun _ hs => ⟨rfl, hs⟩
  | some record =>
    refine Succeeds.bind (ask_succeeds hget (by intro message hm; cases hm) rfl) fun result =>
      Succeeds.of_and ?_
    rintro rfl
    dsimp only
    rw [decode_payload (hlegible record rfl)]
    refine Succeeds.bind (Succeeds.ofOk (fun _ hs => ⟨rfl, hs⟩)) fun read => Succeeds.of_and ?_
    rintro rfl
    exact Succeeds.pure fun _ hs => ⟨rfl, hs⟩

/-- A scan finds what is stored under the keys that begin with its text, in the order of the keys. -/
theorem scan_succeeds (hscan : ScansInTime source.client stored texts) (start : Option String)
    {entries : Entries Record} (hasc : entries.Ascending)
    (hkeys : ∀ key, key ∈ Entries.keys entries ↔ (texts key).isSome = true ∧
      (keyOf collection (start.getD "")).toList <+: key.toList)
    (hstored : ∀ e ∈ entries, texts e.1 = some (payload e.2) ∧ Legible e.2) :
    Succeeds (source.scan collection start) (Holds stored texts) fun records s =>
      records = Entries.values entries ∧ Holds stored texts s := by
  have hcollect : Succeeds (source.collectKeys (keysFrom (keyOf collection (start.getD "")))
      source.client.patience 0) (Holds stored texts) fun keys s =>
        distinct keys = Entries.keys entries ∧ Holds stored texts s := by
    intro deadline w hw hp
    -- Which pages come is up to the server, and so to the state the iteration starts from.
    obtain ⟨pages, hpatience, hiterates, hmem⟩ :=
      hscan w.server.server (keysFrom (keyOf collection (start.getD ""))) hp
    obtain ⟨_, w', hrun, hw', _, rfl, rfl, htexts⟩ :=
      collectKeys_succeeds hpatience 0 deadline w hw ⟨hiterates, hp⟩
    refine ⟨_, w', hrun, hw', _, rfl, distinct_eq_of_mem_iff ?_ fun key => ?_, htexts⟩
    · rw [Entries.keys, List.pairwise_map]
      exact hasc
    · rw [hmem, hkeys, Glob.globMatches_keysFrom, List.isPrefixOf_iff_prefix]
  have hpages : Succeeds (source.fetchPages ((pieces pageSize entries).map Entries.keys))
      (Holds stored texts) fun records s =>
        records = Entries.values (pieces pageSize entries).flatten ∧ Holds stored texts s :=
    fetchPages_succeeds h (fun page => ne_nil_of_mem_pieces) (by rwa [flatten_pieces])
  rw [flatten_pieces] at hpages
  refine succeeds_of_key h hname (start.getD "") ?_
  refine Succeeds.bind hcollect fun keys => Succeeds.of_and fun hdistinct => ?_
  rw [hdistinct, Entries.keys, pieces_map]
  exact hpages

end Source

end QueryCriteria.Redis
