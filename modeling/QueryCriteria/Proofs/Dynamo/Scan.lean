import QueryCriteria.Dynamo.Source
import QueryCriteria.Proofs.Dynamo.RoundTrip
import QueryCriteria.Proofs.Store.Dialogue

/-!
Scans of a service whose responses are given beforehand. Wherever the service ends its pages, each page is
asked for once, behind the key that the page before it names, and an empty page with a key is not the last
one. The records are those of all pages; a request that fails or an item that is no record ends the scan.
-/
namespace QueryCriteria.Dynamo

theorem Attribute.induction {P : Attribute → Prop} (null : ∀ flag, P (.null flag)) (bool : ∀ b, P (.bool b))
    (number : ∀ digits, P (.number digits)) (text : ∀ s, P (.text s))
    (list : ∀ items, (∀ a ∈ items, P a) → P (.list items))
    (map : ∀ fields, (∀ e ∈ fields, P e.2) → P (.map fields))
    (texts : ∀ items, P (.texts items)) (numbers : ∀ items, P (.numbers items))
    (binary : ∀ encoded, P (.binary encoded)) (binaries : ∀ encoded, P (.binaries encoded))
    (unknown : P .unknown) (a : Attribute) : P a :=
  @Attribute.rec P (fun items => ∀ a ∈ items, P a) (fun fields => ∀ e ∈ fields, P e.2) (fun e => P e.2)
    null bool number text list map texts numbers binary binaries unknown
    (fun _ h => absurd h List.not_mem_nil) (fun _ _ ha hrest => List.forall_mem_cons.mpr ⟨ha, hrest⟩)
    (fun _ h => absurd h List.not_mem_nil) (fun _ _ he hrest => List.forall_mem_cons.mpr ⟨he, hrest⟩)
    (fun _ _ ha => ha) a

section Errors

variable {e : StoreError}

theorem backend_of_readNumber {digits : String} (h : readNumber digits = .error e) :
    e.backend = some backendName := by
  unfold readNumber at h
  dsimp only at h
  split at h
  · cases h
  · split at h
    · split at h
      · cases h
      · obtain rfl := Except.error.inj h
        rfl
    · obtain rfl := Except.error.inj h
      rfl

/-- What is wrong with a stored value is said in the name of the backend, however deep the value lies. -/
theorem Attribute.backend_of_toJson {a : Attribute} (h : a.toJson = .error e) :
    e.backend = some backendName := by
  induction a using Attribute.induction generalizing e with
  | null | bool | text | texts => cases h
  | number digits => exact backend_of_readNumber h
  | numbers items =>
    obtain ⟨_, _, _, _, _, hitem⟩ := mapM_eq_error_iff.mp (map_eq_error_iff.mp h)
    exact backend_of_readNumber hitem
  | list items ih =>
    rw [toJson, map_eq_error_iff, toItems_eq_mapM, mapM_eq_error_iff] at h
    obtain ⟨before, item, after, rfl, _, hitem⟩ := h
    exact ih item (List.mem_append_right before List.mem_cons_self) hitem
  | map fields ih =>
    rw [toJson, map_eq_error_iff, toRecord_eq_mapM, mapM_eq_error_iff] at h
    obtain ⟨before, field, after, rfl, _, hfield⟩ := h
    exact ih field (List.mem_append_right before List.mem_cons_self) (map_eq_error_iff.mp hfield)
  | binary | binaries | unknown =>
    obtain rfl := Except.error.inj h
    rfl

theorem Item.backend_of_toRecord {item : Item} (h : Item.toRecord item = .error e) :
    e.backend = some backendName := by
  rw [toRecord_eq_mapM, mapM_eq_error_iff] at h
  obtain ⟨_, _, _, _, _, hfield⟩ := h
  exact Attribute.backend_of_toJson (map_eq_error_iff.mp hfield)

end Errors

/-- What the service answers to a request for a page. -/
abbrev PageAnswer := Except ServiceFault Page

/-- The records of the page, or why there are none. -/
def recordsOf (answer : PageAnswer) : Except StoreError (List Record) := do
  let page ← answer.mapError (ServiceFault.toStoreError .fetch)
  page.items.mapM Item.toRecord

/-- All answers can be read, and these are the records of their pages. -/
abbrev Read (answers : List PageAnswer) (pages : List (List Record)) : Prop :=
  List.Forall₂ (fun answer records => recordsOf answer = .ok records) answers pages

theorem backend_of_recordsOf {answer : PageAnswer} {e : StoreError} (h : recordsOf answer = .error e) :
    e.backend = some backendName := by
  cases answer with
  | error fault =>
    obtain rfl := Except.error.inj h
    rfl
  | ok page =>
    obtain ⟨_, item, _, _, _, hitem⟩ := mapM_eq_error_iff.mp h
    exact Item.backend_of_toRecord hitem

/-- The key at which the page ended, if it names one. -/
def keyAfter (answer : PageAnswer) : Option Item :=
  answer.toOption.bind Page.last

theorem next?_eq_none_iff {page : Page} : page.next? = none ↔ page.last = none ∨ page.last = some [] := by
  unfold Page.next?
  cases page.last with
  | none => simp
  | some key => simp

theorem next?_eq_some_iff {page : Page} {key : Item} :
    page.next? = some key ↔ page.last = some key ∧ key ≠ [] := by
  unfold Page.next?
  cases page.last with
  | none => simp
  | some key => simp

/-- Nothing is asked after this answer, and the scan comes to this: it is a failure, or names no key. -/
inductive Final : PageAnswer → Except StoreError (List Record) → Prop
  | fails {answer : PageAnswer} {e : StoreError} (h : recordsOf answer = .error e) : Final answer (.error e)
  | ends {page : Page} {records : List Record} (h : recordsOf (.ok page) = .ok records)
    (hnext : page.next? = none) : Final (.ok page) (.ok records)

/--
The answers to the requests of a whole scan. Every page names a key that is not empty, except for the last
one, which names none or an empty one.
-/
structure PageAnswers where
  earlier : List PageAnswer
  last : PageAnswer
  goesOn : ∀ page, .ok page ∈ earlier → ∃ key, page.last = some key ∧ key ≠ []
  ends : ∀ page, last = .ok page → page.last = none ∨ page.last = some []

namespace PageAnswers

variable {answers : PageAnswers} {before after : List PageAnswer} {answer : PageAnswer}

def all (answers : PageAnswers) : List PageAnswer :=
  answers.earlier ++ [answers.last]

/-- Before any of the answers there are only such with keys. -/
theorem mem_earlier (h : answers.all = before ++ answer :: after) {other : PageAnswer}
    (hmem : other ∈ before) : other ∈ answers.earlier := by
  have hearlier : answers.earlier = before ++ (answer :: after).dropLast := by
    rw [← List.dropLast_append_cons, ← h, all, List.dropLast_concat]
  rw [hearlier]
  exact List.mem_append_left _ hmem

/-- The last answer, if it can be read, ends the scan. -/
theorem final_last (answers : PageAnswers) {records : List Record}
    (h : recordsOf answers.last = .ok records) : Final answers.last (.ok records) := by
  have hends := answers.ends
  cases hlast : answers.last with
  | error fault =>
    rw [hlast] at h
    cases h
  | ok page =>
    rw [hlast] at h
    exact .ends h (next?_eq_none_iff.mpr (hends page hlast))

/-- If all answers can be read, the pages of the earlier ones come before that of the last one. -/
theorem exists_pages {pages : List (List Record)}
    (h : Read answers.all pages) :
    ∃ front records, pages = front ++ [records] ∧ recordsOf answers.last = .ok records ∧
      Read answers.earlier front := by
  have hfront := List.forall₂_take_append pages answers.earlier [answers.last] h.flip
  have hlast := List.forall₂_drop_append pages answers.earlier [answers.last] h.flip
  obtain ⟨records, rest, hrecords, hrest, hdrop⟩ := List.forall₂_cons_right_iff.mp hlast
  obtain rfl := List.forall₂_nil_right_iff.mp hrest
  refine ⟨pages.take answers.earlier.length, records, ?_, hrecords, hfront.flip⟩
  rw [← hdrop, List.take_append_drop]

end PageAnswers

/-- The request for the first page. -/
def Query.firstRequest (table : String) (query : Query) : ScanRequest :=
  ⟨table, query.filter, query.names, Item.ofRecord query.values, none⟩

/-- A request, and one more behind the key of each page; nothing else changes between them. -/
def requestsFrom (first : ScanRequest) (pages : List PageAnswer) : List ScanRequest :=
  first :: pages.map fun answer => { first with start := keyAfter answer }

theorem requestsFrom_cons {page : Page} {key : Item} (h : page.last = some key) (first : ScanRequest)
    (pages : List PageAnswer) : requestsFrom first (.ok page :: pages) =
      first :: requestsFrom { first with start := some key } pages := by
  have hkey : keyAfter (.ok page) = some key := h
  rw [requestsFrom, List.map_cons, hkey, requestsFrom]

/-- A service that gives such answers; nothing takes any time. -/
abbrev Talk := Dialogue ScanRequest PageAnswer

namespace Talk

def service (patience : Nat) : Service Talk where
  putItem _ _ := pure (.ok ())
  deleteItem _ _ := pure (.ok ())
  getItem _ _ := pure (.ok none)
  scan request := Call.onServer (Dialogue.reply request)
  patience

/-- A source over such a service. -/
def source (patience : Nat) (config : DynamoConfig) (guard : CallGuard) (policy : RetryPolicy) :
    Source Talk :=
  ⟨service patience, config, guard, policy⟩

/-- The talk between a source and its service has come to this point. -/
def At (d : Talk) (linked : Linked Unit Talk) : Prop :=
  linked.server = d

variable {patience : Nat} {config : DynamoConfig} {guard : CallGuard} {policy : RetryPolicy}

theorem connect_yields (hconfig : Source.makeClient config = .ok ()) (d : Talk) :
    Yields (source patience config guard policy).connect (At d) (.ok ()) (At d) := by
  have hmake : Returns (pure (Source.makeClient config) : Call Talk (Except StoreError Unit))
      (fun s => s = d) fun result s => ∃ c, result = .ok c ∧ s = d :=
    Returns.pure fun _ hs => ⟨(), hconfig, hs⟩
  exact (Linked.succeeds_connection policy hmake).yields

/-- A request takes the next answer. -/
theorem ask_yields (request : ScanRequest) (d : Talk) :
    Yields (Source.ask .fetch ((source patience config guard policy).service.scan request)) (At d)
      ((d.upcoming 0).mapError (ServiceFault.toStoreError .fetch)) (At (d.after [request])) := by
  refine Returns.bind (Linked.returns_ask (d.returns_reply request)) fun answer => Returns.of_and ?_
  rintro rfl
  exact Returns.pure fun _ hs => ⟨rfl, hs⟩

section Step

variable {request : ScanRequest} {d : Talk} (left : Nat)

/-- Whatever is wrong with the next answer is the result. -/
theorem scanPages_fails {e : StoreError} (h : recordsOf (d.upcoming 0) = .error e) :
    Yields ((source patience config guard policy).scanPages (left + 1) request) (At d) (.error e)
      (At (d.after [request])) := by
  have hask : Yields (Source.ask .fetch ((source patience config guard policy).service.scan request))
      (At d) _ _ := ask_yields request d
  rw [Source.scanPages]
  cases hanswer : d.upcoming 0 with
  | error fault =>
    rw [hanswer] at hask h
    rw [← Except.error.inj h]
    exact Yields.bind_error hask
  | ok page =>
    rw [hanswer] at hask h
    have hread : page.items.mapM Item.toRecord = .error e := h
    refine Yields.bind_ok hask ?_
    rw [hread]
    exact Yields.bind_error (Yields.known _)

variable {page : Page} {records : List Record} {result : Except StoreError (List Record)}
  {post : Linked Unit Talk → Prop}

/-- A page that can be read is passed on with its records. -/
theorem page_yields {next : Page → List Record → Attempt (Linked Unit Talk) (List Record)}
    (hpage : d.upcoming 0 = .ok page) (hread : recordsOf (.ok page) = .ok records)
    (hnext : Yields (next page records) (At (d.after [request])) result post) :
    Yields (do
      let page ← Source.ask .fetch ((source patience config guard policy).service.scan request)
      let records ← (page.items.mapM Item.toRecord : Except StoreError _)
      next page records) (At d) result post := by
  have hask : Yields (Source.ask .fetch ((source patience config guard policy).service.scan request))
      (At d) _ _ := ask_yields request d
  have hitems : page.items.mapM Item.toRecord = .ok records := hread
  rw [hpage] at hask
  refine Yields.bind_ok hask ?_
  rw [hitems]
  exact Yields.bind_ok (Yields.known _) hnext

/-- Without a key in the next page, its records are all that is left. -/
theorem scanPages_ends (hpage : d.upcoming 0 = .ok page) (hread : recordsOf (.ok page) = .ok records)
    (hnext : page.next? = none) :
    Yields ((source patience config guard policy).scanPages (left + 1) request) (At d) (.ok records)
      (At (d.after [request])) := by
  refine page_yields hpage hread ?_
  rw [hnext]
  exact Yields.pure records

/-- Behind the key in the next page there is the rest, and its records follow those of the page. -/
theorem scanPages_goesOn (hpage : d.upcoming 0 = .ok page) (hread : recordsOf (.ok page) = .ok records)
    {key : Item} (hnext : page.next? = some key)
    (hrest : Yields ((source patience config guard policy).scanPages left { request with start := some key })
      (At (d.after [request])) result post) :
    Yields ((source patience config guard policy).scanPages (left + 1) request) (At d)
      (result.map (records ++ ·)) post := by
  refine page_yields hpage hread ?_
  rw [hnext]
  exact Yields.map (records ++ ·) hrest

theorem scanPages_final {answer : PageAnswer} (hanswer : d.upcoming 0 = answer)
    (h : Final answer result) :
    Yields ((source patience config guard policy).scanPages (left + 1) request) (At d) result
      (At (d.after [request])) := by
  cases h with
  | fails hfails => exact scanPages_fails left (hanswer ▸ hfails)
  | ends hread hnext => exact scanPages_ends left hanswer hread hnext

end Step

/--
The requests of a scan follow the keys of the pages, as long as these can be read, up to an answer that is
final.
-/
theorem scanPages_yields {before : List PageAnswer} {pages : List (List Record)} {final : PageAnswer}
    {result : Except StoreError (List Record)} (hpages : Read before pages)
    (hgo : ∀ page, .ok page ∈ before → ∃ key, page.last = some key ∧ key ≠ [])
    (hfinal : Final final result) {left : Nat} (hleft : before.length < left) (request : ScanRequest)
    {d : Talk} (hanswers : d.answers (before.length + 1) = before ++ [final]) :
    Yields ((source patience config guard policy).scanPages left request) (At d)
      (result.map (pages.flatten ++ ·)) (At (d.after (requestsFrom request before))) := by
  induction hpages generalizing left request d with
  | nil =>
    obtain ⟨left, rfl⟩ := Nat.exists_eq_add_one.mpr hleft
    rw [List.length_nil, d.answers_succ request] at hanswers
    have hsame : result.map ([] ++ ·) = result := by cases result <;> rfl
    rw [List.flatten_nil, hsame]
    exact scanPages_final left (List.cons.inj hanswers).1 hfinal
  | @cons answer records before pages hfirst _ ih =>
    obtain ⟨left, rfl⟩ := Nat.exists_eq_add_one.mpr (Nat.zero_lt_of_lt hleft)
    rw [List.length_cons, d.answers_succ request] at hanswers
    obtain ⟨hpage, hrest⟩ := List.cons.inj hanswers
    cases answer with
    | error fault => cases hfirst
    | ok page =>
      obtain ⟨key, hlast, hkey⟩ := hgo page List.mem_cons_self
      have hmore := ih (fun page hp => hgo page (List.mem_cons_of_mem _ hp))
        (Nat.lt_of_succ_lt_succ hleft) { request with start := some key } hrest
      have hall := scanPages_goesOn left hpage hfirst (next?_eq_some_iff.mpr ⟨hlast, hkey⟩) hmore
      have hsame : (result.map (pages.flatten ++ ·)).map (records ++ ·) =
          result.map ((records :: pages).flatten ++ ·) := by
        cases result with
        | error e => rfl
        | ok rest => exact congrArg Except.ok (List.append_assoc records pages.flatten rest).symm
      rw [Dialogue.after_after, hsame] at hall
      rw [requestsFrom_cons hlast]
      exact hall

/-- A scan connects first, which asks the service for nothing. -/
theorem scan_yields {before : List PageAnswer} {pages : List (List Record)} {final : PageAnswer}
    {result : Except StoreError (List Record)} (hconfig : Source.makeClient config = .ok ())
    (hpages : Read before pages) (hgo : ∀ page, .ok page ∈ before → ∃ key, page.last = some key ∧ key ≠ [])
    (hfinal : Final final result) (hpatience : before.length < patience) (table : String) (query : Query)
    {d : Talk} (hanswers : d.answers (before.length + 1) = before ++ [final]) :
    Yields ((source patience config guard policy).scan table query) (At d)
      (result.map (pages.flatten ++ ·))
      (At (d.after (requestsFrom (query.firstRequest table) before))) :=
  Yields.bind_ok (connect_yields hconfig d)
    (scanPages_yields hpages hgo hfinal hpatience (query.firstRequest table) hanswers)

/--
Both calls that return records come to this result after these requests. The one returns all records, the
other one the first of them.
-/
structure Answers (source : Source Talk) (command : Command) (d : Talk)
    (result : Except StoreError (List Record)) (asked : List ScanRequest) : Prop where
  fetch {w : World (Linked Unit Talk)} (hw : w.cancelled = false) (hd : At d w.server) :
    ∃ w', source.toDataSource.fetch command w = (result, w') ∧ w'.cancelled = false ∧
      At (d.after asked) w'.server
  fetchOne {w : World (Linked Unit Talk)} (hw : w.cancelled = false) (hd : At d w.server) :
    ∃ w', source.toDataSource.fetchOne command w = (result.map List.head?, w') ∧
      w'.cancelled = false ∧ At (d.after asked) w'.server

/-- An error of a scan names the backend already, so the guard returns it as it is. -/
theorem answers_of_yields {source : Source Talk} {table : String} {query : Query} {d : Talk}
    {result : Except StoreError (List Record)} {asked : List ScanRequest}
    (hbackend : ∀ e, result = .error e → e.backend = some backendName)
    (h : Yields (source.scan table query) (At d) result (At (d.after asked))) :
    Answers source (.scan table query) d result asked where
  fetch hw hd := by
    have hrun := source.guard.run_of_yields backendName .fetch h hw hd
    rw [mapError_withBackend hbackend] at hrun
    exact hrun
  fetchOne hw hd := by
    have hfirst := Yields.map List.head? h
    have hrun := source.guard.run_of_yields backendName .fetchOne hfirst hw hd
    rw [mapError_withBackend fun e he => hbackend e (map_eq_error_iff.mp he)] at hrun
    exact hrun

end Talk

open Talk in
/--
A scan makes one request for each answer: the first from the start of the table, each other one behind the
key in the answer before it, and otherwise the same. If all items of all pages can be read, the records are
those of the pages, one page after the other. Otherwise the first failure, of a request or of an item, is
the result, and nothing more is asked.
-/
theorem scan_reads_each_page_once (patience : Nat) (config : DynamoConfig) (guard : CallGuard)
    (policy : RetryPolicy) (table : String) (query : Query) (answers : PageAnswers) (d : Talk)
    (hconfig : Source.makeClient config = .ok ()) (hpatience : answers.all.length ≤ patience)
    (hanswers : d.answers answers.all.length = answers.all) :
    let source := source patience config guard policy
    let first := query.firstRequest table
    (∀ pages, Read answers.all pages →
      Answers source (.scan table query) d (.ok pages.flatten) (requestsFrom first answers.earlier)) ∧
    ∀ before failed after e, answers.all = before ++ failed :: after →
      (∀ answer ∈ before, ∃ records, recordsOf answer = .ok records) → recordsOf failed = .error e →
      Answers source (.scan table query) d (.error e) (requestsFrom first before) := by
  intro source first
  constructor
  · intro pages hpages
    obtain ⟨front, records, rfl, hlast, hfront⟩ := PageAnswers.exists_pages hpages
    have hlength : answers.all.length = answers.earlier.length + 1 := by
      rw [PageAnswers.all, List.length_append, List.length_singleton]
    rw [hlength] at hpatience hanswers
    refine answers_of_yields (fun e h => by cases h) ?_
    have hscan : Yields (source.scan table query) (At d) _ _ :=
      scan_yields hconfig hfront answers.goesOn (answers.final_last hlast) hpatience table query hanswers
    rw [List.flatten_append, List.flatten_singleton]
    exact hscan
  · intro before failed after e hsplit hbefore hfailed
    obtain ⟨pages, hpages⟩ := exists_forall₂_of_ok hbefore
    have hall : answers.all = (before ++ [failed]) ++ after := by
      rw [hsplit, List.append_cons]
    have hfirst : d.answers (before.length + 1) = before ++ [failed] := by
      have hprefix : d.answers (before ++ [failed]).length = before ++ [failed] :=
        d.answers_prefix (hall ▸ hanswers)
      rwa [List.length_append] at hprefix
    have hleft : before.length < patience := by
      rw [hsplit, List.length_append, List.length_cons] at hpatience
      omega
    refine answers_of_yields ?_ ?_
    · rintro _ ⟨⟩
      exact backend_of_recordsOf hfailed
    · exact scan_yields hconfig hpages (fun page hp => answers.goesOn page (PageAnswers.mem_earlier hsplit hp))
        (.fails hfailed) hleft table query hfirst

/-- A page on which no item has passed the filter, with the key where the service stopped. -/
def emptyPage : Page := ⟨[], some [("id", .text "a")]⟩

theorem goesOn_emptyPage (page : Page) (h : .ok page ∈ [(.ok emptyPage : PageAnswer)]) :
    ∃ key, page.last = some key ∧ key ≠ [] := by
  obtain rfl := Except.ok.inj (List.mem_singleton.mp h)
  exact ⟨_, rfl, List.cons_ne_nil _ _⟩

theorem ends_oneItem (page : Page) (h : (.ok ⟨[[("id", .text "b")]], some []⟩ : PageAnswer) = .ok page) :
    page.last = none ∨ page.last = some [] := by
  obtain rfl := Except.ok.inj h
  exact .inr rfl

theorem ends_timedOut (page : Page) (h : (.error .timedOut : PageAnswer) = .ok page) :
    page.last = none ∨ page.last = some [] := by
  cases h

/-- Behind the empty page there is one with an item. -/
def itemBehindEmpty : PageAnswers := ⟨[.ok emptyPage], _, goesOn_emptyPage, ends_oneItem⟩

/-- The request behind the empty page fails. -/
def failureBehindEmpty : PageAnswers := ⟨[.ok emptyPage], _, goesOn_emptyPage, ends_timedOut⟩

/-- A talk with these answers. -/
def PageAnswers.talk (answers : PageAnswers) : Talk := ⟨fun i => answers.all.getD i (.error .timedOut), []⟩

def openOrders : Query := ⟨some "#n0 = :v0", [("#n0", "status")], [(":v0", .text "open")]⟩

theorem scan_reads_each_page_once_behindEmpty :
    Source.makeClient .default = .ok () ∧ itemBehindEmpty.all.length ≤ 2 ∧
    itemBehindEmpty.talk.answers 2 = itemBehindEmpty.all ∧
    failureBehindEmpty.talk.answers 2 = failureBehindEmpty.all ∧
    let source := Talk.source 2 .default .default .never
    let first := openOrders.firstRequest "orders"
    let asked := [first, { first with start := some [("id", .text "a")] }]
    Talk.Answers source (.scan "orders" openOrders) itemBehindEmpty.talk (.ok [[("id", .text "b")]]) asked ∧
    Talk.Answers source (.scan "orders" openOrders) failureBehindEmpty.talk
      (.error (ServiceFault.toStoreError .fetch .timedOut)) asked := by
  refine ⟨rfl, Nat.le_refl 2, rfl, rfl, ?_, ?_⟩
  · have hscan := scan_reads_each_page_once 2 .default .default .never "orders" openOrders itemBehindEmpty
      itemBehindEmpty.talk rfl (Nat.le_refl 2) rfl
    exact hscan.1 [[], [[("id", .text "b")]]] (.cons rfl (.cons rfl .nil))
  · have hscan := scan_reads_each_page_once 2 .default .default .never "orders" openOrders failureBehindEmpty
      failureBehindEmpty.talk rfl (Nat.le_refl 2) rfl
    exact hscan.2 [.ok emptyPage] _ [] _ rfl (List.forall_mem_singleton.mpr ⟨[], rfl⟩) rfl

end QueryCriteria.Dynamo
