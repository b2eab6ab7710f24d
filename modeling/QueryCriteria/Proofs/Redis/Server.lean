import Mathlib.Logic.Function.Basic
import QueryCriteria.Proofs.Decimal.Numeral
import QueryCriteria.Proofs.Effect.Returns
import QueryCriteria.Proofs.Redis.Glob
import QueryCriteria.Redis.Source

/-!
What a source may rely on in a server that is always reachable: it is a map from keys to texts in which
nothing expires, and its scans go over all matching keys, in pages that split, reorder and repeat the
keys in any way.
-/
namespace QueryCriteria.Redis

variable {σ : Type}

/-- What is stored under a key, as it stands in a reply. -/
def Reply.ofStored : Option String → Reply
  | some payload => .bulk payload
  | none => .nil

def Reply.ofPage (next : UInt64) (keys : List String) : Reply :=
  .array [.bulk (toString next.toNat), .array (keys.map .bulk)]

/--
From the state on, an iteration that goes on at the cursor returns these pages and ends with the last of
them; the stored texts stay as they are.
-/
def Iterates (client : Client σ) (stored : σ → String → Option String) (glob : String) :
    List (List String) → UInt64 → σ → Prop
  | [], _, _ => False
  | keys :: rest, cursor, s =>
    Returns (client.ask (.scan cursor glob)) (fun s' => s' = s) fun reply s' =>
      ∃ next, reply = .ok (.ofPage next keys) ∧ stored s' = stored s ∧
        if next = 0 then rest = [] else Iterates client stored glob rest next s'

/-- The server of the client is always reachable, and `stored` are the texts in it. -/
structure Serves (client : Client σ) (config : RedisConfig) (stored : σ → String → Option String) :
    Prop where
  makePool : ∀ texts, Returns (client.makePool config) (fun s => stored s = texts) fun result s =>
    result = .ok () ∧ stored s = texts
  connect : ∀ texts, Returns client.connect (fun s => stored s = texts) fun result s =>
    result = .ok () ∧ stored s = texts
  /-- The server refuses to store a text for no time at all. -/
  set : ∀ texts key payload seconds, seconds ≠ some 0 →
    Returns (client.ask (.set key payload seconds)) (fun s => stored s = texts) fun reply s =>
      reply = .ok (.status "OK") ∧ stored s = Function.update texts key (some payload)
  get : ∀ texts key, Returns (client.ask (.get key)) (fun s => stored s = texts) fun reply s =>
    reply = .ok (.ofStored (texts key)) ∧ stored s = texts
  del : ∀ texts key, Returns (client.ask (.del key)) (fun s => stored s = texts) fun reply s =>
    reply = .ok (.integer (if (texts key).isSome then 1 else 0)) ∧
      stored s = Function.update texts key none
  getAll : ∀ texts keys, keys ≠ [] →
    Returns (client.ask (.getAll keys)) (fun s => stored s = texts) fun reply s =>
      reply = .ok (.array (keys.map fun key => .ofStored (texts key))) ∧ stored s = texts

/--
As long as these texts are stored, a full iteration returns every matching key at least once and no
other key, and its requests fit into the time of a call.
-/
def ScansInTime (client : Client σ) (stored : σ → String → Option String)
    (texts : String → Option String) : Prop :=
  ∀ s glob, stored s = texts → ∃ pages, pages.length ≤ client.patience ∧
    Iterates client stored glob pages 0 s ∧
    ∀ key, key ∈ pages.flatten ↔ (texts key).isSome = true ∧ globMatches glob key = true

namespace Reply

theorem textOrNil?_ofStored (stored : Option String) : (ofStored stored).textOrNil? = some stored := by
  cases stored <;> rfl

theorem number?_bulk (n : UInt64) : (Reply.bulk (toString n.toNat)).number? = some n := by
  have hread : Decimal.readInteger? (toString n.toNat).toList = some (n.toNat : Int) :=
    Decimal.readInteger?_toString n.toNat
  have hsign : ((toString n.toNat).toList.head? == some '-') = false := by
    rw [Decimal.toList_toString, beq_eq_false_iff_ne]
    intro h
    have hminus := Decimal.isDigit_of_mem_toDigits (List.mem_of_mem_head? h)
    exact absurd hminus (by decide)
  have hlt : (n.toNat : Int) < 2 ^ 64 := Int.ofNat_lt.mpr n.toNat_lt
  rw [number?, hsign, hread, if_neg Bool.false_ne_true, Option.bind_some, if_pos hlt,
    Int.toNat_natCast, UInt64.ofNat_toNat]

theorem list?_map {α β : Type} {read : Reply → Option β} (write : α → Reply) (f : α → β)
    (h : ∀ a, read (write a) = some (f a)) (items : List α) :
    (Reply.array (items.map write)).list? read = some (items.map f) := by
  rw [list?]
  induction items with
  | nil => rfl
  | cons a items ih =>
    rw [List.map_cons, List.mapM_cons, h, ih]
    rfl

theorem page?_ofPage (next : UInt64) (keys : List String) :
    (ofPage next keys).page? = some (next, keys) := by
  have hkeys : (Reply.array (keys.map .bulk)).list? text? = some (keys.map id) :=
    list?_map .bulk id (fun _ => rfl) keys
  rw [List.map_id] at hkeys
  rw [ofPage, page?, number?_bulk, hkeys]
  rfl

end Reply

end QueryCriteria.Redis
