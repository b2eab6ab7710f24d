import QueryCriteria.Decimal.Numeral

/-!
Requests to a Redis server, and its replies. A reply has no fixed type: what is wanted of it decides
how it is read, and what cannot be read that way is an error.
-/
namespace QueryCriteria.Redis

inductive Request where
  /-- Stores a text, perhaps for a number of seconds only. -/
  | set (key payload : String) (seconds : Option UInt64)
  | get (key : String)
  | del (key : String)
  /-- The next keys that match a glob. -/
  | scan (cursor : UInt64) (glob : String)
  | getAll (keys : List String)

/-- How many keys one request asks for. -/
def pageSize : Nat := 100

/-- The words of a request. -/
def Request.words : Request → List String
  | .set key payload none => ["SET", key, payload]
  | .set key payload (some seconds) => ["SET", key, payload, "EX", toString seconds.toNat]
  | .get key => ["GET", key]
  | .del key => ["DEL", key]
  | .scan cursor glob =>
    ["SCAN", toString cursor.toNat, "MATCH", glob, "COUNT", toString pageSize]
  | .getAll keys => "MGET" :: keys

inductive Reply where
  | nil
  | status (s : String)
  | integer (n : Int)
  | bulk (s : String)
  | array (items : List Reply)
  /-- The server refuses the request. -/
  | failure (message : String)

namespace Reply

variable {α : Type}

def text? : Reply → Option String
  | .bulk s | .status s => some s
  | .integer n => some (toString n)
  | _ => none

/-- A text that may be missing. -/
def textOrNil? : Reply → Option (Option String)
  | .nil => some none
  | reply => reply.text?.map some

/-- An unsigned 64-bit number, also as a text. Negative integers wrap around. -/
def number? : Reply → Option UInt64
  | .integer n => some (UInt64.ofNat (n % 2 ^ 64).toNat)
  | .bulk s | .status s =>
    if s.toList.head? == some '-' then none
    else (Decimal.readInteger? s.toList).bind fun n =>
      if n < 2 ^ 64 then some (UInt64.ofNat n.toNat) else none
  | _ => none

/-- A list; a text stands for the list of it alone, and nil for the empty one. -/
def list? (read : Reply → Option α) : Reply → Option (List α)
  | .array items => items.mapM read
  | .bulk s => (read (.bulk s)).map ([·])
  | .nil => some []
  | _ => none

/-- A page of keys, and the cursor of the next page; zero if it was the last. -/
def page? : Reply → Option (UInt64 × List String)
  | .array [cursor, keys] => do return (← cursor.number?, ← keys.list? text?)
  | _ => none

end Reply

end QueryCriteria.Redis
