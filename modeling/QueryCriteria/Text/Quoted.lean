import QueryCriteria.Decimal.Numeral
import QueryCriteria.Text.Scanner

/-! Texts between double quotes, with escapes behind backslashes. -/
namespace QueryCriteria.Quoted

/-- Characters that may stand without an escape: no controls except for the tabulator. -/
def isPlain (c : Char) : Bool :=
  c == '\t' || (0x20 ≤ c.toNat && c.toNat != 0x7F)

/-- The character with a code in hexadecimal digits. -/
def ofCode? (digits : List Char) : Option Char :=
  (Decimal.natInBase? 16 digits).bind fun n => if n.isValidChar then some (Char.ofNat n) else none

/-- The character that a letter behind a backslash stands for. -/
def shortEscape? : Char → Option Char
  | '"' => some '"'
  | '\\' => some '\\'
  | 'b' => some '\x08'
  | 't' => some '\t'
  | 'n' => some '\n'
  | 'f' => some '\x0c'
  | 'r' => some '\r'
  | _ => none

/-- The characters that a quoted text stands for; which ones may be plain is given. -/
def unescape (plain : Char → Bool) : List Char → Option (List Char)
  | [] => some []
  | '\\' :: 'u' :: a :: b :: c :: d :: rest => do
    return (← ofCode? [a, b, c, d]) :: (← unescape plain rest)
  | '\\' :: 'U' :: a :: b :: c :: d :: e :: f :: g :: h :: rest => do
    return (← ofCode? [a, b, c, d, e, f, g, h]) :: (← unescape plain rest)
  | '\\' :: c :: rest => do return (← shortEscape? c) :: (← unescape plain rest)
  | c :: rest => do
    if plain c && c != '\\' then return c :: (← unescape plain rest) else none

/-- The part in front of a quote that no backslash escapes. -/
def upToQuote : List Char → List Char
  | [] => []
  | '"' :: _ => []
  | '\\' :: c :: rest => '\\' :: c :: upToQuote rest
  | c :: rest => c :: upToQuote rest

/-- What stands between two quotes, with its escapes. -/
def scanRaw : Scanner (List Char) := do
  Scanner.expect '"'
  let body := upToQuote (← Scanner.rest)
  modify (·.drop body.length)
  Scanner.expect '"'
  return body

/-- A quoted text. -/
def scan : Scanner String := do
  return String.ofList (← Scanner.lift (unescape isPlain (← scanRaw)))

end QueryCriteria.Quoted
