import QueryCriteria.Text.Host

/-!
Addresses of servers: a scheme, a user with a password, a host, a port, a path and a query. Texts that
are no addresses are refused. The parts keep their escapes.
-/
namespace QueryCriteria

structure Address where
  /-- In lower case. -/
  scheme : String
  user : String
  password : String
  /-- A name, or a number between brackets. -/
  host : Option String
  port : Option Nat
  /-- Without segments of points; it begins with a slash if there is a host. -/
  path : String
  query : String

namespace Address

def isSchemeChar (c : Char) : Bool :=
  c.isAlphanum || c == '+' || c == '-' || c == '.'

/-- A scheme begins with a letter. -/
def isScheme (cs : List Char) : Bool :=
  cs.head?.any Char.isAlpha && cs.all isSchemeChar

/-- Schemes whose hosts are looked up in a directory, and which take a backslash for a slash. -/
def directorySchemes : List String :=
  ["http", "https", "ws", "wss", "ftp"]

/-- The text in front of the last occurrence of a character, and the text behind it. -/
def splitLast? (mark : Char) (cs : List Char) : Option (List Char × List Char) :=
  match cs.reverse.dropWhile (· != mark) with
  | [] => none
  | _ :: front => some (front.reverse, (cs.reverse.takeWhile (· != mark)).reverse)

/-- The number of 16 bits behind the colon of a host; it may be missing. -/
def parsePort? (cs : List Char) : Option (Option Nat) :=
  if cs.isEmpty then some none
  else ((Decimal.natOfDigits? cs).filter (· < 2 ^ 16)).map some

/-- A host, perhaps with a number behind it. The colons between brackets belong to the host. -/
def parseHost? (isHost : List Char → Bool) (cs : List Char) : Option (String × Option Nat) := do
  let bracketed := cs.head? == some '['
  let host := if bracketed then cs.takeWhile (· != ']') ++ [']'] else cs.takeWhile (· != ':')
  if host.length > cs.length || !isHost host then none
  let port ← match cs.drop host.length with
    | [] => some none
    | ':' :: rest => if host.isEmpty then none else parsePort? rest
    | _ => none
  return (String.ofList host, port)

/-- A segment for the directory itself. -/
def isHere (segment : List Char) : Bool :=
  let lower := String.ofList (Decimal.lowerChars segment)
  lower == "." || lower == "%2e"

/-- A segment for the directory above. -/
def isAbove (segment : List Char) : Bool :=
  ["..", ".%2e", "%2e.", "%2e%2e"].contains (String.ofList (Decimal.lowerChars segment))

/-- The segments of a path, the last one first, with those of points worked in. -/
def stepSegment (segments : List (List Char)) (segment : List Char) : List (List Char) :=
  if isAbove segment then segments.drop 1
  else if isHere segment then segments
  else segment :: segments

/-- A path that begins with a slash, without segments of points. -/
def straighten (path : List Char) : String :=
  let segments := Text.splitChars '/' (path.drop 1)
  let last := segments.getLast?.getD []
  let kept := segments.foldl stepSegment []
  let kept := if isHere last || isAbove last then [] :: kept else kept
  String.join (kept.reverse.map fun segment => "/" ++ String.ofList segment)

/-- What an address is read from: blanks and controls at the ends and ends of lines do not count. -/
def significant (s : String) : List Char :=
  let isEdge (c : Char) := c.toNat ≤ 0x20
  let cs := (s.toList.dropWhile isEdge).reverse.dropWhile isEdge
  cs.reverse.filter fun c => c != '\t' && c != '\n' && c != '\r'

/-- User and password, with a colon between them. -/
def splitUser (cs : List Char) : String × String :=
  let user := cs.takeWhile (· != ':')
  (String.ofList user, String.ofList (cs.drop (user.length + 1)))

/-- The path of an address with a host: it begins with a slash unless it is empty. -/
def rooted (path : List Char) : List Char :=
  if path.isEmpty || path.head? == some '/' then path else '/' :: path

/-- Host, port, user and password of an address that may lack them all. -/
def parseAuthority? (isHost : List Char → Bool) (scheme path query : String) (ended : Bool)
    (cs : List Char) : Option Address := do
  let (credentials, server) := (splitLast? '@' cs).getD ([], cs)
  let (user, password) := splitUser credentials
  let (host, port) ← parseHost? isHost server
  let isNamed := user ≠ "" ∨ password ≠ ""
  let isMarked := credentials.isEmpty && cs.contains '@' && !ended
  if host = "" ∧ (isNamed ∨ isMarked) then none
  return ⟨scheme, user, password, if host = "" then none else some host, port, path, query⟩

/--
The address that a text spells. Behind two slashes stands the host with what belongs to it, up to a
slash, a question mark or a hash.
-/
def parse? (s : String) : Option Address := do
  let text := significant s
  let scheme := text.takeWhile (· != ':')
  if !isScheme scheme || scheme.length == text.length then none
  let lower := String.ofList (Decimal.lowerChars scheme)
  let cs := (text.drop (scheme.length + 1)).takeWhile (· != '#')
  let query := String.ofList ((cs.dropWhile (· != '?')).drop 1)
  let hasMore := cs.contains '?' || text.contains '#'
  let cs := cs.takeWhile (· != '?')
  if directorySchemes.contains lower then
    let rest := (cs.map fun c => if c = '\\' then '/' else c).dropWhile (· == '/')
    let authority := rest.takeWhile (· != '/')
    let path := straighten ('/' :: rest.drop (authority.length + 1))
    let address ← parseAuthority? (Host.isHost Host.isForbiddenInDirectory) lower path query false authority
    if address.host.isNone then none else return address
  else
    match cs with
    | '/' :: '/' :: rest =>
      let authority := rest.takeWhile (· != '/')
      let path := rest.drop authority.length
      let path := if path.isEmpty then "" else straighten (rooted path)
      parseAuthority? (Host.isHost Host.isForbidden) lower path query (rest == authority && !hasMore) authority
    | '/' :: _ => return ⟨lower, "", "", none, none, straighten cs, query⟩
    | _ => return ⟨lower, "", "", none, none, String.ofList cs, query⟩

end Address

end QueryCriteria
