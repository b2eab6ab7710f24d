import QueryCriteria.Text.Address
import QueryCriteria.Text.Percent

/-! Where the database of an address is, and which addresses are refused. -/
namespace QueryCriteria.Sql

/-- How a server is reached. -/
inductive Destination where
  /-- Through a socket in a directory. -/
  | socket (directory : String)
  | host (name : String)
deriving DecidableEq

namespace Destination

/-- The host of an address that names none. -/
def standardHost : String := "localhost"

/-- Names that begin with a slash are directories. -/
def ofName (name : String) : Destination :=
  if name.startsWith "/" then .socket name else .host name

/-- A socket, once named, is not given up for a host. -/
def redirect (old new : Destination) : Destination :=
  match old, new with
  | .socket _, .host _ => old
  | _, _ => new

/-- How a connection may be encrypted. -/
def encryptions : List String :=
  ["disable", "allow", "prefer", "require", "verify-ca", "verify-full"]

/-- A number without a sign, below a bound. -/
def isNatural (bound : Nat) (s : String) : Bool :=
  s.toList.head? != some '-' && (Decimal.readInteger? s.toList).any fun (n : Int) => n < bound

/-- The effect of a field of the query; some values are refused, and most fields do not matter here. -/
def readField? (destination : Destination) (field : String × String) : Option Destination :=
  let (name, value) := field
  let unlessRefused (allowed : Bool) := if allowed then some destination else none
  match name with
  | "sslmode" | "ssl-mode" =>
    unlessRefused (encryptions.contains (String.ofList (Decimal.lowerChars value.toList)))
  | "statement-cache-capacity" => unlessRefused (isNatural (2 ^ 64) value)
  | "port" => unlessRefused (isNatural (2 ^ 16) value)
  | "host" => some (destination.redirect (ofName value))
  | "hostaddr" => if Host.isNumber value then some (destination.redirect (.host value)) else none
  | _ => some destination

/-- The destination that the host of an address names; escapes matter only in directories. -/
def ofHost? (name : String) : Option Destination :=
  match Percent.decode name.toList with
  | 0x2F :: rest => (Percent.ofBytes? (0x2F :: rest)).map .socket
  | _ => some (.host name)

/-- Where an address leads; none if it is refused. User, password and database must be texts. -/
def ofAddress? (url : String) : Option Destination := do
  let address ← Address.parse? url
  let destination ← match address.host with
    | some name => ofHost? name
    | none => some (.host standardHost)
  let texts := [address.user, address.password, address.path]
  if texts.all fun s => (Percent.decodeText? s).isSome then
    (Percent.fields address.query).foldlM readField? destination
  else none

/-- Whether a host is the machine itself, where a missing server refuses connections at once. -/
def isLocal : Destination → Bool
  | .socket _ => false
  | .host name =>
    name == standardHost || name == "0.0.0.0" || name == "[::1]" || name == "::1" || name.startsWith "127."

end Destination

end QueryCriteria.Sql
