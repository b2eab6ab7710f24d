import QueryCriteria.Text.Address
import QueryCriteria.Text.Percent

/-! Which addresses a Redis client can use. -/
namespace QueryCriteria.Redis

/-- Schemes of servers that are reached through a file. -/
def fileSchemes : List String :=
  ["unix", "redis+unix", "valkey+unix"]

/-- Schemes of servers that are reached over a network, without encryption. -/
def networkSchemes : List String :=
  ["redis", "valkey"]

/-- The versions of the protocol. -/
def protocols : List String :=
  ["2", "resp2", "3", "resp3"]

/-- The number of a database has 64 bits with a sign. -/
def isDatabase (s : String) : Bool :=
  (Decimal.readInteger? s.toList).any fun n => -2 ^ 63 ≤ n ∧ n < 2 ^ 63

/-- The number of a database in a path: none, or a number between slashes. -/
def isDatabasePath (path : String) : Bool :=
  let cs := (path.toList.dropWhile (· == '/')).reverse.dropWhile (· == '/')
  cs.isEmpty || isDatabase (String.ofList cs.reverse)

/-- The value of the last field with a name. -/
def lastField? (fields : List (String × String)) (name : String) : Option String :=
  (fields.reverse.find? (·.1 == name)).map (·.2)

/-- A condition on an address, with what is wrong if it does not hold. -/
abbrev Condition := Bool × String

/-- The conditions on the address of a server that is reached over a network. -/
def networkConditions (address : Address) : List Condition :=
  [(address.host.isSome, "the host is missing"),
    (isDatabasePath address.path, "the database is not a number"),
    ((Percent.decodeText? address.user).isSome, "the name of the user is no text"),
    ((Percent.decodeText? address.password).isSome, "the password is no text")]

/-- The conditions on the address of a server that is reached through a file. -/
def fileConditions (address : Address) : List Condition :=
  let database := lastField? (Percent.fields address.query) "db"
  [(address.host.all (· == "localhost") && address.path.startsWith "/", "the file is missing"),
    (database.all isDatabase, "the database is not a number")]

/-- What is wrong with an address, if anything is. -/
def addressFault? (url : String) : Option String :=
  match Address.parse? url with
  | none => some "the text is not an address"
  | some address =>
    let protocol := lastField? (Percent.fields address.query) "protocol"
    let conditions :=
      if fileSchemes.contains address.scheme then fileConditions address
      else if networkSchemes.contains address.scheme then networkConditions address
      else [(false, "the scheme is not known")]
    ((conditions ++ [(protocol.all protocols.contains, "the version of the protocol is not known")]).find?
      (!·.1)).map (·.2)

end QueryCriteria.Redis
