import QueryCriteria.Text.Split

/-!
Addresses of databases as they may be shown. The part between the scheme and the last at sign holds
the user and, behind a colon, the password; only the password is hidden.
-/
namespace QueryCriteria.Sql

/-- The part of a text from one place up to another; none if the places are the wrong way round. -/
def slice? (cs : List Char) (start stop : Nat) : Option (List Char) :=
  if start ≤ stop ∧ stop ≤ cs.length then some ((cs.take stop).drop start) else none

/-- Where a text begins for the first time. -/
def indexOf? (part : List Char) : List Char → Option Nat
  | [] => if part.isEmpty then some 0 else none
  | c :: rest =>
    if part.isPrefixOf (c :: rest) then some 0 else (indexOf? part rest).map (· + 1)

/-- Where a character stands for the last time. -/
def lastIndexOf? (c : Char) (cs : List Char) : Option Nat :=
  (cs.reverse.findIdx? (· == c)).map fun i => cs.length - 1 - i

/--
An address with three asterisks for the password, if it holds one. There is no such text for an
address whose last at sign stands in front of the end of the scheme.
-/
def maskPassword? (url : String) : Option String :=
  let cs := url.toList
  match lastIndexOf? '@' cs, indexOf? "://".toList cs with
  | some stop, some scheme => do
    let credentials ← slice? cs (scheme + 3) stop
    match credentials.findIdx? (· == ':') with
    | some colon =>
      let start ← slice? cs 0 (scheme + 3)
      let user ← slice? credentials 0 colon
      let rest ← slice? cs stop cs.length
      return String.ofList (start ++ user ++ ":***".toList ++ rest)
    | none => return url
  | _, _ => some url

end QueryCriteria.Sql
