/-! Scanners: they take characters from the front of a text, or refuse it. -/
namespace QueryCriteria

abbrev Scanner := StateT (List Char) Option

namespace Scanner

variable {α : Type}

def refuse : Scanner α := fun _ => none

/-- What has not been taken yet. -/
def rest : Scanner (List Char) := get

def peek : Scanner (Option Char) := do
  return (← rest).head?

/-- Takes any character. -/
def next : Scanner Char
  | c :: rest => some (c, rest)
  | [] => none

/-- Takes a character if it is there. -/
def skipIf (c : Char) : Scanner Bool := do
  if (← peek) = some c then
    let _ ← next
    return true
  else return false

def expect (c : Char) : Scanner Unit := do
  unless ← skipIf c do refuse

/-- Takes a text if it is there. -/
def skipText (s : String) : Scanner Bool := fun cs =>
  if s.toList.isPrefixOf cs then some (true, cs.drop s.length) else some (false, cs)

def takeWhile (p : Char → Bool) : Scanner (List Char) := fun cs =>
  some (cs.takeWhile p, cs.dropWhile p)

def skipWhile (p : Char → Bool) : Scanner Unit := do
  let _ ← takeWhile p

/-- A part of the scanner that may refuse. -/
def lift (a : Option α) : Scanner α := fun cs => a.map (·, cs)

/-- The outcome for a text that is taken as a whole. -/
def runAll (scanner : Scanner α) (cs : List Char) : Option α :=
  match scanner cs with
  | some (a, []) => some a
  | _ => none

end Scanner

end QueryCriteria
