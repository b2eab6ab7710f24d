import QueryCriteria.Decimal.Numeral
import QueryCriteria.Text.Split

/-! Hosts in addresses: names, and numbers of 32 and of 128 bits as they are written. -/
namespace QueryCriteria.Host

/-- A number of eight bits in decimal digits, without a leading zero. -/
def isOctet (cs : List Char) : Bool :=
  !cs.isEmpty && (cs.length == 1 || cs.head? != some '0') && (Decimal.natOfDigits? cs).any (· < 2 ^ 8)

/-- A number of 32 bits: four octets with points between them. -/
def isDotted (cs : List Char) : Bool :=
  let octets := Text.splitChars '.' cs
  octets.length == 4 && octets.all isOctet

def isHexDigit (c : Char) : Bool :=
  c.isDigit || "abcdefABCDEF".toList.contains c

/--
Whether what follows some of the eight groups completes a number of 128 bits. One run of zero groups may
be left out, and a number of 32 bits may stand for the last two.
-/
def completes (groups : Nat) (shortened : Bool) (cs : List Char) : Bool :=
  match cs with
  | [] => shortened || groups == 8
  | ':' :: rest => groups < 8 && !shortened && completes (groups + 1) true rest
  | c :: rest =>
    let group := ((c :: rest).take 4).takeWhile isHexDigit
    groups < 8 && !group.isEmpty &&
      match h : (c :: rest).drop group.length with
      | [] => shortened || groups + 1 == 8
      | ':' :: tail =>
        have : tail.length < rest.length + 1 := by
          have := congrArg List.length h
          simp only [List.length_drop, List.length_cons] at this
          omega
        !tail.isEmpty && completes (groups + 1) shortened tail
      | '.' :: _ => groups ≤ 6 && isDotted (c :: rest) && (shortened || groups == 6)
      | _ => false
termination_by cs.length

/-- A number of 128 bits: groups of hexadecimal digits with colons between them. -/
def isGrouped : List Char → Bool
  | ':' :: ':' :: rest => completes 1 true rest
  | ':' :: _ => false
  | cs => completes 0 false cs

/-- A number of 32 or of 128 bits. -/
def isNumber (s : String) : Bool :=
  isDotted s.toList || isGrouped s.toList

/-- Characters that no name of a host may hold. -/
def isForbidden (c : Char) : Bool :=
  c.toNat == 0 || " #/:<>?@[\\]^|".toList.contains c

/-- Names that are not looked up in a directory may hold more characters than others. -/
def isForbiddenInDirectory (c : Char) : Bool :=
  isForbidden c || c == '%' || c.toNat < 0x20 || c.toNat == 0x7F

/-- A number between brackets, or a name. -/
def isHost (forbidden : Char → Bool) (cs : List Char) : Bool :=
  match cs with
  | '[' :: rest => rest.getLast? == some ']' && isGrouped rest.dropLast
  | _ => !cs.any forbidden

end QueryCriteria.Host
