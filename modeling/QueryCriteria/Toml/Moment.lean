import QueryCriteria.Decimal.Numeral

/-!
Dates and times in TOML: a date, a time, or both, and then perhaps the distance from universal time.
They are no texts, so no setting can be one; only their form matters.
-/
namespace QueryCriteria.Toml

/-- A number of two digits within bounds. -/
def isTwoDigits (least most : Nat) (cs : List Char) : Bool :=
  cs.length == 2 && (Decimal.natOfDigits? cs).any fun n => least ≤ n && n ≤ most

/-- The days of a month. -/
def daysIn (year month : Nat) : Nat :=
  if month == 2 then
    if year % 4 == 0 && (year % 100 != 0 || year % 400 == 0) then 29 else 28
  else if [4, 6, 9, 11].contains month then 30 else 31

/-- A date of ten characters that exists. -/
def isDate : List Char → Bool
  | [a, b, c, d, '-', e, f, '-', g, h] =>
    match Decimal.natOfDigits? [a, b, c, d], Decimal.natOfDigits? [e, f] with
    | some year, some month => 1 ≤ month && month ≤ 12 && isTwoDigits 1 (daysIn year month) [g, h]
    | _, _ => false
  | _ => false

/-- A time with seconds, and perhaps fractions of a second. -/
def isTime : List Char → Bool
  | a :: b :: ':' :: c :: d :: ':' :: e :: f :: rest =>
    isTwoDigits 0 23 [a, b] && isTwoDigits 0 59 [c, d] && isTwoDigits 0 60 [e, f] &&
      match rest with
      | [] => true
      | '.' :: digits => !digits.isEmpty && digits.all Char.isDigit
      | _ => false
  | _ => false

/-- A distance from universal time. -/
def isOffset : List Char → Bool
  | ['Z'] | ['z'] => true
  | [sign, a, b, ':', c, d] =>
    (sign == '+' || sign == '-') && isTwoDigits 0 23 [a, b] && isTwoDigits 0 59 [c, d]
  | _ => false

/-- A date, a time, or a date and a time with or without an offset. -/
def isMoment (cs : List Char) : Bool :=
  let date := cs.take 10
  let time := (cs.drop 11).takeWhile fun c => c.isDigit || c == ':' || c == '.'
  let offset := cs.drop (11 + time.length)
  isDate cs || isTime cs ||
    (isDate date && (cs.drop 10).head?.any (fun c => c == 'T' || c == 't' || c == ' ') && isTime time
      && (offset.isEmpty || isOffset offset))

end QueryCriteria.Toml
