import QueryCriteria.Config.Setting
import QueryCriteria.Decimal.Numeral
import QueryCriteria.Text.Split
import QueryCriteria.Toml.Moment

/-! TOML values that are single words: truth values, numbers, dates and times. -/
namespace QueryCriteria.Toml

/-- Digits of a kind in groups with single underscores between them. -/
def isGrouped (isDigit : Char → Bool) (cs : List Char) : Bool :=
  (Text.splitChars '_' cs).all fun group => !group.isEmpty && group.all isDigit

def withoutUnderscores (cs : List Char) : List Char :=
  cs.filter (· != '_')

/-- The whole part of a decimal number: a single digit, or digits that do not begin with zero. -/
def isWhole (cs : List Char) : Bool :=
  isGrouped Char.isDigit cs && (cs.length == 1 || cs.head? != some '0')

/-- An integer of 64 bits with a sign. -/
def integerSetting? (n : Int) : Option Setting :=
  if -2 ^ 63 ≤ n ∧ n < 2 ^ 63 then some (.integer n) else none

def decimalInteger? (cs : List Char) : Option Setting :=
  if isWhole (Decimal.takeSign cs).2 then
    (Decimal.readInteger? (withoutUnderscores cs)).bind integerSetting?
  else none

/-- An integer of another base; it has no sign. -/
def basedInteger? (base : Nat) (digits : List Char) : Option Setting :=
  if isGrouped Char.isAlphanum digits then
    (Decimal.natInBase? base (withoutUnderscores digits)).bind fun n => integerSetting? n
  else none

/-- A number with a fraction or an exponent, or with both. None is above all finite ones. -/
def float? (cs : List Char) : Option Setting :=
  let numeral := Decimal.Numeral.ofChars cs
  if !numeral.isIntegral && isWhole numeral.whole && numeral.fraction.all (isGrouped Char.isDigit)
      && numeral.exponent.all (fun exponent => isGrouped Char.isDigit exponent.2) then
    (Decimal.readFloat? (withoutUnderscores cs)).bind fun x =>
      if x.isInfinite && !x.negative then none else some (.float x)
  else none

/-- The name of the field that marks dates and times. -/
def momentMark : String := "$__toml_private_datetime"

/-- The value of a word. -/
def scalar? (cs : List Char) : Option Setting :=
  let (sign, body) := Decimal.takeSign cs
  match String.ofList body, sign with
  | "true", none => some (.bool true)
  | "false", none => some (.bool false)
  | "inf", _ => some (.float (.infinity (sign == some '-')))
  | "nan", _ => some (.float .nan)
  | _, _ =>
    match cs with
    | '0' :: 'x' :: digits => basedInteger? 16 digits
    | '0' :: 'o' :: digits => basedInteger? 8 digits
    | '0' :: 'b' :: digits => basedInteger? 2 digits
    | _ =>
      if isMoment cs then some (.table [(momentMark, .text (String.ofList cs))])
      else (decimalInteger? cs).or (float? cs)

end QueryCriteria.Toml
