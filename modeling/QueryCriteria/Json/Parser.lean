import QueryCriteria.Json.Approximate
import QueryCriteria.Json.Basic

/-!
Reading JSON text in two stages: the text is cut into tokens, and the tokens drive a stack machine
that holds the containers still open. The later of two fields with one name counts.
-/
namespace QueryCriteria.Json

/-- Why a text is not JSON. -/
inductive Fault where
  | unexpectedEnd
  | unexpected (c : Char)
  | invalidNumber
  | numberOutOfRange
  | loneSurrogate
  | misplacedToken
  | tooDeep
deriving DecidableEq, Repr

/-- The smallest pieces of JSON text. -/
inductive Token where
  | openArray
  | closeArray
  | openObject
  | closeObject
  | comma
  | colon
  | null
  | bool (b : Bool)
  | number (n : Number)
  | text (s : String)

/-- The four blanks that JSON allows between tokens. -/
def isGap (c : Char) : Bool :=
  c == ' ' || c == '\n' || c == '\t' || c == '\r'

private def hexValue? (c : Char) : Option Nat :=
  if c.isDigit then some (c.toNat - '0'.toNat)
  else if 'a' ≤ c && c ≤ 'f' then some (c.toNat - 'a'.toNat + 10)
  else if 'A' ≤ c && c ≤ 'F' then some (c.toNat - 'A'.toNat + 10)
  else none

/-- The 16-bit unit that four hexadecimal digits stand for. -/
private def unit? (a b c d : Char) : Option Nat := do
  return ((← hexValue? a) * 16 + (← hexValue? b)) * 256 + (← hexValue? c) * 16 + (← hexValue? d)

private def isHighSurrogate (n : Nat) : Bool := 0xD800 ≤ n && n < 0xDC00

private def isLowSurrogate (n : Nat) : Bool := 0xDC00 ≤ n && n < 0xE000

private def plainEscape? : Char → Option Char
  | '"' => some '"'
  | '\\' => some '\\'
  | '/' => some '/'
  | 'b' => some (Char.ofNat 8)
  | 'f' => some (Char.ofNat 12)
  | 'n' => some '\n'
  | 'r' => some '\r'
  | 't' => some '\t'
  | _ => none

/--
The character that an escape stands for, and the text behind it; the backslash itself is already
read. A pair of escaped surrogates is one character; a surrogate without its partner is refused.
-/
private def unescape : List Char → Except Fault (Char × List Char)
  | 'u' :: a :: b :: c :: d :: rest =>
    match unit? a b c d with
    | none => .error (.unexpected a)
    | some unit =>
      if isLowSurrogate unit then .error .loneSurrogate
      else if isHighSurrogate unit then
        match rest with
        | '\\' :: 'u' :: e :: f :: g :: h :: tail =>
          match unit? e f g h with
          | some low =>
            if isLowSurrogate low then
              .ok (Char.ofNat (0x10000 + (unit - 0xD800) * 0x400 + (low - 0xDC00)), tail)
            else .error .loneSurrogate
          | none => .error .loneSurrogate
        | _ => .error .loneSurrogate
      else .ok (Char.ofNat unit, rest)
  | c :: rest =>
    match plainEscape? c with
    | some plain => .ok (plain, rest)
    | none => .error (.unexpected c)
  | [] => .error .unexpectedEnd

private theorem unescape_length {cs : List Char} {r : Char × List Char} (h : unescape cs = .ok r) :
    r.2.length < cs.length := by
  unfold unescape at h
  split at h
  · split at h
    · cases h
    · split at h
      · cases h
      · split at h
        · split at h
          · split at h
            · split at h
              · rw [← Except.ok.inj h]; simp only [List.length_cons]; omega
              · cases h
            · cases h
          · cases h
        · rw [← Except.ok.inj h]; simp only [List.length_cons]; omega
  · split at h
    · cases h; simp
    · cases h
  · cases h

/-- The characters up to the closing quote, and the text behind it. Raw controls are refused. -/
def scanText (acc : List Char) : List Char → Except Fault (List Char × List Char)
  | [] => .error .unexpectedEnd
  | c :: rest =>
    if c == '"' then .ok (acc.reverse, rest)
    else if c == '\\' then
      match h : unescape rest with
      | .ok (plain, tail) =>
        have : tail.length < rest.length := unescape_length h
        scanText (plain :: acc) tail
      | .error fault => .error fault
    else if c.toNat < 0x20 then .error (.unexpected c)
    else scanText (c :: acc) rest
termination_by cs => cs.length
decreasing_by all_goals simp only [List.length_cons]; omega

theorem scanText_length {acc cs : List Char} {r : List Char × List Char}
    (h : scanText acc cs = .ok r) : r.2.length < cs.length := by
  fun_induction scanText acc cs with
  | case1 => cases h
  | case2 => cases h; simp
  | case3 _ _ _ _ _ _ _ _ hlt ih => have := ih h; simp only [List.length_cons]; omega
  | case4 => cases h
  | case5 => cases h
  | case6 _ _ _ _ _ _ ih => have := ih h; simp only [List.length_cons]; omega

/-- Characters that a number can be made of. -/
def isNumberChar (c : Char) : Bool :=
  c.isDigit || c == '-' || c == '+' || c == '.' || c == 'e' || c == 'E'

/-- Whether the parts of a numeral are digits, and none that is announced is empty. -/
def isNumeral (numeral : Decimal.Numeral) : Bool :=
  let leadingZero := numeral.whole.head? == some '0' && 1 < numeral.whole.length
  numeral.sign != some '+' && !leadingZero && numeral.partsNonempty
    && (numeral.whole ++ numeral.fraction.getD [] ++ numeral.exponentDigits).all Char.isDigit

/-- The integer that a numeral without point and exponent stands for; minus zero is none. -/
def integer? (numeral : Decimal.Numeral) : Option WideInt :=
  (Decimal.natOfDigits? numeral.whole).bind fun magnitude =>
    if !numeral.isIntegral || (numeral.negative && magnitude == 0) then none
    else WideInt.ofInt? (if numeral.negative then -(magnitude : Int) else magnitude)

/--
The number that a whole lexeme stands for: no leading plus or zero, digits on both sides of a point.
Integers that fit 64 bits stay integers; all others, and minus zero, become floating-point numbers.
-/
def readNumber (lexeme : List Char) : Except Fault Number :=
  let numeral := Decimal.Numeral.ofChars lexeme
  if !isNumeral numeral then .error .invalidNumber
  else
    match integer? numeral, approximate? numeral with
    | some n, _ => .ok (.integer n)
    | none, some x => if h : x.isFinite = true then .ok (.float x h) else .error .numberOutOfRange
    | none, none => .error .numberOutOfRange

/-- The tokens of a text. -/
def tokens : List Char → Except Fault (List Token)
  | [] => .ok []
  | c :: rest =>
    if isGap c then tokens rest
    else if c == '[' then (tokens rest).map (.openArray :: ·)
    else if c == ']' then (tokens rest).map (.closeArray :: ·)
    else if c.toNat == 0x7B then (tokens rest).map (.openObject :: ·)
    else if c.toNat == 0x7D then (tokens rest).map (.closeObject :: ·)
    else if c == ',' then (tokens rest).map (.comma :: ·)
    else if c == ':' then (tokens rest).map (.colon :: ·)
    else if c == '"' then
      match h : scanText [] rest with
      | .ok (s, tail) =>
        have : tail.length < rest.length := scanText_length h
        (tokens tail).map (.text (String.ofList s) :: ·)
      | .error fault => .error fault
    else if isNumberChar c then
      match readNumber ((c :: rest).takeWhile isNumberChar) with
      | .ok n =>
        have : (rest.dropWhile isNumberChar).length ≤ rest.length :=
          (List.dropWhile_sublist (l := rest) isNumberChar).length_le
        (tokens (rest.dropWhile isNumberChar)).map (.number n :: ·)
      | .error fault => .error fault
    else
      match c, rest with
      | 'n', 'u' :: 'l' :: 'l' :: tail => (tokens tail).map (.null :: ·)
      | 't', 'r' :: 'u' :: 'e' :: tail => (tokens tail).map (.bool true :: ·)
      | 'f', 'a' :: 'l' :: 's' :: 'e' :: tail => (tokens tail).map (.bool false :: ·)
      | _, _ => .error (.unexpected c)
termination_by cs => cs.length
decreasing_by all_goals simp_all <;> omega

/-- The name of the only field of an object that stands for the JSON text in it. -/
def embeddedName : String := "$serde_json::private::RawValue"

/-- A container still open: its complete contents so far, the last item first. -/
inductive Frame where
  | array (items : List Json)
  | object (fields : List (String × Json)) (name : String)
  /-- An object that stands for the text in it, which may not be read yet. -/
  | embedded (text : Option String)

/-- What may come next. -/
inductive Expected where
  | value
  | itemOrClose
  | nameOrClose
  | name
  | colon (name : String)
  | embeddedText
  | commaOrClose
  | nothing (result : Json)

/-- The open containers, the innermost first, and what may come next. -/
structure Machine where
  stack : List Frame
  expected : Expected

/-- What a reading allows. -/
structure Rules where
  /-- Containers nest at most this deep. -/
  nesting : Nat
  /-- Whether the outermost object, too, may stand for a text in it. -/
  embedsOutside : Bool
  /-- How texts in objects that stand for them are read. -/
  readEmbedded : String → Except Fault Json

namespace Machine

/-- A complete value goes into the innermost open container, or it is the result. -/
def complete (stack : List Frame) (value : Json) : Machine :=
  match stack with
  | .array items :: outer => ⟨.array (value :: items) :: outer, .commaOrClose⟩
  | .object fields name :: outer => ⟨.object (Entries.insert fields name value) name :: outer, .commaOrClose⟩
  | stack => ⟨stack, .nothing value⟩

/-- A token where a value is expected. -/
def beginValue (rules : Rules) (stack : List Frame) : Token → Except Fault Machine
  | .null => .ok (complete stack .null)
  | .bool b => .ok (complete stack (.bool b))
  | .number n => .ok (complete stack (.number n))
  | .text s => .ok (complete stack (.text s))
  | .openArray =>
    if stack.length < rules.nesting then .ok ⟨.array [] :: stack, .itemOrClose⟩ else .error .tooDeep
  | .openObject =>
    if stack.length < rules.nesting then .ok ⟨.object [] "" :: stack, .nameOrClose⟩ else .error .tooDeep
  | _ => .error .misplacedToken

/-- The first name in an object, which decides whether the object stands for a text. -/
def beginFields (rules : Rules) (stack : List Frame) (name : String) : Machine :=
  if name = embeddedName ∧ (rules.embedsOutside ∨ 1 < stack.length) then
    ⟨.embedded none :: stack.drop 1, .colon name⟩
  else ⟨stack, .colon name⟩

/-- The effect of one token. -/
def step (rules : Rules) (machine : Machine) (token : Token) : Except Fault Machine :=
  match machine.expected, machine.stack, token with
  | .value, stack, _ => beginValue rules stack token
  | .itemOrClose, .array _ :: outer, .closeArray => .ok (complete outer (.array []))
  | .itemOrClose, stack, _ => beginValue rules stack token
  | .nameOrClose, .object _ _ :: outer, .closeObject => .ok (complete outer (.object []))
  | .nameOrClose, stack, .text name => .ok (beginFields rules stack name)
  | .name, stack, .text name => .ok ⟨stack, .colon name⟩
  | .colon name, .object fields _ :: outer, .colon => .ok ⟨.object fields name :: outer, .value⟩
  | .colon _, .embedded none :: outer, .colon => .ok ⟨.embedded none :: outer, .embeddedText⟩
  | .embeddedText, .embedded _ :: outer, .text s => .ok ⟨.embedded (some s) :: outer, .commaOrClose⟩
  | .commaOrClose, .embedded (some s) :: outer, .closeObject =>
    (rules.readEmbedded s).map (complete outer)
  | .commaOrClose, .array items :: outer, .closeArray => .ok (complete outer (.array items.reverse))
  | .commaOrClose, .array items :: outer, .comma => .ok ⟨.array items :: outer, .value⟩
  | .commaOrClose, .object fields _ :: outer, .closeObject => .ok (complete outer (.object fields))
  | .commaOrClose, .object fields name :: outer, .comma => .ok ⟨.object fields name :: outer, .name⟩
  | _, _, _ => .error .misplacedToken

end Machine

/-- Containers of a JSON text nest at most this deep. -/
def nestingLimit : Nat := 127

/-- Reads a whole text. -/
def parseWith (rules : Rules) (s : String) : Except Fault Json := do
  let machine ← (← tokens s.toList).foldlM (Machine.step rules) ⟨[], .value⟩
  match machine.expected with
  | .nothing result => .ok result
  | _ => .error .unexpectedEnd

/-- Reads a text in which texts are embedded up to some depth. -/
def parseEmbedded : Nat → String → Except Fault Json
  | 0, _ => .error .tooDeep
  | depth + 1, s => parseWith ⟨nestingLimit, true, parseEmbedded depth⟩ s

/--
Reads a whole text whose containers nest at most `limit` deep. An embedded text is shorter than the
text around it, so the depth of embedding is not limited.
-/
def parseNested (limit : Nat) (s : String) : Except Fault Json :=
  parseWith ⟨limit, true, parseEmbedded s.length⟩ s

/-- Reads a whole text. -/
def parse (s : String) : Except Fault Json :=
  parseNested nestingLimit s

/-- Reads the text of an object, which does not itself stand for a text in it. -/
def parseRecord (s : String) : Except Fault Record := do
  match ← parseWith ⟨nestingLimit, false, parseEmbedded s.length⟩ s with
  | .object fields => .ok fields
  | _ => .error .misplacedToken

mutual

/-- The tree with the values of embedded texts in the place of the objects that stand for them. -/
def resolve? : Json → Option Json
  | .object fields =>
    match fields with
    | [] => some (.object [])
    | (name, value) :: rest =>
      if name = embeddedName then
        match value, rest with
        | .text s, [] => (parse s).toOption
        | _, _ => none
      else (resolveFields? ((name, value) :: rest)).map .object
  | .array items => (resolveItems? items).map .array
  | leaf => some leaf

def resolveItems? : List Json → Option (List Json)
  | [] => some []
  | item :: rest => do return (← resolve? item) :: (← resolveItems? rest)

def resolveFields? : List (String × Json) → Option (List (String × Json))
  | [] => some []
  | (name, value) :: rest => do return (name, ← resolve? value) :: (← resolveFields? rest)

end

end QueryCriteria.Json
