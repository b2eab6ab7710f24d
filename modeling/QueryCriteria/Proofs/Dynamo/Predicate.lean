import QueryCriteria.Dynamo.Expression
import QueryCriteria.Matching.Evaluate
import QueryCriteria.Proofs.Text.Formula

/-!
Filter expressions as the service reads them: placeholders are resolved, and predicates are asked of
the attributes of an item. How the service compares is left to it; what is relied on is stated as
`Evaluator.Lawful`.
-/
namespace QueryCriteria.Dynamo

open Text (Lexeme LexemeReader Alphabet Formula)

/-- Placeholders are words, and so are the names of functions. -/
def alphabet : Alphabet where
  word c := c.isAlphanum || c == '_' || c == '#' || c == ':'
  sign c := c == '=' || c == '<' || c == '>'

/-- What is asked of an attribute. Placeholders have been resolved. -/
inductive Predicate where
  | presence (field : String) (wanted : Bool)
  | type (field : String) (name : Json)
  | compare (field : String) (comparison : Comparison) (operand : Json)
  | contains (field : String) (operand : Json)
  | beginsWith (field : String) (operand : Json)
  | isIn (field : String) (members : List Json)

namespace Predicate

variable (names : Entries String) (values : Entries Json)

/-- The placeholder of an attribute up to a closing bracket. -/
def readName : LexemeReader String
  | .word name :: .mark ')' :: rest => (Entries.get? names name).map fun field => (field, rest)
  | _ => none

/-- The placeholders of an attribute and a value up to a closing bracket. -/
def readPair : LexemeReader (String × Json)
  | .word name :: .mark ',' :: .word value :: .mark ')' :: rest => do
    let field ← Entries.get? names name
    let operand ← Entries.get? values value
    return ((field, operand), rest)
  | _ => none

def readComparison : LexemeReader Comparison
  | .sign "=" :: rest => some (.equal, rest)
  | .sign "<>" :: rest => some (.distinct, rest)
  | .sign ">" :: rest => some (.range .greaterThan, rest)
  | .sign ">=" :: rest => some (.range .greaterEqual, rest)
  | .sign "<" :: rest => some (.range .lessThan, rest)
  | .sign "<=" :: rest => some (.range .lessEqual, rest)
  | _ => none

/-- What stands behind the placeholder of an attribute. -/
def readTest (field : String) : LexemeReader Predicate
  | .word "IN" :: .mark '(' :: rest =>
    (Formula.readList (Entries.get? values) rest).map fun read => (.isIn field read.1, read.2)
  | ls => do
    let (comparison, rest) ← readComparison ls
    match rest with
    | .word value :: rest =>
      (Entries.get? values value).map fun operand => (.compare field comparison operand, rest)
    | _ => none

/-- What stands behind the name of a function and its opening bracket. -/
def readCall (function : String) (ls : List Lexeme) : Option (Predicate × List Lexeme) :=
  match function with
  | "attribute_exists" => (readName names ls).map fun read => (.presence read.1 true, read.2)
  | "attribute_not_exists" => (readName names ls).map fun read => (.presence read.1 false, read.2)
  | "attribute_type" => (readPair names values ls).map fun read => (.type read.1.1 read.1.2, read.2)
  | "contains" => (readPair names values ls).map fun read => (.contains read.1.1 read.1.2, read.2)
  | "begins_with" => (readPair names values ls).map fun read => (.beginsWith read.1.1 read.1.2, read.2)
  | _ => none

/-- The predicate that lexemes begin with. -/
def read : LexemeReader Predicate
  | .word function :: .mark '(' :: rest => readCall names values function rest
  | .word name :: rest => (Entries.get? names name).bind fun field => readTest values field rest
  | _ => none

end Predicate

/-- The expression that a text spells, with its placeholders resolved. -/
def readExpression (names : Entries String) (values : Entries Json) (text : String) :
    Option (Formula Predicate) :=
  (alphabet.lex text.toList).bind (Formula.read (Predicate.read names values))

/-- The name of the type under which a value is stored. -/
def typeName : Json → String
  | .null => nullType
  | .bool _ => "BOOL"
  | .number _ => "N"
  | .text _ => "S"
  | .array _ => "L"
  | .object _ => "M"

/-- The comparison of values, as criteria are evaluated. -/
def Comparison.accepts : Comparison → Json → Json → Bool
  | .equal, value, operand => Test.equals value operand
  | .distinct, value, operand => !Test.equals value operand
  | .range relation, value, operand => relation.accepts (value.compare? operand)

/-- How the service compares an attribute, which may be missing, with values. -/
structure Evaluator where
  compare : Comparison → Option Json → Json → Bool
  contains : Option Json → Json → Bool
  beginsWith : Option Json → Json → Bool
  isIn : Option Json → List Json → Bool

/--
What is relied on of the service. A missing attribute and one of the type NULL differ from every value
and pass no other comparison. Other attributes are compared as criteria compare them.
-/
structure Evaluator.Lawful (evaluator : Evaluator) : Prop where
  compare_null : ∀ comparison stored operand, stored.getD .null = .null → operand ≠ .null →
    evaluator.compare comparison stored operand = (comparison == .distinct)
  contains_null : ∀ stored operand, stored.getD .null = .null → operand ≠ .null →
    evaluator.contains stored operand = false
  beginsWith_null : ∀ stored operand, stored.getD .null = .null → operand ≠ .null →
    evaluator.beginsWith stored operand = false
  isIn_null : ∀ stored members, stored.getD .null = .null → (∀ m ∈ members, m ≠ .null) →
    evaluator.isIn stored members = false
  compare_value : ∀ comparison value operand, value ≠ .null → operand ≠ .null →
    evaluator.compare comparison (some value) operand = comparison.accepts value operand
  contains_value : ∀ value s, value ≠ .null →
    evaluator.contains (some value) (.text s) = TextTest.contains.holds s value
  beginsWith_value : ∀ value s, value ≠ .null →
    evaluator.beginsWith (some value) (.text s) = TextTest.beginsWith.holds s value
  isIn_value : ∀ value members, value ≠ .null → (∀ m ∈ members, m ≠ .null) →
    evaluator.isIn (some value) members = members.any (Test.equals value)

/-- A service that compares as criteria do. -/
def Evaluator.direct : Evaluator where
  compare comparison stored operand := comparison.accepts (stored.getD .null) operand
  contains stored operand := operand.text?.any fun s => TextTest.contains.holds s (stored.getD .null)
  beginsWith stored operand :=
    operand.text?.any fun s => TextTest.beginsWith.holds s (stored.getD .null)
  isIn stored members := members.any (Test.equals (stored.getD .null))

/-- The truth of a predicate on an item. -/
def Predicate.holds (evaluator : Evaluator) (item : String → Option Json) : Predicate → Bool
  | .presence field wanted => (item field).isSome == wanted
  | .type field name => (item field).any fun value => name.text? == some (typeName value)
  | .compare field comparison operand => evaluator.compare comparison (item field) operand
  | .contains field operand => evaluator.contains (item field) operand
  | .beginsWith field operand => evaluator.beginsWith (item field) operand
  | .isIn field members => evaluator.isIn (item field) members

/-- The truth of an expression on an item. -/
def holds (evaluator : Evaluator) (item : String → Option Json) : Formula Predicate → Bool
  | .atom a => a.holds evaluator item
  | .not f => !holds evaluator item f
  | .and f g => holds evaluator item f && holds evaluator item g
  | .or f g => holds evaluator item f || holds evaluator item g

private theorem equals_null_left {operand : Json} (h : operand ≠ .null) :
    Test.equals .null operand = false := by
  cases operand <;> first | rfl | exact absurd rfl h

/-- Null differs from every other value, and passes no other comparison with one. -/
theorem Comparison.accepts_null {comparison : Comparison} {operand : Json} (h : operand ≠ .null) :
    comparison.accepts .null operand = (comparison == .distinct) := by
  cases comparison with
  | equal => exact equals_null_left h
  | distinct => simp [accepts, equals_null_left h]
  | range relation =>
    cases operand <;> cases relation <;> first | rfl | exact absurd rfl h

theorem Evaluator.direct_lawful : Evaluator.direct.Lawful where
  compare_null comparison stored operand hs ho := by
    simp only [direct, hs, Comparison.accepts_null ho]
  contains_null stored operand hs _ := by
    cases operand <;> simp [direct, hs, Json.text?, TextTest.holds]
  beginsWith_null stored operand hs _ := by
    cases operand <;> simp [direct, hs, Json.text?, TextTest.holds]
  isIn_null stored members hs hm := by
    simp only [direct, hs, List.any_eq_false]
    exact fun m hmem => by simp [equals_null_left (hm m hmem)]
  compare_value _ _ _ _ _ := rfl
  contains_value _ _ _ := rfl
  beginsWith_value _ _ _ := rfl
  isIn_value _ _ _ _ := rfl

namespace Evaluator.Lawful

variable {evaluator : Evaluator}

private theorem null_or_value (stored : Option Json) :
    stored.getD .null = .null ∨ ∃ value, stored = some value ∧ value ≠ .null := by
  cases stored with
  | none => exact .inl rfl
  | some value =>
    by_cases hv : value = .null
    · exact .inl hv
    · exact .inr ⟨value, rfl, hv⟩

/-- A missing attribute is compared as null is. -/
theorem compare_eq (h : evaluator.Lawful) (comparison : Comparison) (stored : Option Json)
    {operand : Json} (ho : operand ≠ .null) :
    evaluator.compare comparison stored operand = comparison.accepts (stored.getD .null) operand := by
  rcases null_or_value stored with hs | ⟨value, rfl, hv⟩
  · rw [h.compare_null _ _ _ hs ho, hs, Comparison.accepts_null ho]
  · exact h.compare_value comparison value operand hv ho

theorem contains_eq (h : evaluator.Lawful) (stored : Option Json) (s : String) :
    evaluator.contains stored (.text s) = TextTest.contains.holds s (stored.getD .null) := by
  have hne : Json.text s ≠ .null := nofun
  rcases null_or_value stored with hs | ⟨value, rfl, hv⟩
  · rw [h.contains_null _ _ hs hne, hs]
    rfl
  · exact h.contains_value value s hv

theorem beginsWith_eq (h : evaluator.Lawful) (stored : Option Json) (s : String) :
    evaluator.beginsWith stored (.text s) = TextTest.beginsWith.holds s (stored.getD .null) := by
  have hne : Json.text s ≠ .null := nofun
  rcases null_or_value stored with hs | ⟨value, rfl, hv⟩
  · rw [h.beginsWith_null _ _ hs hne, hs]
    rfl
  · exact h.beginsWith_value value s hv

theorem isIn_eq (h : evaluator.Lawful) (stored : Option Json) {members : List Json}
    (hm : ∀ m ∈ members, m ≠ .null) :
    evaluator.isIn stored members = members.any (Test.equals (stored.getD .null)) := by
  rcases null_or_value stored with hs | ⟨value, rfl, hv⟩
  · rw [h.isIn_null _ _ hs hm, hs, eq_comm, List.any_eq_false]
    exact fun m hmem => by simp [equals_null_left (hm m hmem)]
  · exact h.isIn_value value members hv hm

end Evaluator.Lawful

end QueryCriteria.Dynamo
