import QueryCriteria.Proofs.Matching.Tree
import QueryCriteria.Proofs.Sql.Legible
import QueryCriteria.Sql.Condition

/-!
The predicates of SQL conditions and their truth on a row, in three values. The comparison of a value
with a bound one is left to the database; what is relied on of it is stated as `Engine.Lawful`.
-/
namespace QueryCriteria.Sql

open Text (Lexeme LexemeReader Formula)

/-- Truth values of SQL. -/
inductive Truth where
  | holds
  | fails
  | unknown
deriving DecidableEq, Repr

namespace Truth

def ofBool : Bool → Truth
  | true => .holds
  | false => .fails

def not : Truth → Truth
  | .holds => .fails
  | .fails => .holds
  | .unknown => .unknown

def and : Truth → Truth → Truth
  | .fails, _ | _, .fails => .fails
  | .holds, .holds => .holds
  | _, _ => .unknown

def or : Truth → Truth → Truth
  | .holds, _ | _, .holds => .holds
  | .fails, .fails => .fails
  | _, _ => .unknown

@[simp] theorem ofBool_eq_holds {b : Bool} : ofBool b = .holds ↔ b = true := by
  cases b <;> decide

@[simp] theorem ofBool_eq_fails {b : Bool} : ofBool b = .fails ↔ b = false := by
  cases b <;> decide

@[simp] theorem not_eq_holds {t : Truth} : t.not = .holds ↔ t = .fails := by
  cases t <;> decide

theorem and_eq_holds {s t : Truth} : s.and t = .holds ↔ s = .holds ∧ t = .holds := by
  cases s <;> cases t <;> decide

theorem or_eq_holds {s t : Truth} : s.or t = .holds ↔ s = .holds ∨ t = .holds := by
  cases s <;> cases t <;> decide

theorem or_eq_fails {s t : Truth} : s.or t = .fails ↔ s = .fails ∧ t = .fails := by
  cases s <;> cases t <;> decide

/-- The disjunction of several. -/
def any (ts : List Truth) : Truth :=
  ts.foldr or .fails

theorem any_eq_holds {ts : List Truth} : any ts = .holds ↔ ∃ t ∈ ts, t = .holds := by
  induction ts with
  | nil => simp [any]
  | cons t rest ih => rw [List.exists_mem_cons_iff, ← ih]; exact or_eq_holds

theorem any_eq_fails {ts : List Truth} : any ts = .fails ↔ ∀ t ∈ ts, t = .fails := by
  induction ts with
  | nil => simp [any]
  | cons t rest ih => rw [List.forall_mem_cons, ← ih]; exact or_eq_fails

end Truth

/-- Predicates of a column; bound values are referred to by their places, counted from zero. -/
inductive Predicate where
  | constant (value : Bool)
  | nullity (column : String) (wanted : Bool)
  | compare (column : String) (comparison : Comparison) (place : Nat)
  | membership (column : String) (wanted : Bool) (places : List Nat)
deriving DecidableEq

namespace Predicate

/-- The place that `$` and a number stand for; numbers count from one. -/
def place? (s : String) : Option Nat :=
  match s.toList with
  | '$' :: digits =>
    match Decimal.natOfDigits? digits with
    | some (n + 1) => some n
    | _ => none
  | _ => none

/-- What stands behind the name of a column. -/
def readTest (column : String) : LexemeReader Predicate
  | .word "IS" :: .word "NULL" :: rest => some (.nullity column true, rest)
  | .word "IS" :: .word "NOT" :: .word "NULL" :: rest => some (.nullity column false, rest)
  | .word "IS" :: .word "DISTINCT" :: .word "FROM" :: rest => operand .distinct rest
  | .word "LIKE" :: rest => operand .like rest
  | .word "NOT" :: .word "LIKE" :: rest => operand .notLike rest
  | .word "IN" :: .mark '(' :: rest => members true rest
  | .word "NOT" :: .word "IN" :: .mark '(' :: rest => members false rest
  | .sign "=" :: rest => operand .equal rest
  | .sign ">" :: rest => operand (.range .greaterThan) rest
  | .sign ">=" :: rest => operand (.range .greaterEqual) rest
  | .sign "<" :: rest => operand (.range .lessThan) rest
  | .sign "<=" :: rest => operand (.range .lessEqual) rest
  | _ => none
where
  operand (comparison : Comparison) : LexemeReader Predicate
    | .word s :: rest => (place? s).map fun n => (.compare column comparison n, rest)
    | _ => none
  members (wanted : Bool) (rest : List Lexeme) : Option (Predicate × List Lexeme) :=
    (Formula.readList place? rest).map fun read => (.membership column wanted read.1, read.2)

/-- The predicate that lexemes begin with. -/
def read : LexemeReader Predicate
  | .word "TRUE" :: rest => some (.constant true, rest)
  | .word "FALSE" :: rest => some (.constant false, rest)
  | .quoted column :: rest => readTest column rest
  | _ => none

end Predicate

/-- The value that a parameter binds. -/
def Param.operand : Param → Json
  | .null => .null
  | .bool b => .bool b
  | .integer n => .ofInt64 n
  | .float x => .ofBinary64 x
  | .text s => .text s
  | .json value => value

theorem Param.operand_ofScalar (s : Scalar) : (Param.ofScalar s).operand = s.toJson := by
  cases s <;> rfl

namespace Comparison

/-- The comparison within one kind of values, as criteria are evaluated. -/
def accepts : Comparison → Json → Json → Bool
  | .equal, value, operand => Test.equals value operand
  | .distinct, value, operand => !Test.equals value operand
  | .range relation, value, operand => relation.accepts (value.compare? operand)
  | .like, .text s, .text pattern => Pattern.like s pattern
  | .like, _, _ => false
  | .notLike, .text s, .text pattern => !Pattern.like s pattern
  | .notLike, _, _ => true

def isNegation : Comparison → Bool
  | .distinct | .notLike => true
  | _ => false

/-- Whether the comparison is one of values of these kinds. -/
def suits : Comparison → Json → Json → Bool
  | .like, value, operand | .notLike, value, operand => value.text?.isSome && operand.text?.isSome
  | _, value, operand => value.rank == operand.rank

/-- Values of other kinds satisfy the negations only. -/
theorem accepts_of_not_suits {comparison : Comparison} {value operand : Json}
    (h : comparison.suits value operand = false) :
    comparison.accepts value operand = comparison.isNegation := by
  cases comparison with
  | range relation =>
    cases relation <;> cases value <;> cases operand <;>
      first | rfl | (simp [suits, Json.rank] at h)
  | _ => cases value <;> cases operand <;> first | rfl | (simp [suits, Json.rank, Json.text?] at h)

end Comparison

/-- How a database compares a value of a column with a bound value. -/
abbrev Engine := Comparison → Json → Param → Truth

/--
What is relied on of a database. A comparison with NULL is unknown, but NULL is distinct from every
other value. Values of a suitable kind are compared as criteria compare them, and on others only the
negations hold.
-/
structure Engine.Lawful (engine : Engine) : Prop where
  null : ∀ comparison operand, comparison ≠ .distinct → engine comparison .null operand = .unknown
  null_distinct : ∀ operand, operand.operand ≠ .null → engine .distinct .null operand = .holds
  suited : ∀ comparison value operand, value.isPlain = true → value ≠ .null →
    operand.operand ≠ .null → comparison.suits value operand.operand = true →
    engine comparison value operand = .ofBool (comparison.accepts value operand.operand)
  unsuited : ∀ comparison value operand, value.isPlain = true → value ≠ .null →
    operand.operand ≠ .null → comparison.suits value operand.operand = false →
    engine comparison value operand = .ofBool comparison.isNegation

/-- A database that compares as criteria do. -/
def Engine.direct : Engine := fun comparison value operand =>
  if comparison = .distinct then .ofBool (value.isNull != operand.operand.isNull
    || !value.isNull && !Test.equals value operand.operand)
  else if value.isNull || operand.operand.isNull then .unknown
  else .ofBool (comparison.accepts value operand.operand)

theorem Engine.direct_lawful : Engine.direct.Lawful := by
  refine ⟨?_, ?_, ?_, ?_⟩
  · intro comparison operand h
    simp [direct, h, Json.isNull]
  · intro operand h
    simp [direct, Json.isNull]
  · intro comparison value operand _ hv ho _
    cases comparison <;> simp [direct, Json.isNull_of_ne hv, Json.isNull_of_ne ho, Comparison.accepts]
  · intro comparison value operand _ hv ho hs
    rw [← Comparison.accepts_of_not_suits hs]
    cases comparison <;> simp [direct, Json.isNull_of_ne hv, Json.isNull_of_ne ho, Comparison.accepts]

variable {engine : Engine}

theorem Engine.Lawful.eq_accepts (h : engine.Lawful) {comparison : Comparison} {value : Json}
    {operand : Param} (hp : value.isPlain = true) (hv : value ≠ .null)
    (ho : operand.operand ≠ .null) :
    engine comparison value operand = .ofBool (comparison.accepts value operand.operand) := by
  cases hs : comparison.suits value operand.operand with
  | true => exact h.suited comparison value operand hp hv ho hs
  | false => rw [Comparison.accepts_of_not_suits hs, h.unsuited comparison value operand hp hv ho hs]

/-- The truth of a predicate on a row. -/
def Predicate.truth (engine : Engine) (params : List Param) (row : String → Json) :
    Predicate → Truth
  | .constant value => .ofBool value
  | .nullity column wanted => .ofBool ((row column).isNull == wanted)
  | .compare column comparison place => compareAt column comparison place
  | .membership column wanted places =>
    let found := Truth.any (places.map (compareAt column .equal))
    if wanted then found else found.not
where
  /-- A place without a value makes the comparison unknown. -/
  compareAt (column : String) (comparison : Comparison) (place : Nat) : Truth :=
    match params[place]? with
    | some operand => engine comparison (row column) operand
    | none => .unknown

/-- The truth of a condition on a row. -/
def truth (engine : Engine) (params : List Param) (row : String → Json) : Formula Predicate → Truth
  | .atom a => a.truth engine params row
  | .not f => (truth engine params row f).not
  | .and f g => (truth engine params row f).and (truth engine params row g)
  | .or f g => (truth engine params row f).or (truth engine params row g)

/-- The condition that a text spells. -/
def readCondition (text : String) : Option (Formula Predicate) :=
  (alphabet.lex text.toList).bind (Formula.read Predicate.read)

end QueryCriteria.Sql
