import QueryCriteria.Matching.Evaluate
import QueryCriteria.Proofs.Matching.Preorder

/-!
Comparing integers. Those of the signed range compare exactly. One beyond it compares as a double, so it
is taken for every other integer with the same double; otherwise rounding keeps the order, and the
filters of integers mean what they say.
-/
namespace QueryCriteria

/-- Whether two integers are compared as doubles, and have the same one. -/
def WideInt.merges (a b : WideInt) : Bool :=
  (2 ^ 63 ≤ a.val || 2 ^ 63 ≤ b.val) && (Binary64.ofInt a.val).sameValue (.ofInt b.val)

theorem Binary64.sameValue_ofInt_iff {m n : Int} :
    (ofInt m).sameValue (ofInt n) = true ↔ (ofInt m).orderKey = (ofInt n).orderKey := by
  unfold sameValue compare?
  rw [isNaN_ofInt, isNaN_ofInt]
  simp

/-- Rounding keeps the order of two integers, unless it makes them equal. -/
theorem Binary64.compare_ofInt (m n : Int) :
    compare (ofInt m).orderKey (ofInt n).orderKey =
      if (ofInt m).sameValue (ofInt n) then .eq else compare m n := by
  split
  · rename_i h
    exact Int.compare_eq_eq.mpr (sameValue_ofInt_iff.mp h)
  · rename_i h
    rw [sameValue_ofInt_iff] at h
    rcases Int.lt_trichotomy m n with hlt | rfl | hgt
    · have hle := orderKey_ofInt_mono (Int.le_of_lt hlt)
      rw [Int.compare_eq_lt.mpr hlt, Int.compare_eq_lt]
      omega
    · exact absurd rfl h
    · have hle := orderKey_ofInt_mono (Int.le_of_lt hgt)
      rw [Int.compare_eq_gt.mpr hgt, Int.compare_eq_gt]
      omega

namespace Json

namespace Number

theorem int64?_of_le {n : WideInt} (h : 2 ^ 63 ≤ n.val) : (integer n).int64? = none :=
  if_neg (Int.not_lt.mpr h)

theorem exists_int64? {n : WideInt} (h : ¬ 2 ^ 63 ≤ n.val) :
    ∃ k, (integer n).int64? = some k ∧ k.toInt = n.val :=
  ⟨_, if_pos (Int.not_le.mp h), Int64.toInt_ofInt_of_le n.lower (Int.not_le.mp h)⟩

/-- The order of two integers is that of their values, but merged integers are equal. -/
theorem order_integers (a b : WideInt) :
    (integer a).order (integer b) = if a.merges b then .eq else compare a.val b.val := by
  unfold WideInt.merges
  by_cases h : 2 ^ 63 ≤ a.val ∨ 2 ^ 63 ≤ b.val
  · have hbeyond : (decide (2 ^ 63 ≤ a.val) || decide (2 ^ 63 ≤ b.val)) = true := by simpa using h
    have hdoubles : (integer a).order (integer b) =
        compare (Binary64.ofInt a.val).orderKey (Binary64.ofInt b.val).orderKey := by
      unfold order
      rcases h with h | h
      · rw [int64?_of_le h]
        rfl
      · rw [int64?_of_le h]
        cases (integer a).int64? <;> rfl
    rw [hdoubles, hbeyond, Bool.true_and]
    exact Binary64.compare_ofInt a.val b.val
  · obtain ⟨ha, hb⟩ := not_or.mp h
    obtain ⟨m, hm, hma⟩ := exists_int64? ha
    obtain ⟨n, hn, hnb⟩ := exists_int64? hb
    have hsigned : (decide (2 ^ 63 ≤ a.val) || decide (2 ^ 63 ≤ b.val)) = false := by simpa using h
    unfold order
    rw [hm, hn, hsigned, Bool.false_and, if_neg Bool.false_ne_true, ← hma, ← hnb]

end Number

theorem compare?_integers (a b : WideInt) :
    Json.compare? (.number (.integer a)) (.number (.integer b)) =
      some (if a.merges b then .eq else compare a.val b.val) :=
  (Number.compare?_eq_order _ _).trans (congrArg some (Number.order_integers a b))

end Json

/-- What a relation says of integers. -/
def Relation.Relates : Relation → Int → Int → Prop
  | .greaterThan, m, n => n < m
  | .greaterEqual, m, n => n ≤ m
  | .lessThan, m, n => m < n
  | .lessEqual, m, n => m ≤ n

theorem Relation.accepts_compare {relation : Relation} {m n : Int} :
    relation.accepts (some (compare m n)) = true ↔ relation.Relates m n := by
  rcases Int.lt_trichotomy m n with h | rfl | h
  · rw [Int.compare_eq_lt.mpr h]
    cases relation <;> simp [accepts, Relates] <;> omega
  · rw [Int.compare_eq_eq.mpr rfl]
    cases relation <;> simp [accepts, Relates]
  · rw [Int.compare_eq_gt.mpr h]
    cases relation <;> simp [accepts, Relates] <;> omega

/-- A filter's test whose operands are all signed integers. -/
inductive IntegerTest where
  | equal (n : Int64)
  | notEqual (n : Int64)
  | range (relation : Relation) (n : Int64)
  | isIn (members : List Int64)
  | notIn (members : List Int64)

namespace IntegerTest

def toTest : IntegerTest → Test
  | .equal n => .equal (some (.integer n))
  | .notEqual n => .notEqual (some (.integer n))
  | .range relation n => .range relation (.integer n)
  | .isIn members => .isIn (members.map .integer)
  | .notIn members => .notIn (members.map .integer)

def operands : IntegerTest → List Int64
  | .equal n | .notEqual n | .range _ n => [n]
  | .isIn members | .notIn members => members

/-- What the test says of an integer. -/
def Accepts : IntegerTest → Int → Prop
  | .equal n, m => m = n.toInt
  | .notEqual n, m => m ≠ n.toInt
  | .range relation n, m => relation.Relates m n.toInt
  | .isIn members, m => ∃ n ∈ members, m = n.toInt
  | .notIn members, m => ∀ n ∈ members, m ≠ n.toInt

variable {m : WideInt} {n : Int64}

theorem compare?_ofInt64 (h : m.merges (.ofInt64 n) = false) :
    Json.compare? (.number (.integer m)) (.ofInt64 n) = some (compare m.val n.toInt) := by
  rw [Json.ofInt64, Json.compare?_integers, h]
  rfl

theorem equals_ofInt64_iff (h : m.merges (.ofInt64 n) = false) :
    Test.equals (.number (.integer m)) (.ofInt64 n) = true ↔ m.val = n.toInt := by
  rw [Test.equals, compare?_ofInt64 h, beq_iff_eq, Option.some.injEq, Int.compare_eq_eq]

theorem any_equals_iff {members : List Int64} (h : ∀ n ∈ members, m.merges (.ofInt64 n) = false) :
    ((members.map Scalar.integer).any fun s => Test.equals (.number (.integer m)) s.toJson) = true ↔
      ∃ n ∈ members, m.val = n.toInt := by
  rw [List.any_map, List.any_eq_true]
  exact exists_congr fun n => and_congr_right fun hn => equals_ofInt64_iff (h n hn)

/-- A test whose integers are not merged with the stored one means what it says. -/
theorem holds_iff (t : IntegerTest) (h : ∀ n ∈ t.operands, m.merges (.ofInt64 n) = false) :
    t.toTest.holds (.number (.integer m)) = true ↔ t.Accepts m.val := by
  cases t with
  | equal n => exact equals_ofInt64_iff (h n (List.mem_singleton_self n))
  | notEqual n =>
    have hequals := equals_ofInt64_iff (h n (List.mem_singleton_self n))
    change (!Test.equals (.number (.integer m)) (.ofInt64 n)) = true ↔ m.val ≠ n.toInt
    rw [Bool.not_eq_true', ← Bool.not_eq_true, hequals]
  | range relation n =>
    change relation.accepts (Json.compare? (.number (.integer m)) (.ofInt64 n)) = true ↔ _
    rw [compare?_ofInt64 (h n (List.mem_singleton_self n))]
    exact Relation.accepts_compare
  | isIn members => exact any_equals_iff h
  | notIn members =>
    have hmembers : ∀ n ∈ members, m.merges (.ofInt64 n) = false := h
    change (!(members.map Scalar.integer).any _) = true ↔ ∀ n ∈ members, m.val ≠ n.toInt
    rw [Bool.not_eq_true', ← Bool.not_eq_true, any_equals_iff hmembers]
    simp

end IntegerTest

/--
A signed integer is merged with another one from `2 ^ 63` up, where both are nearest to the double
`2 ^ 63`: from 512 below it to 1024 above it.
-/
theorem WideInt.merges_ofInt64_iff {m : WideInt} {n : Int64} :
    m.merges (.ofInt64 n) = true ↔
      2 ^ 63 - 512 ≤ n.toInt ∧ 2 ^ 63 ≤ m.val ∧ m.val ≤ 2 ^ 63 + 1024 := by
  have hn := Int64.toInt_lt n
  have hval : (ofInt64 n).val = n.toInt := rfl
  simp only [merges, hval, Bool.and_eq_true, Bool.or_eq_true, decide_eq_true_eq,
    Binary64.sameValue_ofInt_iff]
  -- The doubles around `2 ^ 63`, whose keys the four bounds have.
  have hbelow : (Binary64.ofInt (2 ^ 63 - 513)).orderKey < (Binary64.ofInt (2 ^ 63)).orderKey := by decide
  have hleast : (Binary64.ofInt (2 ^ 63 - 512)).orderKey = (Binary64.ofInt (2 ^ 63)).orderKey := by decide
  have hmost : (Binary64.ofInt (2 ^ 63 + 1024)).orderKey = (Binary64.ofInt (2 ^ 63)).orderKey := by decide
  have habove : (Binary64.ofInt (2 ^ 63)).orderKey < (Binary64.ofInt (2 ^ 63 + 1025)).orderKey := by decide
  constructor
  · rintro ⟨hbeyond, hsame⟩
    have hm : 2 ^ 63 ≤ m.val := by omega
    have hmid := Binary64.orderKey_ofInt_mono hm
    refine ⟨Int.not_lt.mp fun hlow => ?_, hm, Int.not_lt.mp fun hhigh => ?_⟩
    · have hle : n.toInt ≤ 2 ^ 63 - 513 := by omega
      have := Binary64.orderKey_ofInt_mono hle
      omega
    · have hle : 2 ^ 63 + 1025 ≤ m.val := by omega
      have := Binary64.orderKey_ofInt_mono hle
      have hnle : n.toInt ≤ 2 ^ 63 := by omega
      have := Binary64.orderKey_ofInt_mono hnle
      omega
  · rintro ⟨hlow, hm, hhigh⟩
    have hfirst := Binary64.orderKey_ofInt_mono hlow
    have hlast := Binary64.orderKey_ofInt_mono hhigh
    have hmiddle := Binary64.orderKey_ofInt_mono (show n.toInt ≤ m.val by omega)
    exact ⟨.inl hm, by omega⟩

/--
Two integers compare as their values do, or as equal if they are merged. Filters of given signed
integers mean what they say on a stored integer if and only if it is merged with none of these: from
`2 ^ 63` on it is merged with the integers next to the end of the signed range.
-/
theorem Record.integer_filters_exact_iff (a b : WideInt) {record : Record} {field : FieldName}
    {m : WideInt} (hm : record.resolve field.text = .number (.integer m)) (ns : List Int64) :
    Json.compare? (.number (.integer a)) (.number (.integer b)) =
        some (if a.merges b then .eq else compare a.val b.val) ∧
      ((∀ t : IntegerTest, t.operands ⊆ ns →
          ((Filter.mk field t.toTest).holds record = true ↔ t.Accepts m.val)) ↔
        ∀ n ∈ ns, ¬ (2 ^ 63 - 512 ≤ n.toInt ∧ 2 ^ 63 ≤ m.val ∧ m.val ≤ 2 ^ 63 + 1024)) := by
  have hholds (t : IntegerTest) :
      (Filter.mk field t.toTest).holds record = t.toTest.holds (.number (.integer m)) := by
    rw [Filter.holds, hm]
  simp only [hholds, ← WideInt.merges_ofInt64_iff, Bool.not_eq_true]
  refine ⟨Json.compare?_integers a b, ?_, ?_⟩
  · -- The equality with a merged integer holds, although the integers differ.
    intro hexact n hn
    refine Bool.eq_false_iff.mpr fun hmerges => ?_
    have hequal := hexact (.equal n) (by simpa [IntegerTest.operands] using hn)
    have hm : m.val = n.toInt := hequal.mp (by
      change Test.equals (.number (.integer m)) (.ofInt64 n) = true
      rw [Test.equals, Json.ofInt64, Json.compare?_integers, hmerges]
      rfl)
    have hbounds := WideInt.merges_ofInt64_iff.mp hmerges
    have hsigned := Int64.toInt_lt n
    omega
  · intro hnone t hsub
    exact t.holds_iff fun n hn => hnone n (hsub hn)

/-- Integers above `2 ^ 53` are told apart, although their doubles do not tell them apart. -/
theorem Record.integer_filters_exact_iff_large :
    (Filter.mk ⟨"n", rfl, by decide⟩ (.isIn [.integer 9007199254740992, .integer 9007199254740994])).holds
      [("n", .ofInt64 9007199254740993)] = false := by
  have hexact := @Record.integer_filters_exact_iff (.ofInt64 9007199254740992)
    (.ofInt64 9007199254740993) [("n", .ofInt64 9007199254740993)] ⟨"n", rfl, by decide⟩
    (.ofInt64 9007199254740993) rfl [9007199254740992, 9007199254740994]
  have hmember := hexact.2.mpr (fun _ _ h => absurd h.2.1 (by decide))
    (.isIn [9007199254740992, 9007199254740994]) (List.Subset.refl _)
  refine Bool.eq_false_iff.mpr (mt hmember.mp ?_)
  rintro ⟨n, hn, heq⟩
  simp only [List.mem_cons, List.not_mem_nil, or_false] at hn
  rcases hn with rfl | rfl
  · exact absurd heq (by decide)
  · exact absurd heq (by decide)

/-- Beyond the signed range, different integers with one double are equal. -/
theorem Record.integers_beyond_merge :
    Json.compare? (.ofUInt64 9223372036854775808) (.ofUInt64 9223372036854775809) = some .eq ∧
      (Filter.mk ⟨"n", rfl, by decide⟩ (.equal (some (.integer 9223372036854775807)))).holds
        [("n", .ofUInt64 9223372036854775808)] = true :=
  ⟨rfl, rfl⟩

end QueryCriteria
