import QueryCriteria.Proofs.Matching.Preorder
import QueryCriteria.Proofs.Matching.Tree
import QueryCriteria.Proofs.Sql.Names
import QueryCriteria.Proofs.Success

/-!
Sort lists and the order of rows under them. A sort list says nothing of NULL, which a database then
counts as greater than every value, while a missing value is the least in the order of records: the two
orders agree on rows exactly as long as no NULL decides between them.
-/
namespace QueryCriteria

/-- Values of one kind that a column can have: booleans, texts or integers. -/
inductive Json.SameKind : Json → Json → Prop where
  | bool (a b : Bool) : SameKind (.bool a) (.bool b)
  | text (s t : String) : SameKind (.text s) (.text t)
  | integer (m n : Int64) : SameKind (.ofInt64 m) (.ofInt64 n)

/-- Null is below every other value. -/
theorem Json.sortOrder_null {value : Json} (h : value.isNull = false) :
    sortOrder .null value = .lt ∧ sortOrder value .null = .gt := by
  cases value with
  | null => cases h
  | _ => exact ⟨rfl, rfl⟩

namespace Record

/-- A field that two records are sorted by: no path, and null or of one kind. -/
structure Sortable (a b : Record) (field : String) : Prop where
  left : a.Reaches field
  right : b.Reaches field
  kind : a.column field = .null ∨ b.column field = .null ∨ (a.column field).SameKind (b.column field)

/-- The first field on which two records differ is null in one of them only. -/
def NullDecides (fields : List FieldName) (a b : Record) : Prop :=
  ∃ before field after, fields = before ++ field :: after ∧
    (∀ f ∈ before, Json.sortOrder (a.column f.text) (b.column f.text) = .eq) ∧
    (a.column field.text).isNull ≠ (b.column field.text).isNull

theorem nullDecides_cons {field : FieldName} {rest : List FieldName} {a b : Record} :
    NullDecides (field :: rest) a b ↔
      (a.column field.text).isNull ≠ (b.column field.text).isNull ∨
        Json.sortOrder (a.column field.text) (b.column field.text) = .eq ∧ NullDecides rest a b := by
  constructor
  · rintro ⟨before, decisive, after, hsplit, hbefore, hnull⟩
    cases before with
    | nil =>
      obtain ⟨rfl, _⟩ := List.cons.inj hsplit
      exact .inl hnull
    | cons first before =>
      obtain ⟨rfl, hrest⟩ := List.cons.inj hsplit
      obtain ⟨hfirst, hbefore⟩ := List.forall_mem_cons.mp hbefore
      exact .inr ⟨hfirst, before, decisive, after, hrest, hbefore, hnull⟩
  · rintro (hnull | ⟨hfirst, before, decisive, after, rfl, hbefore, hnull⟩)
    · exact ⟨[], field, rest, rfl, fun _ hf => absurd hf List.not_mem_nil, hnull⟩
    · exact ⟨field :: before, decisive, after, rfl, List.forall_mem_cons.mpr ⟨hfirst, hbefore⟩, hnull⟩

end Record

namespace Sql

open Text (Lexeme)

/-- How a database compares two values of a column that are not NULL. -/
abbrev Collation := Json → Json → Ordering

/-- What is relied on of a database: values of one kind are compared as criteria compare them. -/
def Collation.Lawful (collation : Collation) : Prop :=
  ∀ a b, a.SameKind b → a.compare? b = some (collation a b)

theorem sortOrder_lawful : Collation.Lawful Json.sortOrder := by
  intro a b h
  cases h with
  | bool a b => rfl
  | text s t => rfl
  | integer m n =>
    rw [Json.ofInt64, Json.ofInt64, Json.sortOrder_number]
    exact Json.Number.compare?_eq_order _ _

/-- An entry of a sort list. -/
structure SortKey where
  column : String
  descending : Bool
  nullsFirst : Bool
deriving DecidableEq

namespace SortKey

/-- The direction that lexemes begin with; without one it is ascending. -/
def direction : List Lexeme → Bool × List Lexeme
  | .word "ASC" :: rest => (false, rest)
  | .word "DESC" :: rest => (true, rest)
  | rest => (false, rest)

/-- Where NULL goes. If nothing is said, it counts as greater than every value. -/
def nulls? (descending : Bool) : List Lexeme → Option Bool
  | [.word "NULLS", .word "FIRST"] => some true
  | [.word "NULLS", .word "LAST"] => some false
  | [] => some descending
  | _ => none

def ofLexemes? : List Lexeme → Option SortKey
  | .quoted column :: rest =>
    let (descending, rest) := direction rest
    (nulls? descending rest).map (⟨column, descending, ·⟩)
  | _ => none

/-- How an entry places two rows with the given values in its column. -/
def compare (collation : Collation) (key : SortKey) (x y : Json) : Ordering :=
  match x.isNull, y.isNull with
  | true, true => .eq
  | true, false => if key.nullsFirst then .lt else .gt
  | false, true => if key.nullsFirst then .gt else .lt
  | false, false => if key.descending then (collation x y).swap else collation x y

/-- The entry of a column in a direction, with nothing said of NULL. -/
def plain (descending : Bool) (field : FieldName) : SortKey :=
  ⟨field.text, descending, descending⟩

end SortKey

/-- The entries that the text of a sort list spells, between commas. -/
def readSortList (text : String) : Option (List SortKey) := do
  ((← alphabet.lex text.toList).splitOn (.mark ',')).mapM SortKey.ofLexemes?

/-- Compares rows by the entries of a sort list, the first one first. -/
def compareRows (collation : Collation) (a b : String → Json) : List SortKey → Ordering
  | [] => .eq
  | key :: rest =>
    (key.compare collation (a key.column) (b key.column)).then (compareRows collation a b rest)

/-- Two comparisons that agree unless `p`; under `p` one is the reverse of the other, and neither is level. -/
structure AgreeUnless (p : Prop) (rows records : Ordering) : Prop where
  agree : ¬ p → rows = records
  reverse : p → records ≠ .eq ∧ rows = records.swap

namespace AgreeUnless

variable {p q : Prop} {rows records rows' records' : Ordering}

theorem iff_not (h : AgreeUnless p rows records) : rows = records ↔ ¬ p := by
  constructor
  · intro hsame hp
    obtain ⟨hne, hswap⟩ := h.reverse hp
    exact hne (Ordering.eq_eq_of_eq_swap (hsame.symm.trans hswap))
  · exact h.agree

theorem swap (h : AgreeUnless p rows records) : AgreeUnless p rows.swap records.swap where
  agree hp := congrArg Ordering.swap (h.agree hp)
  reverse hp := by
    obtain ⟨hne, hswap⟩ := h.reverse hp
    exact ⟨fun hlevel => hne (Ordering.swap_eq_eq.mp hlevel), congrArg Ordering.swap hswap⟩

/-- A further comparison counts where the first is level. -/
theorem followed (h : AgreeUnless p rows records) (h' : AgreeUnless q rows' records') :
    AgreeUnless (p ∨ records = .eq ∧ q) (rows.then rows') (records.then records') := by
  constructor
  · intro hnot
    rw [h.agree fun hp => hnot (.inl hp)]
    cases records with
    | eq => exact h'.agree fun hq => hnot (.inr ⟨rfl, hq⟩)
    | lt => rfl
    | gt => rfl
  · rintro (hp | ⟨rfl, hq⟩)
    · obtain ⟨hne, rfl⟩ := h.reverse hp
      cases records with
      | eq => exact absurd rfl hne
      | lt => exact ⟨Ordering.noConfusion, rfl⟩
      | gt => exact ⟨Ordering.noConfusion, rfl⟩
    · obtain rfl : rows = .eq := h.agree fun hp => (h.reverse hp).1 rfl
      exact h'.reverse hq

end AgreeUnless

section Agreement

variable {collation : Collation} {a b : Record}

/-- Descending, NULL comes first: an entry without further ado is the reverse of the ascending one. -/
theorem compare_plain_true (field : FieldName) (x y : Json) :
    (SortKey.plain true field).compare collation x y =
      ((SortKey.plain false field).compare collation x y).swap := by
  unfold SortKey.compare SortKey.plain
  cases x.isNull <;> cases y.isNull <;> rfl

theorem compareRows_plain_true (fields : List FieldName) (r s : String → Json) :
    compareRows collation r s (fields.map (SortKey.plain true)) =
      (compareRows collation r s (fields.map (SortKey.plain false))).swap := by
  induction fields with
  | nil => rfl
  | cons field rest ih =>
    rw [List.map_cons, List.map_cons, compareRows, compareRows, ih, compare_plain_true]
    exact (Ordering.swap_then ..).symm

/-- One column decides as the field does, unless it is NULL in one row only. -/
theorem agreeUnless_column (h : collation.Lawful) (field : FieldName) {x y : Json}
    (hkind : x = .null ∨ y = .null ∨ x.SameKind y) :
    AgreeUnless (x.isNull ≠ y.isNull) ((SortKey.plain false field).compare collation x y)
      (Json.sortOrder x y) := by
  unfold SortKey.compare
  cases hx : x.isNull with
  | true =>
    obtain rfl := Json.isNull_iff.mp hx
    cases hy : y.isNull with
    | true =>
      obtain rfl := Json.isNull_iff.mp hy
      exact ⟨fun _ => rfl, fun hne => absurd rfl hne⟩
    | false =>
      rw [(Json.sortOrder_null hy).1]
      exact ⟨fun hnot => absurd Bool.noConfusion hnot, fun _ => ⟨Ordering.noConfusion, rfl⟩⟩
  | false =>
    cases hy : y.isNull with
    | true =>
      obtain rfl := Json.isNull_iff.mp hy
      rw [(Json.sortOrder_null hx).2]
      exact ⟨fun hnot => absurd Bool.noConfusion hnot, fun _ => ⟨Ordering.noConfusion, rfl⟩⟩
    | false =>
      have hsame : x.SameKind y := by
        rcases hkind with rfl | rfl | hsame
        · cases hx
        · cases hy
        · exact hsame
      have hcollation : collation x y = Json.sortOrder x y := by
        rw [Json.sortOrder, h x y hsame, Option.getD_some]
      exact ⟨fun _ => hcollation, fun hne => absurd rfl hne⟩

/-- Ascending, the rows are compared as the records unless a NULL decides. -/
theorem agreeUnless_ascending (h : collation.Lawful) {fields : List FieldName}
    (hf : ∀ field ∈ fields, a.Sortable b field.text) :
    AgreeUnless (Record.NullDecides fields a b)
      (compareRows collation a.column b.column (fields.map (SortKey.plain false)))
      (Record.compareBy a b fields) := by
  induction fields with
  | nil =>
    refine ⟨fun _ => rfl, ?_⟩
    rintro ⟨before, field, after, hsplit, _⟩
    exact absurd hsplit.symm (List.append_ne_nil_of_right_ne_nil before (List.cons_ne_nil field after))
  | cons field rest ih =>
    obtain ⟨hfield, hrest⟩ := List.forall_mem_cons.mp hf
    rw [Record.nullDecides_cons, Record.compareBy, Record.resolve_eq_column hfield.left,
      Record.resolve_eq_column hfield.right, List.map_cons, compareRows]
    exact (agreeUnless_column h field hfield.kind).followed (ih hrest)

/-- In either direction the rows are compared as the records unless a NULL decides. -/
theorem agreeUnless_order (h : collation.Lawful) {order : Order} (hne : order.type ≠ .none)
    (hf : ∀ field ∈ order.fields, a.Sortable b field.text) :
    AgreeUnless (Record.NullDecides order.fields a b)
      (compareRows collation a.column b.column
        (order.fields.map (SortKey.plain (order.type == .desc))))
      (Record.compareIn order a b) := by
  have hascending := agreeUnless_ascending h hf
  unfold Record.compareIn
  cases htype : order.type with
  | none => exact absurd htype hne
  | asc => exact hascending
  | desc =>
    change AgreeUnless _ (compareRows collation a.column b.column
      (order.fields.map (SortKey.plain true))) _
    rw [compareRows_plain_true]
    exact hascending.swap

end Agreement

/-- The text of the sort list, without its keyword. -/
def Query.orderText (query : Query) : Option String :=
  query.orderTokens.map render

/-- The word of a direction. -/
def SortKey.word (descending : Bool) : String :=
  if descending then "DESC" else "ASC"

private theorem lexemesAll_sort (descending : Bool) (fields : List FieldName) (k : Nat) :
    lexemesAll k (fields.map fun field =>
      [.identifier field.text, .fixed (" " ++ SortKey.word descending)]) =
      fields.map fun field => [.quoted field.text, .word (SortKey.word descending)] := by
  apply lexemesAll_map
  intro k field
  cases descending <;> rfl

private theorem ofLexemes?_plain (descending : Bool) (field : FieldName) :
    SortKey.ofLexemes? [.quoted field.text, .word (SortKey.word descending)] =
      some (SortKey.plain descending field) := by
  cases descending <;> rfl

/-- The sort list of a direction is read as one entry for each field, with nothing said of NULL. -/
theorem readSortList_sortTokens {descending : Bool} {fields : List FieldName} {tokens : List Token}
    (hlegible : Legible tokens) (h : Query.sortTokens fields (SortKey.word descending) = some tokens) :
    readSortList (render tokens) = some (fields.map (SortKey.plain descending)) := by
  unfold Query.sortTokens at h
  split at h
  · cases h
  · rename_i hfields
    have hne : fields ≠ [] := fun he => hfields (List.isEmpty_iff.mpr he)
    obtain rfl := Option.some.inj h
    have hcomma : ∀ l ∈ fields.map fun field =>
        [Lexeme.quoted field.text, .word (SortKey.word descending)], Lexeme.mark ',' ∉ l := by
      intro l hl
      obtain ⟨field, _, rfl⟩ := List.mem_map.mp hl
      simp
    rw [readSortList, render, lex_renderFrom hlegible, lexemesFrom_separated (l := .mark ',') rfl,
      lexemesAll_sort]
    change ((Text.Formula.joined _ _).splitOn _).mapM _ = _
    rw [Text.Formula.splitOn_joined hcomma fun he => hne (List.map_eq_nil_iff.mp he)]
    exact mapM_map_eq_some fun field _ => ofLexemes?_plain descending field

theorem orderTokens_eq {query : Query} (h : query.order.type ≠ .none) :
    query.orderTokens = Query.sortTokens query.order.fields (SortKey.word (query.order.type == .desc)) := by
  unfold Query.orderTokens
  cases htype : query.order.type with
  | none => exact absurd htype h
  | asc => rfl
  | desc => rfl

theorem compareIn_of_orderTokens_none {query : Query} (h : query.orderTokens = none) (a b : Record) :
    Record.compareIn query.order a b = .eq := by
  have hfields {direction : String} (h : Query.sortTokens query.order.fields direction = none) :
      query.order.fields = [] := by
    unfold Query.sortTokens at h
    split at h
    · rename_i hempty
      exact List.isEmpty_iff.mp hempty
    · cases h
  unfold Query.orderTokens at h
  unfold Record.compareIn
  cases htype : query.order.type with
  | none => rfl
  | asc | desc =>
    rw [htype] at h
    rw [hfields h]
    rfl

/--
Without a sort list the order leaves records as they are. Otherwise the text of the list spells entries
that place two rows as the order places the records, exactly if no NULL decides between them; if one
does, the rows stand in reverse.
-/
theorem sortList_agrees_iff {collation : Collation} (h : collation.Lawful) (c : Criteria) (a b : Record)
    (hf : ∀ field ∈ c.order.fields, a.Sortable b field.text) :
    ((Query.ofCriteria c).orderText = none → Record.compareIn c.order a b = .eq) ∧
    ∀ text, (Query.ofCriteria c).orderText = some text → ∃ keys, readSortList text = some keys ∧
      (compareRows collation a.column b.column keys = Record.compareIn c.order a b ↔
        ¬ Record.NullDecides c.order.fields a b) ∧
      (Record.NullDecides c.order.fields a b →
        compareRows collation a.column b.column keys = (Record.compareIn c.order a b).swap) := by
  constructor
  · intro hnone
    exact compareIn_of_orderTokens_none (Option.map_eq_none_iff.mp hnone) a b
  · intro text htext
    obtain ⟨tokens, htokens, rfl⟩ := Option.map_eq_some_iff.mp htext
    have htype : c.order.type ≠ .none := fun he => by
      rw [Query.orderTokens, Query.ofCriteria, he] at htokens
      cases htokens
    have hlegible : Legible tokens := by
      have hquotes : Quotes [] _ c.order.columns := Quotes.orderTokens (Query.ofCriteria c)
      rw [htokens] at hquotes
      exact hquotes.legible
    rw [orderTokens_eq htype] at htokens
    have hagree := agreeUnless_order h htype hf
    exact ⟨_, readSortList_sortTokens hlegible htokens, hagree.iff_not, fun hd => (hagree.reverse hd).2⟩

/-- Everything, by number. -/
def byNumber : Criteria :=
  { Criteria.all with order := ⟨[⟨"n", rfl, by decide⟩], .asc⟩ }

theorem sortList_agrees_iff_byNumber :
    Collation.Lawful Json.sortOrder ∧
    (∀ field ∈ byNumber.order.fields,
      Record.Sortable [("n", .ofInt64 1)] [("n", .ofInt64 2)] field.text) ∧
    ∀ text, (Query.ofCriteria byNumber).orderText = some text →
      ∃ keys, readSortList text = some keys ∧
        (compareRows Json.sortOrder (Record.column [("n", .ofInt64 1)])
            (Record.column [("n", .ofInt64 2)]) keys =
            Record.compareIn byNumber.order [("n", .ofInt64 1)] [("n", .ofInt64 2)] ↔
          ¬ Record.NullDecides byNumber.order.fields [("n", .ofInt64 1)] [("n", .ofInt64 2)]) ∧
        (Record.NullDecides byNumber.order.fields [("n", .ofInt64 1)] [("n", .ofInt64 2)] →
          compareRows Json.sortOrder (Record.column [("n", .ofInt64 1)])
            (Record.column [("n", .ofInt64 2)]) keys =
            (Record.compareIn byNumber.order [("n", .ofInt64 1)] [("n", .ofInt64 2)]).swap) := by
  have hsortable : ∀ field ∈ byNumber.order.fields,
      Record.Sortable [("n", .ofInt64 1)] [("n", .ofInt64 2)] field.text := by
    intro field hfield
    obtain rfl := List.mem_singleton.mp hfield
    exact ⟨nofun, nofun, .inr (.inr (.integer 1 2))⟩
  exact ⟨sortOrder_lawful, hsortable, (sortList_agrees_iff sortOrder_lawful byNumber _ _ hsortable).2⟩

/-- A record without the number comes first, but its row comes last. -/
theorem sortList_misplaces_missing :
    Collation.Lawful Json.sortOrder ∧
    (∀ field ∈ byNumber.order.fields, Record.Sortable [("n", .ofInt64 1)] [] field.text) ∧
    (Query.ofCriteria byNumber).orderText = some "\"n\" ASC" ∧
    readSortList "\"n\" ASC" = some [⟨"n", false, false⟩] ∧
    compareRows Json.sortOrder (Record.column [("n", .ofInt64 1)]) (Record.column [])
      [⟨"n", false, false⟩] = .lt ∧
    Record.compareIn byNumber.order [("n", .ofInt64 1)] [] = .gt := by
  refine ⟨sortOrder_lawful, fun field hfield => ?_, rfl, rfl, rfl, rfl⟩
  obtain rfl := List.mem_singleton.mp hfield
  exact ⟨nofun, fun _ => rfl, .inr (.inl rfl)⟩

end Sql

end QueryCriteria
