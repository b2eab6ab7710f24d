import QueryCriteria.Proofs.Dynamo.Lexemes

/-!
Texts that are read as filter expressions with a known truth on an item. The placeholders are those of
one whole expression, of which the text is a part.
-/
namespace QueryCriteria.Dynamo

open Text (Lexeme Alphabet Formula)
open Text.Formula (Denotes Spells joined)

/-- Formulas of predicates that hold on an item. -/
def semantics (whole : Expression) (evaluator : Evaluator) (item : String → Option Json) :
    Formula.Semantics Predicate where
  atom := Predicate.read whole.names whole.values
  Holds f := holds evaluator item f = true
  holds_and f g := by rw [holds, Bool.and_eq_true]
  holds_or f g := by rw [holds, Bool.or_eq_true]

/-- A text that stands, at a level of the grammar, for an expression that holds exactly under `p`. -/
def Reads (whole : Expression) (evaluator : Evaluator) (item : String → Option Json)
    (level : Formula.Level) (text : String) (p : Prop) : Prop :=
  ∃ ls, alphabet.Lexes text ls ∧ Denotes (semantics whole evaluator item) level ls p

variable {whole : Expression} {evaluator : Evaluator} {item : String → Option Json}

namespace Reads

variable {level : Formula.Level} {text : String} {p q : Prop}

theorem congr (h : Reads whole evaluator item level text p) (hpq : p ↔ q) :
    Reads whole evaluator item level text q := by
  obtain ⟨ls, hls, hd⟩ := h
  exact ⟨ls, hls, hd.congr hpq⟩

theorem conjunction (h : Reads whole evaluator item .negation text p) :
    Reads whole evaluator item .conjunction text p := by
  obtain ⟨ls, hls, hd⟩ := h
  exact ⟨ls, hls, hd.conjunction⟩

theorem disjunction (h : Reads whole evaluator item .conjunction text p) :
    Reads whole evaluator item .disjunction text p := by
  obtain ⟨ls, hls, hd⟩ := h
  exact ⟨ls, hls, hd.disjunction⟩

/-- A bracketed text is a conjunction of one. -/
theorem bracket (h : Reads whole evaluator item .disjunction text p) :
    Reads whole evaluator item .conjunction ("(" ++ text ++ ")") p := by
  obtain ⟨ls, hls, hd⟩ := h
  have hopen : alphabet.Lexes "(" [.mark '('] := rfl
  have hclose : alphabet.Lexes ")" [.mark ')'] := rfl
  exact ⟨_, (hopen.append_end hls rfl).append hclose rfl, hd.bracket.negation.conjunction⟩

private theorem exists_pieces {β : Type} {holds : β → Prop} {texts : List String} {bs : List β}
    (h : List.Forall₂ (fun text b => Reads whole evaluator item level text (holds b)) texts bs) :
    ∃ pieces, List.Forall₂ alphabet.Lexes texts pieces ∧
      List.Forall₂ (fun piece b => Denotes (semantics whole evaluator item) level piece (holds b))
        pieces bs := by
  induction h with
  | nil => exact ⟨[], .nil, .nil⟩
  | cons hb _ ih =>
    obtain ⟨ls, hls, hd⟩ := hb
    obtain ⟨pieces, hlex, hden⟩ := ih
    exact ⟨ls :: pieces, .cons hls hlex, .cons hd hden⟩

theorem conjoin {β : Type} {holds : β → Prop} {texts : List String} {bs : List β}
    (h : List.Forall₂ (fun text b => Reads whole evaluator item .negation text (holds b)) texts bs)
    (hne : texts ≠ []) :
    Reads whole evaluator item .conjunction (Text.join " AND " texts) (∀ b ∈ bs, holds b) := by
  obtain ⟨pieces, hlex, hden⟩ := exists_pieces h
  have hpieces : pieces ≠ [] := fun he => hne (List.forall₂_nil_right_iff.mp (he ▸ hlex))
  have hsep : alphabet.Lexes " AND " [.word "AND"] := rfl
  exact ⟨_, Formula.lexes_join hsep rfl rfl hlex, Denotes.conjoin hden hpieces⟩

theorem disjoin {β : Type} {holds : β → Prop} {texts : List String} {bs : List β}
    (h : List.Forall₂ (fun text b => Reads whole evaluator item .conjunction text (holds b)) texts bs)
    (hne : texts ≠ []) :
    Reads whole evaluator item .disjunction (Text.join " OR " texts) (∃ b ∈ bs, holds b) := by
  obtain ⟨pieces, hlex, hden⟩ := exists_pieces h
  have hpieces : pieces ≠ [] := fun he => hne (List.forall₂_nil_right_iff.mp (he ▸ hlex))
  have hsep : alphabet.Lexes " OR " [.word "OR"] := rfl
  exact ⟨_, Formula.lexes_join hsep rfl rfl hlex, Denotes.disjoin hden hpieces⟩

end Reads

/-- The formula that the text of a clause spells. -/
def Clause.formula (field : String) : Clause → Formula Predicate
  | .isNull => .or (.atom (.presence field false)) (.atom (.type field (.text nullType)))
  | .isNotNull => .and (.atom (.presence field true)) (.not (.atom (.type field (.text nullType))))
  | .compare comparison operand => .atom (.compare field comparison operand)
  | .contains operand => .atom (.contains field operand)
  | .beginsWith operand => .atom (.beginsWith field operand)
  | .isIn members => .atom (.isIn field members)
  | .notIn members => .not (.atom (.isIn field members))

section Spelling

variable {names : Entries String} {values : Entries Json} {n : Nat} {field : String}

private theorem word_namePlaceholder_ne (n : Nat) : Lexeme.word (namePlaceholder n) ≠ .word "NOT" := by
  intro h
  have hl := congrArg String.toList (Lexeme.word.inj h)
  rw [namePlaceholder, String.toList_append] at hl
  exact absurd (List.cons.inj hl).1 (by decide)

/-- A call of a function with a name alone. -/
private theorem spells_presence (values : Entries Json)
    (hname : Entries.get? names (namePlaceholder n) = some field) (wanted : Bool) :
    Spells (Predicate.read names values) .primary
      [.word (if wanted then "attribute_exists" else "attribute_not_exists"), .mark '(',
        .word (namePlaceholder n), .mark ')'] (.atom (.presence field wanted)) := by
  cases wanted <;> refine .atom nofun (by decide) fun rest => ?_
  · change (Predicate.readName names (.word (namePlaceholder n) :: .mark ')' :: rest)).map _ = _
    simp [Predicate.readName, hname]
  · change (Predicate.readName names (.word (namePlaceholder n) :: .mark ')' :: rest)).map _ = _
    simp [Predicate.readName, hname]

/-- A call of a function with a name and a value. -/
private theorem spells_pair (function : String) (predicate : String → Json → Predicate)
    (hn : function ≠ "NOT")
    (hcall : ∀ ls, Predicate.readCall names values function ls =
      (Predicate.readPair names values ls).map fun read => (predicate read.1.1 read.1.2, read.2))
    (hname : Entries.get? names (namePlaceholder n) = some field) {place : String} {operand : Json}
    (hvalue : Entries.get? values place = some operand) :
    Spells (Predicate.read names values) .primary
      [.word function, .mark '(', .word (namePlaceholder n), .mark ',', .word place, .mark ')']
      (.atom (predicate field operand)) := by
  refine .atom nofun (fun h => hn (Lexeme.word.inj h)) fun rest => ?_
  change Predicate.readCall names values function _ = _
  simp [hcall, Predicate.readPair, hname, hvalue]

private theorem spells_compare (hname : Entries.get? names (namePlaceholder n) = some field)
    {place : String} {operand : Json} (hvalue : Entries.get? values place = some operand)
    (comparison : Comparison) :
    Spells (Predicate.read names values) .primary
      [.word (namePlaceholder n), .sign comparison.text, .word place]
      (.atom (.compare field comparison operand)) := by
  refine .atom nofun (word_namePlaceholder_ne n) fun rest => ?_
  change (Entries.get? names (namePlaceholder n)).bind _ = _
  have hread : ∀ ls, Predicate.readTest values field (.sign comparison.text :: .word place :: ls) =
      (Entries.get? values place).map fun operand => (.compare field comparison operand, ls) := by
    intro ls
    cases comparison with
    | range relation => cases relation <;> rfl
    | _ => rfl
  simp [hname, hread, hvalue]

private theorem spells_isIn (hname : Entries.get? names (namePlaceholder n) = some field)
    {entries : List (String × Json)} (hne : entries ≠ [])
    (hvalues : ∀ entry ∈ entries, Entries.get? values entry.1 = some entry.2) :
    Spells (Predicate.read names values) .primary
      (.word (namePlaceholder n) :: .word "IN" :: .mark '(' ::
        (joined (.mark ',') ((entries.map (·.1)).map fun s => [.word s]) ++ [.mark ')']))
      (.atom (.isIn field (entries.map (·.2)))) := by
  refine .atom nofun (word_namePlaceholder_ne n) fun rest => ?_
  have hfound : List.Forall₂ (fun s operand => Entries.get? values s = some operand)
      (entries.map (·.1)) (entries.map (·.2)) := by
    rw [List.forall₂_map_left_iff, List.forall₂_map_right_iff, List.forall₂_same]
    exact hvalues
  have hread := Formula.readList_joined hfound (by simpa using hne) rest
  change (Entries.get? names (namePlaceholder n)).bind (fun field => (Formula.readList
    (Entries.get? values) ((joined _ _ ++ [.mark ')']) ++ rest)).map _) = _
  rw [hname, List.append_assoc, List.singleton_append, hread]
  rfl

end Spelling

/-- A text with the lexemes of a formula is read as the formula. -/
private theorem reads_of_spells {level : Formula.Level} {text : String} {ls : List Lexeme}
    {f : Formula Predicate} (hl : alphabet.Lexes text ls)
    (hs : Spells (Predicate.read whole.names whole.values) level ls f) :
    Reads whole evaluator item level text (holds evaluator item f = true) :=
  ⟨ls, hl, f, hs, Iff.rfl⟩

private theorem values_isIn (n : Nat) (members : List Json) :
    ((Clause.isIn members).values n).map (·.2) = members := by
  rw [Clause.values, List.map_map]
  exact List.zipIdx_map_fst 0 members

/-- The text of a numbered condition is read as its clause on its attribute. -/
theorem reads_clause {n : Nat} {condition : Condition} (h : whole.conditions[n]? = some condition)
    (hne : condition.clause.values n ≠ []) :
    Reads whole evaluator item .negation (condition.clause.text n)
      (holds evaluator item (condition.clause.formula condition.field) = true) := by
  obtain ⟨field, clause⟩ := condition
  have hname : Entries.get? whole.names (namePlaceholder n) = some field :=
    Expression.get?_names h
  have hvalues : ∀ entry ∈ clause.values n, Entries.get? whole.values entry.1 = some entry.2 :=
    fun entry he => Expression.get?_values h he
  refine reads_of_spells (lexes_clause clause n) ?_
  cases clause with
  | isNull =>
    have hpresence := spells_presence whole.values hname false
    have htype := spells_pair "attribute_type" .type (by decide) (fun _ => rfl) hname
      (hvalues _ (List.mem_singleton_self _))
    exact .primary (.bracket (.or (.negation (.primary hpresence))
      (.conjunction (.negation (.primary htype)))))
  | isNotNull =>
    have hpresence := spells_presence whole.values hname true
    have htype := spells_pair "attribute_type" .type (by decide) (fun _ => rfl) hname
      (hvalues _ (List.mem_singleton_self _))
    exact .primary (.bracket (.conjunction (.and (.primary hpresence)
      (.negation (.not (.primary htype))))))
  | compare comparison operand =>
    exact .primary (spells_compare hname (hvalues _ (List.mem_singleton_self _)) comparison)
  | contains operand =>
    exact .primary (spells_pair "contains" .contains (by decide) (fun _ => rfl) hname
      (hvalues _ (List.mem_singleton_self _)))
  | beginsWith operand =>
    exact .primary (spells_pair "begins_with" .beginsWith (by decide) (fun _ => rfl) hname
      (hvalues _ (List.mem_singleton_self _)))
  | isIn members =>
    have hspells := spells_isIn hname hne hvalues
    rw [values_isIn] at hspells
    exact .primary hspells
  | notIn members =>
    have hspells := spells_isIn hname hne hvalues
    have hmembers : ((Clause.notIn members).values n).map (·.2) = members := values_isIn n members
    rw [hmembers] at hspells
    have hnot := Spells.not (.primary (.bracket (.conjunction (.negation (.primary hspells)))))
    simpa [Clause.formula, Clause.lexemes, Clause.placeLexemes] using hnot

end QueryCriteria.Dynamo
