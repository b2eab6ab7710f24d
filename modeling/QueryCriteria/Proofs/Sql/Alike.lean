import QueryCriteria.Proofs.Criteria.Form
import QueryCriteria.Proofs.Sql.Where

/-!
Criteria that differ only in the values of their filters. Their conditions and statements have one
text, with as many places for values: no value is part of a text.
-/
namespace QueryCriteria

/-- One test of one field, except for its values: only null and the length of a list are the same. -/
structure Filter.Alike (f g : Filter) : Prop extends f.SameForm g where
  field : f.field = g.field

/-- Trees of one shape whose corresponding filters are alike. -/
def Criteria.Alike : Criteria → Criteria → Prop :=
  Matched Filter.Alike

/-- Alike trees that are ordered and paginated in the same way at the root, where that counts. -/
structure Criteria.SameButValues (c d : Criteria) : Prop where
  tree : c.Alike d
  order : c.order = d.order
  limit : c.limit = d.limit
  offset : c.offset = d.offset

namespace Sql

/-- Tokens without the values that they bind. -/
def outline (tokens : List Token) : List Token :=
  tokens.map fun
    | .param _ => .param .null
    | token => token

theorem renderFrom_outline (k : Nat) (tokens : List Token) :
    renderFrom k (outline tokens) = renderFrom k tokens := by
  induction tokens generalizing k with
  | nil => rfl
  | cons token rest ih =>
    cases token with
    | fixed s => exact congrArg (s ++ ·) (ih k)
    | identifier name => exact congrArg (quoteIdentifier name ++ ·) (ih k)
    | param value => exact congrArg ("$" ++ toString k ++ ·) (ih (k + 1))

theorem length_params_outline (tokens : List Token) :
    (params (outline tokens)).length = (params tokens).length := by
  induction tokens with
  | nil => rfl
  | cons token rest ih =>
    cases token with
    | fixed s => exact ih
    | identifier name => exact ih
    | param value => exact congrArg (· + 1) ih

/-- Tokens of one outline have one text. -/
theorem render_eq_of_outline {as bs : List Token} (h : outline as = outline bs) :
    render as = render bs := by
  rw [render, render, ← renderFrom_outline 1 as, h, renderFrom_outline]

theorem length_params_eq_of_outline {as bs : List Token} (h : outline as = outline bs) :
    (params as).length = (params bs).length := by
  rw [← length_params_outline as, h, length_params_outline]

theorem outline_append (as bs : List Token) : outline (as ++ bs) = outline as ++ outline bs :=
  List.map_append

theorem outline_separated (sep : String) (lists : List (List Token)) :
    outline (separated sep lists) = separated sep (lists.map outline) := by
  induction lists with
  | nil => rfl
  | cons tokens rest ih =>
    cases rest with
    | nil => rfl
    | cons following rest =>
      have hs : separated sep (tokens :: following :: rest) =
          tokens ++ .fixed sep :: separated sep (following :: rest) := rfl
      rw [hs, outline_append, List.map_cons]
      exact congrArg (outline tokens ++ .fixed sep :: ·) ih

/-- Of the members of a list only their number is left. -/
private theorem outline_members (column start : String) {members others : List Param}
    (h : members.length = others.length) :
    outline (.identifier column :: .fixed start
        :: separated ", " (members.map fun member => [.param member]) ++ [.fixed ")"]) =
      outline (.identifier column :: .fixed start
        :: separated ", " (others.map fun other => [.param other]) ++ [.fixed ")"]) := by
  have hplaces (ps : List Param) : outline (separated ", " (ps.map fun p => [.param p])) =
      separated ", " (List.replicate ps.length [.param .null]) := by
    rw [outline_separated, List.map_map, ← List.map_const]
    rfl
  have hinner : outline (separated ", " (members.map fun member => [.param member])) =
      outline (separated ", " (others.map fun other => [.param other])) := by
    rw [hplaces, hplaces, h]
  rw [outline_append, outline_append]
  exact congrArg (.identifier column :: .fixed start :: · ++ [.fixed ")"]) hinner

namespace Condition

/-- The tokens of a condition without its values. -/
def outline (condition : Condition) : List Token :=
  Sql.outline condition.tokens

private theorem outline_compare (column : String) (comparison : Comparison) (p q : Param) :
    outline (.compare column comparison p) = outline (.compare column comparison q) := by
  rw [outline, outline, tokens, tokens]
  rfl

private theorem outline_nullOr (column : String) {condition other : Condition}
    (h : condition.outline = other.outline) :
    outline (.nullOr column condition) = outline (.nullOr column other) := by
  have hsplit (c : Condition) : outline (.nullOr column c) =
      .fixed "(" :: .identifier column :: .fixed " IS NULL OR " :: c.outline ++ [.fixed ")"] :=
    outline_append (.fixed "(" :: .identifier column :: .fixed " IS NULL OR " :: c.tokens) _
  rw [hsplit, hsplit, h]

/-- The condition of a filter is that of its sample, except for the values. -/
theorem outline_ofFilter (f : Filter) :
    (ofFilter f).outline = (ofTest f.field.text f.sample).outline := by
  obtain ⟨field, test⟩ := f
  cases test with
  | equal operand =>
    cases operand with
    | none => rfl
    | some s => exact outline_compare field.text .equal _ _
  | notEqual operand =>
    cases operand with
    | none => rfl
    | some s => exact outline_compare field.text .distinct _ _
  | range relation s => cases relation <;> exact outline_compare field.text (.range _) _ _
  | text test s =>
    cases test with
    | notLike => exact outline_nullOr field.text (outline_compare field.text .notLike _ _)
    | _ => exact outline_compare field.text .like _ _
  | isIn members =>
    cases members with
    | nil => rfl
    | cons s rest =>
      refine outline_members field.text " IN (" ?_
      simp [Filter.value, Test.value, Value.count]
  | notIn members =>
    cases members with
    | nil => rfl
    | cons s rest =>
      refine outline_nullOr field.text (outline_members field.text " NOT IN (" ?_)
      simp [Filter.value, Test.value, Value.count]

theorem outline_conjunction (conditions : List Condition) :
    outline (.conjunction conditions) = separated " AND " (conditions.map outline) := by
  have htokens : (Condition.conjunction conditions).tokens =
      separated " AND " (conditions.map tokens) := by rw [tokens, tokensAll_eq_map]
  rw [outline, htokens, outline_separated, List.map_map]
  rfl

theorem outline_disjunction (conditions : List Condition) :
    outline (.disjunction conditions) =
      separated " OR " ((conditions.map outline).map fun part => .fixed "(" :: part ++ [.fixed ")"]) := by
  have htokens : (Condition.disjunction conditions).tokens =
      separated " OR " (conditions.map fun c => .fixed "(" :: c.tokens ++ [.fixed ")"]) := by
    rw [tokens, bracketedAll_eq_map]
  rw [outline, htokens, outline_separated, List.map_map, List.map_map]
  refine congrArg (separated " OR ") (List.map_congr_left fun c _ => ?_)
  exact outline_append (.fixed "(" :: c.tokens) [.fixed ")"]

theorem outline_alternatives {conditions others : List Condition}
    (h : conditions.map outline = others.map outline) :
    (alternatives conditions).map outline = (alternatives others).map outline := by
  match conditions, others, h with
  | [], [], _ => rfl
  | [c], [d], h => exact congrArg some (List.cons.inj h).1
  | [c], _ :: _ :: _, h => cases (List.cons.inj h).2
  | _ :: _ :: _, [d], h => cases (List.cons.inj h).2
  | _ :: _ :: _, _ :: _ :: _, h =>
    refine congrArg some ?_
    rw [outline_disjunction, outline_disjunction, h]

theorem outline_ofFilters {fs gs : Filters} (h : List.Forall₂ Filter.Alike fs gs) :
    (ofFilters fs).map outline = (ofFilters gs).map outline := by
  have hfilters : (fs.map ofFilter).map outline = (gs.map ofFilter).map outline := by
    rw [List.map_map, List.map_map]
    refine map_eq_of_forall₂ h fun f _ g hfg => ?_
    rw [Function.comp_apply, Function.comp_apply, outline_ofFilter, outline_ofFilter, hfg.field,
      hfg.toSameForm.sample_eq]
  cases h with
  | nil => rfl
  | cons =>
    refine congrArg (fun tokens => [tokens]) ?_
    rw [outline_conjunction, outline_conjunction, hfilters]

/-- Alike trees have conditions that differ in their values only, or both have none. -/
theorem outline_ofCriteria {c d : Criteria} (h : c.Alike d) :
    (ofCriteria c).map outline = (ofCriteria d).map outline := by
  induction c using Criteria.induction generalizing d with
  | node filters order limit offset branches ih =>
    obtain ⟨filters', order', limit', offset', branches'⟩ := d
    obtain ⟨hfilters, hbranches⟩ := h
    have hbelow : (ofBranches branches).map outline = (ofBranches branches').map outline := by
      rw [ofBranches_eq_map, ofBranches_eq_map, List.map_map, List.map_map]
      refine map_eq_of_forall₂ hbranches fun b hb b' hbb' => ?_
      have hgetD (o : Option Condition) : (o.getD .truth).outline = (o.map outline).getD truth.outline :=
        (Option.getD_map outline .truth o).symm
      rw [Function.comp_apply, Function.comp_apply, hgetD, ih b hb hbb', hgetD]
    rw [ofCriteria, ofCriteria]
    refine outline_alternatives ?_
    rw [List.map_append, List.map_append, outline_ofFilters hfilters, hbelow]

end Condition

namespace Query

variable {c d : Criteria}

theorem outline_whereTokens (h : c.Alike d) :
    (ofCriteria c).whereTokens.map outline = (ofCriteria d).whereTokens.map outline := by
  have hcondition := Condition.outline_ofCriteria h
  rw [whereTokens, whereTokens, Option.map_map, Option.map_map]
  exact hcondition

private theorem outline_clause (keyword : String) (tokens : Option (List Token)) :
    outline (clause keyword tokens) = clause keyword (tokens.map outline) := by
  cases tokens <;> rfl

theorem outline_tokens (h : c.SameButValues d) :
    outline (ofCriteria c).tokens = outline (ofCriteria d).tokens := by
  have horder : (ofCriteria c).orderTokens = (ofCriteria d).orderTokens := by
    unfold orderTokens
    rw [ofCriteria, ofCriteria, h.order]
  have hlimit : (ofCriteria c).limit = (ofCriteria d).limit := h.limit
  have hoffset : (ofCriteria c).offset = (ofCriteria d).offset := h.offset
  rw [tokens, tokens, horder, hlimit, hoffset]
  simp only [outline_append, outline_clause, outline_whereTokens h.tree]

theorem whereText_eq (h : c.Alike d) : (ofCriteria c).whereText = (ofCriteria d).whereText := by
  have hrender : render = render ∘ outline := funext fun tokens => (renderFrom_outline 1 tokens).symm
  rw [whereText, whereText, hrender, ← Option.map_map, outline_whereTokens h, Option.map_map]

theorem length_params_eq (h : c.Alike d) :
    (ofCriteria c).params.length = (ofCriteria d).params.length := by
  have hgetD (o : Option (List Token)) : outline (o.getD []) = (o.map outline).getD [] :=
    (Option.getD_map outline [] o).symm
  refine length_params_eq_of_outline ?_
  rw [hgetD, outline_whereTokens h, hgetD]

end Query

/--
The texts for criteria that differ in values only are the same: that of the condition, that of all
clauses, and the whole statement. So are the numbers of bound values.
-/
theorem texts_eq_of_sameButValues {c d : Criteria} (h : c.SameButValues d) (table : Table) :
    (Query.ofCriteria c).whereText = (Query.ofCriteria d).whereText ∧
      render (Query.ofCriteria c).tokens = render (Query.ofCriteria d).tokens ∧
      (Query.ofCriteria c).params.length = (Query.ofCriteria d).params.length ∧
      ∃ s t, table.commands.matching c = .ok (.native s) ∧
        table.commands.matching d = .ok (.native t) ∧
        s.sql = t.sql ∧ s.params.length = t.params.length := by
  have htokens := Query.outline_tokens h
  have hstatement : outline (table.select ++ (Query.ofCriteria c).tokens) =
      outline (table.select ++ (Query.ofCriteria d).tokens) := by
    rw [outline_append, outline_append, htokens]
  refine ⟨Query.whereText_eq h.tree, render_eq_of_outline htokens, Query.length_params_eq h.tree, ?_⟩
  exact ⟨_, _, rfl, rfl, render_eq_of_outline hstatement, length_params_eq_of_outline hstatement⟩

def loginField : FieldName := ⟨"login", rfl, by decide⟩

def teamField : FieldName := ⟨"team", rfl, by decide⟩

def leavingField : FieldName := ⟨"leaving", rfl, by decide⟩

/-- A page of the staff with a login and some teams, and of whoever has no login like a pattern. -/
def staff (login : String) (teams : List String) (pattern : String) : Criteria where
  filters := [⟨loginField, .equal (some (.text login))⟩, ⟨teamField, .isIn (teams.map .text)⟩,
    ⟨leavingField, .equal none⟩]
  order := ⟨[loginField], .desc⟩
  limit := some 10
  offset := none
  branches := [.ofFilters [⟨loginField, .text .notLike pattern⟩]]

theorem staff_sameButValues {teams others : List String} (h : teams.length = others.length)
    (login other pattern unlike : String) :
    (staff login teams pattern).SameButValues (staff other others unlike) where
  tree := by
    have hlogin : Filter.Alike ⟨loginField, .equal (some (.text login))⟩
        ⟨loginField, .equal (some (.text other))⟩ := ⟨⟨rfl, fun _ => rfl, fun _ => rfl⟩, rfl⟩
    have hteam : Filter.Alike ⟨teamField, .isIn (teams.map .text)⟩
        ⟨teamField, .isIn (others.map .text)⟩ := by
      refine ⟨⟨rfl, fun _ => rfl, fun _ => ?_⟩, rfl⟩
      simp [Filter.value, Test.value, Value.count, h]
    have hleaving : Filter.Alike ⟨leavingField, .equal none⟩ ⟨leavingField, .equal none⟩ :=
      ⟨.refl _, rfl⟩
    have hpattern : Filter.Alike ⟨loginField, .text .notLike pattern⟩
        ⟨loginField, .text .notLike unlike⟩ := ⟨⟨rfl, fun _ => rfl, fun _ => rfl⟩, rfl⟩
    have hbranch : Criteria.Alike (.ofFilters [⟨loginField, .text .notLike pattern⟩])
        (.ofFilters [⟨loginField, .text .notLike unlike⟩]) := .node (.cons hpattern .nil) .nil
    exact .node (.cons hlogin (.cons hteam (.cons hleaving .nil))) (.cons hbranch .nil)
  order := rfl
  limit := rfl
  offset := rfl

/-- Values that would end a text or a name, stand for a place, or match anything. -/
def intruders : Criteria :=
  staff "x' OR '1'='1' --" ["a\" OR 1=1; --", "$1"] "%\\\x00"

theorem texts_eq_of_sameButValues_intruders :
    intruders.SameButValues (staff "Ada" ["sales", "support"] "B%") ∧
      (Query.ofCriteria intruders).whereText =
        (Query.ofCriteria (staff "Ada" ["sales", "support"] "B%")).whereText ∧
      ∃ s t, (Table.mk "users" "id").commands.matching intruders = .ok (.native s) ∧
        (Table.mk "users" "id").commands.matching (staff "Ada" ["sales", "support"] "B%") =
          .ok (.native t) ∧
        s.sql = t.sql ∧ s.params.length = t.params.length := by
  have hsame : intruders.SameButValues (staff "Ada" ["sales", "support"] "B%") := by
    refine staff_sameButValues ?_ ..
    rfl
  have htexts := texts_eq_of_sameButValues hsame ⟨"users", "id"⟩
  exact ⟨hsame, htexts.1, htexts.2.2.2⟩

end Sql

end QueryCriteria
