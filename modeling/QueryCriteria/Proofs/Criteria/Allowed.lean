import QueryCriteria.Proofs.Criteria.Create
import QueryCriteria.Proofs.Matching.Tree

/-!
Allowed fields. Checking what a caller asks for while it is read, and checking the tree that was read,
let the same criteria through; and the check of a tree looks at every field of every node, in the order
of the nodes.
-/
namespace QueryCriteria

variable {allowed : List String}

/-- Checks fields, each for its use, one after the other. -/
def ensureAll (allowed : List String) (uses : List (FieldUse × String)) : Except CriteriaError Unit :=
  uses.forM fun use => ensureAllowed use.1 allowed use.2

theorem ensureAll_append (first rest : List (FieldUse × String)) :
    ensureAll allowed (first ++ rest) = (do ensureAll allowed first; ensureAll allowed rest) :=
  List.forM_append

theorem ensureAll_map {α : Type} (use : FieldUse) (field : α → String) (l : List α) :
    ensureAll allowed (l.map fun a => (use, field a)) = l.forM fun a => ensureAllowed use allowed (field a) := by
  induction l with
  | nil => rfl
  | cons a rest ih => exact congrArg (ensureAllowed use allowed (field a) >>= fun _ => ·) ih

theorem ensureAll_eq_ok_iff {uses : List (FieldUse × String)} :
    ensureAll allowed uses = .ok () ↔ ∀ use ∈ uses, use.2 ∈ allowed :=
  forM_eq_ok_iff.trans (forall₂_congr fun _ _ => ensureAllowed_eq_ok_iff)

/-- The error names the first field that is not allowed, its use, and all that would have been. -/
theorem ensureAll_eq_error_iff {uses : List (FieldUse × String)} {e : CriteriaError} :
    ensureAll allowed uses = .error e ↔ ∃ before use field after,
      uses = before ++ (use, field) :: after ∧ (∀ u ∈ before, u.2 ∈ allowed) ∧
        field ∉ allowed ∧ e = .invalidField use field allowed := by
  refine forM_eq_error_iff.trans ⟨?_, ?_⟩
  · rintro ⟨before, ⟨use, field⟩, after, hsplit, hbefore, hfield⟩
    exact ⟨before, use, field, after, hsplit, fun u hu => ensureAllowed_eq_ok_iff.mp (hbefore u hu),
      ensureAllowed_eq_error_iff.mp hfield⟩
  · rintro ⟨before, use, field, after, hsplit, hbefore, hfield⟩
    exact ⟨before, (use, field), after, hsplit, fun u hu => ensureAllowed_eq_ok_iff.mpr (hbefore u hu),
      ensureAllowed_eq_error_iff.mpr hfield⟩

/-- The fields of filters, as used in them. -/
def Filters.uses (filters : Filters) : List (FieldUse × String) :=
  filters.map fun filter => (.filter, filter.field.text)

/-- The sort fields, as used in an order. -/
def Order.uses (order : Order) : List (FieldUse × String) :=
  order.fields.map fun field => (.orderBy, field.text)

theorem Filters.checkFields_eq (filters : Filters) :
    Filters.checkFields allowed filters = ensureAll allowed filters.uses :=
  (ensureAll_map .filter (fun filter : Filter => filter.field.text) filters).symm

theorem Order.checkFields_eq (order : Order) :
    order.checkFields allowed = ensureAll allowed order.uses :=
  (ensureAll_map .orderBy FieldName.text order.fields).symm

namespace Criteria

/-- The fields of one node: those of its filters, then those it sorts by. -/
def ownUses (c : Criteria) : List (FieldUse × String) :=
  Filters.uses c.filters ++ c.order.uses

/-- The fields of all nodes, depth first. -/
def uses (c : Criteria) : List (FieldUse × String) :=
  c.nodes.flatMap ownUses

theorem uses_eq (c : Criteria) : c.uses = c.ownUses ++ c.branches.flatMap uses :=
  flatMap_nodes ownUses c

/-- The check of a tree is that of the list of its fields. -/
theorem checkFields_eq (c : Criteria) : c.checkFields allowed = ensureAll allowed c.uses := by
  induction c using Criteria.induction with
  | node filters order limit offset branches ih =>
    have hbranches : checkFieldsAll allowed branches = ensureAll allowed (branches.flatMap uses) := by
      induction branches with
      | nil => rfl
      | cons b rest ihrest =>
        obtain ⟨hb, hrest⟩ := List.forall_mem_cons.mp ih
        rw [checkFieldsAll, List.flatMap_cons, ensureAll_append, hb, ihrest hrest]
    rw [checkFields, uses_eq, ownUses, List.append_assoc, ensureAll_append, ensureAll_append,
      Filters.checkFields_eq, Order.checkFields_eq, hbranches]

theorem forall_uses {c : Criteria} :
    (∀ use ∈ c.uses, use.2 ∈ allowed) ↔ ∀ node ∈ c.nodes,
      (∀ f ∈ node.filters, f.field.text ∈ allowed) ∧ ∀ f ∈ node.order.fields, f.text ∈ allowed := by
  simp only [uses, ownUses, Filters.uses, Order.uses, List.forall_mem_flatMap, List.forall_mem_append,
    List.forall_mem_map]

end Criteria

/-- Sort fields are read and checked alike with and without a list of the allowed ones. -/
theorem Order.create_some_eq_ok_iff {fields type : Option String} {order : Order} :
    create fields type (some allowed) = .ok order ↔
      create fields type Option.none = .ok order ∧ order.checkFields allowed = .ok () := by
  cases h : present fields with
  | none =>
    rw [create_of_absent h, create_of_absent h]
    constructor
    · intro horder
      obtain rfl := Except.ok.inj horder
      exact ⟨rfl, rfl⟩
    · exact And.left
  | some text =>
    rw [create_eq_ok_iff h, create_eq_ok_iff h]
    constructor
    · rintro ⟨hread, hcheck, htype⟩
      exact ⟨⟨hread, nofun, htype⟩, hcheck allowed rfl⟩
    · rintro ⟨⟨hread, _, htype⟩, hcheck⟩
      exact ⟨hread, fun _ hn => Option.mem_some.mp hn ▸ hcheck, htype⟩

theorem Filters.create_some_eq_ok_iff {inputs : List FilterInput} {filters : Filters} :
    create inputs (some allowed) = .ok filters ↔
      create inputs none = .ok filters ∧ checkFields allowed filters = .ok () := by
  rw [create_eq_ok_iff, create_eq_ok_iff]
  constructor
  · rintro ⟨hread, hcheck⟩
    exact ⟨⟨hread, nofun⟩, hcheck allowed rfl⟩
  · rintro ⟨⟨hread, _⟩, hcheck⟩
    exact ⟨hread, fun _ hn => Option.mem_some.mp hn ▸ hcheck⟩

namespace Criteria

theorem checkFields_root {c : Criteria} (h : c.branches = []) :
    c.checkFields allowed = .ok () ↔
      Filters.checkFields allowed c.filters = .ok () ∧ c.order.checkFields allowed = .ok () := by
  rw [checkFields_eq, uses_eq, h, List.flatMap_nil, List.append_nil, ownUses, Filters.checkFields_eq,
    Order.checkFields_eq, ensureAll_eq_ok_iff, ensureAll_eq_ok_iff, ensureAll_eq_ok_iff,
    List.forall_mem_append]

theorem create_some_eq_ok_iff {inputs : List FilterInput} {orderBy orderType : Option String}
    {limit offset : Option Int64} {c : Criteria} :
    create inputs orderBy orderType limit offset (some allowed) = .ok c ↔
      create inputs orderBy orderType limit offset none = .ok c ∧ c.checkFields allowed = .ok () := by
  rw [create_eq_ok_iff, create_eq_ok_iff, Filters.create_some_eq_ok_iff, Order.create_some_eq_ok_iff]
  constructor
  · rintro ⟨⟨hfilters, hin⟩, ⟨horder, hsort⟩, hlimit, hoffset, hbranches⟩
    exact ⟨⟨hfilters, horder, hlimit, hoffset, hbranches⟩, (checkFields_root hbranches).mpr ⟨hin, hsort⟩⟩
  · rintro ⟨⟨hfilters, horder, hlimit, hoffset, hbranches⟩, hcheck⟩
    obtain ⟨hin, hsort⟩ := (checkFields_root hbranches).mp hcheck
    exact ⟨⟨hfilters, hin⟩, ⟨horder, hsort⟩, hlimit, hoffset, hbranches⟩

/--
The allowed fields bind alike wherever they are enforced. Criteria are read under them exactly when they
are read without them and pass the check of the tree; the check passes exactly when they hold all fields
of all nodes, and otherwise it reports the first field, in the order of the nodes, that they do not hold.
-/
theorem allowed_fields_bind :
    (∀ (inputs : List FilterInput) (orderBy orderType : Option String) (limit offset : Option Int64)
      (allowed : List String) (c : Criteria),
      create inputs orderBy orderType limit offset (some allowed) = .ok c ↔
        create inputs orderBy orderType limit offset none = .ok c ∧ c.checkFields allowed = .ok ()) ∧
    ∀ (c : Criteria) (allowed : List String),
      (c.checkFields allowed = .ok () ↔ ∀ node ∈ c.nodes,
        (∀ f ∈ node.filters, f.field.text ∈ allowed) ∧ ∀ f ∈ node.order.fields, f.text ∈ allowed) ∧
      ∀ e, c.checkFields allowed = .error e ↔ ∃ before use field after,
        c.uses = before ++ (use, field) :: after ∧ (∀ u ∈ before, u.2 ∈ allowed) ∧
          field ∉ allowed ∧ e = .invalidField use field allowed := by
  refine ⟨fun inputs orderBy orderType limit offset allowed c => create_some_eq_ok_iff, ?_⟩
  intro c allowed
  rw [checkFields_eq]
  exact ⟨ensureAll_eq_ok_iff.trans forall_uses, fun e => ensureAll_eq_error_iff⟩

/-- A sort field that is not allowed is refused alike at the creation and by the check of the tree. -/
example :
    let inputs : List FilterInput := [⟨"name", "=", .text "Ada"⟩]
    let refusal : Except CriteriaError Unit := .error (.invalidField .orderBy "salary" ["name", "role"])
    (create inputs (some "role,salary") none none none (some ["name", "role"])).map (fun _ => ()) =
        refusal ∧
      (create inputs (some "role,salary") none none none none).bind (checkFields ["name", "role"]) =
        refusal := by
  decide +kernel

end Criteria

end QueryCriteria
