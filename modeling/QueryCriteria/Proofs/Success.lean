import Mathlib.Data.List.Forall2

/-!
What a computation that succeeded has done: each of its steps succeeded. A traversal that failed has
failed at one element, after those before it succeeded.
-/
namespace QueryCriteria

variable {ε α β : Type}

theorem exists_of_bind_ok {x : Except ε α} {f : α → Except ε β} {b : β} (h : x >>= f = .ok b) :
    ∃ a, x = .ok a ∧ f a = .ok b := by
  cases x with
  | error e => cases h
  | ok a => exact ⟨a, rfl, h⟩

theorem bind_eq_ok_iff {x : Except ε α} {f : α → Except ε β} {b : β} :
    x >>= f = .ok b ↔ ∃ a, x = .ok a ∧ f a = .ok b := by
  constructor
  · exact exists_of_bind_ok
  · rintro ⟨a, rfl, h⟩
    exact h

theorem bind_eq_error_iff {x : Except ε α} {f : α → Except ε β} {e : ε} :
    x >>= f = .error e ↔ x = .error e ∨ ∃ a, x = .ok a ∧ f a = .error e := by
  cases x <;> simp [bind, Except.bind]

theorem exists_of_map_ok {x : Except ε α} {f : α → β} {b : β} (h : x.map f = .ok b) :
    ∃ a, x = .ok a ∧ f a = b := by
  cases x with
  | error e => cases h
  | ok a => exact ⟨a, rfl, Except.ok.inj h⟩

theorem forall₂_of_mapM_ok {f : α → Except ε β} {l : List α} {m : List β} (h : l.mapM f = .ok m) :
    List.Forall₂ (fun a b => f a = .ok b) l m := by
  induction l generalizing m with
  | nil =>
    cases h
    exact .nil
  | cons a l ih =>
    rw [List.mapM_cons] at h
    obtain ⟨b, hb, h⟩ := exists_of_bind_ok h
    obtain ⟨bs, hbs, h⟩ := exists_of_bind_ok h
    obtain rfl := Except.ok.inj h
    exact .cons hb (ih hbs)

/-- What every step ensures of its result holds of all results. -/
theorem forall_of_mapM_ok {P : β → Prop} {f : α → Except ε β} {l : List α} {m : List β}
    (h : l.mapM f = .ok m) (hstep : ∀ a ∈ l, ∀ b, f a = .ok b → P b) : ∀ b ∈ m, P b := by
  have hall := forall₂_of_mapM_ok h
  clear h
  induction hall with
  | nil => exact fun b hb => absurd hb List.not_mem_nil
  | cons ha _ ih =>
    obtain ⟨hhead, htail⟩ := List.forall_mem_cons.mp hstep
    exact List.forall_mem_cons.mpr ⟨hhead _ ha, ih htail⟩

/-- The results of a traversal, where each can be read off its element. -/
theorem eq_filterMap_of_mapM_ok {f : α → Except ε β} {g : α → Option β} {l : List α} {m : List β}
    (h : l.mapM f = .ok m) (hg : ∀ a b, f a = .ok b → g a = some b) : m = l.filterMap g := by
  have hall := forall₂_of_mapM_ok h
  clear h
  induction hall with
  | nil => rfl
  | cons ha _ ih => rw [List.filterMap_cons_some (hg _ _ ha), ih]

/-- A traversal succeeds on related elements if every step does, and its results are related. -/
theorem exists_of_mapM_ok {R : α → α → Prop} {S : β → β → Prop} {f : α → Except ε β}
    {l m : List α} (h : List.Forall₂ R l m) {bs : List β} (hl : l.mapM f = .ok bs)
    (hstep : ∀ a ∈ l, ∀ a', R a a' → ∀ b, f a = .ok b → ∃ b', f a' = .ok b' ∧ S b b') :
    ∃ bs', m.mapM f = .ok bs' ∧ List.Forall₂ S bs bs' := by
  induction h generalizing bs with
  | nil =>
    cases hl
    exact ⟨[], rfl, .nil⟩
  | cons hfirst _ ih =>
    obtain ⟨hhead, htail⟩ := List.forall_mem_cons.mp hstep
    rw [List.mapM_cons] at hl
    obtain ⟨b, hb, hl⟩ := exists_of_bind_ok hl
    obtain ⟨rest, hrest, hl⟩ := exists_of_bind_ok hl
    obtain rfl := Except.ok.inj hl
    obtain ⟨b', hb', hsame⟩ := hhead _ hfirst b hb
    obtain ⟨rest', hrest', hall⟩ := ih hrest htail
    refine ⟨b' :: rest', ?_, .cons hsame hall⟩
    rw [List.mapM_cons, hb', hrest']
    rfl

theorem mapM_eq_ok_map {f : α → Except ε β} {g : α → β} {l : List α}
    (h : ∀ a ∈ l, f a = .ok (g a)) : l.mapM f = .ok (l.map g) := by
  induction l with
  | nil => rfl
  | cons a rest ih =>
    obtain ⟨ha, hrest⟩ := List.forall_mem_cons.mp h
    rw [List.mapM_cons, ha, ih hrest]
    rfl

theorem mapM_congr {f g : α → Except ε β} {l : List α} (h : ∀ a ∈ l, f a = g a) :
    l.mapM f = l.mapM g := by
  induction l with
  | nil => rfl
  | cons a rest ih =>
    obtain ⟨ha, hrest⟩ := List.forall_mem_cons.mp h
    rw [List.mapM_cons, List.mapM_cons, ha, ih hrest]

/-- A traversal of the images of a list under a function that each step undoes gives the list. -/
theorem mapM_map_eq_ok {f : β → Except ε α} {g : α → β} {l : List α} (h : ∀ a ∈ l, f (g a) = .ok a) :
    (l.map g).mapM f = .ok l := by
  induction l with
  | nil => rfl
  | cons a rest ih =>
    obtain ⟨ha, hrest⟩ := List.forall_mem_cons.mp h
    rw [List.map_cons, List.mapM_cons, ha, ih hrest]
    rfl

/-- A traversal of images whose steps read each image back. -/
theorem mapM_map_eq_some {γ : Type} {f : β → Option γ} {g : α → β} {k : α → γ} {l : List α}
    (h : ∀ a ∈ l, f (g a) = some (k a)) : (l.map g).mapM f = some (l.map k) := by
  induction l with
  | nil => rfl
  | cons a rest ih =>
    obtain ⟨ha, hrest⟩ := List.forall_mem_cons.mp h
    rw [List.map_cons, List.mapM_cons, ha, ih hrest]
    rfl

/-- A check of a whole list passes exactly when it passes for each element. -/
theorem forM_eq_ok_iff {f : α → Except ε Unit} {l : List α} :
    l.forM f = .ok () ↔ ∀ a ∈ l, f a = .ok () := by
  induction l with
  | nil => exact ⟨fun _ a ha => absurd ha List.not_mem_nil, fun _ => rfl⟩
  | cons a rest ih =>
    rw [List.forall_mem_cons, ← ih]
    change (f a >>= fun _ => rest.forM f) = .ok () ↔ _
    constructor
    · intro h
      obtain ⟨_, ha, hrest⟩ := exists_of_bind_ok h
      exact ⟨ha, hrest⟩
    · rintro ⟨ha, hrest⟩
      rw [ha]
      exact hrest

/-- The error of a check is that of the first element that does not pass. -/
theorem forM_eq_error_iff {f : α → Except ε Unit} {l : List α} {e : ε} :
    l.forM f = .error e ↔ ∃ before a after, l = before ++ a :: after ∧
      (∀ b ∈ before, f b = .ok ()) ∧ f a = .error e := by
  induction l with
  | nil =>
    constructor
    · intro h
      cases h
    · rintro ⟨before, a, after, h, _⟩
      exact absurd h.symm (List.append_ne_nil_of_right_ne_nil before (List.cons_ne_nil a after))
  | cons a rest ih =>
    change (f a >>= fun _ => rest.forM f) = .error e ↔ _
    cases ha : f a with
    | error e' =>
      constructor
      · intro h
        obtain rfl : e' = e := Except.error.inj h
        exact ⟨[], a, rest, rfl, fun b hb => absurd hb List.not_mem_nil, ha⟩
      · rintro ⟨before, b, after, hsplit, hbefore, hb⟩
        cases before with
        | nil =>
          obtain ⟨rfl, _⟩ := List.cons.inj hsplit
          rw [ha] at hb
          exact congrArg Except.error (Except.error.inj hb)
        | cons first before =>
          obtain ⟨rfl, _⟩ := List.cons.inj hsplit
          have hpass : f a = .ok () := hbefore a List.mem_cons_self
          rw [ha] at hpass
          cases hpass
    | ok _ =>
      refine Iff.trans ih ⟨?_, ?_⟩
      · rintro ⟨before, b, after, rfl, hbefore, hb⟩
        exact ⟨a :: before, b, after, rfl, List.forall_mem_cons.mpr ⟨ha, hbefore⟩, hb⟩
      · rintro ⟨before, b, after, hsplit, hbefore, hb⟩
        cases before with
        | nil =>
          obtain ⟨rfl, _⟩ := List.cons.inj hsplit
          rw [ha] at hb
          cases hb
        | cons first before =>
          obtain ⟨_, hrest⟩ := List.cons.inj hsplit
          exact ⟨before, b, after, hrest, fun c hc => hbefore c (List.mem_cons_of_mem first hc), hb⟩

/-- A traversal whose results do not count is a check. -/
theorem forM_map_eq (f : α → Except ε β) (l : List α) :
    l.forM (fun a => (f a).map fun _ => ()) = (l.mapM f).map fun _ => () := by
  induction l with
  | nil => rfl
  | cons a rest ih =>
    rw [List.mapM_cons]
    change ((f a).map (fun _ => ()) >>= fun _ => rest.forM _) = _
    rw [ih]
    cases f a with
    | error e => rfl
    | ok b => cases rest.mapM f <;> rfl

theorem map_eq_error_iff {x : Except ε α} {f : α → β} {e : ε} :
    x.map f = .error e ↔ x = .error e := by
  cases x <;> simp [Except.map]

/-- The error of a traversal is that of the first element at which it fails. -/
theorem mapM_eq_error_iff {f : α → Except ε β} {l : List α} {e : ε} :
    l.mapM f = .error e ↔ ∃ before a after, l = before ++ a :: after ∧
      (∀ b ∈ before, ∃ c, f b = .ok c) ∧ f a = .error e := by
  have hpass (a : α) : (f a).map (fun _ => ()) = .ok () ↔ ∃ c, f a = .ok c := by
    cases f a <;> simp [Except.map]
  have hcheck : l.forM (fun a => (f a).map fun _ => ()) = .error e ↔ l.mapM f = .error e := by
    rw [forM_map_eq, map_eq_error_iff]
  rw [← hcheck, forM_eq_error_iff]
  simp only [hpass, map_eq_error_iff]

/-- Steps that each succeed have results. -/
theorem exists_forall₂_of_ok {f : α → Except ε β} {l : List α} (h : ∀ a ∈ l, ∃ b, f a = .ok b) :
    ∃ m, List.Forall₂ (fun a b => f a = .ok b) l m := by
  induction l with
  | nil => exact ⟨[], .nil⟩
  | cons a rest ih =>
    obtain ⟨⟨b, hb⟩, hrest⟩ := List.forall_mem_cons.mp h
    obtain ⟨bs, hbs⟩ := ih hrest
    exact ⟨b :: bs, .cons hb hbs⟩

end QueryCriteria
