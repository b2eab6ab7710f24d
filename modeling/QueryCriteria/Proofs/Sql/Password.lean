import Mathlib.Data.List.Infix
import QueryCriteria.Sql.Source

/-!
Addresses as errors show them. What stands between the user and the last at sign is hidden whatever it
is, so two passwords cannot be told apart. An address can be shown unless its last at sign stands in front
of the end of the scheme; then the error of a failed attempt to connect cannot be made.
-/
namespace QueryCriteria.Sql

/-- What stands between the scheme and the rest of an address. -/
abbrev separator : List Char := "://".toList

@[simp] theorem length_separator : separator.length = 3 := rfl

variable {c : Char} {cs part before after : List Char}

/-! ### Places in a text -/

theorem lastIndexOf?_append (h : c ∉ after) :
    lastIndexOf? c (before ++ c :: after) = some before.length := by
  have hafter : after.reverse.findIdx? (· == c) = none := by
    rw [List.findIdx?_eq_none_iff]
    intro x hx
    rw [beq_eq_false_iff_ne]
    rintro rfl
    exact h (List.mem_reverse.mp hx)
  have hplace : (before ++ c :: after).reverse.findIdx? (· == c) = some after.length := by
    rw [List.reverse_append, List.reverse_cons, List.append_assoc, List.findIdx?_append, hafter]
    simp [List.findIdx?_cons]
  rw [lastIndexOf?, hplace, Option.map_some, List.length_append, List.length_cons]
  congr 1
  omega

theorem lastIndexOf?_eq_none (h : c ∉ cs) : lastIndexOf? c cs = none := by
  have hnone : cs.reverse.findIdx? (· == c) = none := by
    rw [List.findIdx?_eq_none_iff]
    intro x hx
    rw [beq_eq_false_iff_ne]
    rintro rfl
    exact h (List.mem_reverse.mp hx)
  rw [lastIndexOf?, hnone, Option.map_none]

theorem exists_last (h : c ∈ cs) : ∃ before after, cs = before ++ c :: after ∧ c ∉ after := by
  obtain ⟨after, before, hcs, hafter⟩ := List.eq_append_cons_of_mem (List.mem_reverse.mpr h)
  refine ⟨before.reverse, after.reverse, ?_, fun hc => hafter (List.mem_reverse.mp hc)⟩
  rw [← List.reverse_reverse cs, hcs]
  simp

theorem indexOf?_eq_none (hpart : part ≠ []) (h : ¬ part <:+: cs) : indexOf? part cs = none := by
  induction cs with
  | nil => simp [indexOf?, hpart]
  | cons c rest ih =>
    rw [List.infix_cons_iff, not_or] at h
    rw [indexOf?, if_neg (fun hp => h.1 (List.isPrefixOf_iff_prefix.mp hp)), ih h.2, Option.map_none]

/-- The separator does not begin in the text in front of it, either. -/
theorem indexOf?_separator (h : ¬ separator <:+: before) :
    indexOf? separator (before ++ separator ++ after) = some before.length := by
  induction before with
  | nil => rfl
  | cons c rest ih =>
    rw [List.infix_cons_iff, not_or] at h
    have hprefix : ¬ separator.isPrefixOf (c :: (rest ++ separator ++ after)) = true := by
      rw [List.isPrefixOf_iff_prefix]
      intro hp
      -- A separator that is not a part of the text in front would have to begin with another one.
      rcases rest with _ | ⟨d, _ | ⟨e, more⟩⟩
      · simp [separator] at hp
      · simp [separator] at hp
      · refine h.1 (List.prefix_of_prefix_length_le hp ?_ ?_)
        · exact ⟨separator ++ after, by simp⟩
        · simp [separator]
    rw [List.cons_append, List.cons_append, indexOf?, if_neg hprefix, ih h.2]
    rfl

theorem exists_first (hpart : part ≠ []) (h : part <:+: cs) :
    ∃ before after, cs = before ++ part ++ after ∧ ¬ part <:+: before := by
  induction cs with
  | nil => exact absurd (List.infix_nil.mp h) hpart
  | cons c rest ih =>
    by_cases hp : part <+: c :: rest
    · obtain ⟨after, hafter⟩ := hp
      exact ⟨[], after, hafter.symm, fun hnil => hpart (List.infix_nil.mp hnil)⟩
    · obtain ⟨before, after, rfl, hbefore⟩ := ih ((List.infix_cons_iff.mp h).resolve_left hp)
      refine ⟨c :: before, after, rfl, ?_⟩
      rw [List.infix_cons_iff, not_or]
      refine ⟨fun hc => hp (hc.trans ⟨part ++ after, ?_⟩), hbefore⟩
      rw [List.cons_append, List.append_assoc]

theorem slice?_of_le {start stop : Nat} (h : start ≤ stop) (hstop : stop ≤ cs.length) :
    slice? cs start stop = some ((cs.take stop).drop start) :=
  if_pos ⟨h, hstop⟩

theorem slice?_of_lt {start stop : Nat} (h : stop < start) : slice? cs start stop = none :=
  if_neg fun hle => Nat.not_le_of_lt h hle.1

theorem slice?_append (before part after : List Char) {start stop : Nat} (hstart : before.length = start)
    (hstop : start + part.length = stop) : slice? (before ++ part ++ after) start stop = some part := by
  subst hstart hstop
  rw [slice?_of_le (Nat.le_add_right _ _) (by simp), ← List.length_append, List.take_left, List.drop_left]

/-! ### Addresses -/

/-- The last at sign stands in front of the first separator. -/
def IsBackward (url : String) : Prop :=
  ∃ before after, url.toList = before ++ separator ++ after ∧ ¬ separator <:+: before ∧
    '@' ∈ before ∧ '@' ∉ after

section Shown

variable {url : String} {credentials user secret : List Char}

/-- What is shown of an address that has both places. -/
theorem maskPassword?_of_places {stop scheme : Nat} (hstop : lastIndexOf? '@' url.toList = some stop)
    (hscheme : indexOf? separator url.toList = some scheme) :
    maskPassword? url = (slice? url.toList (scheme + 3) stop).bind fun credentials =>
      (credentials.findIdx? (· == ':')).elim (some url) fun colon => do
        let start ← slice? url.toList 0 (scheme + 3)
        let user ← slice? credentials 0 colon
        let rest ← slice? url.toList stop url.toList.length
        return String.ofList (start ++ user ++ ":***".toList ++ rest) := by
  rw [maskPassword?]
  simp only [hstop, hscheme]
  refine Option.bind_congr fun credentials _ => ?_
  cases credentials.findIdx? (· == ':') <;> rfl

/-- An address without one of the places is shown as it is. -/
theorem maskPassword?_of_none
    (h : lastIndexOf? '@' url.toList = none ∨ indexOf? separator url.toList = none) :
    maskPassword? url = some url := by
  rw [maskPassword?]
  rcases h with h | h
  · simp only [h]
  · simp only [h]
    cases lastIndexOf? '@' url.toList <;> rfl

/-- The credentials of an address stand between the separator and the last at sign. -/
theorem slice?_credentials (hurl : url.toList = before ++ separator ++ (credentials ++ '@' :: after)) :
    slice? url.toList (before.length + 3) ((before ++ separator ++ credentials).length) =
      some credentials := by
  rw [hurl, ← List.append_assoc]
  exact slice?_append _ _ _ (List.length_append ..) (by simp [Nat.add_assoc])

variable (hurl : url.toList = before ++ separator ++ (credentials ++ '@' :: after))
  (hbefore : ¬ separator <:+: before) (hafter : '@' ∉ after)

include hurl hbefore hafter

theorem maskPassword?_of_at :
    maskPassword? url = (credentials.findIdx? (· == ':')).elim (some url) fun colon =>
      some (String.ofList
        (before ++ separator ++ credentials.take colon ++ ":***".toList ++ '@' :: after)) := by
  have hstop : lastIndexOf? '@' url.toList = some (before ++ separator ++ credentials).length := by
    rw [hurl, ← List.append_assoc, lastIndexOf?_append hafter]
  have hscheme : indexOf? separator url.toList = some before.length := by
    rw [hurl, indexOf?_separator hbefore]
  rw [maskPassword?_of_places hstop hscheme, slice?_credentials hurl, Option.bind_some]
  cases hcolon : credentials.findIdx? (· == ':') with
  | none => rfl
  | some colon =>
    obtain ⟨hlt, _⟩ := List.findIdx?_eq_some_iff_getElem.mp hcolon
    have hstart : slice? url.toList 0 (before.length + 3) = some (before ++ separator) := by
      rw [hurl]
      exact slice?_append [] _ _ rfl (by simp)
    have huser : slice? credentials 0 colon = some (credentials.take colon) := by
      rw [slice?_of_le (Nat.zero_le _) hlt.le, List.drop_zero]
    have hrest : slice? url.toList (before ++ separator ++ credentials).length url.toList.length =
        some ('@' :: after) := by
      rw [slice?_of_le (by simp [hurl]) le_rfl, List.take_length, hurl, ← List.append_assoc,
        List.drop_left]
    simp only [Option.elim_some, hstart, huser, hrest, Option.bind_eq_bind, Option.bind_some,
      Option.pure_def]

end Shown

/-- An address with a user and a password. -/
def address (scheme user password rest : String) : String :=
  scheme ++ "://" ++ user ++ ":" ++ password ++ "@" ++ rest

theorem findIdx?_colon {user : List Char} (h : ':' ∉ user) (secret : List Char) :
    (user ++ ':' :: secret).findIdx? (· == ':') = some user.length := by
  have huser : user.findIdx? (· == ':') = none := by
    rw [List.findIdx?_eq_none_iff]
    intro x hx
    rw [beq_eq_false_iff_ne]
    rintro rfl
    exact h hx
  rw [List.findIdx?_append, huser]
  simp [List.findIdx?_cons]

/-- What is shown of an address with a password: none of the password, and the tail of the rest. -/
theorem maskPassword?_address {scheme user : String} (hscheme : ¬ separator <:+: scheme.toList)
    (huser : ':' ∉ user.toList) (password rest : String) {middle tail : List Char}
    (hrest : '@' :: rest.toList = middle ++ '@' :: tail) (htail : '@' ∉ tail) :
    maskPassword? (address scheme user password rest) =
      some (scheme ++ "://" ++ user ++ ":***@" ++ String.ofList tail) := by
  have hurl : (address scheme user password rest).toList = scheme.toList ++ separator ++
      ((user.toList ++ ':' :: (password.toList ++ middle)) ++ '@' :: tail) := by
    have hat : "@".toList ++ rest.toList = middle ++ '@' :: tail := hrest
    have hcolon : ":".toList = [':'] := rfl
    simp only [address, String.toList_append, List.append_assoc, hat, hcolon, List.cons_append,
      List.nil_append]
  rw [maskPassword?_of_at hurl hscheme htail, findIdx?_colon huser, Option.elim_some, List.take_left]
  rw [Option.some_inj, ← String.toList_inj]
  simp [String.toList_append]

/--
The password does not show in an address, nor in the error of a failed attempt to connect to it: whatever
the password and the rest hold, three asterisks stand behind the user, and then an at sign. Of the scheme
it is needed that it holds no separator, and of the user that it holds no colon.
-/
theorem password_hidden (scheme user rest : String) (hscheme : ¬ separator <:+: scheme.toList)
    (huser : ':' ∉ user.toList) :
    (∃ tail : String, ∀ password, maskPassword? (address scheme user password rest) =
      some (scheme ++ "://" ++ user ++ ":***@" ++ tail)) ∧
    (∀ p q, maskPassword? (address scheme user p rest) = maskPassword? (address scheme user q rest)) ∧
    ∀ p q fault, connectError? (address scheme user p rest) fault =
      connectError? (address scheme user q rest) fault := by
  obtain ⟨middle, tail, hrest, htail⟩ := exists_last (List.mem_cons_self : '@' ∈ '@' :: rest.toList)
  have hshown := fun password => maskPassword?_address hscheme huser password rest hrest htail
  refine ⟨⟨String.ofList tail, hshown⟩, ?_, ?_⟩
  · intro p q
    rw [hshown p, hshown q]
  · intro p q fault
    rw [connectError?, connectError?, hshown p, hshown q]

/-- A password with a separator, a colon and an at sign, in front of a rest with the same. -/
theorem password_hidden_confusing :
    (¬ separator <:+: "postgres".toList ∧ ':' ∉ "app".toList) ∧
      maskPassword? (address "postgres" "app" "p://q:r@s" "db:5432/main?next=http://u@v") =
        maskPassword? (address "postgres" "app" "secret" "db:5432/main?next=http://u@v") := by
  have hscheme : ¬ separator <:+: "postgres".toList := by decide
  have huser : ':' ∉ "app".toList := by decide
  have h := password_hidden "postgres" "app" "db:5432/main?next=http://u@v" hscheme huser
  exact ⟨⟨hscheme, huser⟩, h.2.1 _ _⟩

theorem maskPassword?_of_isBackward {url : String} (h : IsBackward url) : maskPassword? url = none := by
  obtain ⟨before, after, hurl, hbefore, hat, hafter⟩ := h
  obtain ⟨start, middle, rfl, hmiddle⟩ := exists_last hat
  have hstop : lastIndexOf? '@' url.toList = some start.length := by
    rw [hurl, List.append_assoc, List.append_assoc, List.cons_append]
    have hseparator : '@' ∉ separator := by decide
    exact lastIndexOf?_append (by simp [hmiddle, hseparator, hafter])
  have hscheme : indexOf? separator url.toList = some (start ++ '@' :: middle).length := by
    rw [hurl, indexOf?_separator hbefore]
  have hslice : slice? url.toList ((start ++ '@' :: middle).length + 3) start.length = none := by
    refine slice?_of_lt ?_
    rw [List.length_append]
    omega
  rw [maskPassword?_of_places hstop hscheme, hslice, Option.bind_none]

/-- No address but a backward one has a part that ends before it begins. -/
theorem maskPassword?_eq_none_iff (url : String) : maskPassword? url = none ↔ IsBackward url := by
  refine ⟨fun hnone => ?_, maskPassword?_of_isBackward⟩
  have hplaces : ¬ (lastIndexOf? '@' url.toList = none ∨ indexOf? separator url.toList = none) := by
    intro h
    rw [maskPassword?_of_none h] at hnone
    cases hnone
  have hat : '@' ∈ url.toList := by
    by_contra h
    exact hplaces (.inl (lastIndexOf?_eq_none h))
  have hseparator : separator <:+: url.toList := by
    by_contra h
    exact hplaces (.inr (indexOf?_eq_none (by decide) h))
  obtain ⟨before, after, hurl, hbefore⟩ := exists_first (by decide) hseparator
  have hafter : '@' ∉ after := by
    intro h
    obtain ⟨credentials, tail, rfl, htail⟩ := exists_last h
    rw [maskPassword?_of_at hurl hbefore htail] at hnone
    cases hcolon : credentials.findIdx? (· == ':') <;> rw [hcolon] at hnone <;> cases hnone
  refine ⟨before, after, hurl, hbefore, ?_, hafter⟩
  rw [hurl, List.mem_append, List.mem_append] at hat
  rcases hat with (h | h) | h
  · exact h
  · exact absurd h (by decide)
  · exact absurd h hafter

theorem connectError?_eq_none_iff (url : String) (fault : Fault) :
    connectError? url fault = none ↔ IsBackward url := by
  rw [connectError?, Option.map_eq_none_iff, maskPassword?_eq_none_iff]

namespace Source

variable {σ : Type} (source : Source σ) {deadline : Nat} {w w' : World σ} {fault : Fault}

/-- Where the pool cannot be made, there is an error exactly if there is a text of the address. -/
theorem makePool_of_error
    (h : source.client.makePool source.config deadline w = (some (.error fault), w')) :
    source.makePool deadline w = (connectError? source.config.url fault).elim
      (none, { w' with crashed := true }) fun e => (some (.error e), w') := by
  simp only [makePool, Bind.bind, ReaderT.bind, OptionT.bind, OptionT.mk, StateT.bind, h]
  cases connectError? source.config.url fault <;> rfl

end Source

/--
A pool that cannot be made is reported as a failed connection, and nothing else happens, exactly if the
address is not backward. A backward one is the only kind of which some part would end before it begins;
then the attempt crashes.
-/
theorem failure_reported_iff {σ : Type} (source : Source σ) {deadline : Nat} {w w' : World σ}
    {fault : Fault}
    (h : source.client.makePool source.config deadline w = (some (.error fault), w')) :
    (maskPassword? source.config.url = none ↔ IsBackward source.config.url) ∧
    ((∃ e, source.makePool deadline w = (some (.error e), w') ∧ e.kind = .connectionFailed ∧
      e.backend = some backendName) ↔ ¬ IsBackward source.config.url) ∧
    (IsBackward source.config.url →
      source.makePool deadline w = (none, { w' with crashed := true })) := by
  rw [source.makePool_of_error h]
  refine ⟨maskPassword?_eq_none_iff _, ?_, ?_⟩
  · cases herror : connectError? source.config.url fault with
    | none =>
      have hbackward := (connectError?_eq_none_iff _ _).mp herror
      refine iff_of_false ?_ (not_not_intro hbackward)
      rintro ⟨e, he, _⟩
      cases he
    | some e =>
      have hforward : ¬ IsBackward source.config.url := by
        rw [← connectError?_eq_none_iff _ fault, herror]
        exact Option.some_ne_none e
      obtain ⟨shown, _, rfl⟩ := Option.map_eq_some_iff.mp herror
      exact iff_of_true ⟨_, rfl, rfl, rfl⟩ hforward
  · intro hbackward
    rw [(connectError?_eq_none_iff _ fault).mpr hbackward, Option.elim_none]

/-- A client that cannot use its address. -/
def strayClient : Client Unit where
  makePool _ := return .error (.configuration "invalid address")
  run _ := return .error .poolClosed

/-- A source at an address that is of no use. -/
def strayed (url : String) : Source Unit :=
  .new strayClient { PostgresConfig.default with url } .default

theorem failure_reported_iff_strayed :
    strayClient.makePool (strayed "postgres://app:s3cret@db:x").config 0 (.start ()) =
        (some (.error (.configuration "invalid address")), .start ()) ∧
      ∃ e, (strayed "postgres://app:s3cret@db:x").makePool 0 (.start ()) = (some (.error e), .start ()) ∧
        e.kind = .connectionFailed ∧ e.backend = some backendName := by
  have hforward : ¬ IsBackward "postgres://app:s3cret@db:x" := by
    rw [← maskPassword?_eq_none_iff]
    decide
  have hfails : (strayed "postgres://app:s3cret@db:x").client.makePool
      (strayed "postgres://app:s3cret@db:x").config 0 (World.start ()) =
        (some (.error (.configuration "invalid address")), World.start ()) := rfl
  exact ⟨hfails, (failure_reported_iff (strayed "postgres://app:s3cret@db:x") hfails).2.1.mpr hforward⟩

/-- The error of an attempt to connect to an address that has an at sign in its scheme. -/
theorem failure_not_reported :
    ¬ ∀ (source : Source Unit) (deadline : Nat) (w w' : World Unit) (fault : Fault),
      source.client.makePool source.config deadline w = (some (.error fault), w') →
        ∃ e, source.makePool deadline w = (some (.error e), w') ∧ e.kind = .connectionFailed := by
  intro h
  obtain ⟨e, he, _⟩ := h (strayed "app@db://main") 0 (.start ()) (.start ()) _ rfl
  have hcrash : (strayed "app@db://main").makePool 0 (.start ()) =
      (none, { World.start () with crashed := true }) := rfl
  rw [hcrash] at he
  cases he

end QueryCriteria.Sql
