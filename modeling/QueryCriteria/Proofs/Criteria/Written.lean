import QueryCriteria.Criteria.Request
import QueryCriteria.Json.Lookup
import QueryCriteria.Proofs.Criteria.Create
import QueryCriteria.Proofs.Criteria.Operand
import QueryCriteria.Proofs.Text.Blank

/-!
Criteria from their written form. What a caller asks for is normalized when it is read: blanks go, other
spellings of operators and directions give way to the one, a single member becomes a list. The written
form of the result is a request that normalization leaves as it is.
-/
namespace QueryCriteria

theorem Operator.parse?_token (operator : Operator) : parse? operator.token = some operator := by
  cases operator <;> decide +kernel

namespace Filter

/-- The filter as a caller would send it: the parts of its written form. -/
def toInput (filter : Filter) : FilterInput :=
  ⟨filter.field.text, filter.operator.token, filter.value.toJson⟩

theorem read_toJson (filter : Filter) : FilterInput.read filter.toJson = some filter.toInput := by
  rfl

theorem parseOperator_token (operator : Operator) : parseOperator operator.token = .ok operator := by
  rw [parseOperator, Operator.parse?_token]

theorem isFinite_of_ofInput {input : FilterInput} {filter : Filter} (h : ofInput input = .ok filter) :
    filter.test.IsFinite := by
  obtain ⟨operator, value, _, _, hvalue, htest⟩ := ofInput_eq_ok_iff.mp h
  exact Test.isFinite_of_ofValue hvalue htest

/-- A filter is what its written form asks for. -/
theorem ofInput_toInput {filter : Filter} (h : filter.test.IsFinite) :
    ofInput filter.toInput = .ok filter := by
  apply ofInput_eq_ok_iff.mpr
  exact ⟨filter.operator, filter.value, FieldName.parse_text filter.field,
    parseOperator_token filter.operator, Test.ofJson_value h, Test.ofValue_value filter.test⟩

theorem same_self {filter : Filter} (h : filter.test.IsFinite) : filter.same filter = true := by
  have hvalue : filter.value.sameValue filter.value = true := Test.sameValue_self h
  rw [same, hvalue, beq_self_eq_true, beq_self_eq_true]
  rfl

theorem sameAll_self {filters : List Filter} (h : ∀ f ∈ filters, f.test.IsFinite) :
    sameAll filters filters = true := by
  have hsame : List.Forall₂ (fun f g => f.same g = true) filters filters :=
    List.forall₂_same.mpr fun f hf => same_self (h f hf)
  have hpairs : (filters.zip filters).all (fun pair => pair.1.same pair.2) = true :=
    List.all_eq_true.mpr fun _ hpair => List.forall₂_zip hsame hpair
  rw [sameAll, hpairs, beq_self_eq_true]
  rfl

end Filter

theorem Filters.read_toJson (filters : Filters) :
    Reader.list FilterInput.read (Filters.toJson filters) = some (filters.map Filter.toInput) := by
  change (filters.map Filter.toJson).mapM FilterInput.read = _
  exact mapM_map_eq_some fun filter _ => Filter.read_toJson filter

/-- Filters that a caller asked for are what their written forms ask for. -/
theorem Filters.create_written {allowed : Option (List String)} {inputs : List FilterInput}
    {filters : Filters} (h : create inputs allowed = .ok filters) :
    create (filters.map Filter.toInput) allowed = .ok filters ∧ ∀ f ∈ filters, f.test.IsFinite := by
  obtain ⟨hread, hallowed⟩ := create_eq_ok_iff.mp h
  have hfinite : ∀ f ∈ filters, f.test.IsFinite :=
    forall_of_mapM_ok hread fun _ _ _ => Filter.isFinite_of_ofInput
  refine ⟨create_eq_ok_iff.mpr ⟨?_, hallowed⟩, hfinite⟩
  exact mapM_map_eq_ok fun f hf => Filter.ofInput_toInput (hfinite f hf)

namespace Order

theorem nonempty_of_parseFields {text : String} {fields : List FieldName}
    (h : parseFields text = .ok fields) : fields ≠ [] := by
  rintro rfl
  have hlength := (forall₂_of_mapM_ok h).length_eq
  rw [List.length_nil, Text.split, List.length_map, List.length_eq_zero_iff] at hlength
  exact Text.splitChars_ne_nil ',' text.toList hlength

/-- No sort field holds a comma. -/
theorem comma_not_mem_of_parseFields {text : String} {fields : List FieldName}
    (h : parseFields text = .ok fields) : ∀ field ∈ fields, ',' ∉ field.text.toList := by
  refine forall_of_mapM_ok h fun piece hpiece field hfield hcomma => ?_
  rw [← FieldName.parse_eq_ok_iff.mp hfield] at hcomma
  exact Text.not_mem_of_mem_split hpiece (Text.mem_of_mem_trim hcomma)

/-- The joined sort fields are read as these fields. -/
theorem parseFields_fieldsText {order : Order} (hne : order.fields ≠ [])
    (hcomma : ∀ field ∈ order.fields, ',' ∉ field.text.toList) :
    parseFields order.fieldsText = .ok order.fields := by
  have hsplit : Text.split ',' order.fieldsText = order.fields.map FieldName.text := by
    refine Text.split_join (fun he => hne (List.map_eq_nil_iff.mp he)) fun piece hpiece => ?_
    obtain ⟨field, hfield, rfl⟩ := List.mem_map.mp hpiece
    exact hcomma field hfield
  rw [parseFields, hsplit]
  exact mapM_map_eq_ok fun field _ => FieldName.parse_text field

theorem present_some {text : String} (h : Text.trim text ≠ "") : present (some text) = some text := by
  rw [present, Option.filter_some, bne_iff_ne.mpr h]
  rfl

theorem present_fieldsText {order : Order} (hne : order.fields ≠ []) :
    present (some order.fieldsText) = some order.fieldsText := by
  obtain ⟨field, hfield⟩ := List.exists_mem_of_ne_nil order.fields hne
  apply present_some
  intro h
  -- The characters of the field stand in the joined text, and not all of them are blank.
  refine field.nonempty (field.trimmed.symm.trans (Text.trim_eq_empty_iff.mpr fun c hc => ?_))
  exact Text.trim_eq_empty_iff.mp h c (Text.mem_join (List.mem_map_of_mem hfield) hc)

theorem direction_text {type : OrderType} (h : type ≠ .none) : direction (some type.text) = .ok type := by
  have htext : Text.trim type.text ≠ "" ∧ (Text.trim type.text).map Char.toLower = type.text := by
    cases type <;> decide +kernel
  rw [direction, present_some htext.1]
  change OrderType.parse type.text = .ok type
  rw [OrderType.parse, htext.2]
  cases type with
  | asc => rfl
  | desc => rfl
  | none => exact absurd rfl h

theorem ne_none_of_direction {type : Option String} {chosen : OrderType}
    (h : direction type = .ok chosen) : chosen ≠ .none := by
  rintro rfl
  unfold direction at h
  split at h
  · unfold OrderType.parse at h
    split at h <;> cases h
  · cases h

/-- An order that a caller asked for is what its written form asks for. -/
theorem create_written {allowed : Option (List String)} {fields type : Option String} {order : Order}
    (h : create fields type allowed = .ok order) :
    create (some order.fieldsText) (some order.type.text) allowed = .ok order := by
  cases hp : present fields with
  | none =>
    rw [create_of_absent hp] at h
    obtain rfl := Except.ok.inj h
    exact create_of_absent rfl (some OrderType.none.text)
  | some text =>
    obtain ⟨hread, hallowed, htype⟩ := (create_eq_ok_iff hp).mp h
    have hne := nonempty_of_parseFields hread
    have hcomma := comma_not_mem_of_parseFields hread
    exact (create_eq_ok_iff (present_fieldsText hne)).mpr
      ⟨parseFields_fieldsText hne hcomma, hallowed, direction_text (ne_none_of_direction htype)⟩

end Order

theorem Json.int64?_ofUInt64 {n : Int64} (h : 0 ≤ n) : (ofUInt64 n.toUInt64).int64? = some n := by
  have hval : (WideInt.ofUInt64 n.toUInt64).val = n.toInt := by
    change (n.toUInt64.toNat : Int) = n.toInt
    rw [Int64.toNat_toUInt64_of_le h, Int64.cast_toNatClampNeg n h]
  have hfits : n.toInt < 2 ^ 63 := Int64.toInt_lt n
  rw [ofUInt64, int64?, WideInt.toInt64?, hval, if_pos hfits, Int64.ofInt_toInt]

/-- A pagination parameter that was taken is not negative, so it is read again as the same integer. -/
theorem Criteria.int64?_pageBound {bound : PageBound} {n : Option Int64} {page : Option UInt64}
    (h : pageBound bound n = .ok page) :
    Reader.optional Json.int64? (Json.ofOption Json.ofUInt64 page) = some n := by
  cases n with
  | none =>
    obtain rfl := Except.ok.inj h
    rfl
  | some m =>
    change (if m < 0 then _ else _) = _ at h
    split at h
    · cases h
    · rename_i hm
      obtain rfl := Except.ok.inj h
      rw [Json.ofOption, Reader.optional, Json.int64?_ofUInt64 (Int64.not_lt.mp hm)]
      rfl

namespace CriteriaRequest

/--
The request that the written form of criteria makes: each of its filters, the texts of its order, and
its pagination. Branches are no part of a request.
-/
def ofWritten? (written : Json) : Option CriteriaRequest := do
  let filters ← Reader.list FilterInput.read (← written.field? "filters")
  let order ← written.field? "order"
  let orderBy ← order.textAt? "order_by"
  let orderType ← order.textAt? "order_type"
  let limit ← Reader.optional Json.int64? (← written.field? "limit")
  let offset ← Reader.optional Json.int64? (← written.field? "offset")
  return ⟨filters, some orderBy, some orderType, limit, offset⟩

theorem ofWritten?_toJson {c : Criteria} {limit offset : Option Int64}
    (hlimit : Reader.optional Json.int64? (Json.ofOption Json.ofUInt64 c.limit) = some limit)
    (hoffset : Reader.optional Json.int64? (Json.ofOption Json.ofUInt64 c.offset) = some offset) :
    ofWritten? c.toJson = some ⟨c.filters.map Filter.toInput, some c.order.fieldsText,
      some c.order.type.text, limit, offset⟩ := by
  have hfields : c.toJson.field? "filters" = some (Filters.toJson c.filters) ∧
      c.toJson.field? "order" = some c.order.toJson ∧
      c.toJson.field? "limit" = some (.ofOption .ofUInt64 c.limit) ∧
      c.toJson.field? "offset" = some (.ofOption .ofUInt64 c.offset) := by
    obtain ⟨filters, order, limit, offset, branches⟩ := c
    simp [Criteria.toJson, Json.field?, Entries.ofList, Entries.get?_insert]
  obtain ⟨hf, ho, hl, hs⟩ := hfields
  rw [ofWritten?, hf, ho, hl, hs]
  change (Reader.list FilterInput.read (Filters.toJson c.filters) >>= fun filters => _) = _
  rw [Filters.read_toJson]
  change (Reader.optional Json.int64? (Json.ofOption Json.ofUInt64 c.limit) >>= fun limit => _) = _
  rw [hlimit]
  change (Reader.optional Json.int64? (Json.ofOption Json.ofUInt64 c.offset) >>= fun offset => _) = _
  rw [hoffset]
  rfl

end CriteriaRequest

namespace Criteria

theorem same_self {c : Criteria} (h : c.branches = []) (hfinite : ∀ f ∈ c.filters, f.test.IsFinite) :
    c.same c = true := by
  obtain ⟨filters, order, limit, offset, branches⟩ := c
  obtain rfl : branches = [] := h
  rw [same, Filter.sameAll_self hfinite]
  simp [sameAll]

/--
Criteria that a caller asked for are what their written form asks for: reading it, with the same allowed
fields, gives the same criteria. They also equal themselves as values, for no number of them is NaN.
-/
theorem written_recreates {inputs : List FilterInput} {orderBy orderType : Option String}
    {limit offset : Option Int64} {allowed : Option (List String)} {c : Criteria}
    (h : create inputs orderBy orderType limit offset allowed = .ok c) :
    ∃ request, CriteriaRequest.ofWritten? c.toJson = some request ∧
      request.toCriteria allowed = .ok c ∧ c.same c = true := by
  obtain ⟨hfilters, horder, hlimit, hoffset, hbranches⟩ := create_eq_ok_iff.mp h
  obtain ⟨hagain, hfinite⟩ := Filters.create_written hfilters
  refine ⟨_, CriteriaRequest.ofWritten?_toJson (int64?_pageBound hlimit) (int64?_pageBound hoffset), ?_, ?_⟩
  · exact create_eq_ok_iff.mpr ⟨hagain, Order.create_written horder, hlimit, hoffset, hbranches⟩
  · exact same_self hbranches hfinite

/-- Blanks, an alias, a single member and a direction in capitals: all of it is written as it is meant. -/
def sloppy : List FilterInput :=
  [⟨" age ", "gte", .ofInt64 18⟩, ⟨"role", "in", .text "admin"⟩]

theorem written_recreates_sloppy :
    let allowed := some ["age", "role", "first", "last"]
    let tidy : Criteria := ⟨[⟨⟨"age", rfl, by decide⟩, .range .greaterEqual (.integer 18)⟩,
      ⟨⟨"role", rfl, by decide⟩, .isIn [.text "admin"]⟩],
      ⟨[⟨"last", rfl, by decide⟩, ⟨"first", rfl, by decide⟩], .desc⟩, some 10, none, []⟩
    create sloppy (some "last, first ") (some "DESC") (some 10) none allowed = .ok tidy ∧
      ∃ request, CriteriaRequest.ofWritten? tidy.toJson = some request ∧
        request.toCriteria allowed = .ok tidy ∧ tidy.same tidy = true := by
  intro allowed tidy
  have hfilters : Filters.create sloppy allowed = .ok tidy.filters := by decide +kernel
  have horder : Order.create (some "last, first ") (some "DESC") allowed = .ok tidy.order := by
    decide +kernel
  have hok : create sloppy (some "last, first ") (some "DESC") (some 10) none allowed = .ok tidy :=
    create_eq_ok_iff.mpr ⟨hfilters, horder, rfl, rfl, rfl⟩
  exact ⟨hok, written_recreates hok⟩

end Criteria

end QueryCriteria
