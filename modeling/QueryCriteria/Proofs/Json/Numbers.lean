import QueryCriteria.Proofs.Decimal.Rounding
import QueryCriteria.Json.Basic

/-!
The numbers in a JSON value, at every depth. Changing them changes nothing else, and the value stays
as it is exactly if each of its numbers does.
-/
namespace QueryCriteria.Json

/-- What holds of arrays and objects if it holds of what they contain holds of every value. -/
theorem induction {P : Json → Prop} (null : P .null) (bool : ∀ b, P (.bool b))
    (number : ∀ n, P (.number n)) (text : ∀ s, P (.text s))
    (array : ∀ items, (∀ v ∈ items, P v) → P (.array items))
    (object : ∀ fields, (∀ e ∈ fields, P e.2) → P (.object fields)) (v : Json) : P v :=
  @Json.rec P (fun items => ∀ v ∈ items, P v) (fun fields => ∀ e ∈ fields, P e.2) (fun e => P e.2)
    null bool number text array object nofun
    (fun _ _ hv hrest => List.forall_mem_cons.mpr ⟨hv, hrest⟩) nofun
    (fun _ _ he hrest => List.forall_mem_cons.mpr ⟨he, hrest⟩) (fun _ _ hv => hv) v

mutual

/-- The numbers of a value. -/
def numbers : Json → List Number
  | .number n => [n]
  | .array items => numbersOfItems items
  | .object fields => numbersOfFields fields
  | _ => []

def numbersOfItems : List Json → List Number
  | [] => []
  | item :: rest => numbers item ++ numbersOfItems rest

def numbersOfFields : List (String × Json) → List Number
  | [] => []
  | (_, value) :: rest => numbers value ++ numbersOfFields rest

end

mutual

/-- The value with each of its numbers changed. -/
def mapNumbers (f : Number → Number) : Json → Json
  | .null => .null
  | .bool b => .bool b
  | .number n => .number (f n)
  | .text s => .text s
  | .array items => .array (mapNumbersOfItems f items)
  | .object fields => .object (mapNumbersOfFields f fields)

def mapNumbersOfItems (f : Number → Number) : List Json → List Json
  | [] => []
  | item :: rest => mapNumbers f item :: mapNumbersOfItems f rest

def mapNumbersOfFields (f : Number → Number) : List (String × Json) → List (String × Json)
  | [] => []
  | (name, value) :: rest => (name, mapNumbers f value) :: mapNumbersOfFields f rest

end

theorem numbersOfItems_eq_flatMap (items : List Json) :
    numbersOfItems items = items.flatMap numbers := by
  induction items with
  | nil => rfl
  | cons item rest ih => rw [numbersOfItems, ih, List.flatMap_cons]

theorem numbersOfFields_eq_flatMap (fields : List (String × Json)) :
    numbersOfFields fields = fields.flatMap fun e => e.2.numbers := by
  induction fields with
  | nil => rfl
  | cons e rest ih => rw [numbersOfFields, ih, List.flatMap_cons]

variable (f : Number → Number)

theorem mapNumbersOfItems_eq_map (items : List Json) :
    mapNumbersOfItems f items = items.map (mapNumbers f) := by
  induction items with
  | nil => rfl
  | cons item rest ih => rw [mapNumbersOfItems, ih, List.map_cons]

theorem mapNumbersOfFields_eq_map (fields : List (String × Json)) :
    mapNumbersOfFields f fields = fields.map fun e => (e.1, mapNumbers f e.2) := by
  induction fields with
  | nil => rfl
  | cons e rest ih => rw [mapNumbersOfFields, ih, List.map_cons]

variable {f}

private theorem map_eq_self_iff {α : Type} {g : α → α} {l : List α} :
    l.map g = l ↔ ∀ a ∈ l, g a = a := by
  induction l with
  | nil => simp
  | cons a rest ih => simp [ih]

/-- A value stays as it is exactly if each of its numbers does. -/
theorem mapNumbers_eq_self_iff {v : Json} : mapNumbers f v = v ↔ ∀ n ∈ v.numbers, f n = n := by
  induction v using Json.induction with
  | null => simp [mapNumbers, numbers]
  | bool b => simp [mapNumbers, numbers]
  | number n => simp [mapNumbers, numbers]
  | text s => simp [mapNumbers, numbers]
  | array items ih =>
    rw [mapNumbers, numbers, mapNumbersOfItems_eq_map, numbersOfItems_eq_flatMap, array.injEq,
      map_eq_self_iff]
    simp only [List.mem_flatMap, forall_exists_index, and_imp]
    exact ⟨fun h n v hv => (ih v hv).mp (h v hv) n, fun h v hv => (ih v hv).mpr fun n => h n v hv⟩
  | object fields ih =>
    rw [mapNumbers, numbers, mapNumbersOfFields_eq_map, numbersOfFields_eq_flatMap, object.injEq,
      map_eq_self_iff]
    simp only [Prod.ext_iff, true_and, List.mem_flatMap, forall_exists_index, and_imp]
    exact ⟨fun h n e he => (ih e he).mp (h e he) n, fun h e he => (ih e he).mpr fun n => h n e he⟩

end QueryCriteria.Json
