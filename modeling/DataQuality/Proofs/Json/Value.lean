import DataQuality.Json.Value
import DataQuality.Proofs.Dict

/-!
JSON values by their elements: a value is a container with elements, or there is nothing inside of
it. `Value.elements_induction` reaches a container from its elements, and whether a value is well
formed is decided along them.
-/

namespace DataQuality.Json.Value

theorem isNonemptyContainer_array {items : List Value} :
    (Value.array items).isNonemptyContainer = true ↔ items ≠ [] := by
  cases items <;> simp [isNonemptyContainer]

theorem isNonemptyContainer_object {fields : List (String × Value)} :
    (Value.object fields).isNonemptyContainer = true ↔ fields ≠ [] := by
  cases fields <;> simp [isNonemptyContainer]

theorem isNonemptyContainer_ofString? (s : Option String) :
    (Value.ofString? s).isNonemptyContainer = false := by
  cases s <;> rfl

theorem isNonemptyContainer_ofFloat? (x : Option Float) :
    (Value.ofFloat? x).isNonemptyContainer = false := by
  cases x with
  | none => rfl
  | some x =>
    change (Value.float x).isNonemptyContainer = false
    unfold Value.float
    split <;> rfl

@[elab_as_elim]
theorem elements_induction {motive : Value → Prop}
    (simple : ∀ v, v.isNonemptyContainer = false → motive v)
    (array : ∀ items, items ≠ [] → (∀ v ∈ items, motive v) → motive (.array items))
    (object : ∀ fields, fields ≠ [] → (∀ e ∈ fields, motive e.2) → motive (.object fields))
    (v : Value) : motive v := by
  cases v with
  | array items =>
    by_cases h : items = []
    . apply simple
      rw [h]
      rfl
    . apply array items h
      intro v hv
      exact elements_induction simple array object v
  | object fields =>
    by_cases h : fields = []
    . apply simple
      rw [h]
      rfl
    . apply object fields h
      intro e he
      exact elements_induction simple array object e.2
  | _ => exact simple _ rfl
termination_by sizeOf v
decreasing_by
  . have := List.sizeOf_lt_of_mem hv
    simp only [Value.array.sizeOf_spec]
    omega
  . obtain ⟨k, w⟩ := e
    have := List.sizeOf_lt_of_mem he
    simp only [Value.object.sizeOf_spec, Prod.mk.sizeOf_spec] at this ⊢
    omega

theorem wellFormedItems_iff {items : List Value} :
    WellFormedItems items ↔ ∀ v ∈ items, v.WellFormed := by
  induction items with
  | nil => simp [WellFormedItems]
  | cons v rest ih => simp [WellFormedItems, ih]

theorem wellFormedFields_iff {fields : List (String × Value)} :
    WellFormedFields fields ↔ ∀ e ∈ fields, e.2.WellFormed := by
  induction fields with
  | nil => simp [WellFormedFields]
  | cons e rest ih => simp [WellFormedFields, ih]

theorem wellFormed_array {items : List Value} :
    (Value.array items).WellFormed ↔ ∀ v ∈ items, v.WellFormed := by
  rw [← wellFormedItems_iff, WellFormed]

theorem wellFormed_object {fields : List (String × Value)} :
    (Value.object fields).WellFormed
      ↔
    Dict.Sorted fields ∧ ∀ e ∈ fields, e.2.WellFormed := by
  rw [← wellFormedFields_iff, WellFormed]

mutual

def decideWellFormed : (v : Value) → Decidable v.WellFormed
  | .array items => decideWellFormedItems items
  | .object fields =>
    have := decideWellFormedFields fields
    inferInstanceAs (Decidable (Dict.Sorted fields ∧ WellFormedFields fields))
  | .null | .bool _ | .number _ | .string _ => .isTrue trivial

def decideWellFormedItems : (items : List Value) → Decidable (WellFormedItems items)
  | [] => .isTrue trivial
  | v :: rest =>
    have := decideWellFormed v
    have := decideWellFormedItems rest
    inferInstanceAs (Decidable (v.WellFormed ∧ WellFormedItems rest))

def decideWellFormedFields : (fields : List (String × Value)) → Decidable (WellFormedFields fields)
  | [] => .isTrue trivial
  | (_, v) :: rest =>
    have := decideWellFormed v
    have := decideWellFormedFields rest
    inferInstanceAs (Decidable (v.WellFormed ∧ WellFormedFields rest))

end

instance (v : Value) : Decidable v.WellFormed := decideWellFormed v

end DataQuality.Json.Value
