import Mathlib.Data.List.Nodup
import DataQuality.Flatten
import DataQuality.Proofs.Dict
import DataQuality.Proofs.Json.Value

/-!
The leaves of a value and the ways to them. `LeafAt` says where the leaves of a value are; the list
of the leaves of a row holds each of them once, as `mem_leaves_iff` and `nodup_paths` say.
-/

namespace DataQuality

open Json (Value)

/-- The steps lead from a value to a scalar, an empty array or an empty object inside of it. -/
inductive LeafAt : Value → List PathStep → Value → Prop
  | here {v : Value} (h : v.isNonemptyContainer = false) : LeafAt v [] v
  | field {fields : List (String × Value)} {k : String} {v leaf : Value} {steps : List PathStep}
      (hmem : (k, v) ∈ fields) (h : LeafAt v steps leaf) :
      LeafAt (.object fields) (.key k :: steps) leaf
  | item {items : List Value} {i : Nat} {v leaf : Value} {steps : List PathStep}
      (hmem : items[i]? = some v) (h : LeafAt v steps leaf) :
      LeafAt (.array items) (.index i :: steps) leaf

/-- A row is an object, and its leaves lie below its keys. -/
def HasLeaf (row : Dict Value) (path : LeafPath) (leaf : Value) : Prop :=
  LeafAt (.object row) (.key path.root :: path.steps) leaf

theorem LeafAt.not_isNonemptyContainer {v leaf : Value} {steps : List PathStep}
    (h : LeafAt v steps leaf) : leaf.isNonemptyContainer = false := by
  induction h with
  | here h => exact h
  | field _ _ ih => exact ih
  | item _ _ ih => exact ih

section

variable {steps : List PathStep} {leaf : Value}

theorem leafAt_simple_iff {v : Value} (h : v.isNonemptyContainer = false) :
    LeafAt v steps leaf ↔ steps = [] ∧ leaf = v := by
  constructor
  . intro hleaf
    cases hleaf with
    | here _ => exact ⟨rfl, rfl⟩
    | field hmem _ =>
      have := Value.isNonemptyContainer_object.2 (List.ne_nil_of_mem hmem)
      simp [h] at this
    | item hmem _ =>
      have := Value.isNonemptyContainer_array.2 (List.ne_nil_of_mem (List.mem_of_getElem? hmem))
      simp [h] at this
  . rintro ⟨rfl, rfl⟩
    exact .here h

theorem leafAt_object_iff {fields : List (String × Value)} (h : fields ≠ []) :
    LeafAt (.object fields) steps leaf
      ↔
    ∃ k v below, (k, v) ∈ fields ∧ steps = .key k :: below ∧ LeafAt v below leaf := by
  constructor
  . intro hleaf
    cases hleaf with
    | here hsimple => simp [Value.isNonemptyContainer_object.2 h] at hsimple
    | field hmem hbelow => exact ⟨_, _, _, hmem, rfl, hbelow⟩
  . rintro ⟨k, v, below, hmem, rfl, hbelow⟩
    exact .field hmem hbelow

theorem leafAt_array_iff {items : List Value} (h : items ≠ []) :
    LeafAt (.array items) steps leaf
      ↔
    ∃ i v below, items[i]? = some v ∧ steps = .index i :: below ∧ LeafAt v below leaf := by
  constructor
  . intro hleaf
    cases hleaf with
    | here hsimple => simp [Value.isNonemptyContainer_array.2 h] at hsimple
    | item hmem hbelow => exact ⟨_, _, _, hmem, rfl, hbelow⟩
  . rintro ⟨i, v, below, hmem, rfl, hbelow⟩
    exact .item hmem hbelow

theorem leafAt_key_iff {fields : List (String × Value)} {k : String} :
    LeafAt (.object fields) (.key k :: steps) leaf
      ↔
    ∃ v, (k, v) ∈ fields ∧ LeafAt v steps leaf := by
  constructor
  . intro h
    cases h with
    | field hmem hbelow => exact ⟨_, hmem, hbelow⟩
  . rintro ⟨v, hmem, hbelow⟩
    exact .field hmem hbelow

theorem leafAt_index_iff {items : List Value} {i : Nat} :
    LeafAt (.array items) (.index i :: steps) leaf
      ↔
    ∃ v, items[i]? = some v ∧ LeafAt v steps leaf := by
  constructor
  . intro h
    cases h with
    | item hmem hbelow => exact ⟨_, hmem, hbelow⟩
  . rintro ⟨v, hmem, hbelow⟩
    exact .item hmem hbelow

theorem hasLeaf_iff {row : Dict Value} {path : LeafPath} :
    HasLeaf row path leaf ↔ ∃ v, (path.root, v) ∈ row ∧ LeafAt v path.steps leaf :=
  leafAt_key_iff

end

theorem exists_leafAt (v : Value) : ∃ steps leaf, LeafAt v steps leaf := by
  induction v using Value.elements_induction with
  | simple v h => exact ⟨[], v, .here h⟩
  | array items hne ih =>
    obtain ⟨v, rest, rfl⟩ := List.exists_cons_of_ne_nil hne
    obtain ⟨steps, leaf, h⟩ := ih v List.mem_cons_self
    exact ⟨.index 0 :: steps, leaf, .item rfl h⟩
  | object fields hne ih =>
    obtain ⟨e, rest, rfl⟩ := List.exists_cons_of_ne_nil hne
    obtain ⟨steps, leaf, h⟩ := ih e List.mem_cons_self
    exact ⟨.key e.1 :: steps, leaf, .field List.mem_cons_self h⟩

theorem leavesBelow_simple {v : Value} (h : v.isNonemptyContainer = false) :
    leavesBelow v = [([], v)] := by
  cases v with
  | array items =>
    cases items with
    | nil => rfl
    | cons v rest => cases h
  | object fields =>
    cases fields with
    | nil => rfl
    | cons e rest => cases h
  | _ => rfl

theorem itemLeaves_eq_flatMap (i : Nat) (items : List Value) :
    itemLeaves i items
      =
    (items.zipIdx i).flatMap fun e => (leavesBelow e.1).map fun below =>
      (.index e.2 :: below.1, below.2) := by
  induction items generalizing i with
  | nil => simp [itemLeaves]
  | cons v rest ih => simp [itemLeaves, ih]

theorem fieldLeaves_eq_flatMap (fields : List (String × Value)) :
    fieldLeaves fields
      =
    fields.flatMap fun e => (leavesBelow e.2).map fun below =>
      (.key e.1 :: below.1, below.2) := by
  induction fields with
  | nil => simp [fieldLeaves]
  | cons e rest ih => simp [fieldLeaves, ih]

theorem leavesBelow_array {items : List Value} (h : items ≠ []) :
    leavesBelow (.array items) = itemLeaves 0 items := by
  have hempty : items.isEmpty = false := by simpa using h
  rw [leavesBelow, hempty]
  rfl

theorem leavesBelow_object {fields : List (String × Value)} (h : fields ≠ []) :
    leavesBelow (.object fields) = fieldLeaves fields := by
  have hempty : fields.isEmpty = false := by simpa using h
  rw [leavesBelow, hempty]
  rfl

theorem mem_leavesBelow_iff {v : Value} {steps : List PathStep} {leaf : Value} :
    (steps, leaf) ∈ leavesBelow v ↔ LeafAt v steps leaf := by
  induction v using Value.elements_induction generalizing steps with
  | simple v h => simp [leavesBelow_simple h, leafAt_simple_iff h]
  | array items hne ih =>
    rw [leavesBelow_array hne, itemLeaves_eq_flatMap, leafAt_array_iff hne]
    simp only [List.mem_flatMap, List.mem_map, Prod.exists, Prod.mk.injEq]
    constructor
    . rintro ⟨v, i, hmem, below, _, hbelow, rfl, rfl⟩
      rw [List.mk_mem_zipIdx_iff_getElem?] at hmem
      exact ⟨i, v, below, hmem, rfl, (ih v (List.mem_of_getElem? hmem)).1 hbelow⟩
    . rintro ⟨i, v, below, hmem, rfl, hbelow⟩
      refine ⟨v, i, ?_, below, leaf, (ih v (List.mem_of_getElem? hmem)).2 hbelow, rfl, rfl⟩
      rwa [List.mk_mem_zipIdx_iff_getElem?]
  | object fields hne ih =>
    rw [leavesBelow_object hne, fieldLeaves_eq_flatMap, leafAt_object_iff hne]
    simp only [List.mem_flatMap, List.mem_map, Prod.exists, Prod.mk.injEq]
    constructor
    . rintro ⟨k, v, hmem, below, _, hbelow, rfl, rfl⟩
      exact ⟨k, v, below, hmem, rfl, (ih (k, v) hmem).1 hbelow⟩
    . rintro ⟨k, v, below, hmem, rfl, hbelow⟩
      exact ⟨k, v, hmem, below, leaf, (ih (k, v) hmem).2 hbelow, rfl, rfl⟩

theorem mem_leaves_iff {row : Dict Value} {path : LeafPath} {leaf : Value} :
    (path, leaf) ∈ leaves row ↔ HasLeaf row path leaf := by
  rw [hasLeaf_iff]
  unfold leaves
  simp only [List.mem_flatMap, List.mem_map, Prod.exists, Prod.mk.injEq, mem_leavesBelow_iff]
  constructor
  . rintro ⟨k, v, hmem, below, _, hbelow, rfl, rfl⟩
    exact ⟨v, hmem, hbelow⟩
  . rintro ⟨v, hmem, hbelow⟩
    exact ⟨path.root, v, hmem, path.steps, leaf, hbelow, rfl, rfl⟩

/-- Paths that start differently, or start alike and go on differently, are different. -/
theorem nodup_paths_flatMap {α β γ : Type} {xs : List α} {below : α → List (γ × Value)}
    {f : α → γ → β} (hxs : xs.Pairwise fun x y => ∀ s t, f x s ≠ f y t)
    (hf : ∀ x, Function.Injective (f x)) (h : ∀ x ∈ xs, ((below x).map Prod.fst).Nodup) :
    ((xs.flatMap fun x => (below x).map fun e => (f x e.1, e.2)).map Prod.fst).Nodup := by
  have hmap (x : α) : ((below x).map fun e => (f x e.1, e.2)).map Prod.fst
      = ((below x).map Prod.fst).map (f x) := by simp
  rw [List.map_flatMap, List.nodup_flatMap]
  simp only [hmap]
  constructor
  . intro x hx
    exact (h x hx).map (hf x)
  . apply hxs.imp
    intro x y hne p hpx hpy
    obtain ⟨s, _, rfl⟩ := List.mem_map.1 hpx
    obtain ⟨t, _, ht⟩ := List.mem_map.1 hpy
    exact hne s t ht.symm

theorem nodup_steps {v : Value} (h : v.WellFormed) : ((leavesBelow v).map Prod.fst).Nodup := by
  induction v using Value.elements_induction with
  | simple v hsimple => simp [leavesBelow_simple hsimple]
  | array items hne ih =>
    rw [Value.wellFormed_array] at h
    rw [leavesBelow_array hne, itemLeaves_eq_flatMap]
    apply nodup_paths_flatMap (f := fun (e : Value × Nat) steps => PathStep.index e.2 :: steps)
    . have hindices : (items.zipIdx.map Prod.snd).Nodup := by
        rw [List.zipIdx_map_snd]
        exact List.nodup_range'
      rw [List.Nodup, List.pairwise_map] at hindices
      apply hindices.imp
      intro e e' hne s t heq
      simp [hne] at heq
    . intro e s t heq
      exact (List.cons.inj heq).2
    . intro e he
      have hmem := List.fst_mem_of_mem_zipIdx he
      exact ih e.1 hmem (h e.1 hmem)
  | object fields hne ih =>
    rw [Value.wellFormed_object] at h
    rw [leavesBelow_object hne, fieldLeaves_eq_flatMap]
    apply nodup_paths_flatMap (f := fun (e : String × Value) steps => PathStep.key e.1 :: steps)
    . apply h.1.pairwise_ne.imp
      intro e e' hne s t heq
      simp [hne] at heq
    . intro e s t heq
      exact (List.cons.inj heq).2
    . intro e he
      exact ih e he (h.2 e he)

theorem nodup_paths {row : Dict Value} (h : (Value.object row).WellFormed) :
    ((leaves row).map Prod.fst).Nodup := by
  rw [Value.wellFormed_object] at h
  unfold leaves
  apply nodup_paths_flatMap (f := fun (e : String × Value) steps => LeafPath.mk e.1 steps)
  . apply h.1.pairwise_ne.imp
    intro e e' hne s t heq
    simp [hne] at heq
  . intro e s t heq
    exact (LeafPath.mk.inj heq).2
  . intro e he
    exact nodup_steps (h.2 e he)

end DataQuality
