import DataQuality.Proofs.Dict
import DataQuality.Proofs.Text.Bytes
import DataQuality.Template.Render

/-!
Variables that are left without a value. They are looked for before a template is read, and they are
listed in the order of their bytes, each once.
-/

namespace DataQuality.Template

open Json (Value)

/-- A variable for which there is no value but null. -/
def Absent (params : Dict Value) (v : String) : Prop :=
  params.find? v = none ∨ params.find? v = some .null

theorem mem_inOrder {names : List String} {v : String} : v ∈ inOrder names ↔ v ∈ names := by
  unfold inOrder Dict.ofEntries
  rw [Dict.mem_keys_iff, Dict.find?_insertAll, Dict.find?_empty, Option.or_none,
    ← Dict.mem_keys_iff]
  simp [Dict.keys]

theorem pairwise_inOrder (names : List String) :
    (inOrder names).Pairwise fun v w => Text.bytes v < Text.bytes w := by
  unfold inOrder Dict.keys
  rw [List.pairwise_map]
  apply (Dict.sorted_ofEntries _).imp
  intro e e' hlt
  exact Text.bytes_lt_bytes_iff.2 hlt

theorem mem_unresolved {template : String} {params : Dict Value} {v : String} :
    v ∈ unresolved template params ↔ v ∈ freeNames template ∧ Absent params v := by
  unfold unresolved Absent
  rw [List.mem_filter]
  cases params.find? v with
  | none => simp
  | some a => cases a <;> simp [Value.isNull]

theorem pairwise_unresolved (template : String) (params : Dict Value) :
    (unresolved template params).Pairwise fun v w => Text.bytes v < Text.bytes w :=
  (pairwise_inOrder _).filter _

theorem unresolved_eq_nil_iff {template : String} {params : Dict Value} :
    unresolved template params = [] ↔ ∀ v ∈ freeNames template, ¬ Absent params v := by
  rw [List.eq_nil_iff_forall_not_mem]
  simp only [mem_unresolved, not_and]

section

variable {template : String} {params : Dict Value}

theorem render_of_unresolved (h : unresolved template params ≠ []) (rule : String) :
    render rule template params
      =
    .error (.missingParameter rule (unresolved template params)) := by
  unfold render
  split
  . next hnil => exact absurd hnil h
  . rfl

theorem render_of_resolved (h : unresolved template params = []) (rule : String) :
    render rule template params
      =
    (renderText rule template params >>= fun text =>
      if hasMark text.toList then .error (.missingParameter rule (residue text.toList))
      else .ok text) := by
  unfold render
  rw [h]
  rfl

end

end DataQuality.Template
