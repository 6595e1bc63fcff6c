import Mathlib.Data.List.Basic
import DataQuality.Json.Fields
import DataQuality.Proofs.Dict
import DataQuality.Proofs.Outcome

/-!
Documents that a shape reads as they are. For a record this is a matter of its fields one by one,
where a field that is not written has to have a default. Main statement: `KeepsFields.keeps_record`.
-/

namespace DataQuality.Json

/-- A document of the given shape is read as it is. -/
def Shape.Keeps (shape : Shape) (v : Value) : Prop := conform shape v = .ok v

/-- The fields of a record. -/
def Shape.fields : Shape → List (String × Presence × Shape)
  | .record _ fields => fields
  | _ => []

/-- The entries of `Value.objectOf`. -/
def bindings (fields : List (String × Option Value)) : Dict Value :=
  fields.filterMap fun (k, v) => v.map fun v => (k, v)

theorem objectOf_eq (fields : List (String × Option Value)) :
    Value.objectOf fields = .object (bindings fields) := rfl

theorem mem_bindings_iff {fields : List (String × Option Value)} {k : String} {v : Value} :
    (k, v) ∈ bindings fields ↔ (k, some v) ∈ fields := by
  unfold bindings
  rw [List.mem_filterMap]
  constructor
  . rintro ⟨⟨k', v'⟩, hmem, hv⟩
    rw [Option.map_eq_some_iff] at hv
    obtain ⟨_, rfl, heq⟩ := hv
    cases heq
    exact hmem
  . intro hmem
    exact ⟨(k, some v), hmem, rfl⟩

theorem nodup_bindings {fields : List (String × Option Value)} (h : (fields.map Prod.fst).Nodup) :
    (bindings fields).Pairwise fun e e' => e.1 ≠ e'.1 := by
  rw [List.Nodup, List.pairwise_map] at h
  unfold bindings
  rw [List.pairwise_filterMap]
  apply h.imp
  rintro ⟨k, v⟩ ⟨k', v'⟩ hne e he e' he'
  rw [Option.map_eq_some_iff] at he he'
  obtain ⟨_, _, rfl⟩ := he
  obtain ⟨_, _, rfl⟩ := he'
  exact hne

theorem field_objectOf {fields : List (String × Option Value)} (h : (fields.map Prod.fst).Nodup)
    {k : String} {v : Option Value} (hmem : (k, v) ∈ fields) :
    (Value.objectOf fields).field k = v.getD .null := by
  have hfind (w : Value) : (bindings fields).find? k = some w ↔ (k, some w) ∈ fields := by
    rw [Dict.find?_eq_some_iff (nodup_bindings h), mem_bindings_iff]
  change ((bindings fields).find? k).getD .null = _
  cases v with
  | none =>
    cases hbound : (bindings fields).find? k with
    | none => rfl
    | some w => cases congrArg Prod.snd (List.inj_on_of_nodup_map h ((hfind w).1 hbound) hmem rfl)
  | some v => rw [(hfind v).2 hmem, Option.getD_some]

theorem find?_readers {fields : List (String × Presence × Shape)}
    (h : (fields.map Prod.fst).Nodup) {name : String} {presence : Presence} {shape : Shape}
    (hmem : (name, presence, shape) ∈ fields) :
    (readers fields).find? (·.name == name) = some ⟨name, presence, conform shape⟩ := by
  induction fields with
  | nil => cases hmem
  | cons field fields ih =>
    obtain ⟨name', presence', shape'⟩ := field
    rw [List.map_cons, List.nodup_cons] at h
    unfold readers
    rcases List.mem_cons.1 hmem with heq | hmem
    . cases heq
      exact List.find?_cons_of_pos (beq_self_eq_true name)
    . have hne : name' ≠ name := by
        rintro rfl
        exact h.1 (List.mem_map.2 ⟨_, hmem, rfl⟩)
      rw [List.find?_cons_of_neg (by simpa using hne)]
      exact ih h.2 hmem

namespace Shape

theorem keeps_text (s : String) : text.Keeps (.string s) := by
  unfold Keeps conform
  rfl

theorem keeps_any (v : Value) : any.Keeps v := by
  unfold Keeps conform
  rfl

theorem keeps_choice {variants : List String} {s : String} (h : s ∈ variants) :
    (choice variants).Keeps (.string s) := by
  unfold Keeps conform conformChoice conformChoice.variant
  dsimp only
  rw [if_pos h]
  rfl

theorem Keeps.nullable {inner : Shape} {v : Value} (h : inner.Keeps v) :
    (Shape.nullable inner).Keeps v := by
  unfold Keeps conform
  split
  . rfl
  . exact h

theorem keeps_nullable_real (x : Option Float) : (nullable real).Keeps (.ofFloat? x) := by
  cases x with
  | none =>
    unfold Keeps conform
    rfl
  | some y =>
    change (nullable real).Keeps (if y.isFinite = true then .number (.float y) else .null)
    split
    . apply Keeps.nullable
      unfold Keeps conform
      rfl
    . unfold Keeps conform
      rfl

theorem keeps_sequence {inner : Shape} {items : List Value} (h : ∀ v ∈ items, inner.Keeps v) :
    (sequence inner).Keeps (.array items) := by
  unfold Keeps conform
  rw [Outcome.bind_eq_ok_iff]
  refine ⟨items, ?_, rfl⟩
  rwa [Outcome.mapM_eq_ok_iff, List.forall₂_same]

theorem keeps_dictionary {inner : Shape} {d : Dict Value} (h : ∀ e ∈ d, inner.Keeps e.2) :
    (dictionary inner).Keeps (.object d) := by
  unfold Keeps conform
  rw [Outcome.bind_eq_ok_iff]
  refine ⟨d, ?_, rfl⟩
  rw [Outcome.mapM_eq_ok_iff, List.forall₂_same]
  intro e he
  dsimp only
  rw [h e he]
  rfl

theorem keeps_params (params : Dict Value) : (dictionary any).Keeps (.object params) :=
  keeps_dictionary fun e _ => keeps_any e.2

end Shape

/-- What is written for each of the fields of a record is read as it is. -/
inductive KeepsFields :
    List (String × Presence × Shape) → List (String × Option Value) → Prop
  | nil : KeepsFields [] []
  | bound {name : String} {presence : Presence} {shape : Shape} {v : Value}
      {fields : List (String × Presence × Shape)} {written : List (String × Option Value)}
      (value : shape.Keeps v) (rest : KeepsFields fields written) :
      KeepsFields ((name, presence, shape) :: fields) ((name, some v) :: written)
  | absent {name : String} {shape : Shape} {fields : List (String × Presence × Shape)}
      {written : List (String × Option Value)} (rest : KeepsFields fields written) :
      KeepsFields ((name, .defaulted, shape) :: fields) ((name, none) :: written)

namespace KeepsFields

variable {fields all : List (String × Presence × Shape)} {written : List (String × Option Value)}

theorem optional {α : Type} {name : String} {shape : Shape} {write : α → Value} {x : Option α}
    (value : ∀ a ∈ x, shape.Keeps (write a)) (rest : KeepsFields fields written) :
    KeepsFields ((name, .defaulted, shape) :: fields) ((name, x.map write) :: written) := by
  cases x with
  | none => exact .absent rest
  | some a => exact .bound (value a rfl) rest

theorem optionalText {name : String} (x : Option String) (rest : KeepsFields fields written) :
    KeepsFields ((name, .defaulted, .nullable .text) :: fields)
      ((name, x.map .string) :: written) :=
  .optional (fun s _ => (Shape.keeps_text s).nullable) rest

theorem map_fst (h : KeepsFields fields written) : written.map Prod.fst = fields.map Prod.fst := by
  induction h with
  | nil => rfl
  | bound _ _ ih => rw [List.map_cons, List.map_cons, ih]
  | absent _ ih => rw [List.map_cons, List.map_cons, ih]

theorem conformEntries_eq (h : KeepsFields fields written) (hall : (all.map Prod.fst).Nodup)
    (hmem : ∀ field ∈ fields, field ∈ all) :
    conformEntries (readers all) (bindings written) = .ok (bindings written) := by
  induction h with
  | nil => rfl
  | bound value _ ih =>
    rw [List.forall_mem_cons] at hmem
    change conformEntries (readers all) (_ :: bindings _) = .ok (_ :: bindings _)
    unfold conformEntries
    rw [find?_readers hall hmem.1]
    dsimp only
    rw [value, ih hmem.2]
    rfl
  | absent _ ih => exact ih fun field hfield => hmem field (List.mem_cons_of_mem _ hfield)

theorem exists_of_required (h : KeepsFields fields written) {name : String} {shape : Shape}
    (hmem : (name, .required, shape) ∈ fields) : ∃ v, (name, v) ∈ bindings written := by
  simp only [mem_bindings_iff]
  induction h with
  | nil => cases hmem
  | bound value _ ih =>
    rcases List.mem_cons.1 hmem with heq | hmem
    . cases heq
      exact ⟨_, List.mem_cons_self⟩
    . obtain ⟨v, hv⟩ := ih hmem
      exact ⟨v, List.mem_cons_of_mem _ hv⟩
  | absent _ ih =>
    rcases List.mem_cons.1 hmem with heq | hmem
    . cases heq
    . obtain ⟨v, hv⟩ := ih hmem
      exact ⟨v, List.mem_cons_of_mem _ hv⟩

theorem missing?_eq_none (h : KeepsFields fields written) :
    missing? fields (bindings written) = none := by
  unfold missing?
  rw [Option.map_eq_none_iff, List.find?_eq_none]
  rintro ⟨name, presence, shape⟩ hmem
  cases presence with
  | required =>
    obtain ⟨v, hv⟩ := h.exists_of_required hmem
    have hkey : Dict.hasKey name (bindings written) = true := by
      unfold Dict.hasKey
      rw [Option.isSome_iff_ne_none, ← Dict.mem_keys_iff]
      exact List.mem_map_of_mem hv
    simp [hkey]
  | optional => simp
  | defaulted => simp

theorem keeps_record (h : KeepsFields fields written) (hnodup : (fields.map Prod.fst).Nodup)
    (name : String) : (Shape.record name fields).Keeps (.objectOf written) := by
  rw [objectOf_eq]
  unfold Shape.Keeps conform
  rw [Outcome.bind_eq_ok_iff]
  refine ⟨bindings written, h.conformEntries_eq hnodup fun _ => id, ?_⟩
  rw [h.missing?_eq_none]
  rfl

theorem field_eq (h : KeepsFields fields written) (hnodup : (fields.map Prod.fst).Nodup)
    {k : String} {v : Option Value} (hmem : (k, v) ∈ written) :
    (Value.objectOf written).field k = v.getD .null :=
  field_objectOf (by rwa [h.map_fst]) hmem

end KeepsFields

/-- The values directly inside a container. -/
def Value.elements : Value → List Value
  | .array items => items
  | .object fields => fields.map Prod.snd
  | _ => []

theorem mem_readers_iff {fields : List (String × Presence × Shape)} {reader : FieldReader} :
    reader ∈ readers fields
      ↔
    ∃ name presence shape, (name, presence, shape) ∈ fields
      ∧ reader = ⟨name, presence, conform shape⟩ := by
  induction fields with
  | nil => simp [readers]
  | cons field fields ih =>
    obtain ⟨name, presence, shape⟩ := field
    unfold readers
    rw [List.mem_cons, ih]
    constructor
    . rintro (rfl | ⟨name', presence', shape', hmem, rfl⟩)
      . exact ⟨name, presence, shape, List.mem_cons_self, rfl⟩
      . exact ⟨name', presence', shape', List.mem_cons_of_mem _ hmem, rfl⟩
    . rintro ⟨name', presence', shape', hmem, rfl⟩
      rcases List.mem_cons.1 hmem with heq | hmem
      . cases heq
        exact .inl rfl
      . exact .inr ⟨name', presence', shape', hmem, rfl⟩

theorem exists_of_mem_conformEntries {readers : List FieldReader} {entries read : Dict Value}
    (h : conformEntries readers entries = .ok read) :
    ∀ e ∈ read, ∃ reader ∈ readers, ∃ v ∈ entries.map Prod.snd, reader.read v = .ok e.2 := by
  induction entries generalizing read with
  | nil =>
    cases h
    nofun
  | cons entry entries ih =>
    obtain ⟨k, v⟩ := entry
    have hrest {read : Dict Value} (hread : conformEntries readers entries = .ok read) :
        ∀ e ∈ read, ∃ reader ∈ readers, ∃ w ∈ ((k, v) :: entries).map Prod.snd,
          reader.read w = .ok e.2 := by
      intro e he
      obtain ⟨reader, hreader, w, hw, heq⟩ := ih hread e he
      exact ⟨reader, hreader, w, List.mem_cons_of_mem _ hw, heq⟩
    unfold conformEntries at h
    split at h
    . next reader hfind =>
      simp only [Outcome.bind_eq_ok_iff] at h
      obtain ⟨v', hv', rest, hread, h⟩ := h
      cases h
      rw [List.forall_mem_cons]
      exact ⟨⟨reader, List.mem_of_find?_eq_some hfind, v, List.mem_cons_self, hv'⟩, hrest hread⟩
    . exact hrest h

theorem exists_of_mem_conformItems {wanted : String} {position : Nat} {readers : List FieldReader}
    {items : List Value} {read : Dict Value}
    (h : conformItems wanted position readers items = .ok read) :
    ∀ e ∈ read, ∃ reader ∈ readers, ∃ v ∈ items, reader.read v = .ok e.2 := by
  induction readers generalizing position items read with
  | nil =>
    cases items with
    | nil =>
      cases h
      nofun
    | cons v items => cases h
  | cons reader readers ih =>
    cases items with
    | nil =>
      unfold conformItems at h
      split at h
      . intro e he
        obtain ⟨_, _, v, hv, _⟩ := ih h e he
        cases hv
      . cases h
    | cons v items =>
      unfold conformItems at h
      simp only [Outcome.bind_eq_ok_iff] at h
      obtain ⟨v', hv', rest, hread, h⟩ := h
      cases h
      rw [List.forall_mem_cons]
      refine ⟨⟨reader, List.mem_cons_self, v, List.mem_cons_self, hv'⟩, fun e he => ?_⟩
      obtain ⟨reader', hreader', w, hw, heq⟩ := ih hread e he
      exact ⟨reader', List.mem_cons_of_mem _ hreader', w, List.mem_cons_of_mem _ hw, heq⟩

/-- Each field of a record that has been read was read from a value inside the document. -/
theorem exists_of_conform_record {name : String} {fields : List (String × Presence × Shape)}
    {v v' : Value} (h : conform (.record name fields) v = .ok v') :
    ∃ read, v' = .object read
      ∧ ∀ e ∈ read, ∃ field ∈ fields, ∃ w ∈ v.elements, conform field.2.2 w = .ok e.2 := by
  have hfields {read : Dict Value} {values : List Value}
      (hread : ∀ e ∈ read, ∃ reader ∈ readers fields, ∃ w ∈ values, reader.read w = .ok e.2) :
      ∀ e ∈ read, ∃ field ∈ fields, ∃ w ∈ values, conform field.2.2 w = .ok e.2 := by
    intro e he
    obtain ⟨reader, hreader, w, hw, heq⟩ := hread e he
    obtain ⟨name, presence, shape, hmem, rfl⟩ := mem_readers_iff.1 hreader
    exact ⟨_, hmem, w, hw, heq⟩
  unfold conform at h
  split at h
  . simp only [Outcome.bind_eq_ok_iff] at h
    obtain ⟨read, hread, h⟩ := h
    split at h
    . cases h
    . cases h
      exact ⟨read, rfl, hfields (exists_of_mem_conformEntries hread)⟩
  . simp only [Outcome.bind_eq_ok_iff] at h
    obtain ⟨read, hread, h⟩ := h
    cases h
    exact ⟨read, rfl, hfields (exists_of_mem_conformItems hread)⟩
  . cases h

end DataQuality.Json
