import DataQuality.Export.Csv
import DataQuality.Proofs.Flatten.Entries
import DataQuality.Proofs.Text.Bytes

/-!
The flat record of a run. What a caller adds to a run lies below the key `extra`, and no key that it
chooses reaches the entries of the run itself or doubles a column of its table. Main statement:
`RunMetadata.toRecord_keepsApart`.
-/

namespace DataQuality

open Json (Value)

namespace RunMetadata

/-- A key of what a caller has added to a run. -/
def IsExtraKey (key : String) : Prop := key = "extra" ∨ "extra.".toList <+: key.toList

instance (key : String) : Decidable (IsExtraKey key) := inferInstanceAs (Decidable (_ ∨ _))

/-- The fields of a run that hold at most one scalar. -/
def scalarFields (m : RunMetadata) : List (String × Value) :=
  [("suite_name", .string m.suiteName),
   ("job_id", .ofString? m.jobId),
   ("started_at", .string m.startedAt.text),
   ("ended_at", .ofString? (m.endedAt.map Time.Timestamp.text)),
   ("duration_ms", .ofFloat? m.durationMs),
   ("bytes_processed", (m.bytesProcessed.map Value.nat).getD .null),
   ("cache_hit", (m.cacheHit.map Value.bool).getD .null),
   ("validate_first", .bool m.validateFirst),
   ("validate_only", .bool m.validateOnly),
   ("status", .string m.status.text)]

/-- The messages in their order, or that there are none. -/
def errorEntries (errors : List String) : List (String × Value) :=
  if errors = [] then
    [("errors", .array [])]
  else
    errors.mapIdx fun i message => ("errors[" ++ toString i ++ "]", .string message)

/-- What the flat record says of the run itself. -/
def ownEntries (m : RunMetadata) : List (String × Value) :=
  m.scalarFields ++ ("error_count", .nat m.errorCount) :: errorEntries m.errors

variable {m : RunMetadata}

theorem mem_fields_iff {key : String} {v : Value} :
    (key, v) ∈ m.fields
      ↔
    (key, v) ∈ m.scalarFields ∨ (key = "errors" ∧ v = .strings m.errors)
      ∨ key = "extra" ∧ v = .object m.extra := by
  have hfields : m.fields
      = m.scalarFields ++ [("errors", .strings m.errors), ("extra", .object m.extra)] := rfl
  rw [hfields, List.mem_append, List.mem_cons, List.mem_singleton, Prod.mk.injEq, Prod.mk.injEq]

theorem isNonemptyContainer_of_mem_scalarFields :
    ∀ e ∈ m.scalarFields, e.2.isNonemptyContainer = false := by
  unfold scalarFields
  simp only [List.forall_mem_cons, List.not_mem_nil, false_imp_iff, implies_true, and_true]
  refine ⟨rfl, Value.isNonemptyContainer_ofString? _, rfl, Value.isNonemptyContainer_ofString? _,
    Value.isNonemptyContainer_ofFloat? _, ?_, ?_, rfl, rfl, rfl⟩
  . cases m.bytesProcessed <;> rfl
  . cases m.cacheHit <;> rfl

theorem mem_ofEntries_fields_iff {e : String × Value} :
    e ∈ Dict.ofEntries m.fields ↔ e ∈ m.fields := by
  have hkeys : (m.fields ++ Dict.empty).map Prod.fst
      = ["suite_name", "job_id", "started_at", "ended_at", "duration_ms", "bytes_processed",
        "cache_hit", "validate_first", "validate_only", "status", "errors", "extra"] := rfl
  have hnodup : (m.fields ++ Dict.empty).map Prod.fst |>.Nodup := by
    rw [hkeys]
    decide
  exact (Dict.insertAll_perm hnodup).mem_iff

theorem joined_errors (i : Nat) :
    (LeafPath.mk "errors" [.index i]).joined = "errors[" ++ toString i ++ "]" := by
  rw [← String.toList_inj]
  simp [LeafPath.joined, PathStep.text]

theorem mem_errorEntries_iff {errors : List String} {key : String} {leaf : Value} :
    (key, leaf) ∈ errorEntries errors
      ↔
    ∃ steps, LeafAt (.strings errors) steps leaf ∧ (LeafPath.mk "errors" steps).joined = key := by
  unfold errorEntries Value.strings
  split
  . next h =>
    subst h
    rw [List.mem_singleton, Prod.mk.injEq]
    constructor
    . rintro ⟨rfl, rfl⟩
      exact ⟨[], .here rfl, rfl⟩
    . rintro ⟨steps, hleaf, rfl⟩
      obtain ⟨rfl, rfl⟩ := (leafAt_simple_iff rfl).1 hleaf
      exact ⟨rfl, rfl⟩
  . next h =>
    have hne : errors.map Value.string ≠ [] := by simpa using h
    simp only [List.mem_mapIdx, Prod.mk.injEq]
    constructor
    . rintro ⟨i, hi, rfl, rfl⟩
      refine ⟨[.index i], .item ?_ (.here rfl), joined_errors i⟩
      rw [List.getElem?_map, List.getElem?_eq_getElem hi]
      rfl
    . rintro ⟨steps, hleaf, rfl⟩
      obtain ⟨i, v, below, hmem, rfl, hbelow⟩ := (leafAt_array_iff hne).1 hleaf
      rw [List.getElem?_map, Option.map_eq_some_iff] at hmem
      obtain ⟨message, hmessage, rfl⟩ := hmem
      obtain ⟨rfl, rfl⟩ := (leafAt_simple_iff rfl).1 hbelow
      obtain ⟨hi, rfl⟩ := List.getElem?_eq_some_iff.1 hmessage
      exact ⟨i, hi, (joined_errors i).symm, rfl⟩

theorem isExtraKey_joined {steps : List PathStep} {leaf : Value}
    (h : LeafAt (.object m.extra) steps leaf) : IsExtraKey (LeafPath.mk "extra" steps).joined := by
  cases h with
  | here _ => exact .inl rfl
  | @field _ k _ _ below _ _ =>
    right
    rw [LeafPath.toList_joined]
    simp [PathStep.text]

theorem mem_ownEntries_iff {key : String} {leaf : Value} (hextra : ¬ IsExtraKey key)
    (hcount : key ≠ "error_count") :
    (key, leaf) ∈ m.ownEntries
      ↔
    ∃ path, HasLeaf (Dict.ofEntries m.fields) path leaf ∧ path.joined = key := by
  unfold ownEntries
  simp only [hasLeaf_iff, mem_ofEntries_fields_iff, mem_fields_iff, List.mem_append, List.mem_cons,
    Prod.mk.injEq, hcount, false_and, false_or, mem_errorEntries_iff]
  constructor
  . rintro (hmem | ⟨steps, hleaf, hjoined⟩)
    . have hsimple := isNonemptyContainer_of_mem_scalarFields _ hmem
      exact ⟨⟨key, []⟩, ⟨leaf, .inl hmem, .here hsimple⟩, rfl⟩
    . exact ⟨⟨"errors", steps⟩, ⟨_, .inr (.inl ⟨rfl, rfl⟩), hleaf⟩, hjoined⟩
  . rintro ⟨⟨root, steps⟩, ⟨v, hmem | ⟨rfl, rfl⟩ | ⟨rfl, rfl⟩, hleaf⟩, hjoined⟩
    . have hsimple := isNonemptyContainer_of_mem_scalarFields _ hmem
      obtain ⟨rfl, rfl⟩ := (leafAt_simple_iff hsimple).1 hleaf
      obtain rfl : root = key := hjoined
      exact .inl hmem
    . exact .inr ⟨steps, hleaf, hjoined⟩
    . exact absurd (hjoined ▸ isExtraKey_joined hleaf) hextra

theorem prefix_of_mem_errorEntries {errors : List String} {e : String × Value}
    (h : e ∈ errorEntries errors) : "errors".toList <+: e.1.toList := by
  obtain ⟨steps, _, hjoined⟩ := mem_errorEntries_iff.1 h
  rw [← hjoined, LeafPath.toList_joined]
  exact List.prefix_append _ _

theorem joined_errors_injective {i j : Nat}
    (h : (LeafPath.mk "errors" [.index i]).joined = (LeafPath.mk "errors" [.index j]).joined) :
    i = j := by
  have hplain (i : Nat) : (LeafPath.mk "errors" [.index i]).IsPlain := by
    constructor
    case root =>
      change IsPlainKey "errors"
      decide
    case steps =>
      rw [List.forall_mem_singleton]
      rintro k ⟨⟩
  cases LeafPath.joined_injective (hplain i) (hplain j) h
  rfl

theorem nodup_keys_errorEntries (errors : List String) :
    ((errorEntries errors).map Prod.fst).Nodup := by
  unfold errorEntries
  split
  . exact List.nodup_singleton _
  . rw [List.Nodup, List.pairwise_iff_getElem]
    intro i j hi hj hlt heq
    rw [List.getElem_map, List.getElem_map, List.getElem_mapIdx, List.getElem_mapIdx] at heq
    rw [← joined_errors, ← joined_errors] at heq
    exact Nat.ne_of_lt hlt (joined_errors_injective heq)

/-- The entries of the run come under the fixed columns of its table and below `errors`. -/
theorem keys_ownEntries_perm (m : RunMetadata) :
    (m.ownEntries.map Prod.fst).Perm
      (Export.runColumns ++ (errorEntries m.errors).map Prod.fst) := by
  have hfixed : ["suite_name", "job_id", "started_at", "ended_at", "duration_ms",
      "bytes_processed", "cache_hit", "validate_first", "validate_only", "status",
      "error_count"].Perm Export.runColumns := by decide
  have hkeys : m.ownEntries.map Prod.fst
      = ["suite_name", "job_id", "started_at", "ended_at", "duration_ms", "bytes_processed",
        "cache_hit", "validate_first", "validate_only", "status", "error_count"]
        ++ (errorEntries m.errors).map Prod.fst := rfl
  rw [hkeys]
  exact hfixed.append_right _

theorem nodup_keys_ownEntries (m : RunMetadata) : (m.ownEntries.map Prod.fst).Nodup := by
  have hapart : ∀ column ∈ Export.runColumns, ¬ "errors".toList <+: column.toList := by decide
  rw [(keys_ownEntries_perm m).nodup_iff, List.nodup_append]
  refine ⟨by decide, nodup_keys_errorEntries m.errors, ?_⟩
  rintro column hcolumn _ hkey rfl
  obtain ⟨e, he, rfl⟩ := List.mem_map.1 hkey
  exact hapart _ hcolumn (prefix_of_mem_errorEntries he)

theorem not_isExtraKey_of_mem_ownEntries {e : String × Value} (h : e ∈ m.ownEntries) :
    ¬ IsExtraKey e.1 := by
  have hfixed : ∀ column ∈ Export.runColumns, ¬ IsExtraKey column := by decide
  have hmem := (keys_ownEntries_perm m).mem_iff.1 (List.mem_map_of_mem h)
  rcases List.mem_append.1 hmem with hcolumn | hkey
  . exact hfixed _ hcolumn
  . obtain ⟨e', he', heq⟩ := List.mem_map.1 hkey
    have herrors := prefix_of_mem_errorEntries he'
    rw [heq] at herrors
    intro hextra
    have hprefix : "extra".toList <+: e.1.toList := by
      rcases hextra with hextra | hextra
      . exact hextra ▸ List.prefix_rfl
      . exact List.IsPrefix.trans (by decide) hextra
    exact absurd (List.prefix_of_prefix_length_le hprefix herrors (by decide)) (by decide)

theorem ownEntries_unique {key : String} {v w : Value} (hv : (key, v) ∈ m.ownEntries)
    (hw : (key, w) ∈ m.ownEntries) : v = w := by
  have heq := List.inj_on_of_nodup_map (nodup_keys_ownEntries m) hv hw rfl
  exact (Prod.mk.inj heq).2

theorem sorted_toRecord (m : RunMetadata) : m.toRecord.Sorted :=
  Dict.sorted_insert (Dict.sorted_ofEntries _) _ _

theorem find?_toRecord_eq_some_iff {key : String} {v : Value} (h : ¬ IsExtraKey key) :
    m.toRecord.find? key = some v ↔ (key, v) ∈ m.ownEntries := by
  unfold toRecord
  rw [Dict.find?_insert]
  split
  . next hcount =>
    subst hcount
    have hmem : ("error_count", Value.nat m.errorCount) ∈ m.ownEntries :=
      List.mem_append_right _ List.mem_cons_self
    rw [Option.some.injEq]
    constructor
    . rintro rfl
      exact hmem
    . exact ownEntries_unique hmem
  . next hcount =>
    have hown {v : Value} : (key, v) ∈ m.ownEntries ↔ _ := mem_ownEntries_iff h (Ne.symm hcount)
    rw [hown, find?_flatten_eq_some_iff]
    -- Two leaves under the key are both entries of the run, which has one for each key.
    intro path path' v w hv hw hkey hkey'
    exact ownEntries_unique (hown.2 ⟨path, hv, hkey⟩) (hown.2 ⟨path', hw, hkey'⟩)

/-- The entries of a record that do not stem from what a caller has added. -/
def withoutExtra (record : Dict Value) : Dict Value := record.filter (¬ IsExtraKey ·.1)

theorem mem_withoutExtra_iff {record : Dict Value} {e : String × Value} :
    e ∈ withoutExtra record ↔ e ∈ record ∧ ¬ IsExtraKey e.1 := by
  unfold withoutExtra
  rw [List.mem_filter, decide_eq_true_iff]

theorem sorted_withoutExtra (m : RunMetadata) : (withoutExtra m.toRecord).Sorted :=
  (sorted_toRecord m).filter _

theorem withoutExtra_toRecord_perm (m : RunMetadata) :
    (withoutExtra m.toRecord).Perm m.ownEntries := by
  rw [List.perm_ext_iff_of_nodup (sorted_withoutExtra m).nodup (nodup_keys_ownEntries m).of_map]
  rintro ⟨key, v⟩
  rw [mem_withoutExtra_iff, ← Dict.find?_eq_some_iff (sorted_toRecord m).pairwise_ne]
  constructor
  . rintro ⟨hfound, hextra⟩
    exact (find?_toRecord_eq_some_iff hextra).1 hfound
  . intro hmem
    have hextra := not_isExtraKey_of_mem_ownEntries hmem
    exact ⟨(find?_toRecord_eq_some_iff hextra).2 hmem, hextra⟩

end RunMetadata

namespace Export

theorem columnsOf_perm {record : Dict Value} (h : record.Sorted)
    (hfixed : ∀ column ∈ runColumns, column ∈ record.keys) :
    (columnsOf record).Perm record.keys := by
  have hnodup : (columnsOf record).Nodup := by
    unfold columnsOf
    rw [List.nodup_append]
    refine ⟨by decide, h.nodup_keys.filter _, ?_⟩
    rintro column hcolumn _ hother rfl
    have hnot := (List.mem_filter.1 hother).2
    rw [Bool.not_eq_true', List.contains_eq_mem, decide_eq_false_iff_not] at hnot
    exact hnot hcolumn
  rw [List.perm_ext_iff_of_nodup hnodup h.nodup_keys]
  -- A fixed column is taken out of the others only because it stands before them.
  intro column
  unfold columnsOf
  rw [List.mem_append, List.mem_filter, Bool.not_eq_true', List.contains_eq_mem,
    decide_eq_false_iff_not]
  constructor
  . rintro (hcolumn | ⟨hcolumn, _⟩)
    . exact hfixed column hcolumn
    . exact hcolumn
  . intro hcolumn
    by_cases hmem : column ∈ runColumns
    . exact .inl hmem
    . exact .inr ⟨hcolumn, hmem⟩

theorem pairwise_bytes_keys {record : Dict Value} (h : record.Sorted) :
    record.keys.Pairwise (Text.bytes · < Text.bytes ·) := by
  unfold Dict.keys
  rw [List.pairwise_map]
  apply h.imp
  exact Text.bytes_lt_bytes_iff.2

end Export

namespace RunMetadata

/-- The record of a run and its table, whatever a caller has added. -/
structure KeepsApart (m : RunMetadata) : Prop where
  same : ∀ extra, withoutExtra { m with extra := extra }.toRecord = withoutExtra m.toRecord
  own : (withoutExtra m.toRecord).Perm m.ownEntries
  ownKeys : (m.ownEntries.map Prod.fst).Nodup
  document : Export.runCsv m
      =
    Text.Csv.document
      [Export.columnsOf m.toRecord,
        (Export.columnsOf m.toRecord).map fun column => Export.cellText (m.toRecord.find? column)]
  columns : (Export.columnsOf m.toRecord).Perm m.toRecord.keys
  columnsOnce : (Export.columnsOf m.toRecord).Nodup
  order : ∃ rest, Export.columnsOf m.toRecord = Export.runColumns ++ rest
    ∧ rest.Pairwise (Text.bytes · < Text.bytes ·)

theorem mem_keys_toRecord_of_mem_runColumns {m : RunMetadata} {column : String}
    (h : column ∈ Export.runColumns) : column ∈ m.toRecord.keys := by
  have hown := (keys_ownEntries_perm m).mem_iff.2 (List.mem_append_left _ h)
  obtain ⟨e, he, rfl⟩ := List.mem_map.1 hown
  have hmem := (withoutExtra_toRecord_perm m).mem_iff.2 he
  unfold Dict.keys
  exact List.mem_map_of_mem (mem_withoutExtra_iff.1 hmem).1

theorem toRecord_keepsApart (m : RunMetadata) : m.KeepsApart := by
  have hcolumns := Export.columnsOf_perm (sorted_toRecord m)
    fun _ => mem_keys_toRecord_of_mem_runColumns
  constructor
  case same =>
    intro extra
    apply (sorted_withoutExtra _).eq_of_perm (sorted_withoutExtra m)
    exact (withoutExtra_toRecord_perm _).trans (withoutExtra_toRecord_perm m).symm
  case own => exact withoutExtra_toRecord_perm m
  case ownKeys => exact nodup_keys_ownEntries m
  case document => rfl
  case columns => exact hcolumns
  case columnsOnce => exact hcolumns.nodup_iff.2 (sorted_toRecord m).nodup_keys
  case order => exact ⟨_, rfl, (Export.pairwise_bytes_keys (sorted_toRecord m)).filter _⟩

end RunMetadata
end DataQuality
