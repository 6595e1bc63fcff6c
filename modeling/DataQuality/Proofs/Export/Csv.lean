import DataQuality.Proofs.Record.Run
import DataQuality.Proofs.Text.Csv

/-!
The two tables of an exported run read back: the header, and under it a row of the same width for
each flat record, whose cells show the entries of that record. Main statement:
`csv_readsBack`.
-/

namespace DataQuality.Export

open Json (Value)

/-- What a cell shows of an entry of a flat record, in which containers are empty. -/
inductive Shows : Value → String → Prop
  | null : Shows .null ""
  | bool (b : Bool) : Shows (.bool b) (if b then "true" else "false")
  | number (n : Json.Number) : Shows (.number n) n.text
  | string (s : String) : Shows (.string s) s
  | noItems : Shows (.array []) "[]"
  | noFields : Shows (.object []) "\x7b\x7d"

theorem shows_cellText {v : Value} (h : v.isNonemptyContainer = false) :
    Shows v (cellText (some v)) := by
  cases v with
  | null => exact .null
  | bool b =>
    rw [cellText, Value.compact]
    . exact .bool b
    all_goals simp
  | number n => exact .number n
  | string s => exact .string s
  | array items =>
    cases items with
    | nil => exact .noItems
    | cons v rest => cases h
  | object fields =>
    cases fields with
    | nil => exact .noFields
    | cons e rest => cases h

/-- A row that shows the entries of a record under the given columns. -/
def ShowsRecord (columns : List String) (record : Dict Value) (row : List String) : Prop :=
  List.Forall₂ (fun column cell => ∃ v, record.find? column = some v ∧ Shows v cell) columns row

/-- A text that is read as a header and a row for each record. -/
def ReadsAs (text : String) (columns : List String) (records : List (Dict Value)) : Prop :=
  ∃ rows, Text.Csv.read? text = some (columns :: rows)
    ∧ (∀ row ∈ rows, row.length = columns.length)
    ∧ List.Forall₂ (ShowsRecord columns) records rows

/-- An entry under each of the columns, which is no container with something inside. -/
def HasColumns (columns : List String) (record : Dict Value) : Prop :=
  ∀ column ∈ columns, ∃ v, record.find? column = some v ∧ v.isNonemptyContainer = false

theorem HasColumns.showsRecord {columns : List String} {record : Dict Value}
    (h : HasColumns columns record) :
    ShowsRecord columns record (columns.map fun column => cellText (record.find? column)) := by
  unfold ShowsRecord
  rw [List.forall₂_map_right_iff, List.forall₂_same]
  intro column hcolumn
  obtain ⟨v, hfind, hsimple⟩ := h column hcolumn
  rw [hfind]
  exact ⟨v, rfl, shows_cellText hsimple⟩

theorem readsAs_table {columns : List String} {records : List (Dict Value)} (hne : columns ≠ [])
    (h : ∀ record ∈ records, HasColumns columns record) :
    ReadsAs (Text.Csv.document (table columns records)) columns records := by
  refine ⟨_, Text.Csv.read?_document ?_, ?_, ?_⟩
  . intro row hrow
    rcases List.mem_cons.1 hrow with rfl | hrow
    . exact hne
    . obtain ⟨record, _, rfl⟩ := List.mem_map.1 hrow
      simpa using hne
  . intro row hrow
    obtain ⟨record, _, rfl⟩ := List.mem_map.1 hrow
    rw [List.length_map]
  . rw [List.forall₂_map_right_iff, List.forall₂_same]
    intro record hrecord
    exact (h record hrecord).showsRecord

theorem hasColumns_result (r : CheckResult) : HasColumns resultColumns r.toRecord := by
  unfold HasColumns resultColumns
  simp only [List.forall_mem_cons, List.not_mem_nil, false_imp_iff, implies_true, and_true]
  exact ⟨⟨_, rfl, rfl⟩, ⟨_, rfl, rfl⟩, ⟨_, rfl, rfl⟩,
    ⟨_, rfl, Value.isNonemptyContainer_ofFloat? _⟩, ⟨_, rfl, Value.isNonemptyContainer_ofFloat? _⟩,
    ⟨_, rfl, Value.isNonemptyContainer_ofFloat? _⟩, ⟨_, rfl, rfl⟩⟩

theorem isNonemptyContainer_of_find?_run {m : RunMetadata} {key : String} {v : Value}
    (h : m.toRecord.find? key = some v) : v.isNonemptyContainer = false := by
  unfold RunMetadata.toRecord at h
  rw [Dict.find?_insert] at h
  split at h
  . cases h
    rfl
  . exact not_isNonemptyContainer_of_find?_flatten h

theorem columnsOf_run_perm (m : RunMetadata) : (columnsOf m.toRecord).Perm m.toRecord.keys :=
  columnsOf_perm (RunMetadata.sorted_toRecord m) fun _ =>
    RunMetadata.mem_keys_toRecord_of_mem_runColumns

theorem hasColumns_run (m : RunMetadata) : HasColumns (columnsOf m.toRecord) m.toRecord := by
  intro column hcolumn
  have hkey := (columnsOf_run_perm m).mem_iff.1 hcolumn
  rw [Dict.mem_keys_iff] at hkey
  obtain ⟨v, hfind⟩ := Option.ne_none_iff_exists'.1 hkey
  exact ⟨v, hfind, isNonemptyContainer_of_find?_run hfind⟩

theorem csv_readsBack :
    (∀ results : List CheckResult,
      resultColumns.length = 7
        ∧ ReadsAs (resultCsv results) resultColumns (results.map CheckResult.toRecord))
      ∧
    ∀ m : RunMetadata, ∃ columns, columns.Perm m.toRecord.keys
      ∧ ReadsAs (runCsv m) columns [m.toRecord] := by
  constructor
  . intro results
    refine ⟨rfl, readsAs_table (by decide) ?_⟩
    rw [List.forall_mem_map]
    intro r _
    exact hasColumns_result r
  . intro m
    refine ⟨columnsOf m.toRecord, columnsOf_run_perm m, readsAs_table ?_ ?_⟩
    . exact List.cons_ne_nil _ _
    . rw [List.forall_mem_singleton]
      exact hasColumns_run m

end DataQuality.Export
