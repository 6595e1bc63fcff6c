import DataQuality.Proofs.Flatten.Entries
import DataQuality.Proofs.Run.Coverage
import DataQuality.Proofs.Suite.Verdict

/-!
Nested rows. What a classification reads of a flat row are columns of the row itself, so flattening
does to the results what deleting the containers from the value columns does. Main statement:
`Suite.flatten_ignoresNesting`.
-/

namespace DataQuality

open Json (Value)

namespace Row

/-- The columns that a classification reads. -/
def readColumns : List String := "check_name" :: valueColumns

/-- A row without the arrays and objects in its value columns, but for those without elements. -/
def withoutContainers (row : Row) : Row :=
  row.filter fun e => !(e.1 ∈ valueColumns && e.2.isNonemptyContainer)

theorem isPlainKey_of_mem_readColumns {column : String} (h : column ∈ readColumns) :
    IsPlainKey column := by
  have hall : ∀ column ∈ readColumns, IsPlainKey column := by decide
  exact hall column h

theorem not_isNonemptyContainer_of_string? {v : Value} {text : String}
    (h : v.string? = some text) : v.isNonemptyContainer = false := by
  cases v with
  | string s => rfl
  | _ => cases h

theorem value?_congr {row row' : Row}
    (h : ∀ column ∈ valueColumns, row.find? column = row'.find? column) :
    row.value? = row'.value? := by
  have hheld (columns : List String)
      (h : ∀ column ∈ columns, row.find? column = row'.find? column) :
      columns.findSome? row.held? = columns.findSome? row'.held? := by
    induction columns with
    | nil => rfl
    | cons column rest ih =>
      rw [List.forall_mem_cons] at h
      have hcolumn : row.held? column = row'.held? column := by
        unfold held?
        rw [h.1]
      rw [List.findSome?_cons, List.findSome?_cons, hcolumn, ih h.2]
  unfold value?
  rw [candidate?_eq_findSome?, candidate?_eq_findSome?, hheld valueColumns h]

section

variable {row : Row} (h : row.Sorted)

include h

theorem find?_flatten {column : String} (hcolumn : column ∈ readColumns) :
    (flatten row).find? column = (row.find? column).filter (!·.isNonemptyContainer) :=
  find?_flatten_of_isPlainKey h (isPlainKey_of_mem_readColumns hcolumn)

theorem find?_withoutContainers {column : String} (hcolumn : column ∈ valueColumns) :
    row.withoutContainers.find? column
      =
    (row.find? column).filter (!·.isNonemptyContainer) := by
  unfold withoutContainers
  rw [Dict.find?_filter h]
  simp [hcolumn]

theorem checkName?_flatten : checkName? (flatten row) = row.checkName? := by
  unfold checkName?
  rw [find?_flatten h List.mem_cons_self]
  ext text
  simp only [Option.bind_eq_some_iff, Option.filter_eq_some_iff]
  constructor
  . rintro ⟨v, ⟨hfound, _⟩, htext⟩
    exact ⟨v, hfound, htext⟩
  . rintro ⟨v, hfound, htext⟩
    refine ⟨v, ⟨hfound, ?_⟩, htext⟩
    rw [not_isNonemptyContainer_of_string? htext]
    rfl

theorem checkName?_withoutContainers : row.withoutContainers.checkName? = row.checkName? := by
  have hcolumn : "check_name" ∉ valueColumns := by decide
  unfold checkName? withoutContainers
  rw [Dict.find?_filter h]
  cases row.find? "check_name" with
  | none => rfl
  | some v => simp [hcolumn, Option.filter]

theorem value?_flatten : value? (flatten row) = row.withoutContainers.value? := by
  apply value?_congr
  intro column hcolumn
  rw [find?_flatten h (List.mem_cons_of_mem _ hcolumn), find?_withoutContainers h hcolumn]

end

/-- The columns that are read hold the same, where containers with elements are left out. -/
def AlikeAtTop (row row' : Row) : Prop :=
  ∀ column ∈ readColumns, (row.find? column).filter (!·.isNonemptyContainer)
    = (row'.find? column).filter (!·.isNonemptyContainer)

theorem alikeAtTop_insert_of_unread {key : String} (hkey : key ∉ readColumns) (v : Value)
    (row : Row) : AlikeAtTop (row.insert key v) row := by
  intro column hcolumn
  rw [Dict.find?_insert_of_ne]
  rintro rfl
  exact hkey hcolumn

theorem alikeAtTop_insert_of_containers {v w : Value} (hv : v.isNonemptyContainer = true)
    (hw : w.isNonemptyContainer = true) (key : String) (row : Row) :
    AlikeAtTop (row.insert key v) (row.insert key w) := by
  intro column hcolumn
  rw [Dict.find?_insert, Dict.find?_insert]
  split
  . simp [Option.filter, hv, hw]
  . rfl

end Row

namespace Suite

variable (s : Suite)

theorem classifyRow_congr {row row' : Row} (hname : row.checkName? = row'.checkName?)
    (hvalue : row.value? = row'.value?) : s.classifyRow row = s.classifyRow row' := by
  unfold Row.checkName? at hname
  unfold classifyRow
  rw [hname, hvalue]

theorem classifyRow_flatten {row : Row} (h : row.Sorted) :
    s.classifyRow (flatten row) = s.classifyRow row.withoutContainers := by
  apply s.classifyRow_congr
  . rw [Row.checkName?_flatten h, Row.checkName?_withoutContainers h]
  . exact Row.value?_flatten h

theorem classifyRow_flatten_of_alikeAtTop {row row' : Row} (h : row.Sorted) (h' : row'.Sorted)
    (halike : row.AlikeAtTop row') :
    s.classifyRow (flatten row) = s.classifyRow (flatten row') := by
  have hread (column : String) (hcolumn : column ∈ Row.readColumns) :
      (flatten row).find? column = (flatten row').find? column := by
    rw [Row.find?_flatten h hcolumn, halike column hcolumn, Row.find?_flatten h' hcolumn]
  apply s.classifyRow_of_same_value
  . exact hread "check_name" List.mem_cons_self
  . apply Row.value?_congr
    intro column hcolumn
    exact hread column (List.mem_cons_of_mem _ hcolumn)

theorem filterMap_map_congr {α : Type} {F : Row → Option α} {f g : Row → Row} {rows : List Row}
    (h : ∀ row ∈ rows, F (f row) = F (g row)) :
    (rows.map f).filterMap F = (rows.map g).filterMap F := by
  rw [List.filterMap_map, List.filterMap_map]
  exact List.filterMap_congr h

theorem classify_congr {f g : Row → Row} {rows : List Row}
    (h : ∀ row ∈ rows, s.classifyRow (f row) = s.classifyRow (g row)) :
    s.classify (rows.map f) = s.classify (rows.map g) := by
  apply filterMap_map_congr
  intro row hrow
  rw [h row hrow]

theorem classifyEvents_congr (settings : Log.Settings) {f g : Row → Row} {rows : List Row}
    (h : ∀ row ∈ rows, s.classifyRow (f row) = s.classifyRow (g row)) :
    s.classifyEvents settings (rows.map f) = s.classifyEvents settings (rows.map g) := by
  apply filterMap_map_congr
  intro row hrow
  rw [h row hrow]

/-- What the containers in rows have to do with the results when the rows are flattened. -/
structure IgnoresNesting (s : Suite) (rows : List Row) : Prop where
  results : s.classify (rows.map flatten) = s.classify (rows.map Row.withoutContainers)
  events : ∀ settings, s.classifyEvents settings (rows.map flatten)
    = s.classifyEvents settings (rows.map Row.withoutContainers)
  /-- A flat row has what is read from the row itself. -/
  supplied : ∀ row ∈ rows, ∀ column ∈ Row.readColumns, ∀ v,
    (flatten row).find? column = some v
      ↔ row.find? column = some v ∧ v.isNonemptyContainer = false
  /-- Other keys, among them all that hold a joint, do not matter. -/
  unread : ∀ row ∈ rows, ∀ key, ¬ IsPlainKey key ∨ key ∉ Row.readColumns →
    ∀ v, s.classify [flatten (row.insert key v)] = s.classify [flatten row]
  /-- What is inside of a container does not matter, whatever its keys are. -/
  inside : ∀ row ∈ rows, ∀ key v w, v.isNonemptyContainer = true → w.isNonemptyContainer = true →
    s.classify [flatten (row.insert key v)] = s.classify [flatten (row.insert key w)]
  flat : (∀ row ∈ rows, ∀ column ∈ Row.valueColumns, ∀ v, row.find? column = some v →
      v.isNonemptyContainer = false) →
    s.classify (rows.map flatten) = s.classify rows
  runs : ∀ (r : Runner) (engine : Engine) (clock : Clock) (files : Storage.Tree) (o : RunOptions)
      (report : RunReport) (output : QueryOutput),
    (r.run engine clock files s o).outcome = .ok report → report.metadata.status = .success →
    engine.execute report.sql = .ok output → output.rows = rows → o.flattenRows = true →
    report.results = s.classify (rows.map Row.withoutContainers)

theorem flatten_ignoresNesting (s : Suite) (rows : List Row) (h : ∀ row ∈ rows, row.Sorted) :
    s.IgnoresNesting rows := by
  have hrow (row : Row) (hrow : row ∈ rows) := s.classifyRow_flatten (h row hrow)
  have hone {row row' : Row} (hsorted : row.Sorted) (hsorted' : row'.Sorted)
      (halike : row.AlikeAtTop row') : s.classify [flatten row] = s.classify [flatten row'] := by
    unfold classify
    rw [List.filterMap_cons, List.filterMap_cons,
      s.classifyRow_flatten_of_alikeAtTop hsorted hsorted' halike]
  constructor
  case results => exact s.classify_congr hrow
  case events => exact fun settings => s.classifyEvents_congr settings hrow
  case supplied =>
    intro row hmem column hcolumn v
    rw [Row.find?_flatten (h row hmem) hcolumn, Option.filter_eq_some_iff, Bool.not_eq_true']
  case unread =>
    intro row hmem key hkey v
    have hunread : key ∉ Row.readColumns := by
      rcases hkey with hkey | hkey
      . exact fun hread => hkey (Row.isPlainKey_of_mem_readColumns hread)
      . exact hkey
    apply hone (Dict.sorted_insert (h row hmem) key v) (h row hmem)
    exact Row.alikeAtTop_insert_of_unread hunread v row
  case inside =>
    intro row hmem key v w hv hw
    apply hone (Dict.sorted_insert (h row hmem) key v) (Dict.sorted_insert (h row hmem) key w)
    exact Row.alikeAtTop_insert_of_containers hv hw key row
  case flat =>
    intro hsimple
    have hsame (row : Row) (hmem : row ∈ rows) :
        s.classifyRow (flatten row) = s.classifyRow (id row) := by
      apply s.classifyRow_congr (Row.checkName?_flatten (h row hmem))
      apply Row.value?_congr
      intro column hcolumn
      rw [Row.find?_flatten (h row hmem) (List.mem_cons_of_mem _ hcolumn)]
      cases hfound : row.find? column with
      | none => rfl
      | some v => simp [hsimple row hmem column hcolumn v hfound]
    rw [s.classify_congr hsame, List.map_id]
  case runs =>
    intro r engine clock files o report output hrun hstatus houtput hrows hflatten
    obtain ⟨output', houtput', hresults⟩ := Runner.results_of_success hrun hstatus
    rw [houtput, Except.ok.injEq] at houtput'
    subst houtput'
    unfold QueryOutput.classified at hresults
    rw [hresults, hflatten, if_pos rfl, hrows]
    exact s.classify_congr hrow

end Suite

namespace Sample

/-- A container in a value column, next to a count and to a key like the path of a leaf. -/
def containerRows : List Row :=
  [Dict.ofEntries
    [("check_name", .string "a"), ("count", .nat 7),
     ("value", .object (Dict.ofEntries [("count", .nat 1)])), ("value.x", .nat 2)]]

theorem containerRows_ignored :
    (∀ row ∈ containerRows, row.Sorted) ∧ orders.IgnoresNesting containerRows
      ∧ (orders.classify (containerRows.map flatten)).map (·.status) = [.pass]
      ∧ (orders.classify containerRows).map (·.status) = [.error] := by
  have hsorted : ∀ row ∈ containerRows, row.Sorted := by
    simp [containerRows, Dict.sorted_ofEntries]
  exact ⟨hsorted, Suite.flatten_ignoresNesting orders containerRows hsorted,
    by decide +kernel, by decide +kernel⟩

end Sample
end DataQuality
