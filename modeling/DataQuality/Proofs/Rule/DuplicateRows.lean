import DataQuality.Proofs.Rule.Missing
import DataQuality.Proofs.Template.Marks
import DataQuality.Proofs.Template.Pieces
import DataQuality.Rule.Builtin

/-!
The query that counts the rows with the same key. The key is put together from the columns of a list,
each of which is cast once. Main statement: `Rule.duplicateRows_castsColumns`.
-/

namespace DataQuality

open Json (Value)
open Template (BraceFree Marked Piece Unmarked)

namespace Builtin

/-- A column as a part of a key. -/
def keyPart (column : String) : String := "CAST(" ++ column ++ " AS STRING)"

/-- The parts of a key, with a mark between neighbours. -/
def rowKey (columns : List String) : String := Text.join ", '|', " (columns.map keyPart)

/-- The query of the rule; the key is the argument of the concatenation. -/
def duplicateQuery (check suite key : String) : String :=
  "SELECT\n    '" ++ check ++ "' AS check_name,\n    COUNT(*) - COUNT(DISTINCT CONCAT(" ++ key
    ++ ")) AS value\nFROM cte_" ++ suite ++ "_base"

def duplicatePieces : List Piece :=
  [.text "SELECT\n    '", .slot "check_name",
   .text "' AS check_name,\n    COUNT(*) - COUNT(DISTINCT CONCAT(",
   .listed "column" "column_names" "CAST(" " AS STRING)" ", '|', ",
   .text ")) AS value\nFROM cte_", .slot "suite_name", .text "_base"]

theorem isRow_duplicateRows :
    Template.isRow duplicatePieces duplicateRows.template.toList = true := by
  unfold duplicateRows measure slot
  simp only [String.toList_append]
  repeat rw [String.toList_ofList]
  decide +kernel

/-- The variable of the loop is not among the names that the template has to be given. -/
theorem freeNames_duplicateRows :
    Template.freeNames duplicateRows.template = ["check_name", "column_names", "suite_name"] := by
  unfold Template.freeNames duplicateRows measure slot
  simp only [String.toList_append]
  repeat rw [String.toList_ofList]
  decide +kernel

theorem unmarked_rowKey_iff {columns : List String} :
    Unmarked (rowKey columns).toList ↔ ∀ c ∈ columns, Unmarked c.toList := by
  have hpart (c : String) : Unmarked (keyPart c).toList ↔ Unmarked c.toList := by
    unfold keyPart
    rw [String.toList_append, String.toList_append,
      Template.unmarked_append_iff_left (t := " AS STRING)".toList) (by decide),
      Template.unmarked_append_iff_right (s := "CAST(".toList) (by decide)]
  unfold rowKey
  rw [Template.unmarked_join_iff (by decide) (by decide), List.forall_mem_map]
  simp only [hpart]

theorem unmarked_duplicateQuery_iff {check suite key : String} :
    Unmarked (duplicateQuery check suite key).toList
      ↔
    Unmarked check.toList ∧ Unmarked key.toList ∧ Unmarked suite.toList := by
  have hcheck : BraceFree "' AS check_name,\n    COUNT(*) - COUNT(DISTINCT CONCAT(".toList := by
    decide
  have hkey : BraceFree ")) AS value\nFROM cte_".toList := by decide
  unfold duplicateQuery
  simp only [String.toList_append]
  rw [Template.unmarked_append_iff_left (t := "_base".toList) (by decide),
    Template.unmarked_separated_iff (by decide) hkey,
    Template.unmarked_separated_iff (by decide) hcheck,
    Template.unmarked_append_iff_right (s := "SELECT\n    '".toList) (by decide), and_assoc]

end Builtin

namespace Rule

/-- The parameters of a check name it and its suite, and leave the columns of the rule alone. Whether
the check has a column of its own does not matter. -/
structure NamesCheck (extra : Dict Value) (check suite : String) : Prop where
  sorted : extra.Sorted
  check : extra.find? "check_name" = some (.string check)
  suite : extra.find? "suite_name" = some (.string suite)
  list : extra.find? "column_names" = none

section

variable {columns : List String} {extra : Dict Value} {check suite : String}
  (h : NamesCheck extra check suite)

include h

theorem effective_duplicateRows :
    (duplicateRows columns).effective extra "column_names" = some (.strings columns) := by
  unfold effective
  rw [h.list, Option.none_or]
  exact Dict.find?_insert_self _ _ _

theorem renderText_duplicateRows (rule : String) :
    Template.renderText rule Builtin.duplicateRows.template ((duplicateRows columns).merged extra)
      =
    .ok (Builtin.duplicateQuery check suite (Builtin.rowKey columns)) := by
  have hfind := find?_merged_eq_effective (r := duplicateRows columns) h.sorted
  have hlist := (hfind _).trans (effective_duplicateRows h)
  have htext := Template.renderText_of_isRow Builtin.isRow_duplicateRows (.cons (.text _)
    (.cons (.slot ((hfind _).trans (effective_of_given h.check))) (.cons (.text _)
    (.cons (.listed hlist _ _ _ _) (.cons (.text _)
    (.cons (.slot ((hfind _).trans (effective_of_given h.suite))) (.cons (.text _) .nil)))))))
    rule
  rw [htext, List.map_map]
  unfold Builtin.duplicateQuery Builtin.rowKey
  simp only [Template.textOf, String.join_cons, String.join_nil, String.append_empty,
    String.append_assoc]
  rfl

theorem missing_duplicateRows :
    (duplicateRows columns).missing ((duplicateRows columns).merged extra)
      =
    if columns = [] then ["column_names"] else [] := by
  have hrequired : (duplicateRows columns).definition.required = ["column_names"] := rfl
  have hlacks : LacksContent (some (.strings columns)) ↔ columns = [] := by
    rw [← isGiven_eq_false_iff]
    simp [isGiven, Value.strings]
  rw [missing_merged h.sorted, hrequired, List.filter_cons, List.filter_nil,
    effective_duplicateRows h]
  simp only [hlacks, decide_eq_true_eq]

theorem unresolved_duplicateRows :
    Template.unresolved Builtin.duplicateRows.template ((duplicateRows columns).merged extra)
      =
    [] := by
  rw [Template.unresolved_eq_nil_iff, Builtin.freeNames_duplicateRows]
  simp only [absent_merged_iff h.sorted, List.forall_mem_cons, effective_duplicateRows h,
    effective_of_given h.check, effective_of_given h.suite]
  refine ⟨?_, ?_, ?_, by simp⟩
  all_goals
    intro hlacks
    cases hlacks

end

/-- What becomes of a list of columns in the query of the rule. -/
structure CastsColumns (columns : List String) (extra : Dict Value) (check suite : String) :
    Prop where
  renders : columns ≠ [] → ¬ Marked check → ¬ Marked suite → (∀ c ∈ columns, ¬ Marked c) →
    (duplicateRows columns).render extra
      =
    .ok (Builtin.duplicateQuery check suite (Builtin.rowKey columns))
  refuses : columns = [] →
    (duplicateRows columns).render extra
      =
    .error (.missingParameter "duplicate_rows" ["column_names"])

theorem duplicateRows_castsColumns (columns : List String) (extra : Dict Value)
    (check suite : String) (h : NamesCheck extra check suite) :
    CastsColumns columns extra check suite := by
  have hmissing : (duplicateRows columns).missing ((duplicateRows columns).merged extra)
      = if columns = [] then ["column_names"] else [] := missing_duplicateRows h
  constructor
  case renders =>
    intro hcolumns hcheck hsuite hmarked
    rw [if_neg hcolumns] at hmissing
    have hdefinition : (duplicateRows columns).definition = Builtin.duplicateRows := rfl
    rw [render_eq_ok_iff, Template.render_eq_ok_iff, hdefinition]
    refine ⟨hmissing, unresolved_duplicateRows h, renderText_duplicateRows h _, ?_⟩
    rw [Builtin.unmarked_duplicateQuery_iff, Builtin.unmarked_rowKey_iff]
    simp only [← Template.not_marked_iff]
    exact ⟨hcheck, hmarked, hsuite⟩
  case refuses =>
    intro hcolumns
    rw [if_pos hcolumns] at hmissing
    rw [render_of_missing (by rw [hmissing]; exact List.cons_ne_nil _ _), hmissing]
    rfl

namespace Sample

/-- A check without a column of its own. -/
def withoutColumn : Dict Value :=
  Dict.ofEntries
    [("check_name", .string "same"), ("column_name", .null), ("suite_name", .string "orders")]

/-- Columns with a single brace and with what separates two columns, and one that is empty. -/
def spread : List String := ["id", "a\x7bb", ", '|', ", ""]

theorem spread_castsColumns :
    (duplicateRows spread).render withoutColumn
        = .ok (Builtin.duplicateQuery "same" "orders" (Builtin.rowKey spread))
      ∧ (duplicateRows []).render withoutColumn
        = .error (.missingParameter "duplicate_rows" ["column_names"]) := by
  have hnames : NamesCheck withoutColumn "same" "orders" := ⟨by decide, by rfl, by rfl, by rfl⟩
  have hmarked : ∀ c ∈ spread, ¬ Marked c := by
    simp only [Template.not_marked_iff]
    unfold Unmarked
    decide
  have hplain {s : String} (hs : BraceFree s.toList) : ¬ Marked s :=
    Template.not_marked_iff.2 hs.unmarked
  have hspread := duplicateRows_castsColumns spread withoutColumn "same" "orders" hnames
  have hempty := duplicateRows_castsColumns [] withoutColumn "same" "orders" hnames
  exact ⟨hspread.renders (by decide) (hplain (by decide)) (hplain (by decide)) hmarked,
    hempty.refuses rfl⟩

end Sample

end Rule
end DataQuality
