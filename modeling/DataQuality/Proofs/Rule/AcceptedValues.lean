import DataQuality.Proofs.Rule.Missing
import DataQuality.Proofs.Sql.Tokens
import DataQuality.Proofs.Template.Pieces
import DataQuality.Rule.Builtin

/-!
The query that counts the values outside of a list. Each value of the list stays within its literal,
whatever its characters are. Main statement: `Rule.acceptedValues_listsLiterals`.
-/

namespace DataQuality

open Json (Value)
open Template (BraceFree Marked Piece Unmarked)

namespace Template

theorem unmarked_double_iff {q : Char} (hq : ¬ IsBrace q) {s : List Char} :
    Unmarked (Text.Quoted.double q s) ↔ Unmarked s := by
  have hhead (s : List Char) : (Text.Quoted.double q s).head? = s.head? := by
    cases s with
    | nil => rfl
    | cons c r =>
      unfold Text.Quoted.double
      split
      . next hc => rw [hc]; rfl
      . rfl
  induction s with
  | nil => rfl
  | cons c r ih =>
    unfold Text.Quoted.double
    split
    . next hc =>
      have hone : BraceFree [q] := by simpa [BraceFree] using hq
      have htwo : BraceFree [q, q] := by simpa [BraceFree] using hq
      have hdouble : Unmarked (q :: q :: Text.Quoted.double q r)
          ↔ Unmarked (Text.Quoted.double q r) := unmarked_append_iff_right htwo
      have hr : Unmarked (c :: r) ↔ Unmarked r := by
        rw [hc]
        exact unmarked_append_iff_right hone
      exact hdouble.trans (ih.trans hr.symm)
    . unfold Unmarked at ih ⊢
      simp only [List.isChain_cons, hhead, ih]

theorem unmarked_quoteText_iff {s : String} :
    Unmarked (Sql.quoteText s).toList ↔ Unmarked s.toList := by
  have hquote : ¬ IsBrace '\'' := by decide
  have hfree : BraceFree ['\''] := by decide
  have hquoted : (Sql.quoteText s).toList
      = ['\''] ++ Text.Quoted.double '\'' s.toList ++ ['\''] := Sql.toList_quoteText s
  rw [hquoted, unmarked_append_iff_left hfree, unmarked_append_iff_right hfree,
    unmarked_double_iff hquote]

end Template

namespace Builtin

/-- What stands before the list in the query of the rule. -/
def acceptedFront (check column : String) : String :=
  "SELECT\n    '" ++ check ++ "' AS check_name,\n    COALESCE(SUM(CASE WHEN " ++ column
    ++ " NOT IN ("

/-- What stands after the list. -/
def acceptedBack (suite : String) : String :=
  ") THEN 1 ELSE 0 END), 0) AS value\nFROM cte_" ++ suite ++ "_base"

def acceptedQuery (check suite column list : String) : String :=
  acceptedFront check column ++ list ++ acceptedBack suite

def acceptedPieces : List Piece :=
  [.text "SELECT\n    '", .slot "check_name",
   .text "' AS check_name,\n    COALESCE(SUM(CASE WHEN ", .slot "column_name", .text " NOT IN (",
   .joined "accepted_values" ", ", .text ") THEN 1 ELSE 0 END), 0) AS value\nFROM cte_",
   .slot "suite_name", .text "_base"]

theorem isRow_acceptedValues :
    Template.isRow acceptedPieces acceptedValues.template.toList = true := by
  unfold acceptedValues measure countOf slot
  simp only [String.toList_append]
  repeat rw [String.toList_ofList]
  decide +kernel

theorem freeNames_acceptedValues :
    Template.freeNames acceptedValues.template
      =
    ["accepted_values", "check_name", "column_name", "suite_name"] := by
  unfold Template.freeNames acceptedValues measure countOf slot
  simp only [String.toList_append]
  repeat rw [String.toList_ofList]
  decide +kernel

theorem unmarked_acceptedQuery_iff {check suite column list : String}
    (hcheck : BraceFree check.toList) (hsuite : BraceFree suite.toList)
    (hcolumn : BraceFree column.toList) :
    Unmarked (acceptedQuery check suite column list).toList ↔ Unmarked list.toList := by
  have hfront : BraceFree (acceptedFront check column).toList := by
    unfold acceptedFront
    simp only [String.toList_append, Template.braceFree_append_iff]
    exact ⟨⟨⟨⟨by decide, hcheck⟩, by decide⟩, hcolumn⟩, by decide⟩
  have hback : BraceFree (acceptedBack suite).toList := by
    unfold acceptedBack
    simp only [String.toList_append, Template.braceFree_append_iff]
    exact ⟨⟨by decide, hsuite⟩, by decide⟩
  unfold acceptedQuery
  rw [String.toList_append, String.toList_append, Template.unmarked_append_iff_left hback,
    Template.unmarked_append_iff_right hfront]

end Builtin

namespace Rule

/-- The parameters of a check name it, its suite and its column, and leave its list alone. -/
structure NamesColumn (extra : Dict Value) (check suite column : String) : Prop where
  sorted : extra.Sorted
  check : extra.find? "check_name" = some (.string check)
  suite : extra.find? "suite_name" = some (.string suite)
  column : extra.find? "column_name" = some (.string column)
  list : extra.find? "accepted_values" = none

/-- The literals of a list. -/
def literalList (values : List String) : String := Text.join ", " (values.map Sql.quoteText)

section

variable {values : List String} {extra : Dict Value} {check suite column : String}

theorem unmarked_literalList_iff :
    Unmarked (literalList values).toList ↔ ∀ s ∈ values, ¬ Marked s := by
  unfold literalList
  rw [Template.unmarked_join_iff (by decide) (by decide), List.forall_mem_map]
  simp only [Template.unmarked_quoteText_iff, Template.not_marked_iff]

variable (h : NamesColumn extra check suite column)

include h

theorem effective_acceptedValues :
    (acceptedValues (values.map .string)).effective extra "accepted_values"
      =
    some (.strings (values.map Sql.quoteText)) := by
  have hliterals : literals (values.map .string) = .strings (values.map Sql.quoteText) := by
    unfold literals
    rw [List.map_map]
    rfl
  unfold effective
  rw [h.list, Option.none_or, ← hliterals]
  exact Dict.find?_insert_self _ _ _

theorem renderText_acceptedValues (rule : String) :
    Template.renderText rule Builtin.acceptedValues.template
        ((acceptedValues (values.map .string)).merged extra)
      =
    .ok (Builtin.acceptedQuery check suite column (literalList values)) := by
  have hfind := find?_merged_eq_effective (r := acceptedValues (values.map .string)) h.sorted
  have hlist := (hfind _).trans (effective_acceptedValues h)
  have hjoined : Text.join (Template.Filter.separatorText ", ")
      (((values.map Sql.quoteText).map Value.string).map Template.textOf) = literalList values := by
    have hseparator : Template.Filter.separatorText ", " = ", " := by decide +kernel
    rw [hseparator, List.map_map]
    exact congrArg _ (List.map_id _)
  have htext := Template.renderText_of_isRow Builtin.isRow_acceptedValues (.cons (.text _)
    (.cons (.slot ((hfind _).trans (effective_of_given h.check))) (.cons (.text _)
    (.cons (.slot ((hfind _).trans (effective_of_given h.column))) (.cons (.text _)
    (.cons (.joined hlist ", ") (.cons (.text _)
    (.cons (.slot ((hfind _).trans (effective_of_given h.suite))) (.cons (.text _) .nil)))))))))
    rule
  rw [htext, hjoined]
  unfold Builtin.acceptedQuery Builtin.acceptedFront Builtin.acceptedBack
  simp only [Template.textOf, String.join_cons, String.join_nil, String.append_empty,
    String.append_assoc]

theorem missing_acceptedValues_eq_nil_iff :
    (acceptedValues (values.map .string)).missing
        ((acceptedValues (values.map .string)).merged extra) = []
      ↔
    values ≠ [] ∧ column ≠ "" := by
  have hrequired : (acceptedValues (values.map .string)).definition.required
      = ["column_name", "accepted_values"] := rfl
  have hcolumn : LacksContent (some (.string column)) ↔ column = "" := by
    rw [← isGiven_eq_false_iff]
    simp [isGiven]
  have hlist : LacksContent (some (.strings (values.map Sql.quoteText))) ↔ values = [] := by
    rw [← isGiven_eq_false_iff]
    simp [isGiven, Value.strings]
  rw [missing_merged_eq_nil_iff h.sorted, hrequired, List.forall_mem_cons, List.forall_mem_cons,
    effective_of_given h.column, effective_acceptedValues h, hcolumn, hlist]
  simp [and_comm]

theorem unresolved_acceptedValues :
    Template.unresolved Builtin.acceptedValues.template
      ((acceptedValues (values.map .string)).merged extra) = [] := by
  rw [Template.unresolved_eq_nil_iff, Builtin.freeNames_acceptedValues]
  simp only [absent_merged_iff h.sorted, List.forall_mem_cons, effective_acceptedValues h,
    effective_of_given h.check, effective_of_given h.column, effective_of_given h.suite]
  refine ⟨?_, ?_, ?_, ?_, by simp⟩
  all_goals
    intro hlacks
    cases hlacks

theorem render_acceptedValues_eq_ok_iff {query : String} :
    (acceptedValues (values.map .string)).render extra = .ok query
      ↔
    values ≠ [] ∧ column ≠ "" ∧ Unmarked query.toList
      ∧ query = Builtin.acceptedQuery check suite column (literalList values) := by
  have hdefinition : (acceptedValues (values.map .string)).definition = Builtin.acceptedValues :=
    rfl
  rw [render_eq_ok_iff, missing_acceptedValues_eq_nil_iff h, Template.render_eq_ok_iff,
    hdefinition, renderText_acceptedValues h, unresolved_acceptedValues h, Except.ok.injEq]
  constructor
  . rintro ⟨⟨hvalues, hcolumn⟩, _, rfl, hunmarked⟩
    exact ⟨hvalues, hcolumn, hunmarked, rfl⟩
  . rintro ⟨hvalues, hcolumn, hunmarked, rfl⟩
    exact ⟨⟨hvalues, hcolumn⟩, rfl, rfl, hunmarked⟩

end

/-- What becomes of a list of texts in the query of the rule: literals, and nothing else. -/
structure ListsLiterals (values : List String) (extra : Dict Value) (check suite column : String) :
    Prop where
  closed : ∀ query, (acceptedValues (values.map .string)).render extra = .ok query →
    ∃ list, query = Builtin.acceptedQuery check suite column list
      ∧ Sql.tokens? list.toList = some (Sql.listTokens values)
  renders : values ≠ [] → column ≠ "" → BraceFree check.toList → BraceFree suite.toList →
    BraceFree column.toList → (∀ s ∈ values, ¬ Marked s) →
      ∃ query, (acceptedValues (values.map .string)).render extra = .ok query

/-- No text breaks out of the literal that it stands in: neither the values of a list, nor a pattern
that is accepted. -/
theorem acceptedValues_listsLiterals (values : List String) (extra : Dict Value)
    (check suite column : String) (h : NamesColumn extra check suite column) :
    ListsLiterals values extra check suite column
      ∧ ∀ reader pattern text, Sql.preparePattern reader pattern = .ok text →
        Sql.tokens? ("'" ++ text ++ "'").toList = some [.literal pattern.toList] := by
  refine ⟨?_, fun reader pattern text => Sql.tokens?_preparePattern⟩
  constructor
  case closed =>
    intro query hquery
    obtain ⟨_, _, _, rfl⟩ := (render_acceptedValues_eq_ok_iff h).1 hquery
    exact ⟨literalList values, rfl, Sql.tokens?_join values⟩
  case renders =>
    intro hvalues hne hcheck hsuite hcolumn hmarked
    refine ⟨_, (render_acceptedValues_eq_ok_iff h).2 ⟨hvalues, hne, ?_, rfl⟩⟩
    rw [Builtin.unmarked_acceptedQuery_iff hcheck hsuite hcolumn, unmarked_literalList_iff]
    exact hmarked

namespace Sample

/-- A check of the column `state`. -/
def ofState : Dict Value :=
  Dict.ofEntries
    [("check_name", .string "known"), ("column_name", .string "state"),
     ("suite_name", .string "orders")]

/-- Values with a quote, with what separates two values, and without a character. -/
def awkward : List String := ["new", "it's", "', '", "", "''"]

theorem awkward_listsLiterals :
    ListsLiterals awkward ofState "known" "orders" "state"
      ∧ (∃ query, (acceptedValues (awkward.map .string)).render ofState = .ok query)
      ∧ Sql.tokens? "'^it''s$'".toList = some [.literal "^it's$".toList] := by
  have hnames : NamesColumn ofState "known" "orders" "state" :=
    ⟨by decide, by rfl, by rfl, by rfl, by rfl⟩
  obtain ⟨hlists, hpattern⟩ :=
    acceptedValues_listsLiterals awkward ofState "known" "orders" "state" hnames
  have hfree : ∀ s ∈ awkward, BraceFree s.toList := by decide
  have hmarked : ∀ s ∈ awkward, ¬ Marked s := fun s hs =>
    Template.not_marked_iff.2 (hfree s hs).unmarked
  have hrenders :=
    hlists.renders (by decide) (by decide) (by decide) (by decide) (by decide) hmarked
  exact ⟨hlists, hrenders, hpattern ⟨fun _ => none⟩ "^it's$" "^it''s$" (by rfl)⟩

end Sample

end Rule
end DataQuality
