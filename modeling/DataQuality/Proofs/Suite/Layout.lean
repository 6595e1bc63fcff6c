import DataQuality.Proofs.Outcome
import DataQuality.Proofs.Suite.Validity
import DataQuality.Proofs.Text.Words
import DataQuality.Suite.Statement

/-!
The layout of the statement of a suite. What a check contributes to a statement is a function of the
check and of the name of the suite alone, and the statement of every suite is laid out around these
contributions, as `Suite.LaidOut` says.
-/

namespace DataQuality

open Sql (TableQuote)

/-- What a check contributes to a statement: a line of comment and a query. -/
structure SubQuery where
  comment : String
  query : String

def SubQuery.text (q : SubQuery) (name : String) : String :=
  q.comment ++ "cte_" ++ name ++ " AS (\n" ++ q.query ++ "\n)"

namespace Check

def subQuery (c : Check) (suite : String) : Except Error SubQuery :=
  (c.fragment suite).map (⟨c.comment, ·⟩)

theorem subQuery_eq_ok_iff {c : Check} {suite : String} {q : SubQuery} :
    c.subQuery suite = .ok q ↔ c.fragment suite = .ok q.query ∧ c.comment = q.comment := by
  unfold subQuery
  cases c.fragment suite with
  | error e => simp [Except.map]
  | ok f => cases q; simp [Except.map, and_comm]

theorem block_eq (c : Check) (suite : String) :
    c.block suite = (c.subQuery suite).map fun q => ",\n" ++ q.text c.name := by
  unfold block subQuery SubQuery.text
  cases c.fragment suite with
  | error e => rfl
  | ok f => simp [bind, Except.bind, pure, Except.pure, Except.map, String.append_assoc]

end Check

namespace Suite

theorem compile_outcome (s : Suite) (quote : TableQuote) :
    (s.compile quote).outcome = s.statement quote := by
  unfold compile
  cases s.statement quote with
  | error e => rfl
  | ok sql => rfl

theorem statement_of_no_checks {s : Suite} (h : s.checks = []) (quote : TableQuote) :
    s.statement quote = .error (.invalidSuite s.name "suite has no checks") := by
  unfold statement
  rw [h]
  rfl

theorem statement_of_checks {s : Suite} (h : s.checks ≠ []) (quote : TableQuote) :
    s.statement quote
      =
    (s.source.fragment s.name s.params quote >>= fun base =>
      s.checks.mapM (·.block s.name) >>= fun blocks =>
        .ok (s.baseBlock base ++ Text.join "" blocks ++ "\n"
          ++ Text.join "\nUNION ALL\n" (s.checks.map Check.selection) ++ "\n")) := by
  unfold statement
  have : s.checks.isEmpty = false := by simpa using h
  rw [this]
  rfl

/-- The text of a statement around its base and the contributions of its checks. -/
def laidOut (s : Suite) (base : String) (parts : List SubQuery) : String :=
  "-- Base CTE (data source: " ++ s.source.kind.text ++ ")\n"
    ++ "WITH cte_" ++ s.name ++ "_base AS (\n" ++ base ++ "\n)"
    ++ String.join (List.zipWith (fun c q => ",\n" ++ q.text c.name) s.checks parts)
    ++ "\n" ++ "\nUNION ALL\n".intercalate (s.checks.map fun c => "SELECT * FROM cte_" ++ c.name)
    ++ "\n"

theorem text_eq_laidOut (s : Suite) (base : String) (parts : List SubQuery) :
    s.baseBlock base
        ++ Text.join "" (List.zipWith (fun c q => ",\n" ++ q.text c.name) s.checks parts) ++ "\n"
        ++ Text.join "\nUNION ALL\n" (s.checks.map Check.selection) ++ "\n"
      =
    s.laidOut base parts := by
  have hline : ")\nWITH cte_" = ")\n" ++ "WITH cte_" := by decide
  have hselection : Check.selection = fun c => "SELECT * FROM cte_" ++ c.name := rfl
  unfold laidOut baseBlock
  rw [Text.join_empty_eq_join, Text.join_eq_intercalate, hline, hselection]
  simp only [String.append_assoc]

theorem mapM_block_eq_ok_iff {checks : List Check} {suite : String} {blocks : List String} :
    checks.mapM (·.block suite) = .ok blocks
      ↔
    ∃ parts, List.Forall₂ (fun c q => c.subQuery suite = .ok q) checks parts
      ∧ blocks = List.zipWith (fun c q => ",\n" ++ q.text c.name) checks parts := by
  rw [Outcome.mapM_eq_ok_iff]
  constructor
  . intro h
    induction h with
    | nil => exact ⟨[], .nil, rfl⟩
    | cons hblock _ ih =>
      obtain ⟨parts, hparts, rfl⟩ := ih
      rw [Check.block_eq] at hblock
      obtain ⟨q, hq, rfl⟩ := Outcome.map_eq_ok_iff.1 hblock
      refine ⟨q :: parts, .cons hq hparts, ?_⟩
      rw [List.zipWith_cons_cons]
  . rintro ⟨parts, hparts, rfl⟩
    induction hparts with
    | nil => exact .nil
    | cons hq _ ih =>
      refine .cons ?_ ih
      rw [Check.block_eq, hq]
      rfl

theorem mapM_block_eq_error_iff {checks : List Check} {suite : String} {e : Error} :
    checks.mapM (·.block suite) = .error e
      ↔
    ∃ before c after, checks = before ++ c :: after
      ∧ (∀ b ∈ before, ∃ q, b.subQuery suite = .ok q) ∧ c.subQuery suite = .error e := by
  have hok (c : Check) : (∃ text, c.block suite = .ok text) ↔ ∃ q, c.subQuery suite = .ok q := by
    rw [Check.block_eq]
    cases c.subQuery suite <;> simp [Except.map]
  have herror (c : Check) : c.block suite = .error e ↔ c.subQuery suite = .error e := by
    rw [Check.block_eq, Outcome.map_eq_error_iff]
  rw [Outcome.mapM_eq_error_iff]
  simp only [hok, herror]

theorem compile_eq_ok_iff {s : Suite} {quote : TableQuote} {sql : String} :
    (s.compile quote).outcome = .ok sql
      ↔
    s.checks ≠ [] ∧ ∃ base parts, s.source.fragment s.name s.params quote = .ok base
      ∧ List.Forall₂ (fun c q => c.subQuery s.name = .ok q) s.checks parts
      ∧ sql = s.laidOut base parts := by
  rw [compile_outcome]
  by_cases hchecks : s.checks = []
  . rw [statement_of_no_checks hchecks]
    simp [hchecks]
  . rw [statement_of_checks hchecks]
    simp only [Outcome.bind_eq_ok_iff, mapM_block_eq_ok_iff, Except.ok.injEq]
    constructor
    . rintro ⟨base, hbase, blocks, ⟨parts, hparts, rfl⟩, rfl⟩
      exact ⟨hchecks, base, parts, hbase, hparts, text_eq_laidOut s base parts⟩
    . rintro ⟨_, base, parts, hbase, hparts, rfl⟩
      exact ⟨base, hbase, _, ⟨parts, hparts, rfl⟩, text_eq_laidOut s base parts⟩

theorem compile_eq_error_iff {s : Suite} {quote : TableQuote} {e : Error} :
    (s.compile quote).outcome = .error e
      ↔
    (s.checks = [] ∧ e = .invalidSuite s.name "suite has no checks")
      ∨ (s.checks ≠ [] ∧ s.source.fragment s.name s.params quote = .error e)
      ∨ ∃ base before c after, s.source.fragment s.name s.params quote = .ok base
        ∧ s.checks = before ++ c :: after ∧ (∀ b ∈ before, ∃ q, b.subQuery s.name = .ok q)
        ∧ c.subQuery s.name = .error e := by
  rw [compile_outcome]
  by_cases hchecks : s.checks = []
  . rw [statement_of_no_checks hchecks]
    simp [hchecks, eq_comm]
  . rw [statement_of_checks hchecks]
    simp only [Outcome.bind_eq_error_iff, mapM_block_eq_error_iff, reduceCtorEq, and_false,
      exists_false, or_false, hchecks, false_and, false_or, ne_eq, not_false_eq_true, true_and,
      exists_and_left]

theorem exists_part_of_mem {α β : Type} {R : α → β → Prop} {xs : List α} {ys : List β}
    (h : List.Forall₂ R xs ys) (f : α → β → String) {x : α} (hx : x ∈ xs) :
    ∃ before y after, R x y ∧ String.join (List.zipWith f xs ys) = before ++ f x y ++ after := by
  induction h with
  | nil => cases hx
  | @cons x' y' xs ys hhead _ ih =>
    rw [List.zipWith_cons_cons, String.join_cons]
    cases hx with
    | head => exact ⟨"", y', String.join (List.zipWith f xs ys), hhead, by simp⟩
    | tail _ hx =>
      obtain ⟨before, y, after, hy, hjoin⟩ := ih hx
      refine ⟨f x' y' ++ before, y, after, hy, ?_⟩
      rw [hjoin]
      simp only [String.append_assoc]

theorem exists_query_of_compile {s : Suite} {quote : TableQuote} {sql : String}
    (h : (s.compile quote).outcome = .ok sql) {c : Check} (hc : c ∈ s.checks) :
    ∃ before query after, c.fragment s.name = .ok query ∧ sql = before ++ query ++ after := by
  obtain ⟨_, base, parts, _, hparts, rfl⟩ := compile_eq_ok_iff.1 h
  obtain ⟨before, q, after, hq, hjoin⟩ :=
    exists_part_of_mem hparts (fun c q => ",\n" ++ q.text c.name) hc
  rw [Check.subQuery_eq_ok_iff] at hq
  -- The base and the parts of the checks before stand before the query, the other parts and the
  -- union after it.
  refine ⟨"-- Base CTE (data source: " ++ s.source.kind.text ++ ")\nWITH cte_" ++ s.name
    ++ "_base AS (\n" ++ base ++ "\n)" ++ before ++ ",\n" ++ q.comment ++ "cte_" ++ c.name
    ++ " AS (\n", q.query, "\n)" ++ after ++ "\n"
    ++ "\nUNION ALL\n".intercalate (s.checks.map fun c => "SELECT * FROM cte_" ++ c.name)
    ++ "\n", hq.1, ?_⟩
  have hline : ")\nWITH cte_" = ")\n" ++ "WITH cte_" := by decide
  unfold laidOut SubQuery.text at *
  rw [hjoin, hline]
  simp only [String.append_assoc]

end Suite
end DataQuality
