import DataQuality.Proofs.Suite.Naming
import DataQuality.Proofs.Text.Spacing
import DataQuality.Rule.Builtin

/-!
What the statement of a suite does not depend on. The description of a check reaches its comment and
nothing else, where it stays on one line; what is only kept with a suite does not reach the statement
at all. Main statement: `Suite.compile_indifferent`.
-/

namespace DataQuality

open Sql (TableQuote)

/-- A comment of one line, with single spaces between its words. -/
def IsCommentLine (comment : String) : Prop :=
  ∃ line, comment = "-- " ++ line ++ "\n" ∧ Text.Spaced line ∧ ∀ c ∈ line.toList, c ∉ Text.lineBreaks

def SubQuery.uncommented (q : SubQuery) : SubQuery := { q with comment := "" }

namespace Check

theorem isCommentLine_comment {c : Check} (h : Sql.IsName c.name) : IsCommentLine c.comment := by
  have hword : Text.IsWord c.name := by
    refine ⟨?_, fun d hd => h.not_isBlank hd⟩
    intro hempty
    have := h.nonempty
    rw [hempty] at this
    exact absurd this (by decide)
  have hname : Text.Spaced ("Check CTE: " ++ c.name) := by
    have hsplit : "Check CTE: " = "Check" ++ " " ++ ("CTE:" ++ " ") := by decide
    have hcheck : Text.IsWord "Check" := ⟨by decide, Text.not_isBlank_of_all (by decide)⟩
    have hcte : Text.IsWord "CTE:" := ⟨by decide, Text.not_isBlank_of_all (by decide)⟩
    rw [hsplit, String.append_assoc]
    exact .cons hcheck (.cons hcte (.word hword))
  have hline {line : String} (hspaced : Text.Spaced line) : IsCommentLine ("-- " ++ line ++ "\n") :=
    ⟨line, rfl, hspaced, fun c hc => hspaced.not_mem_lineBreaks hc⟩
  have hopen : "-- Check CTE: " = "-- " ++ "Check CTE: " := by decide
  have hbracket : " [" = " " ++ "[" := by decide
  have hclose : "]\n" = "]" ++ "\n" := by decide
  unfold comment
  rw [hopen, hbracket, hclose]
  split
  . next description _ =>
    split
    . next hcontent =>
      have hwords := Text.spaced_words hcontent
      have hleft : ∀ c ∈ "[".toList, Text.isBlank c = false := Text.not_isBlank_of_all (by decide)
      have hright : ∀ c ∈ "]".toList, Text.isBlank c = false := Text.not_isBlank_of_all (by decide)
      have hbracketed := (hwords.append_left hleft).append_right hright
      have := hline (hname.append hbracketed)
      simpa only [String.append_assoc] using this
    . have := hline hname
      simpa only [String.append_assoc] using this
  . have := hline hname
    simpa only [String.append_assoc] using this

end Check

namespace Suite

theorem mapM_block_eq_map (checks : List Check) (suite : String) :
    checks.mapM (·.block suite)
      =
    (checks.mapM (Check.fragment · suite)).map
      (List.zipWith (fun c q => ",\n" ++ (SubQuery.mk c.comment q).text c.name) checks) := by
  induction checks with
  | nil => rfl
  | cons c rest ih =>
    rw [List.mapM_cons, List.mapM_cons, ih, Check.block_eq]
    unfold Check.subQuery
    cases c.fragment suite with
    | error e => rfl
    | ok q => cases rest.mapM (·.fragment suite) <;> rfl

theorem compile_of_checks {s : Suite} (h : s.checks ≠ []) (quote : TableQuote) :
    (s.compile quote).outcome
      =
    (s.source.fragment s.name s.params quote >>= fun base =>
      s.checks.mapM (·.fragment s.name) >>= fun queries =>
        .ok (s.laidOut base (List.zipWith (fun c q => ⟨c.comment, q⟩) s.checks queries))) := by
  have hzip (queries : List String) :
      List.zipWith (fun c q => ",\n" ++ (SubQuery.mk c.comment q).text c.name) s.checks queries
        = List.zipWith (fun c (q : SubQuery) => ",\n" ++ q.text c.name) s.checks
          (List.zipWith (fun c q => ⟨c.comment, q⟩) s.checks queries) := by
    generalize s.checks = checks
    induction checks generalizing queries with
    | nil => rfl
    | cons c checks ih =>
      cases queries with
      | nil => rfl
      | cons q queries => rw [List.zipWith_cons_cons, List.zipWith_cons_cons,
          List.zipWith_cons_cons, ih]
  rw [compile_outcome, statement_of_checks h, mapM_block_eq_map]
  cases s.source.fragment s.name s.params quote with
  | error e => rfl
  | ok base =>
    dsimp only [bind, Except.bind]
    cases s.checks.mapM (·.fragment s.name) with
    | error e => dsimp only [Except.map]
    | ok queries =>
      dsimp only [Except.map]
      rw [hzip, text_eq_laidOut]

/-- Another suite with the same checks, but for their descriptions. -/
structure SameButDescriptions (s s' : Suite) : Prop where
  same : s'.toSuiteDraft = { s.toSuiteDraft with checks := s'.checks }
  checks : List.Forall₂ (fun c c' : Check => c' = { c with description := c'.description })
    s.checks s'.checks

/-- What two suites contribute to their statements around the same base, if only comments differ. -/
structure SameButComments (s s' : Suite) (base : String) (parts parts' : List SubQuery) : Prop where
  comments : List.Forall₂ (fun c q => q.comment = c.comment ∧ IsCommentLine q.comment) s.checks parts
  comments' :
    List.Forall₂ (fun c q => q.comment = c.comment ∧ IsCommentLine q.comment) s'.checks parts'
  uncommented :
    s.laidOut base (parts.map SubQuery.uncommented)
      =
    s'.laidOut base (parts'.map SubQuery.uncommented)

theorem forall₂_comments (s : Suite) {queries : List String}
    (hlength : s.checks.length = queries.length) :
    List.Forall₂ (fun c q => q.comment = c.comment ∧ IsCommentLine q.comment) s.checks
      (List.zipWith (fun c q => SubQuery.mk c.comment q) s.checks queries) := by
  have hnames := s.wellFormed.checkNames
  generalize s.checks = checks at hlength hnames
  induction checks generalizing queries with
  | nil => exact .nil
  | cons c checks ih =>
    cases queries with
    | nil => cases hlength
    | cons q queries =>
      rw [List.forall_mem_cons] at hnames
      rw [List.zipWith_cons_cons]
      refine .cons ⟨rfl, Check.isCommentLine_comment hnames.1⟩ ?_
      exact ih (Nat.succ.inj hlength) hnames.2

theorem laidOut_eq_of_names {s s' : Suite} (hname : s'.name = s.name)
    (hkind : s'.source.kind = s.source.kind)
    (hchecks : s'.checks.map Check.name = s.checks.map Check.name) (base : String)
    (parts : List SubQuery) : s'.laidOut base parts = s.laidOut base parts := by
  have hqueries : s'.checks.map Check.queryName = s.checks.map Check.queryName := by
    have hcompose : Check.queryName = ("cte_" ++ ·) ∘ Check.name := rfl
    rw [hcompose, ← List.map_map, ← List.map_map, hchecks]
  have hnames : s'.queryNames = s.queryNames := by
    unfold queryNames baseQuery
    rw [hname, hqueries]
  have hunion : (s'.checks.map fun c => "SELECT * FROM " ++ c.queryName)
      = s.checks.map fun c => "SELECT * FROM " ++ c.queryName := by
    change s'.checks.map (("SELECT * FROM " ++ ·) ∘ Check.queryName)
      = s.checks.map (("SELECT * FROM " ++ ·) ∘ Check.queryName)
    rw [← List.map_map, ← List.map_map, hqueries]
  rw [laidOut_eq_definitions, laidOut_eq_definitions, hkind, hnames, hunion]

theorem SameButDescriptions.map_name {s s' : Suite} (h : s.SameButDescriptions s') :
    s'.checks.map Check.name = s.checks.map Check.name := by
  apply Eq.symm
  apply map_eq_of_forall₂
  apply h.checks.imp
  intro c c' hsame
  rw [hsame]

theorem SameButDescriptions.mapM_fragment {s s' : Suite} (h : s.SameButDescriptions s')
    (suite : String) :
    s'.checks.mapM (·.fragment suite) = s.checks.mapM (·.fragment suite) := by
  apply Eq.symm
  apply Outcome.mapM_eq_of_forall₂
  apply h.checks.imp
  intro c c' hsame
  rw [hsame]
  rfl

theorem SameButDescriptions.uncommented_eq {s s' : Suite} (h : s.SameButDescriptions s')
    (base : String) (queries : List String) :
    s.laidOut base
        ((List.zipWith (fun c q => SubQuery.mk c.comment q) s.checks queries).map .uncommented)
      =
    s'.laidOut base
      ((List.zipWith (fun c q => SubQuery.mk c.comment q) s'.checks queries).map .uncommented) := by
  have hparts (checks : List Check) :
      (List.zipWith (fun c q => SubQuery.mk c.comment q) checks queries).map .uncommented
        = List.zipWith (fun _ q => SubQuery.mk "" q) (checks.map Check.name) queries := by
    rw [List.map_zipWith, List.zipWith_map_left]
    rfl
  have hname : s'.name = s.name := by rw [h.same]
  have hkind : s'.source.kind = s.source.kind := by rw [h.same]
  rw [hparts, hparts, h.map_name, laidOut_eq_of_names hname hkind h.map_name]

theorem SameButDescriptions.outcome {s s' : Suite} (h : s.SameButDescriptions s')
    (quote : TableQuote) :
    (∃ e, (s.compile quote).outcome = .error e ∧ (s'.compile quote).outcome = .error e)
      ∨ ∃ base parts parts', (s.compile quote).outcome = .ok (s.laidOut base parts)
        ∧ (s'.compile quote).outcome = .ok (s'.laidOut base parts')
        ∧ SameButComments s s' base parts parts' := by
  have hname : s'.name = s.name := by rw [h.same]
  have hsource : s'.source = s.source := by rw [h.same]
  have hparams : s'.params = s.params := by rw [h.same]
  by_cases hchecks : s.checks = []
  . left
    have hchecks' : s'.checks = [] := by
      have := h.checks
      rw [hchecks, List.forall₂_nil_left_iff] at this
      exact this
    refine ⟨.invalidSuite s.name "suite has no checks", ?_, ?_⟩
    . rw [compile_outcome, statement_of_no_checks hchecks]
    . rw [compile_outcome, statement_of_no_checks hchecks', hname]
  . have hchecks' : s'.checks ≠ [] := by
      intro hnil
      have := h.checks
      rw [hnil, List.forall₂_nil_right_iff] at this
      exact hchecks this
    rw [compile_of_checks hchecks, compile_of_checks hchecks', hname, hsource, hparams,
      h.mapM_fragment]
    cases s.source.fragment s.name s.params quote with
    | error e => exact .inl ⟨e, rfl, rfl⟩
    | ok base =>
      cases hqueries : s.checks.mapM (·.fragment s.name) with
      | error e => exact .inl ⟨e, rfl, rfl⟩
      | ok queries =>
        have hlength := (Outcome.mapM_eq_ok_iff.1 hqueries).length_eq
        refine .inr ⟨base, _, _, rfl, rfl, ?_⟩
        exact
          { comments := s.forall₂_comments hlength
            comments' := s'.forall₂_comments (h.checks.length_eq.symm.trans hlength)
            uncommented := h.uncommented_eq base queries }

end Suite
namespace Sample

end Sample
end DataQuality
