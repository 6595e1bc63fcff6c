import DataQuality.Proofs.Run.Stages
import DataQuality.Proofs.Suite.Classification
import DataQuality.Rule.Builtin

/-!
What a successful run says about the checks of its suite. Every result that a successful report
holds is a pass, but a check that no row names has no result, and a report without results is a
success.
-/

namespace DataQuality

/-- Every check has a result, and no result but passes. -/
def Suite.Covered (s : Suite) (results : List CheckResult) : Prop :=
  ∀ c ∈ s.checks, (∃ x ∈ results, x.checkName = c.name)
    ∧ ∀ x ∈ results, x.checkName = c.name → x.status = .pass

theorem RunReport.status_of_isSuccess {report : RunReport} (h : report.isSuccess = true)
    {x : CheckResult} (hx : x ∈ report.results) : x.status = .pass := by
  unfold isSuccess at h
  rw [Bool.and_eq_true, List.all_eq_true] at h
  have hpass := h.2 x hx
  unfold CheckResult.isPass at hpass
  simpa using hpass

theorem Suite.exists_result_iff (s : Suite) (rows : List Row) {c : Check} (hc : c ∈ s.checks) :
    (∃ x ∈ s.classify rows, x.checkName = c.name)
      ↔
    ∃ row ∈ rows, row.checkName? = some c.name := by
  constructor
  . rintro ⟨x, hx, hname⟩
    obtain ⟨row, hrow, c', _, hrowName, rfl⟩ := s.mem_classify_iff.1 hx
    rw [Check.checkName_result] at hname
    rw [hname] at hrowName
    exact ⟨row, hrow, hrowName⟩
  . rintro ⟨row, hrow, hname⟩
    refine ⟨c.result row.value?, ?_, c.checkName_result _⟩
    rw [s.mem_classify_iff]
    exact ⟨row, hrow, c, hc, hname, rfl⟩

namespace Runner

theorem covered_iff (r : Runner) (engine : Engine) (clock : Clock) (files : Storage.Tree)
    (s : Suite) (o : RunOptions) (report : RunReport)
    (hrun : (r.run engine clock files s o).outcome = .ok report)
    (hstatus : report.metadata.status = .success) (hsuccess : report.isSuccess = true) :
    s.Covered report.results
      ↔
    ∃ output, engine.execute report.sql = .ok output
      ∧ ∀ c ∈ s.checks, ∃ row ∈ output.classified o.flattenRows,
        row.find? "check_name" = some (.string c.name) := by
  have ⟨output, houtput, hresults⟩ := results_of_success hrun hstatus
  have hpass := fun x hx => RunReport.status_of_isSuccess hsuccess (x := x) hx
  simp only [← Row.checkName?_eq_some_iff]
  constructor
  . intro hcovered
    refine ⟨output, houtput, ?_⟩
    intro c hc
    rw [← s.exists_result_iff _ hc, ← hresults]
    exact (hcovered c hc).1
  . rintro ⟨output', houtput', hrows⟩ c hc
    rw [houtput, Except.ok.injEq] at houtput'
    subst houtput'
    constructor
    . rw [hresults, s.exists_result_iff _ hc]
      exact hrows c hc
    . intro x hx _
      exact hpass x hx

end Runner

namespace Sample

def orders : Suite where
  name := "orders"
  domain := none
  owner := none
  source := .ofTable "shop.orders"
  params := .empty
  checks := [{ Check.named "a" with rule := some (.ofDefinition Builtin.rowCount) }]
  tags := .empty
  valid := by decide +kernel

def engine (rows : List Row) : Engine where
  name := "engine"
  dryRun := fun _ => .ok ⟨none, none, none⟩
  execute := fun _ => .ok ⟨rows, ⟨none, none, none⟩⟩

def runner : Runner := ⟨.backtick, none, .standard⟩

theorem exists_report (rows : List Row) :
    ∃ report,
      (runner.run (engine rows) ⟨default, default⟩ ⟨[]⟩ orders .standard).outcome = .ok report
      ∧ report.metadata.status = .success ∧ report.results = orders.classify rows := by
  have hcompiles : (orders.compile runner.quote).outcome.isOk = true := by decide +kernel
  cases hsql : (orders.compile runner.quote).outcome with
  | error e =>
    rw [hsql] at hcompiles
    cases hcompiles
  | ok sql =>
    have hrun := Runner.run_outcome hsql (engine rows) ⟨default, default⟩ ⟨[]⟩ .standard
    have hstatus := RunReport.status_ofAnswers orders .standard ⟨default, default⟩ sql
      (.ofEngine (engine rows) .standard sql)
    have ⟨output, houtput, hresults⟩ := Runner.results_of_success hrun hstatus
    cases houtput
    exact ⟨_, hrun, hstatus, hresults⟩

theorem covered_by_row :
    ∃ report : RunReport,
      (runner.run (engine [[("check_name", .string "a"), ("value", .nat 150)]])
        ⟨default, default⟩ ⟨[]⟩ orders .standard).outcome = .ok report
      ∧ report.metadata.status = .success ∧ report.isSuccess = true
      ∧ orders.Covered report.results := by
  have ⟨report, hrun, hstatus, hresults⟩ :=
    exists_report [[("check_name", .string "a"), ("value", .nat 150)]]
  have hpass : (orders.classify [[("check_name", .string "a"), ("value", .nat 150)]]).all
      CheckResult.isPass = true := by decide +kernel
  have hsuccess : report.isSuccess = true := by
    unfold RunReport.isSuccess
    rw [hstatus, hresults, hpass]
    rfl
  refine ⟨report, hrun, hstatus, hsuccess, ?_⟩
  rw [Runner.covered_iff runner _ _ _ orders .standard report hrun hstatus hsuccess]
  refine ⟨_, rfl, ?_⟩
  intro c hc
  rw [List.mem_singleton.1 hc]
  exact ⟨_, List.mem_singleton_self _, rfl⟩

theorem not_covered_by_no_rows :
    ¬ ∀ (r : Runner) (engine : Engine) (clock : Clock) (files : Storage.Tree) (s : Suite)
        (o : RunOptions) (report : RunReport),
      (r.run engine clock files s o).outcome = .ok report →
      report.metadata.status = .success → report.isSuccess = true → s.Covered report.results := by
  intro h
  have ⟨report, hrun, hstatus, hresults⟩ := exists_report []
  have hsuccess : report.isSuccess = true := by
    unfold RunReport.isSuccess
    rw [hstatus, hresults]
    rfl
  have hcovered := h runner _ _ _ orders .standard report hrun hstatus hsuccess
  have ⟨⟨x, hx, _⟩, _⟩ := hcovered _ List.mem_cons_self
  rw [hresults] at hx
  cases hx

end Sample
end DataQuality
