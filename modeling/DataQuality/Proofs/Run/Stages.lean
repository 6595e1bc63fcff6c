import DataQuality.Proofs.Run.Record

/-!
The stages of a run. `Answers.Course` lists the ways in which the engine can take part in a run, and
the calls, the status and the rows of a run are read off the course that it takes. A suite that does
not compile reaches neither the engine nor the exporter, and every other run goes through its stages
as `Runner.Staged` says.
-/

namespace DataQuality

/-- Two engines give the same answer to a call. -/
def EngineCall.Alike (a b : Engine) : EngineCall → Prop
  | .dryRun sql => a.dryRun sql = b.dryRun sql
  | .execute sql => a.execute sql = b.execute sql

namespace Answers

theorem status_eq_success_iff (a : Answers) :
    a.status = .success ↔ ∃ output, a.execution = some (.ok output) := by
  unfold status
  split <;> simp_all

theorem status_eq_failed_iff (a : Answers) :
    a.status = .failed ↔ ∃ e, a.execution = some (.error e) := by
  unfold status
  split <;> simp_all

theorem status_eq_validationSuccess_iff (a : Answers) :
    a.status = .validationSuccess
      ↔
    a.execution = none ∧ ∃ stats, a.validation = some (.ok stats) := by
  unfold status
  split <;> simp_all

theorem status_eq_validationFailed_iff (a : Answers) :
    a.status = .validationFailed
      ↔
    a.execution = none ∧ ∃ e, a.validation = some (.error e) := by
  unfold status
  split <;> simp_all

theorem status_eq_unknown_iff (a : Answers) :
    a.status = .unknown ↔ a.execution = none ∧ a.validation = none := by
  unfold status
  split <;> simp_all

/-- How an engine takes part in the run of a statement. -/
inductive Course (engine : Engine) (o : RunOptions) (sql : String) : Answers → Prop
  | rejected (e : Error) (asked : o.dryRun = true) (answer : engine.dryRun sql = .error e) :
      Course engine o sql ⟨some (.error e), none⟩
  | validated (stats : JobStats) (last : o.validateOnly = true)
      (answer : engine.dryRun sql = .ok stats) :
      Course engine o sql ⟨some (.ok stats), none⟩
  | cleared (stats : JobStats) (goesOn : o.validateOnly = false) (asked : o.validateFirst = true)
      (answer : engine.dryRun sql = .ok stats) :
      Course engine o sql ⟨some (.ok stats), some (engine.execute sql)⟩
  | unchecked (goesOn : o.validateOnly = false) (skipped : o.validateFirst = false) :
      Course engine o sql ⟨none, some (engine.execute sql)⟩

theorem course_ofEngine (engine : Engine) (o : RunOptions) (sql : String) :
    Course engine o sql (ofEngine engine o sql) := by
  unfold ofEngine
  split
  . next hasked =>
    cases hanswer : engine.dryRun sql with
    | error e =>
      simp only [Except.isOk, Except.toBool, Bool.not_false, Bool.or_true, if_true]
      exact .rejected e hasked hanswer
    | ok stats =>
      simp only [Except.isOk, Except.toBool, Bool.not_true, Bool.or_false]
      split
      . next hlast => exact .validated stats hlast hanswer
      . next hlast =>
        simp only [Bool.not_eq_true] at hlast
        have hfirst : o.validateFirst = true := by
          simpa [RunOptions.dryRun, hlast] using hasked
        exact .cleared stats hlast hfirst hanswer
  . next hasked =>
    simp only [RunOptions.dryRun, Bool.or_eq_true, not_or, Bool.not_eq_true] at hasked
    exact .unchecked hasked.2 hasked.1

/-- Whether a statement is executed: it is not only to be validated, and its dry run was left out
or went well. -/
def goesAhead (engine : Engine) (o : RunOptions) (sql : String) : Bool :=
  !o.validateOnly && (!o.validateFirst || (engine.dryRun sql).isOk)

namespace Course

variable {engine : Engine} {o : RunOptions} {sql : String} {a : Answers}

theorem calls_eq (h : Course engine o sql a) :
    a.calls sql
      =
    (if o.validateFirst || o.validateOnly then [.dryRun sql] else [])
      ++ (if goesAhead engine o sql then [.execute sql] else []) := by
  unfold goesAhead
  cases h with
  | rejected e asked answer =>
    simp only [RunOptions.dryRun, Bool.or_eq_true] at asked
    -- An option that asks for a dry run also lets its failure count.
    rcases asked with h | h
    . simp [calls, answer, h, Except.isOk, Except.toBool]
    . simp [calls, h]
  | validated stats last answer => simp [calls, last]
  | cleared stats goesOn asked answer =>
    simp [calls, goesOn, asked, answer, Except.isOk, Except.toBool]
  | unchecked goesOn skipped => simp [calls, goesOn, skipped]

theorem mem_dryRun (h : Course engine o sql a) :
    EngineCall.dryRun sql ∈ a.calls sql ↔ a.validation = some (engine.dryRun sql) := by
  cases h <;> simp_all [calls]

theorem mem_execute (h : Course engine o sql a) :
    EngineCall.execute sql ∈ a.calls sql ↔ a.execution = some (engine.execute sql) := by
  cases h <;> simp_all [calls]

theorem eq_ofEngine (h : Course engine o sql a) : a = ofEngine engine o sql := by
  unfold ofEngine
  cases h with
  | rejected e asked answer => simp [asked, answer, Except.isOk, Except.toBool]
  | validated stats last answer =>
    have asked : o.dryRun = true := by simp [RunOptions.dryRun, last]
    simp [asked, answer, last]
  | cleared stats goesOn asked answer =>
    have asked : o.dryRun = true := by simp [RunOptions.dryRun, asked]
    simp [asked, answer, goesOn, Except.isOk, Except.toBool]
  | unchecked goesOn skipped =>
    have asked : o.dryRun = false := by simp [RunOptions.dryRun, goesOn, skipped]
    simp [asked]

theorem validationFailed_iff (h : Course engine o sql a) :
    a.status = .validationFailed
      ↔
    EngineCall.dryRun sql ∈ a.calls sql ∧ ∃ e, engine.dryRun sql = .error e := by
  rw [status_eq_validationFailed_iff, mem_dryRun h]
  cases h <;> simp_all

theorem validationSuccess_iff (h : Course engine o sql a) :
    a.status = .validationSuccess
      ↔
    o.validateOnly = true ∧ ∃ stats, engine.dryRun sql = .ok stats := by
  rw [status_eq_validationSuccess_iff]
  cases h <;> simp_all

theorem failed_iff (h : Course engine o sql a) :
    a.status = .failed
      ↔
    EngineCall.execute sql ∈ a.calls sql ∧ ∃ e, engine.execute sql = .error e := by
  rw [status_eq_failed_iff, mem_execute h]
  cases h <;> simp

theorem success_iff (h : Course engine o sql a) :
    a.status = .success
      ↔
    EngineCall.execute sql ∈ a.calls sql ∧ ∃ output, engine.execute sql = .ok output := by
  rw [status_eq_success_iff, mem_execute h]
  cases h <;> simp

theorem status_ne_unknown (h : Course engine o sql a) : a.status ≠ .unknown := by
  rw [Ne, status_eq_unknown_iff]
  cases h <;> simp

theorem of_alike {engine' : Engine} (h : Course engine o sql a)
    (halike : ∀ call ∈ a.calls sql, call.Alike engine' engine) :
    Course engine' o sql a := by
  have hdry := fun h => halike (.dryRun sql) h
  have hexecute := fun h => halike (.execute sql) h
  simp only [EngineCall.Alike] at hdry hexecute
  cases h with
  | rejected e asked answer =>
    rw [← hdry (by simp [calls])] at answer
    exact .rejected e asked answer
  | validated stats last answer =>
    rw [← hdry (by simp [calls])] at answer
    exact .validated stats last answer
  | cleared stats goesOn asked answer =>
    rw [← hdry (by simp [calls])] at answer
    rw [← hexecute (by simp [calls])]
    exact .cleared stats goesOn asked answer
  | unchecked goesOn skipped =>
    rw [← hexecute (by simp [calls])]
    exact .unchecked goesOn skipped

end Course

end Answers

/-- The report of a run with some answers, before it is exported. -/
def RunReport.ofAnswers (s : Suite) (o : RunOptions) (clock : Clock) (sql : String) (a : Answers) :
    RunReport :=
  ⟨sql, .ofAnswers s.name o clock a, s.classify ((a.rows? o.flattenRows).getD []), none⟩

theorem RunReport.status_ofAnswers (s : Suite) (o : RunOptions) (clock : Clock) (sql : String)
    (a : Answers) : (ofAnswers s o clock sql a).metadata.status = a.status := by
  apply RunMetadata.ofAnswers_status

theorem RunReport.results_ofAnswers (s : Suite) (o : RunOptions) (clock : Clock) (sql : String)
    {a : Answers} (h : a.status ≠ .success) : (ofAnswers s o clock sql a).results = [] := by
  have hrows : a.rows? o.flattenRows = none := by
    rw [Ne, Answers.status_eq_success_iff] at h
    unfold Answers.rows?
    split
    . next output houtput => exact absurd ⟨output, houtput⟩ h
    . rfl
  simp [ofAnswers, hrows, Suite.classify]

/-- The rows of an output as they are classified. -/
def QueryOutput.classified (output : QueryOutput) (flattenRows : Bool) : List Row :=
  if flattenRows then output.rows.map flatten else output.rows

/-- Why the results could not be written. -/
def Delivery.failure? (d : Delivery) : Option String :=
  match d.outcome with
  | .ok _ => none
  | .error e => some e.message

namespace Runner

variable {r : Runner} {s : Suite}

theorem delivery?_isSome_iff (o : RunOptions) (files : Storage.Tree) (report : RunReport) :
    (r.delivery? o files report).isSome = true
      ↔
    report.metadata.status = .success ∧ o.exports = true ∧ r.exporter.isSome = true := by
  unfold delivery?
  split
  . next h =>
    simp only [Bool.and_eq_true, decide_eq_true_eq] at h
    simp [h]
  . next h =>
    simp only [Bool.and_eq_true, decide_eq_true_eq] at h
    simp only [Option.isSome_none, Bool.false_eq_true, false_iff]
    intro ⟨hstatus, hexports, _⟩
    exact h ⟨hexports, hstatus⟩

theorem delivery?_eq_some (o : RunOptions) (files : Storage.Tree) (report : RunReport)
    {x : Exporter} (hx : r.exporter = some x) (h : (r.delivery? o files report).isSome = true) :
    r.delivery? o files report = some (x.deliver files report.metadata report.results) := by
  unfold delivery? at h ⊢
  split
  . simp [hx]
  . simp_all

theorem delivery?_of_no_exporter (o : RunOptions) (files : Storage.Tree) (report : RunReport)
    (h : r.exporter = none) : r.delivery? o files report = none := by
  unfold delivery?
  split
  . rw [h]
    rfl
  . rfl

theorem run_of_compile_error {e : Error} (h : (s.compile r.quote).outcome = .error e)
    (engine : Engine) (clock : Clock) (files : Storage.Tree) (o : RunOptions) :
    r.run engine clock files s o = ⟨.error e, [], false, files, (s.compile r.quote).events⟩ := by
  unfold run
  simp only [h]

section

variable {sql : String} (h : (s.compile r.quote).outcome = .ok sql) (engine : Engine)
  (clock : Clock) (files : Storage.Tree) (o : RunOptions)

include h

theorem run_outcome :
    (r.run engine clock files s o).outcome
      =
    let report := RunReport.ofAnswers s o clock sql (.ofEngine engine o sql)
    .ok { report with exportError := (r.delivery? o files report).bind Delivery.failure? } := by
  unfold run
  simp only [h]
  unfold RunReport.ofAnswers
  cases hd : r.delivery? o files _ with
  | none => simp
  | some d => cases ho : d.outcome <;> simp [ho, Delivery.failure?]

theorem run_calls :
    (r.run engine clock files s o).calls = (Answers.ofEngine engine o sql).calls sql := by
  unfold run
  simp only [h]

theorem run_exported :
    (r.run engine clock files s o).exported
      =
    (r.delivery? o files (.ofAnswers s o clock sql (.ofEngine engine o sql))).isSome := by
  unfold run
  simp only [h]
  rfl

theorem run_files :
    (r.run engine clock files s o).files
      =
    ((r.delivery? o files (.ofAnswers s o clock sql (.ofEngine engine o sql))).map
      Delivery.files).getD files := by
  unfold run
  simp only [h]
  rfl

theorem run_of_alike {engine' : Engine}
    (halike : ∀ call ∈ (r.run engine clock files s o).calls, call.Alike engine' engine) :
    r.run engine' clock files s o = r.run engine clock files s o := by
  rw [run_calls h] at halike
  have hsame : Answers.ofEngine engine' o sql = Answers.ofEngine engine o sql := by
    have hcourse := Answers.course_ofEngine engine o sql
    rw [(hcourse.of_alike halike).eq_ofEngine]
  unfold run
  simp only [h, hsame]

end

theorem exists_compiled {engine : Engine} {clock : Clock} {files : Storage.Tree} {o : RunOptions}
    {report : RunReport} (h : (r.run engine clock files s o).outcome = .ok report) :
    ∃ sql, (s.compile r.quote).outcome = .ok sql := by
  cases hsql : (s.compile r.quote).outcome with
  | error e =>
    rw [run_of_compile_error hsql] at h
    cases h
  | ok sql => exact ⟨sql, rfl⟩

theorem results_of_success {engine : Engine} {clock : Clock} {files : Storage.Tree}
    {o : RunOptions} {report : RunReport}
    (h : (r.run engine clock files s o).outcome = .ok report)
    (hstatus : report.metadata.status = .success) :
    ∃ output, engine.execute report.sql = .ok output
      ∧ report.results = s.classify (output.classified o.flattenRows) := by
  have ⟨sql, hsql⟩ := exists_compiled h
  rw [run_outcome hsql, Except.ok.injEq] at h
  subst h
  have hcourse := Answers.course_ofEngine engine o sql
  have hanswers : (Answers.ofEngine engine o sql).status = .success := by
    rw [← RunReport.status_ofAnswers s o clock sql]
    exact hstatus
  have ⟨hcall, output, houtput⟩ := hcourse.success_iff.1 hanswers
  have hexecution := hcourse.mem_execute.1 hcall
  refine ⟨output, houtput, ?_⟩
  rw [houtput] at hexecution
  dsimp only [RunReport.ofAnswers, Answers.rows?]
  rw [hexecution]
  rfl

/-- What a run of a statement does in its stages, and what it reports. -/
structure Staged (r : Runner) (engine : Engine) (clock : Clock) (files : Storage.Tree) (s : Suite)
    (o : RunOptions) (run : Run) (report : RunReport) : Prop where
  outcome : run.outcome = .ok report
  calls : run.calls
      =
    (if o.validateFirst || o.validateOnly then [.dryRun report.sql] else [])
      ++ (if Answers.goesAhead engine o report.sql then [.execute report.sql] else [])
  -- Whatever the engine would have answered to other calls does not matter.
  noOtherCalls : ∀ engine' : Engine, (∀ call ∈ run.calls, call.Alike engine' engine) →
    r.run engine' clock files s o = run
  finished : report.metadata.endedAt = some clock.stop
  validationFailed : report.metadata.status = .validationFailed
      ↔
    .dryRun report.sql ∈ run.calls ∧ ∃ e, engine.dryRun report.sql = .error e
  validationSuccess : report.metadata.status = .validationSuccess
      ↔
    o.validateOnly = true ∧ ∃ stats, engine.dryRun report.sql = .ok stats
  failed : report.metadata.status = .failed
      ↔
    .execute report.sql ∈ run.calls ∧ ∃ e, engine.execute report.sql = .error e
  success : report.metadata.status = .success
      ↔
    .execute report.sql ∈ run.calls ∧ ∃ output, engine.execute report.sql = .ok output
  known : report.metadata.status ≠ .unknown
  noResults : report.metadata.status ≠ .success → report.results = []
  exported : run.exported = true
      ↔
    report.metadata.status = .success ∧ o.exports = true ∧ r.exporter.isSome = true
  delivered : ∀ x, r.exporter = some x → run.exported = true →
    run.files = (x.deliver files report.metadata report.results).files
      ∧ report.exportError = (x.deliver files report.metadata report.results).failure?
  kept : run.exported = false → run.files = files ∧ report.exportError = none
  -- Without an exporter the report would be the same, but for the failure of the export.
  isolated : ({ r with exporter := none }.run engine clock files s o).outcome
      =
    .ok { report with exportError := none }

theorem staged_of_compile_ok {r : Runner} {s : Suite} {sql : String}
    (h : (s.compile r.quote).outcome = .ok sql) (engine : Engine) (clock : Clock)
    (files : Storage.Tree) (o : RunOptions) :
    let report := RunReport.ofAnswers s o clock sql (.ofEngine engine o sql)
    Staged r engine clock files s o (r.run engine clock files s o)
      { report with exportError := (r.delivery? o files report).bind Delivery.failure? } := by
  intro report
  have hcourse := Answers.course_ofEngine engine o sql
  have hstatus : report.metadata.status = (Answers.ofEngine engine o sql).status := by
    apply RunReport.status_ofAnswers
  have hexported := run_exported h engine clock files o
  have hfiles := run_files h engine clock files o
  exact {
    outcome := run_outcome h engine clock files o
    calls := by
      rw [run_calls h]
      apply hcourse.calls_eq
    noOtherCalls := by
      intro engine' halike
      apply run_of_alike h engine clock files o halike
    finished := by apply RunMetadata.ofAnswers_endedAt
    validationFailed := by
      rw [run_calls h, hstatus]
      apply hcourse.validationFailed_iff
    validationSuccess := by
      rw [hstatus]
      apply hcourse.validationSuccess_iff
    failed := by
      rw [run_calls h, hstatus]
      apply hcourse.failed_iff
    success := by
      rw [run_calls h, hstatus]
      apply hcourse.success_iff
    known := by
      rw [hstatus]
      apply hcourse.status_ne_unknown
    noResults := by
      rw [hstatus]
      exact RunReport.results_ofAnswers s o clock sql
    exported := by
      rw [hexported]
      apply delivery?_isSome_iff
    delivered := by
      intro x hx hsome
      rw [hexported] at hsome
      rw [hfiles, delivery?_eq_some o files report hx hsome]
      exact ⟨rfl, rfl⟩
    kept := by
      intro hnone
      rw [hexported, Option.isSome_eq_false_iff, Option.isNone_iff_eq_none] at hnone
      rw [hfiles, hnone]
      exact ⟨rfl, rfl⟩
    isolated := by
      rw [run_outcome (r := { r with exporter := none }) h]
      dsimp only
      rw [delivery?_of_no_exporter o files report rfl]
      rfl }

theorem run_staged (r : Runner) (engine : Engine) (clock : Clock) (files : Storage.Tree)
    (s : Suite) (o : RunOptions) :
    let run := r.run engine clock files s o
    (∀ e, (s.compile r.quote).outcome = .error e →
      run.outcome = .error e ∧ run.calls = [] ∧ run.exported = false ∧ run.files = files
        ∧ ∀ (engine' : Engine) (exporter' : Option Exporter),
          { r with exporter := exporter' }.run engine' clock files s o = run)
      ∧
    (∀ sql, (s.compile r.quote).outcome = .ok sql →
      ∃ report, report.sql = sql ∧ Staged r engine clock files s o run report) := by
  intro run
  constructor
  . intro e h
    have hrun : run = ⟨.error e, [], false, files, (s.compile r.quote).events⟩ :=
      run_of_compile_error h engine clock files o
    rw [hrun]
    refine ⟨rfl, rfl, rfl, rfl, ?_⟩
    intro engine' exporter'
    apply run_of_compile_error (r := { r with exporter := exporter' }) h
  . intro sql h
    exact ⟨_, rfl, staged_of_compile_ok h engine clock files o⟩

end Runner
end DataQuality
