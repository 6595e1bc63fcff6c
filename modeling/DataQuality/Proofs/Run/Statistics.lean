import Mathlib.Data.List.Basic
import DataQuality.Proofs.Outcome
import DataQuality.Proofs.Run.Coverage

/-!
What the record of a run keeps of the answers of the engine. Each field of the statistics is merged
on its own, so that an answer which leaves it out does not take away what an earlier one told, and a
failure adds its messages. Main statement: `Runner.run_merges`.
-/

namespace DataQuality

/-- What an engine answers to a call; of an output, the statistics count here. -/
def EngineCall.answer (engine : Engine) : EngineCall → Except Error JobStats
  | .dryRun sql => engine.dryRun sql
  | .execute sql => (engine.execute sql).map QueryOutput.stats

/-- The answers to the calls of a run. -/
def Answers.inOrder (a : Answers) : List (Except Error JobStats) :=
  a.validation.toList ++ (a.execution.map fun answer => answer.map QueryOutput.stats).toList

namespace RunMetadata

def tellsJob : Except Error JobStats → Option String
  | .ok stats => stats.jobId
  | .error e => e.jobId

def tellsErrors : Except Error JobStats → List String
  | .ok _ => []
  | .error e => e.messages

theorem withAnswer_some (m : RunMetadata) (answer : Except Error JobStats) :
    m.withAnswer (some answer)
      =
    { m with
      jobId := tellsJob answer <|> m.jobId
      bytesProcessed := answer.toOption.bind JobStats.bytesProcessed <|> m.bytesProcessed
      cacheHit := answer.toOption.bind JobStats.cacheHit <|> m.cacheHit
      errors := m.errors ++ tellsErrors answer } := by
  cases answer with
  | ok stats =>
    unfold tellsErrors
    rw [List.append_nil]
    rfl
  | error e => exact withFailure_eq m e

/-- A record that holds what was asked for and what some answers tell, one after the other. -/
structure Reflects (m : RunMetadata) (o : RunOptions) (answers : List (Except Error JobStats)) :
    Prop where
  jobId : m.jobId = (answers.filterMap tellsJob).getLast?
  bytesProcessed : m.bytesProcessed
      = (answers.filterMap fun a => a.toOption.bind JobStats.bytesProcessed).getLast?
  cacheHit : m.cacheHit = (answers.filterMap fun a => a.toOption.bind JobStats.cacheHit).getLast?
  errors : m.errors = answers.flatMap tellsErrors
  extra : m.extra = o.extra
  validateFirst : m.validateFirst = o.validateFirst
  validateOnly : m.validateOnly = o.validateOnly

theorem getLast?_filterMap_append {α β : Type} (f : α → Option β) (xs : List α) (x : α) :
    ((xs ++ [x]).filterMap f).getLast? = (f x <|> (xs.filterMap f).getLast?) := by
  rw [List.filterMap_append, List.getLast?_append]
  cases h : f x with
  | none => simp [h]
  | some y => simp [h]

namespace Reflects

variable {m : RunMetadata} {o : RunOptions} {answers : List (Except Error JobStats)}

theorem withAnswer (h : m.Reflects o answers) (answer : Option (Except Error JobStats)) :
    (m.withAnswer answer).Reflects o (answers ++ answer.toList) := by
  cases answer with
  | none =>
    rw [Option.toList_none, List.append_nil]
    exact h
  | some answer =>
    rw [withAnswer_some, Option.toList_some]
    constructor
    case jobId => rw [getLast?_filterMap_append, ← h.jobId]
    case bytesProcessed => rw [getLast?_filterMap_append, ← h.bytesProcessed]
    case cacheHit => rw [getLast?_filterMap_append, ← h.cacheHit]
    case errors => rw [List.flatMap_append, ← h.errors, List.flatMap_singleton]
    case extra => exact h.extra
    case validateFirst => exact h.validateFirst
    case validateOnly => exact h.validateOnly

theorem finish (h : m.Reflects o answers) (status : RunStatus) (now : Time.Timestamp) :
    (m.finish status now).2.Reflects o answers := by
  unfold RunMetadata.finish
  split
  . exact h
  . exact ⟨h.jobId, h.bytesProcessed, h.cacheHit, h.errors, h.extra, h.validateFirst,
      h.validateOnly⟩

end Reflects

theorem reflects_ofAnswers (suite : String) (o : RunOptions) (clock : Clock) (a : Answers) :
    (ofAnswers suite o clock a).Reflects o a.inOrder := by
  have hstart : Reflects { start suite o.validateFirst o.validateOnly clock.start with
      extra := o.extra } o [] := by
    constructor <;> rfl
  have hvalidation := hstart.withAnswer a.validation
  have hexecution := hvalidation.withAnswer
    (a.execution.map fun answer => answer.map QueryOutput.stats)
  rw [List.nil_append] at hexecution
  exact hexecution.finish a.status clock.stop

end RunMetadata

namespace Answers.Course

variable {engine : Engine} {o : RunOptions} {sql : String} {a : Answers}

theorem inOrder_eq (h : Course engine o sql a) :
    a.inOrder = (a.calls sql).map (EngineCall.answer engine) := by
  unfold inOrder calls
  cases h with
  | rejected e asked answer => simp [EngineCall.answer, answer]
  | validated stats last answer => simp [EngineCall.answer, answer]
  | cleared stats goesOn asked answer => simp [EngineCall.answer, answer]
  | unchecked goesOn skipped => simp [EngineCall.answer]

theorem ok_of_mem_dropLast (h : Course engine o sql a) :
    ∀ call ∈ (a.calls sql).dropLast, ∃ stats, call.answer engine = .ok stats := by
  unfold calls
  cases h with
  | rejected e asked answer => simp
  | validated stats last answer => simp
  | cleared stats goesOn asked answer => simp [EngineCall.answer, answer]
  | unchecked goesOn skipped => simp

end Answers.Course

/-- The values of a field in those answers to some calls that tell one. -/
def Engine.told {α : Type} (engine : Engine) (field : JobStats → Option α)
    (calls : List EngineCall) : List α :=
  calls.filterMap fun call => (call.answer engine).toOption.bind field

/-- A failure that an engine reports of a job, with messages of its own. -/
def Error.IsOfEngine (e : Error) (job : Option String) (reported : List String) : Prop :=
  ∃ message, e = .validationFailed message job reported ∨ e = .executionFailed message job reported

theorem Error.IsOfEngine.eq {e : Error} {job : Option String} {reported : List String}
    (h : e.IsOfEngine job reported) : e.jobId = job ∧ e.messages = e.message :: reported := by
  obtain ⟨message, rfl | rfl⟩ := h
  . exact ⟨rfl, rfl⟩
  . exact ⟨rfl, rfl⟩

theorem Error.eq_of_not_isOfEngine {e : Error}
    (h : ∀ job reported, ¬ e.IsOfEngine job reported) :
    e.jobId = none ∧ e.messages = [e.message] := by
  cases e with
  | validationFailed message job reported => exact absurd ⟨message, .inl rfl⟩ (h job reported)
  | executionFailed message job reported => exact absurd ⟨message, .inr rfl⟩ (h job reported)
  | _ => exact ⟨rfl, rfl⟩

/-- What the record of a run holds of the answers to its calls. -/
structure RunMetadata.Merges (m : RunMetadata) (o : RunOptions) (engine : Engine)
    (calls : List EngineCall) : Prop where
  bytesProcessed : m.bytesProcessed = (engine.told JobStats.bytesProcessed calls).getLast?
  cacheHit : m.cacheHit = (engine.told JobStats.cacheHit calls).getLast?
  -- No call follows a failure.
  stops : ∀ call ∈ calls.dropLast, ∃ stats, call.answer engine = .ok stats
  noFailure : (∀ call ∈ calls, ∃ stats, call.answer engine = .ok stats) →
    m.jobId = (engine.told JobStats.jobId calls).getLast? ∧ m.errors = []
  engineFailure : ∀ call ∈ calls, ∀ e job reported, call.answer engine = .error e →
    e.IsOfEngine job reported →
      m.jobId = (job <|> (engine.told JobStats.jobId calls).getLast?)
        ∧ m.errors = e.message :: reported
  otherFailure : ∀ call ∈ calls, ∀ e, call.answer engine = .error e →
    (∀ job reported, ¬ e.IsOfEngine job reported) →
      m.jobId = (engine.told JobStats.jobId calls).getLast? ∧ m.errors = [e.message]
  extra : m.extra = o.extra
  validateFirst : m.validateFirst = o.validateFirst
  validateOnly : m.validateOnly = o.validateOnly

namespace RunMetadata

section

variable {engine : Engine} {calls : List EngineCall}

theorem filterMap_tellsJob (h : ∀ call ∈ calls, ∃ stats, call.answer engine = .ok stats) :
    (calls.map (EngineCall.answer engine)).filterMap tellsJob
      =
    engine.told JobStats.jobId calls := by
  unfold Engine.told
  rw [List.filterMap_map]
  apply List.filterMap_congr
  intro call hcall
  obtain ⟨stats, hstats⟩ := h call hcall
  rw [Function.comp_apply, hstats]
  rfl

theorem flatMap_tellsErrors (h : ∀ call ∈ calls, ∃ stats, call.answer engine = .ok stats) :
    (calls.map (EngineCall.answer engine)).flatMap tellsErrors = [] := by
  rw [List.flatMap_eq_nil_iff, List.forall_mem_map]
  intro call hcall
  obtain ⟨stats, hstats⟩ := h call hcall
  rw [hstats]
  rfl

theorem eq_concat_of_failure (h : ∀ call ∈ calls.dropLast, ∃ stats, call.answer engine = .ok stats)
    {call : EngineCall} (hcall : call ∈ calls) {e : Error} (he : call.answer engine = .error e) :
    calls = calls.dropLast ++ [call] := by
  have hne : calls ≠ [] := List.ne_nil_of_mem hcall
  have hsplit := List.dropLast_append_getLast hne
  rw [← hsplit, List.mem_append, List.mem_singleton] at hcall
  rcases hcall with hbefore | rfl
  . obtain ⟨stats, hstats⟩ := h call hbefore
    rw [he] at hstats
    cases hstats
  . exact hsplit.symm

end

namespace Reflects

variable {m : RunMetadata} {o : RunOptions} {engine : Engine} {calls : List EngineCall}

theorem of_failure (h : m.Reflects o (calls.map (EngineCall.answer engine)))
    (hstops : ∀ call ∈ calls.dropLast, ∃ stats, call.answer engine = .ok stats)
    {call : EngineCall} (hcall : call ∈ calls) {e : Error} (he : call.answer engine = .error e) :
    m.jobId = (e.jobId <|> (engine.told JobStats.jobId calls).getLast?)
      ∧ m.errors = e.messages := by
  have hcalls := eq_concat_of_failure hstops hcall he
  have hanswers : calls.map (EngineCall.answer engine)
      = calls.dropLast.map (EngineCall.answer engine) ++ [.error e] := by
    rw [hcalls, List.map_append, List.dropLast_concat, List.map_singleton, he]
  have htold : engine.told JobStats.jobId calls = engine.told JobStats.jobId calls.dropLast := by
    unfold Engine.told
    rw [hcalls, List.filterMap_append, List.dropLast_concat, List.filterMap_cons, he]
    simp [Except.toOption]
  constructor
  . rw [h.jobId, hanswers, getLast?_filterMap_append, filterMap_tellsJob hstops, htold]
    rfl
  . rw [h.errors, hanswers, List.flatMap_append, flatMap_tellsErrors hstops]
    simp [tellsErrors]

theorem merges (h : m.Reflects o (calls.map (EngineCall.answer engine)))
    (hstops : ∀ call ∈ calls.dropLast, ∃ stats, call.answer engine = .ok stats) :
    m.Merges o engine calls := by
  constructor
  case bytesProcessed =>
    rw [h.bytesProcessed, List.filterMap_map]
    rfl
  case cacheHit =>
    rw [h.cacheHit, List.filterMap_map]
    rfl
  case stops => exact hstops
  case noFailure =>
    intro hok
    rw [h.jobId, h.errors, filterMap_tellsJob hok, flatMap_tellsErrors hok]
    exact ⟨rfl, rfl⟩
  case engineFailure =>
    intro call hcall e job reported he hengine
    obtain ⟨hjob, hmessages⟩ := hengine.eq
    rw [← hjob, ← hmessages]
    exact h.of_failure hstops hcall he
  case otherFailure =>
    intro call hcall e he hother
    obtain ⟨hjob, hmessages⟩ := Error.eq_of_not_isOfEngine hother
    have hfailure := h.of_failure hstops hcall he
    rw [hjob, hmessages] at hfailure
    exact hfailure
  case extra => exact h.extra
  case validateFirst => exact h.validateFirst
  case validateOnly => exact h.validateOnly

end Reflects

end RunMetadata

namespace Runner

theorem run_merges (r : Runner) (engine : Engine) (clock : Clock) (files : Storage.Tree)
    (s : Suite) (o : RunOptions) (report : RunReport)
    (h : (r.run engine clock files s o).outcome = .ok report) :
    report.metadata.Merges o engine (r.run engine clock files s o).calls := by
  obtain ⟨sql, hsql⟩ := exists_compiled h
  rw [run_outcome hsql, Except.ok.injEq] at h
  rw [run_calls hsql, ← h]
  have hcourse := Answers.course_ofEngine engine o sql
  have hreflects := RunMetadata.reflects_ofAnswers s.name o clock (.ofEngine engine o sql)
  rw [hcourse.inOrder_eq] at hreflects
  exact hreflects.merges hcourse.ok_of_mem_dropLast

end Runner

namespace Sample

/-- An engine whose dry run tells its job, and whose execution fails without telling one. -/
def interrupted : Engine where
  name := "engine"
  dryRun := fun _ => .ok ⟨some "job-1", some 10, none⟩
  execute := fun _ => .error (.executionFailed "quota" none ["slot", "limit"])

theorem interrupted_merges :
    ∃ report,
      (runner.run interrupted ⟨default, default⟩ ⟨[]⟩ orders .standard).outcome = .ok report
      ∧ report.metadata.jobId = some "job-1" ∧ report.metadata.bytesProcessed = some 10
      ∧ report.metadata.cacheHit = none
      ∧ report.metadata.errors = ["Execution failed: quota", "slot", "limit"] := by
  have hcompiles : (orders.compile runner.quote).outcome.isOk = true := by decide +kernel
  obtain ⟨sql, hsql⟩ := Outcome.exists_of_isOk hcompiles
  have hrun := Runner.run_outcome hsql interrupted ⟨default, default⟩ ⟨[]⟩ .standard
  have hmerges := Runner.run_merges runner interrupted ⟨default, default⟩ ⟨[]⟩ orders .standard _
    hrun
  have hcalls : (runner.run interrupted ⟨default, default⟩ ⟨[]⟩ orders .standard).calls
      = [.dryRun sql, .execute sql] := by
    rw [Runner.run_calls hsql]
    rfl
  rw [hcalls] at hmerges
  obtain ⟨hjob, herrors⟩ := hmerges.engineFailure (.execute sql) (by simp) _ none
    ["slot", "limit"] rfl ⟨"quota", .inr rfl⟩
  exact ⟨_, hrun, hjob, hmerges.bytesProcessed, hmerges.cacheHit, herrors⟩

end Sample
end DataQuality
