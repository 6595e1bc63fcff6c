import DataQuality.Proofs.Run.Record

/-!
The end of a run in its record. Whatever steps the record goes through, the first `finish` among them
fixes the status, the end and the duration, and no later one changes a field. Main statement:
`start_finishesOnce`.
-/

namespace DataQuality
namespace RunMetadata

open Time (Timestamp)

namespace Step

/-- The status and the instant of a `finish`. -/
def finish? : Step → Option (RunStatus × Timestamp)
  | .finish status now => some (status, now)
  | _ => none

/-- The message that a step records. -/
def message? : Step → Option String
  | .recordError message => some message
  | _ => none

end Step

/-- The record after some steps. -/
def after (m : RunMetadata) (steps : List Step) : RunMetadata :=
  steps.foldl (fun m s => (m.step s).2) m

/-- Two records tell the same of the start and of the end of a run. -/
structure SameEnd (m m' : RunMetadata) : Prop where
  startedAt : m.startedAt = m'.startedAt
  status : m.status = m'.status
  endedAt : m.endedAt = m'.endedAt
  durationMs : m.durationMs = m'.durationMs

theorem finish_of_isFinished {m : RunMetadata} (h : m.isFinished = true) (status : RunStatus)
    (now : Timestamp) : m.finish status now = (false, m) := by
  unfold finish
  rw [if_pos h]

theorem step_finish (m : RunMetadata) (status : RunStatus) (now : Timestamp) :
    m.step (.finish status now)
      =
    (some (m.finish status now).1, (m.finish status now).2) := rfl

/-- Only the `finish` of a run that is not finished yet tells something of its end. -/
theorem step_sameEnd {m : RunMetadata} {s : Step}
    (h : s.finish? = none ∨ m.isFinished = true) : (m.step s).2.SameEnd m := by
  cases s with
  | finish status now =>
    rcases h with hnone | hfinished
    . cases hnone
    . rw [step_finish, finish_of_isFinished hfinished]
      exact ⟨rfl, rfl, rfl, rfl⟩
  | _ => exact ⟨rfl, rfl, rfl, rfl⟩

theorem step_errors (m : RunMetadata) (s : Step) :
    (m.step s).2.errors = m.errors ++ s.message?.toList := by
  cases s with
  | recordError message => rfl
  | finish status now =>
    have hkept : (m.finish status now).2.errors = m.errors := by
      unfold finish
      split <;> rfl
    rw [step_finish, hkept]
    exact (List.append_nil _).symm
  | _ => exact (List.append_nil _).symm

/-- A record in the state that some steps have brought it to. Of the finishes among them, the first
one counts. -/
structure Follows (m : RunMetadata) (started : Timestamp) (steps : List Step) : Prop where
  startedAt : m.startedAt = started
  status : m.status = ((steps.findSome? Step.finish?).map Prod.fst).getD .unknown
  endedAt : m.endedAt = (steps.findSome? Step.finish?).map Prod.snd
  durationMs : m.durationMs
      =
    (steps.findSome? Step.finish?).map fun first => elapsedMs started first.2
  errors : m.errors = steps.filterMap Step.message?

namespace Follows

variable {m : RunMetadata} {started : Timestamp} {steps : List Step}

theorem isFinished (h : m.Follows started steps) :
    m.isFinished = (steps.findSome? Step.finish?).isSome := by
  unfold RunMetadata.isFinished
  rw [h.endedAt, Option.isSome_map]

theorem errors_step (h : m.Follows started steps) (s : Step) :
    (m.step s).2.errors = (steps ++ [s]).filterMap Step.message? := by
  rw [step_errors, h.errors, List.filterMap_append]
  cases hs : s.message? <;> simp [hs]

theorem of_sameEnd (h : m.Follows started steps) {s : Step} (hend : (m.step s).2.SameEnd m)
    (hfirst : (steps ++ [s]).findSome? Step.finish? = steps.findSome? Step.finish?) :
    (m.step s).2.Follows started (steps ++ [s]) where
  startedAt := by rw [hend.startedAt, h.startedAt]
  status := by rw [hfirst, hend.status, h.status]
  endedAt := by rw [hfirst, hend.endedAt, h.endedAt]
  durationMs := by rw [hfirst, hend.durationMs, h.durationMs]
  errors := h.errors_step s

theorem step (h : m.Follows started steps) (s : Step) :
    (m.step s).2.Follows started (steps ++ [s]) := by
  have hconcat : (steps ++ [s]).findSome? Step.finish?
      = (steps.findSome? Step.finish?).or s.finish? := by
    simp [List.findSome?_append]
  cases hs : s.finish? with
  | none =>
    apply h.of_sameEnd (step_sameEnd (.inl hs))
    rw [hconcat, hs, Option.or_none]
  | some last =>
    cases hfirst : steps.findSome? Step.finish? with
    | some first =>
      have hfinished : m.isFinished = true := by
        rw [h.isFinished, hfirst]
        rfl
      apply h.of_sameEnd (step_sameEnd (.inr hfinished))
      rw [hconcat, hfirst]
      rfl
    | none =>
      have hfinished : m.isFinished = false := by
        rw [h.isFinished, hfirst]
        rfl
      have herrors := h.errors_step s
      rw [hfirst, hs, Option.none_or] at hconcat
      cases s with
      | finish status now =>
        cases hs
        rw [step_finish, finish_of_not_isFinished m status now hfinished] at herrors ⊢
        constructor
        case startedAt => exact h.startedAt
        case status => rw [hconcat]; rfl
        case endedAt => rw [hconcat]; rfl
        case durationMs => rw [hconcat, ← h.startedAt]; rfl
        case errors => exact herrors
      | _ => cases hs

theorem after (h : m.Follows started steps) (more : List Step) :
    (m.after more).Follows started (steps ++ more) := by
  induction more generalizing m steps with
  | nil =>
    rw [List.append_nil]
    exact h
  | cons s more ih =>
    have hmore := ih (h.step s)
    rw [List.append_assoc] at hmore
    exact hmore

end Follows

/-- How the record `m` of a run that started at an instant has come out of some steps. -/
structure FinishesOnce (m : RunMetadata) (started : Timestamp) (steps : List Step) : Prop where
  /-- Before the first `finish`, nothing is known of the end, and that `finish` tells it. -/
  unfinished : (∀ s ∈ steps, s.finish? = none) →
    m.status = .unknown ∧ m.endedAt = none ∧ m.durationMs = none
      ∧ ∀ status now, m.finish status now
          =
        (true,
          { m with
            status := status
            endedAt := some now
            durationMs := some (elapsedMs started now) })
  /-- From the first `finish` on, the end is what it told, and another `finish` changes no field. -/
  finished : ∀ before status now later, steps = before ++ .finish status now :: later →
    (∀ s ∈ before, s.finish? = none) →
      m.status = status ∧ m.endedAt = some now ∧ m.durationMs = some (elapsedMs started now)
        ∧ ∀ status' now', m.finish status' now' = (false, m)
  isFinished : m.isFinished = true ↔ ∃ status now, .finish status now ∈ steps
  errors : m.errors = steps.filterMap Step.message?
  errorCount : m.errorCount = (steps.filterMap Step.message?).length

theorem Step.finish?_eq_some_iff {s : Step} {status : RunStatus} {now : Timestamp} :
    s.finish? = some (status, now) ↔ s = .finish status now := by
  cases s <;> simp [finish?]

theorem Follows.finishesOnce {m : RunMetadata} {started : Timestamp} {steps : List Step}
    (h : m.Follows started steps) : m.FinishesOnce started steps where
  unfinished := by
    intro hnone
    have hfirst : steps.findSome? Step.finish? = none := List.findSome?_eq_none_iff.2 hnone
    have hfinished : m.isFinished = false := by
      rw [h.isFinished, hfirst]
      rfl
    refine ⟨?_, ?_, ?_, ?_⟩
    . rw [h.status, hfirst]
      rfl
    . rw [h.endedAt, hfirst]
      rfl
    . rw [h.durationMs, hfirst]
      rfl
    . intro status now
      rw [finish_of_not_isFinished m status now hfinished, h.startedAt]
  finished := by
    intro before status now later hsteps hbefore
    have hfirst : steps.findSome? Step.finish? = some (status, now) := by
      rw [hsteps, List.findSome?_append, List.findSome?_eq_none_iff.2 hbefore]
      rfl
    have hfinished : m.isFinished = true := by
      rw [h.isFinished, hfirst]
      rfl
    refine ⟨?_, ?_, ?_, finish_of_isFinished hfinished⟩
    . rw [h.status, hfirst]
      rfl
    . rw [h.endedAt, hfirst]
      rfl
    . rw [h.durationMs, hfirst]
      rfl
  isFinished := by
    rw [h.isFinished, List.findSome?_isSome_iff]
    simp only [Option.isSome_iff_exists, Prod.exists, Step.finish?_eq_some_iff]
    constructor
    . rintro ⟨s, hs, status, now, rfl⟩
      exact ⟨status, now, hs⟩
    . rintro ⟨status, now, hs⟩
      exact ⟨_, hs, status, now, rfl⟩
  errors := h.errors
  errorCount := by
    unfold errorCount
    rw [h.errors]

theorem start_finishesOnce (suite : String) (validateFirst validateOnly : Bool)
    (started : Timestamp) (steps : List Step) :
    ((start suite validateFirst validateOnly started).after steps).FinishesOnce started steps := by
  have hstart : (start suite validateFirst validateOnly started).Follows started [] := by
    constructor <;> rfl
  exact (hstart.after steps).finishesOnce

end RunMetadata
end DataQuality
