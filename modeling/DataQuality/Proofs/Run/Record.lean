import DataQuality.Run.Basic

/-!
What the record of a run keeps while answers of the engine go into it: they never finish it, and the
end of the run finishes it with the status of the answers. What is read from the clock goes into no
other field.
-/

namespace DataQuality
namespace RunMetadata

open Time (Timestamp)

theorem foldl_recordError (m : RunMetadata) (messages : List String) :
    messages.foldl recordError m = { m with errors := m.errors ++ messages } := by
  induction messages generalizing m with
  | nil => simp
  | cons message rest ih =>
    rw [List.foldl_cons, ih]
    simp [recordError]

theorem withFailure_eq (m : RunMetadata) (e : Error) :
    m.withFailure e
      =
    { m with jobId := e.jobId <|> m.jobId, errors := m.errors ++ e.messages } := by
  unfold withFailure
  rw [foldl_recordError]

@[simp]
theorem withAnswer_isFinished (m : RunMetadata) (answer : Option (Except Error JobStats)) :
    (m.withAnswer answer).isFinished = m.isFinished := by
  unfold withAnswer
  split
  . rfl
  . rfl
  . rw [withFailure_eq]
    rfl

theorem finish_of_not_isFinished (m : RunMetadata) (status : RunStatus) (now : Timestamp)
    (h : m.isFinished = false) :
    m.finish status now
      =
    (true,
      { m with
        status := status
        endedAt := some now
        durationMs := some (elapsedMs m.startedAt now) }) := by
  unfold finish
  rw [h]
  simp

theorem ofAnswers_eq_finish (suite : String) (o : RunOptions) (clock : Clock) (a : Answers) :
    ∃ m : RunMetadata, m.isFinished = false
      ∧ ofAnswers suite o clock a = (m.finish a.status clock.stop).2 := by
  refine ⟨_, ?_, rfl⟩
  rw [withAnswer_isFinished]
  rw [withAnswer_isFinished]
  rfl

theorem ofAnswers_status (suite : String) (o : RunOptions) (clock : Clock) (a : Answers) :
    (ofAnswers suite o clock a).status = a.status := by
  have ⟨m, hm, heq⟩ := ofAnswers_eq_finish suite o clock a
  rw [heq, finish_of_not_isFinished m _ _ hm]

theorem ofAnswers_endedAt (suite : String) (o : RunOptions) (clock : Clock) (a : Answers) :
    (ofAnswers suite o clock a).endedAt = some clock.stop := by
  have ⟨m, hm, heq⟩ := ofAnswers_eq_finish suite o clock a
  rw [heq, finish_of_not_isFinished m _ _ hm]

end RunMetadata
end DataQuality
