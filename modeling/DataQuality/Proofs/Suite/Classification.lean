import DataQuality.Proofs.Suite.Validity
import DataQuality.Suite.Classify

/-!
Classification row by row: the results are those of the rows that name a check, and each carries the
name of its check.
-/

namespace DataQuality

namespace Row

/-- The name of the check that a row belongs to, if the row has one. -/
def checkName? (row : Row) : Option String := (row.find? "check_name").bind Json.Value.string?

theorem checkName?_eq_some_iff {row : Row} {name : String} :
    row.checkName? = some name ↔ row.find? "check_name" = some (.string name) := by
  unfold checkName?
  rw [Option.bind_eq_some_iff]
  constructor
  . rintro ⟨v, hv, hname⟩
    unfold Json.Value.string? at hname
    split at hname
    . cases hname
      exact hv
    . cases hname
  . intro h
    exact ⟨_, h, rfl⟩

end Row

theorem Check.checkName_result (c : Check) (value : Option Float) :
    (c.result value).checkName = c.name := by
  cases value with
  | none => rfl
  | some x => rfl

namespace Suite

theorem classifyRow_eq_ok_iff (s : Suite) {row : Row} {result : CheckResult} :
    s.classifyRow row = .ok result
      ↔
    ∃ c ∈ s.checks, row.checkName? = some c.name ∧ result = c.result row.value? := by
  have hfold : (row.find? "check_name").bind Json.Value.string? = row.checkName? := rfl
  unfold classifyRow
  rw [hfold]
  cases row.checkName? with
  | none => simp
  | some name =>
    dsimp only
    cases hcheck : s.check? name with
    | none =>
      simp only [reduceCtorEq, Option.some.injEq, false_iff, not_exists, not_and]
      intro c hc hname
      have := s.check?_eq_some_iff.2 ⟨hc, hname.symm⟩
      simp [hcheck] at this
    | some c =>
      obtain ⟨hc, hname⟩ := s.check?_eq_some_iff.1 hcheck
      simp only [Except.ok.injEq, Option.some.injEq]
      constructor
      . rintro rfl
        exact ⟨c, hc, hname.symm, rfl⟩
      . rintro ⟨c', hc', hname', rfl⟩
        have := s.check?_eq_some_iff.2 ⟨hc', hname'.symm⟩
        rw [hcheck, Option.some.injEq] at this
        rw [this]

theorem mem_classify_iff (s : Suite) {rows : List Row} {result : CheckResult} :
    result ∈ s.classify rows
      ↔
    ∃ row ∈ rows, ∃ c ∈ s.checks, row.checkName? = some c.name
      ∧ result = c.result row.value? := by
  unfold classify
  rw [List.mem_filterMap]
  have htoOption (row : Row) :
      (s.classifyRow row).toOption = some result ↔ s.classifyRow row = .ok result := by
    cases s.classifyRow row <;> simp [Except.toOption]
  simp only [htoOption, classifyRow_eq_ok_iff]

end Suite
end DataQuality
