import DataQuality.Proofs.Suite.Classification

/-!
The account that a classification gives of its rows. Each row by itself gives one result or one
warning; the result is that of the one check which the row names, and the first value column that
holds something decides about it. Main statement: `Suite.classify_accounts`.
-/

namespace DataQuality

open Json (Value)

namespace Row

/-- What a column holds, if that is something other than null. -/
def held? (row : Row) (column : String) : Option Value := (row.find? column).filter (!·.isNull)

/-- The first of the value columns that holds something holds `v`. -/
def Decides (row : Row) (column : String) (v : Value) : Prop :=
  row.find? column = some v ∧ v ≠ .null
    ∧ ∃ before after, valueColumns = before ++ column :: after
      ∧ ∀ earlier ∈ before, row.find? earlier = none ∨ row.find? earlier = some .null

section

variable {row : Row} {column : String} {v : Value}

theorem held?_eq_some_iff : row.held? column = some v ↔ row.find? column = some v ∧ v ≠ .null := by
  unfold held?
  rw [Option.filter_eq_some_iff]
  cases v <;> simp [Value.isNull]

theorem held?_eq_none_iff :
    row.held? column = none ↔ row.find? column = none ∨ row.find? column = some .null := by
  unfold held?
  cases row.find? column with
  | none => simp
  | some v => cases v <;> simp [Value.isNull]

theorem candidate?_eq_findSome? (row : Row) :
    row.candidate? = valueColumns.findSome? row.held? := by
  unfold candidate?
  congr 1
  funext column
  unfold held?
  cases row.find? column with
  | none => rfl
  | some v => cases v <;> rfl

theorem candidate?_eq_some_iff : row.candidate? = some v ↔ ∃ column, row.Decides column v := by
  unfold Decides
  rw [candidate?_eq_findSome?, List.findSome?_eq_some_iff]
  simp only [held?_eq_some_iff, held?_eq_none_iff]
  constructor
  . rintro ⟨before, column, after, hcolumns, ⟨hholds, hnull⟩, hbefore⟩
    exact ⟨column, hholds, hnull, before, after, hcolumns, hbefore⟩
  . rintro ⟨column, hholds, hnull, before, after, hcolumns, hbefore⟩
    exact ⟨before, column, after, hcolumns, ⟨hholds, hnull⟩, hbefore⟩

theorem Decides.value?_eq (h : row.Decides column v) : row.value? = measure? v := by
  unfold value?
  rw [candidate?_eq_some_iff.2 ⟨column, h⟩, Option.bind_some]

end

end Row

/-- No bound lies on the wrong side of the value. -/
def Threshold.Admits (t : Threshold) (x : Float) : Prop :=
  (∀ lower, t.lower = some lower → ¬ x < lower) ∧ ∀ upper, t.upper = some upper → ¬ upper < x

theorem Threshold.contains_iff (t : Threshold) (x : Float) : t.contains x = true ↔ t.Admits x := by
  obtain ⟨lower, upper⟩ := t
  unfold contains Admits
  cases lower <;> cases upper <;> simp

/-- What a result says about a check for which a value was measured, or none. -/
structure Check.Judges (c : Check) (value : Option Float) (r : CheckResult) : Prop where
  checkName : r.checkName = c.name
  severity : r.severity = c.severity
  lower : r.lower = c.threshold.bind Threshold.lower
  upper : r.upper = c.threshold.bind Threshold.upper
  measured : r.value = value
  error_iff : r.status = .error ↔ value = none
  pass_iff : r.status = .pass ↔ ∃ x, value = some x ∧ ∀ t, c.threshold = some t → t.Admits x
  fail_iff : r.status = .fail ↔ ∃ x, value = some x ∧ ∃ t, c.threshold = some t ∧ ¬ t.Admits x

namespace Check

theorem effectiveThreshold_contains_iff (c : Check) (x : Float) :
    c.effectiveThreshold.contains x = true ↔ ∀ t, c.threshold = some t → t.Admits x := by
  unfold effectiveThreshold
  cases c.threshold with
  | none => simp [Threshold.contains, Threshold.unbounded]
  | some t => simp [Threshold.contains_iff]

theorem judges_result (c : Check) (value : Option Float) : c.Judges value (c.result value) := by
  have hlower : c.effectiveThreshold.lower = c.threshold.bind Threshold.lower := by
    unfold effectiveThreshold
    cases c.threshold <;> rfl
  have hupper : c.effectiveThreshold.upper = c.threshold.bind Threshold.upper := by
    unfold effectiveThreshold
    cases c.threshold <;> rfl
  cases value with
  | none =>
    constructor
    case lower => exact hlower
    case upper => exact hupper
    all_goals simp [result]
  | some x =>
    have hwithin := c.effectiveThreshold_contains_iff x
    have houtside : ¬ c.effectiveThreshold.contains x = true
        ↔ ∃ t, c.threshold = some t ∧ ¬ t.Admits x := by
      rw [hwithin]
      simp
    constructor
    case lower => exact hlower
    case upper => exact hupper
    case pass_iff =>
      simp only [Option.some.injEq, exists_eq_left', ← hwithin]
      unfold result
      dsimp only
      split <;> simp_all
    case fail_iff =>
      simp only [Option.some.injEq, exists_eq_left', ← houtside]
      unfold result
      dsimp only
      split <;> simp_all
    case error_iff =>
      unfold result
      dsimp only
      split <;> simp
    all_goals rfl

end Check

namespace Suite

variable (s : Suite)

def warnings (events : List Log.Event) : List Log.Event := events.filter (·.level = .warn)

theorem level_of_classifyRow_eq_error {s : Suite} {row : Row} {event : Log.Event}
    (h : s.classifyRow row = .error event) : event.level = .warn := by
  unfold classifyRow at h
  split at h
  . cases h
    rfl
  . split at h
    . cases h
      rfl
    . cases h

theorem classifyRow_of_check {row : Row} {c : Check} (hc : c ∈ s.checks)
    (hrow : row.find? "check_name" = some (.string c.name)) :
    s.classifyRow row = .ok (c.result row.value?) := by
  rw [s.classifyRow_eq_ok_iff]
  exact ⟨c, hc, Row.checkName?_eq_some_iff.2 hrow, rfl⟩

theorem classifyRow_of_no_check {row : Row}
    (h : ∀ c ∈ s.checks, row.find? "check_name" ≠ some (.string c.name)) :
    ∃ event, s.classifyRow row = .error event := by
  cases hrow : s.classifyRow row with
  | error event => exact ⟨event, rfl⟩
  | ok r =>
    obtain ⟨c, hc, hname, _⟩ := s.classifyRow_eq_ok_iff.1 hrow
    exact absurd (Row.checkName?_eq_some_iff.1 hname) (h c hc)

/-- The event that tells a result is optional, and it is no warning. -/
theorem warnings_classifyEvents_of_ok {row : Row} {r : CheckResult}
    (h : s.classifyRow row = .ok r) (settings : Log.Settings) :
    warnings (s.classifyEvents settings [row]) = [] := by
  unfold classifyEvents warnings
  rw [List.filterMap_cons, h]
  cases settings.rows <;> simp [resultEvent]

theorem classifyEvents_of_error {row : Row} {event : Log.Event}
    (h : s.classifyRow row = .error event) (settings : Log.Settings) :
    s.classifyEvents settings [row] = [event] := by
  unfold classifyEvents
  rw [List.filterMap_cons, h]
  rfl

theorem classify_of_ok {row : Row} {r : CheckResult} (h : s.classifyRow row = .ok r) :
    s.classify [row] = [r] := by
  unfold classify
  rw [List.filterMap_cons, h]
  rfl

theorem classify_of_error {row : Row} {event : Log.Event} (h : s.classifyRow row = .error event) :
    s.classify [row] = [] := by
  unfold classify
  rw [List.filterMap_cons, h]
  rfl

theorem classify_append (rows more : List Row) :
    s.classify (rows ++ more) = s.classify rows ++ s.classify more := by
  unfold classify
  rw [List.filterMap_append]

theorem classifyEvents_append (settings : Log.Settings) (rows more : List Row) :
    s.classifyEvents settings (rows ++ more)
      =
    s.classifyEvents settings rows ++ s.classifyEvents settings more := by
  unfold classifyEvents
  rw [List.filterMap_append]

theorem length_classify_add_warnings (settings : Log.Settings) (rows : List Row) :
    (s.classify rows).length + (warnings (s.classifyEvents settings rows)).length
      =
    rows.length := by
  induction rows with
  | nil => rfl
  | cons row rest ih =>
    have hclassify := s.classify_append [row] rest
    have hevents := s.classifyEvents_append settings [row] rest
    rw [List.singleton_append] at hclassify hevents
    have hone : (s.classify [row]).length
        + (warnings (s.classifyEvents settings [row])).length = 1 := by
      cases hrow : s.classifyRow row with
      | ok r =>
        rw [s.classify_of_ok hrow, s.warnings_classifyEvents_of_ok hrow]
        rfl
      | error event =>
        rw [s.classify_of_error hrow, s.classifyEvents_of_error hrow]
        simp [warnings, level_of_classifyRow_eq_error hrow]
    rw [hclassify, hevents]
    unfold warnings at *
    rw [List.filter_append, List.length_append, List.length_append, List.length_cons]
    omega

theorem classifyRow_of_same_value {row row' : Row}
    (hname : row.find? "check_name" = row'.find? "check_name") (hvalue : row.value? = row'.value?) :
    s.classifyRow row = s.classifyRow row' := by
  unfold classifyRow
  rw [hname, hvalue]

/-- What a classification makes of rows, one by one and in order. -/
structure Accounts (s : Suite) (settings : Log.Settings) : Prop where
  rowwise : ∀ rows, s.classify rows = rows.flatMap fun row => s.classify [row]
  append : ∀ rows more, s.classify (rows ++ more) = s.classify rows ++ s.classify more
  eventsRowwise : ∀ rows,
    s.classifyEvents settings rows = rows.flatMap fun row => s.classifyEvents settings [row]
  total : ∀ rows, (s.classify rows).length
    + (warnings (s.classifyEvents settings rows)).length = rows.length
  named : ∀ row, ∀ c ∈ s.checks, row.find? "check_name" = some (.string c.name) →
    (∃ r, s.classify [row] = [r] ∧ c.Judges row.value? r)
      ∧ warnings (s.classifyEvents settings [row]) = []
      ∧ ∀ c' ∈ s.checks, c'.name = c.name → c' = c
  unnamed : ∀ row, (∀ c ∈ s.checks, row.find? "check_name" ≠ some (.string c.name)) →
    s.classify [row] = [] ∧ ∃ event, s.classifyEvents settings [row] = [event]
      ∧ event.level = .warn
  decided : ∀ row row' column v, row.Decides column v → row'.Decides column v →
    row.value? = row'.value?
      ∧ (row.find? "check_name" = row'.find? "check_name" →
        s.classify [row] = s.classify [row'])

theorem classify_accounts (s : Suite) (settings : Log.Settings) : s.Accounts settings := by
  have hrowwise (rows : List Row) :
      s.classify rows = rows.flatMap fun row => s.classify [row] := by
    induction rows with
    | nil => rfl
    | cons row rest ih =>
      rw [List.flatMap_cons, ← ih, ← s.classify_append, List.singleton_append]
  have heventsRowwise (rows : List Row) : s.classifyEvents settings rows
      = rows.flatMap fun row => s.classifyEvents settings [row] := by
    induction rows with
    | nil => rfl
    | cons row rest ih =>
      rw [List.flatMap_cons, ← ih, ← s.classifyEvents_append, List.singleton_append]
  constructor
  case rowwise => exact hrowwise
  case append => exact s.classify_append
  case eventsRowwise => exact heventsRowwise
  case total => exact s.length_classify_add_warnings settings
  case named =>
    intro row c hc hrow
    have hok := s.classifyRow_of_check hc hrow
    refine ⟨⟨_, s.classify_of_ok hok, c.judges_result _⟩,
      s.warnings_classifyEvents_of_ok hok settings, ?_⟩
    intro c' hc' hname
    have h := s.check?_eq_some_iff.2 ⟨hc, rfl⟩
    have h' := s.check?_eq_some_iff.2 ⟨hc', hname⟩
    rw [h, Option.some.injEq] at h'
    exact h'.symm
  case unnamed =>
    intro row hrow
    have ⟨event, herror⟩ := s.classifyRow_of_no_check hrow
    exact ⟨s.classify_of_error herror, event, s.classifyEvents_of_error herror settings,
      level_of_classifyRow_eq_error herror⟩
  case decided =>
    intro row row' column v h h'
    have hvalue : row.value? = row'.value? := by rw [h.value?_eq, h'.value?_eq]
    refine ⟨hvalue, ?_⟩
    intro hname
    unfold classify
    rw [List.filterMap_cons, List.filterMap_cons, s.classifyRow_of_same_value hname hvalue]

end Suite
end DataQuality
