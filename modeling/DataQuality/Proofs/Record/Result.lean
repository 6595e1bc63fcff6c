import DataQuality.Export.Csv
import DataQuality.Proofs.Dict
import DataQuality.Proofs.Json.Number
import DataQuality.Proofs.Outcome

/-!
Results against their flat records. What is written reads back as the result without those of its
numbers that are not finite, whatever other columns stand beside it, and a result that was read from
a record is read again from its own.
-/

namespace DataQuality

open Json (Value Number)

namespace CheckResult

/-- The result with nothing in place of each number that is not finite. -/
def withFinite (r : CheckResult) : CheckResult :=
  { r with
    value := r.value.filter Float.isFinite
    lower := r.lower.filter Float.isFinite
    upper := r.upper.filter Float.isFinite }

structure IsFinite (r : CheckResult) : Prop where
  value : ∀ x ∈ r.value, x.isFinite = true
  lower : ∀ x ∈ r.lower, x.isFinite = true
  upper : ∀ x ∈ r.upper, x.isFinite = true

theorem filter_isFinite_eq {x : Option Float} (h : ∀ y ∈ x, y.isFinite = true) :
    x.filter Float.isFinite = x := by
  cases x with
  | none => rfl
  | some y => exact Option.filter_some_pos (h y rfl)

theorem IsFinite.withFinite_eq {r : CheckResult} (h : r.IsFinite) : r.withFinite = r := by
  unfold withFinite
  rw [filter_isFinite_eq h.value, filter_isFinite_eq h.lower, filter_isFinite_eq h.upper]

/-- The columns of a record hold what is written for a result. -/
structure IsWrittenIn (record : Dict Value) (r : CheckResult) : Prop where
  checkName : record.find? "check_name" = some (.string r.checkName)
  status : record.find? "status" = some (.string r.status.text)
  severity : record.find? "severity" = some (.string r.severity.text)
  value : record.find? "value" = some (.ofFloat? r.value)
  lower : record.find? "threshold_lower" = some (.ofFloat? r.lower)
  upper : record.find? "threshold_upper" = some (.ofFloat? r.upper)
  message : record.find? "message" = some (.string r.message)

theorem isWrittenIn_toRecord (r : CheckResult) : IsWrittenIn r.toRecord r := by
  constructor <;> rfl

theorem IsWrittenIn.of_find?_eq {record record' : Dict Value} {r : CheckResult}
    (h : IsWrittenIn record r)
    (heq : ∀ column ∈ Export.resultColumns, record'.find? column = record.find? column) :
    IsWrittenIn record' r := by
  constructor
  . rw [heq _ (by decide), h.checkName]
  . rw [heq _ (by decide), h.status]
  . rw [heq _ (by decide), h.severity]
  . rw [heq _ (by decide), h.value]
  . rw [heq _ (by decide), h.lower]
  . rw [heq _ (by decide), h.upper]
  . rw [heq _ (by decide), h.message]

section Columns

variable {record : Dict Value} {column : String}

theorem choiceColumn_of_mem {variants : List String} {s : String} (h : s ∈ variants)
    (hfind : record.find? column = some (.string s)) :
    choiceColumn (.choice variants) column record = .ok (.string s) := by
  unfold choiceColumn
  rw [hfind]
  have hconform : Json.conform (.choice variants) (.string s) = .ok (.string s) := by
    unfold Json.conform Json.conformChoice Json.conformChoice.variant
    simp only
    rw [if_pos h]
    rfl
  simp only [hconform]
  rfl

theorem numberColumn_of_ofFloat? {x : Option Float}
    (h : record.find? column = some (.ofFloat? x)) :
    numberColumn column record = .ok (x.filter Float.isFinite) := by
  unfold numberColumn
  rw [h]
  cases x with
  | none => rfl
  | some y =>
    by_cases hfinite : y.isFinite = true
    . have hvalue : Value.ofFloat? (some y) = .number (.float y) := if_pos hfinite
      rw [hvalue, Option.filter_some_pos hfinite]
      rfl
    . have hvalue : Value.ofFloat? (some y) = .null := if_neg hfinite
      rw [hvalue, Option.filter_some_neg (Bool.eq_false_iff.2 hfinite)]
      rfl

theorem isFinite_of_numberColumn (hrange : ∀ n, (column, .number n) ∈ record → n.InRange)
    {x : Option Float} (h : numberColumn column record = .ok x) :
    ∀ y ∈ x, y.isFinite = true := by
  unfold numberColumn at h
  split at h
  . cases h
    rintro y ⟨⟩
  . cases h
    rintro y ⟨⟩
  . next n hfind =>
    cases h
    rintro y ⟨⟩
    exact Number.isFinite_toFloat (hrange n (Dict.mem_of_find? hfind))
  . cases h

end Columns

theorem IsWrittenIn.ofRecord_eq {record : Dict Value} {r : CheckResult}
    (h : IsWrittenIn record r) : ofRecord record = .ok r.withFinite := by
  have hstatus : choiceColumn CheckStatus.shape "status" record = .ok (.string r.status.text) := by
    apply choiceColumn_of_mem _ h.status
    exact List.mem_map_of_mem (by cases r.status <;> decide)
  have hseverity :
      choiceColumn Severity.shape "severity" record = .ok (.string r.severity.text) := by
    apply choiceColumn_of_mem _ h.severity
    exact List.mem_map_of_mem (by cases r.severity <;> decide)
  have hname : (record.find? "check_name").bind Value.string? = some r.checkName := by
    rw [h.checkName]
    rfl
  have hmessage : (record.find? "message").bind Value.string? = some r.message := by
    rw [h.message]
    rfl
  unfold ofRecord
  rw [hname, hmessage, hstatus, hseverity, numberColumn_of_ofFloat? h.value,
    numberColumn_of_ofFloat? h.lower, numberColumn_of_ofFloat? h.upper]
  have hstatusOf : statusOf (.string r.status.text) = r.status := by
    change (CheckStatus.ofText? r.status.text).getD default = _
    rw [CheckStatus.ofText?_text]
    rfl
  have hseverityOf : severityOf (.string r.severity.text) = r.severity := by
    change (Severity.ofText? r.severity.text).getD default = _
    rw [Severity.ofText?_text]
    rfl
  change Except.ok _ = Except.ok _
  rw [hstatusOf, hseverityOf]
  rfl

/-- The numbers of a record are numbers that a document can hold. -/
def NumbersInRange (record : Dict Value) : Prop :=
  ∀ column n, (column, .number n) ∈ record → n.InRange

theorem isFinite_of_ofRecord {record : Dict Value} (hrange : NumbersInRange record)
    {r : CheckResult} (h : ofRecord record = .ok r) : r.IsFinite := by
  unfold ofRecord at h
  split at h
  . simp only [Outcome.bind_eq_ok_iff] at h
    obtain ⟨_, _, _, _, _, _, value, hvalue, lower, hlower, upper, hupper, h⟩ := h
    cases h
    constructor
    case value => exact isFinite_of_numberColumn (hrange "value") hvalue
    case lower => exact isFinite_of_numberColumn (hrange "threshold_lower") hlower
    case upper => exact isFinite_of_numberColumn (hrange "threshold_upper") hupper
  . cases h

theorem record_roundTrips :
    (∀ (r : CheckResult) (further : Dict Value),
      (∀ column ∈ further.keys, column ∉ Export.resultColumns) →
        ofRecord (r.toRecord.overlay further) = .ok r.withFinite
          ∧ (r.IsFinite → ofRecord (r.toRecord.overlay further) = .ok r))
      ∧
    ∀ record : Dict Value, NumbersInRange record →
      ∀ r, ofRecord record = .ok r → ofRecord r.toRecord = .ok r := by
  constructor
  . intro r further hfurther
    have hwritten : IsWrittenIn (r.toRecord.overlay further) r := by
      apply (isWrittenIn_toRecord r).of_find?_eq
      intro column hcolumn
      apply Dict.find?_overlay_of_absent
      by_contra hfound
      exact hfurther column (Dict.mem_keys_iff.2 hfound) hcolumn
    refine ⟨hwritten.ofRecord_eq, ?_⟩
    intro hfinite
    rw [hwritten.ofRecord_eq, hfinite.withFinite_eq]
  . intro record hrange r hread
    have hfinite := isFinite_of_ofRecord hrange hread
    rw [(isWrittenIn_toRecord r).ofRecord_eq, hfinite.withFinite_eq]

end CheckResult

namespace Sample

/-- A result whose value is infinite. -/
def overflowed : CheckResult where
  checkName := "rows"
  status := .fail
  severity := .critical
  message := "too many"
  value := some (.ofBits 0x7FF0000000000000)
  lower := some (.ofBits 0x3FF0000000000000)
  upper := none

/-- A record without a message, with a whole number as its value. -/
def rewritten : Dict Value :=
  [("check_name", .string "rows"), ("status", .object [("PASS", .null)]),
    ("severity", .string "WARN"), ("value", .int 3)]

theorem overflowed_roundTrips :
    CheckResult.ofRecord (overflowed.toRecord.overlay [("suite", .string "orders")])
        = .ok { overflowed with value := none }
      ∧ ∃ r, CheckResult.ofRecord rewritten = .ok r ∧ r.status = .pass ∧ r.message = ""
        ∧ CheckResult.ofRecord r.toRecord = .ok r := by
  obtain ⟨hwritten, hread⟩ := CheckResult.record_roundTrips
  constructor
  . have hfurther : ∀ column ∈ Dict.keys [("suite", Value.string "orders")],
        column ∉ Export.resultColumns := by decide
    obtain ⟨hresult, _⟩ := hwritten overflowed _ hfurther
    exact hresult
  . have hrange : CheckResult.NumbersInRange rewritten := by
      intro column n hmem
      obtain ⟨_, rfl⟩ : column = "value" ∧ n = .int 3 := by
        simpa [rewritten, Value.int] using hmem
      exact ⟨by decide, by decide⟩
    have hpass : CheckResult.ofRecord rewritten
        = .ok ⟨"rows", .pass, .warn, "", some (Number.int 3).toFloat, none, none⟩ := by
      rfl
    exact ⟨_, hpass, rfl, rfl, hread rewritten hrange _ hpass⟩

end Sample
end DataQuality
