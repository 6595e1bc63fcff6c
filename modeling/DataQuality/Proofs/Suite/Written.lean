import DataQuality.Proofs.Json.Record
import DataQuality.Proofs.Record.Result
import DataQuality.Suite.Definition

/-!
Definitions of suites against the documents that are written for them. Main statement:
`SuiteDefinition.definition_roundTrips`.
-/

namespace DataQuality

open Json (Value Shape KeepsFields)

theorem Json.Value.float?_ofFloat? (x : Option Float) :
    (Value.ofFloat? x).float? = x.filter Float.isFinite := by
  cases x with
  | none => rfl
  | some y =>
    change (if y.isFinite = true then Value.number (.float y) else .null).float? = _
    split
    . next hfinite =>
      rw [Option.filter_some_pos hfinite]
      rfl
    . next hfinite =>
      rw [Option.filter_some_neg (Bool.eq_false_iff.2 hfinite)]
      rfl

theorem Json.Value.string?_getD (x : Option String) :
    ((x.map Value.string).getD .null).string? = x := by
  cases x with
  | none => rfl
  | some s => rfl

namespace Threshold

/-- The threshold with nothing in place of each bound that is not finite. -/
def withFinite (t : Threshold) : Threshold :=
  ⟨t.lower.filter Float.isFinite, t.upper.filter Float.isFinite⟩

structure IsFinite (t : Threshold) : Prop where
  lower : ∀ x ∈ t.lower, x.isFinite = true
  upper : ∀ x ∈ t.upper, x.isFinite = true

theorem IsFinite.withFinite_eq {t : Threshold} (h : t.IsFinite) : t.withFinite = t := by
  unfold withFinite
  rw [CheckResult.filter_isFinite_eq h.lower, CheckResult.filter_isFinite_eq h.upper]

def written (t : Threshold) : List (String × Option Value) :=
  [("value", none), ("lower", some (.ofFloat? t.lower)), ("upper", some (.ofFloat? t.upper))]

theorem keepsFields (t : Threshold) : KeepsFields shape.fields t.written :=
  .absent <| .bound (Shape.keeps_nullable_real _) <| .bound (Shape.keeps_nullable_real _) .nil

theorem keeps_toJson (t : Threshold) : shape.Keeps t.toJson :=
  t.keepsFields.keeps_record (by decide) _

theorem ofJson_toJson (t : Threshold) : ofJson t.toJson = t.withFinite := by
  have hfield {k : String} {v : Option Value} (hmem : (k, v) ∈ t.written) :
      t.toJson.field k = v.getD .null :=
    t.keepsFields.field_eq (by decide) hmem
  unfold ofJson withFinite
  rw [hfield (v := none) (by simp [written]),
    hfield (v := some (.ofFloat? t.lower)) (by simp [written]),
    hfield (v := some (.ofFloat? t.upper)) (by simp [written]), Option.getD_some, Option.getD_some,
    Value.float?_ofFloat?, Value.float?_ofFloat?]
  rfl

/-- Reads a threshold from a JSON value. -/
def ofValue (v : Value) : Except Json.DecodeError Threshold := do
  pure (ofJson (← Json.conform shape v))

theorem ofValue_toJson (t : Threshold) : ofValue t.toJson = .ok t.withFinite := by
  unfold ofValue
  rw [t.keeps_toJson, ← ofJson_toJson]
  rfl

/-- The numbers directly inside a value are numbers that a document can hold. -/
def NumbersInRange (v : Value) : Prop := ∀ n, .number n ∈ v.elements → n.InRange

theorem exists_of_conform_real {v : Value} {n : Json.Number}
    (h : Json.conform (.nullable .real) v = .ok (.number n)) :
    ∃ n', v = .number n' ∧ n = .float n'.toFloat := by
  unfold Json.conform at h
  split at h
  . cases h
  . unfold Json.conform at h
    cases v with
    | number n' =>
      cases h
      exact ⟨n', rfl, rfl⟩
    | _ => cases h

theorem isFinite_of_ofValue {v : Value} (hrange : NumbersInRange v) {t : Threshold}
    (h : ofValue v = .ok t) : t.IsFinite := by
  unfold ofValue at h
  rw [Outcome.bind_eq_ok_iff] at h
  obtain ⟨v', hconform, h⟩ := h
  cases h
  obtain ⟨read, rfl, hread⟩ := Json.exists_of_conform_record hconform
  have hbounds (k : String) : ∀ x ∈ ((Value.object read).field k).float?, x.isFinite = true := by
    change ∀ x ∈ ((Dict.find? k read).getD .null).float?, x.isFinite = true
    cases hfind : Dict.find? k read with
    | none => nofun
    | some bound =>
      obtain ⟨field, hfield, w, hw, heq⟩ := hread _ (Dict.mem_of_find? hfind)
      have hshapes : ∀ field ∈ shape.fields, field.2.2 = .nullable .real := by
        simp [shape, Shape.fields]
      rw [hshapes field hfield] at heq
      cases bound with
      | number n =>
        obtain ⟨n', rfl, rfl⟩ := exists_of_conform_real heq
        rintro x ⟨⟩
        change n'.toFloat.isFinite = true
        exact Json.Number.isFinite_toFloat (hrange n' hw)
      | _ => nofun
  unfold ofJson
  split
  . next x hvalue =>
    have hbound := hbounds "value"
    rw [hvalue] at hbound
    exact ⟨hbound, hbound⟩
  . exact ⟨hbounds "lower", hbounds "upper"⟩

end Threshold

namespace DataSource

def written (s : DataSource) : List (String × Option Value) :=
  [("type", some (.string s.kind.text)), ("table", s.table.map .string),
   ("query", s.query.map .string), ("description", s.description.map .string)]

theorem keepsFields (s : DataSource) : KeepsFields shape.fields s.written := by
  have hkind : s.kind.text ∈ SourceKind.all.map SourceKind.text :=
    List.mem_map_of_mem (by cases s.kind <;> decide)
  exact .bound (Shape.keeps_choice hkind) <| .optionalText s.table <| .optionalText s.query <|
    .optionalText s.description .nil

theorem keeps_toJson (s : DataSource) : shape.Keeps s.toJson :=
  s.keepsFields.keeps_record (by decide) _

theorem ofJson_toJson (s : DataSource) : ofJson s.toJson = s := by
  have hfield {k : String} {v : Option Value} (hmem : (k, v) ∈ s.written) :
      s.toJson.field k = v.getD .null :=
    s.keepsFields.field_eq (by decide) hmem
  unfold ofJson Value.text?
  rw [hfield (v := some (.string s.kind.text)) (by simp [written]),
    hfield (v := s.table.map .string) (by simp [written]),
    hfield (v := s.query.map .string) (by simp [written]),
    hfield (v := s.description.map .string) (by simp [written]),
    Value.string?_getD, Value.string?_getD, Value.string?_getD]
  change DataSource.mk ((SourceKind.ofText? s.kind.text).getD default) _ _ _ = _
  rw [SourceKind.ofText?_text]
  rfl

end DataSource

namespace CheckDefinition

def withFinite (c : CheckDefinition) : CheckDefinition :=
  { c with threshold := c.threshold.map Threshold.withFinite }

def IsFinite (c : CheckDefinition) : Prop := ∀ t ∈ c.threshold, t.IsFinite

theorem IsFinite.withFinite_eq {c : CheckDefinition} (h : c.IsFinite) : c.withFinite = c := by
  have hthreshold : c.threshold.map Threshold.withFinite = c.threshold := by
    cases hc : c.threshold with
    | none => rfl
    | some t => rw [Option.map_some, (h t hc).withFinite_eq]
  unfold withFinite
  rw [hthreshold]

def written (c : CheckDefinition) : List (String × Option Value) :=
  [("name", some (.string c.name)), ("description", c.description.map .string),
   ("rule", some (.string c.rule)), ("rule_params", some (.object c.ruleParams)),
   ("column_name", c.column.map .string), ("params", some (.object c.params)),
   ("severity", some (.string c.severity.text)), ("threshold", c.threshold.map Threshold.toJson)]

theorem keepsFields (c : CheckDefinition) : KeepsFields shape.fields c.written := by
  have hseverity : c.severity.text ∈ Severity.all.map Severity.text :=
    List.mem_map_of_mem (by cases c.severity <;> decide)
  exact .bound (Shape.keeps_text c.name) <| .optionalText c.description <|
    .bound (Shape.keeps_text c.rule) <| .bound (Shape.keeps_params c.ruleParams) <|
    .optionalText c.column <| .bound (Shape.keeps_params c.params) <|
    .bound (Shape.keeps_choice hseverity) <|
    .optional (fun t _ => t.keeps_toJson.nullable) .nil

theorem keeps_toJson (c : CheckDefinition) : shape.Keeps c.toJson :=
  c.keepsFields.keeps_record (by decide) _

theorem threshold_getD (x : Option Threshold) :
    (if ((x.map Threshold.toJson).getD .null).isNull = true then none
      else some (Threshold.ofJson ((x.map Threshold.toJson).getD .null)))
      =
    x.map Threshold.withFinite := by
  cases x with
  | none => rfl
  | some t =>
    rw [Option.map_some, Option.getD_some, Threshold.ofJson_toJson]
    rfl

theorem ofJson_toJson (c : CheckDefinition) : ofJson c.toJson = c.withFinite := by
  have hfield {k : String} {v : Option Value} (hmem : (k, v) ∈ c.written) :
      c.toJson.field k = v.getD .null :=
    c.keepsFields.field_eq (by decide) hmem
  unfold ofJson Value.text? Value.textAt
  rw [hfield (v := some (.string c.name)) (by simp [written]),
    hfield (v := c.description.map .string) (by simp [written]),
    hfield (v := some (.string c.rule)) (by simp [written]),
    hfield (v := some (.object c.ruleParams)) (by simp [written]),
    hfield (v := c.column.map .string) (by simp [written]),
    hfield (v := some (.object c.params)) (by simp [written]),
    hfield (v := some (.string c.severity.text)) (by simp [written]),
    hfield (v := c.threshold.map Threshold.toJson) (by simp [written]),
    Value.string?_getD, Value.string?_getD, threshold_getD]
  have hseverity : (((some (Value.string c.severity.text)).getD .null).string?.bind
      Severity.ofText?).getD default = c.severity := by
    change (Severity.ofText? c.severity.text).getD default = _
    rw [Severity.ofText?_text]
    rfl
  rw [hseverity]
  rfl

end CheckDefinition

namespace SuiteDefinition

def withFinite (d : SuiteDefinition) : SuiteDefinition :=
  { d with checks := d.checks.map CheckDefinition.withFinite }

def IsFinite (d : SuiteDefinition) : Prop := ∀ c ∈ d.checks, c.IsFinite

theorem IsFinite.withFinite_eq {d : SuiteDefinition} (h : d.IsFinite) : d.withFinite = d := by
  have hchecks : d.checks.map CheckDefinition.withFinite = d.checks := by
    rw [List.map_congr_left fun c hc => (h c hc).withFinite_eq, List.map_id']
  unfold withFinite
  rw [hchecks]

def written (d : SuiteDefinition) : List (String × Option Value) :=
  [("name", some (.string d.name)), ("domain", d.domain.map .string),
   ("owner", d.owner.map .string), ("data_source", some d.source.toJson),
   ("params", some (.object d.params)),
   ("checks", some (.array (d.checks.map CheckDefinition.toJson))),
   ("tags", some (.object (d.tags.mapValues .string)))]

theorem keepsFields (d : SuiteDefinition) : KeepsFields shape.fields d.written := by
  have hchecks : (Shape.sequence CheckDefinition.shape).Keeps
      (.array (d.checks.map CheckDefinition.toJson)) := by
    apply Shape.keeps_sequence
    rw [List.forall_mem_map]
    exact fun c _ => c.keeps_toJson
  have htags : (Shape.dictionary .text).Keeps (.object (d.tags.mapValues .string)) := by
    apply Shape.keeps_dictionary
    unfold Dict.mapValues
    rw [List.forall_mem_map]
    exact fun e _ => Shape.keeps_text e.2
  exact .bound (Shape.keeps_text d.name) <| .optionalText d.domain <| .optionalText d.owner <|
    .bound d.source.keeps_toJson <| .bound (Shape.keeps_params d.params) <| .bound hchecks <|
    .bound htags .nil

theorem keeps_toJson (d : SuiteDefinition) : shape.Keeps d.toJson :=
  d.keepsFields.keeps_record (by decide) _

theorem tags_entries (tags : Dict String) :
    ((tags.mapValues Value.string).filterMap fun (key, v) => v.string?.map fun s => (key, s))
      =
    tags := by
  unfold Dict.mapValues
  rw [List.filterMap_map]
  exact List.filterMap_some

theorem ofJson_toJson (d : SuiteDefinition) : ofJson d.toJson = d.withFinite := by
  have hfield {k : String} {v : Option Value} (hmem : (k, v) ∈ d.written) :
      d.toJson.field k = v.getD .null :=
    d.keepsFields.field_eq (by decide) hmem
  have hchecks : (d.checks.map CheckDefinition.toJson).map CheckDefinition.ofJson
      = d.checks.map CheckDefinition.withFinite := by
    rw [List.map_map]
    exact List.map_congr_left fun c _ => c.ofJson_toJson
  unfold ofJson Value.text? Value.textAt
  rw [hfield (v := some (.string d.name)) (by simp [written]),
    hfield (v := d.domain.map .string) (by simp [written]),
    hfield (v := d.owner.map .string) (by simp [written]),
    hfield (v := some d.source.toJson) (by simp [written]),
    hfield (v := some (.object d.params)) (by simp [written]),
    hfield (v := some (.array (d.checks.map CheckDefinition.toJson))) (by simp [written]),
    hfield (v := some (.object (d.tags.mapValues .string))) (by simp [written]),
    Value.string?_getD, Value.string?_getD, Option.getD_some, Option.getD_some, Option.getD_some,
    Option.getD_some, Option.getD_some, DataSource.ofJson_toJson]
  change SuiteDefinition.mk d.name _ _ _ _ ((d.checks.map CheckDefinition.toJson).map .ofJson)
    ((d.tags.mapValues Value.string).filterMap _) = _
  rw [hchecks, tags_entries]
  rfl

theorem ofValue_toJson (d : SuiteDefinition) : ofValue d.toJson = .ok d.withFinite := by
  unfold ofValue
  rw [d.keeps_toJson, ← ofJson_toJson]
  rfl

theorem definition_roundTrips :
    (∀ d : SuiteDefinition, ofValue d.toJson = .ok d.withFinite
        ∧ (d.IsFinite → ofValue d.toJson = .ok d))
      ∧
    (∀ t : Threshold, t.IsFinite → Threshold.ofValue t.toJson = .ok t)
      ∧
    ∀ (v : Value) (t : Threshold), Threshold.NumbersInRange v → Threshold.ofValue v = .ok t →
      Threshold.ofValue t.toJson = .ok t := by
  have hthreshold (t : Threshold) (h : t.IsFinite) : Threshold.ofValue t.toJson = .ok t := by
    rw [Threshold.ofValue_toJson, h.withFinite_eq]
  refine ⟨fun d => ⟨d.ofValue_toJson, fun h => ?_⟩, hthreshold, ?_⟩
  . rw [ofValue_toJson, h.withFinite_eq]
  . intro v t hrange hread
    exact hthreshold t (Threshold.isFinite_of_ofValue hrange hread)

end SuiteDefinition

namespace Sample

/-- A definition with a threshold that stands for one value, and with a check that has none. -/
def declared : SuiteDefinition where
  name := "orders"
  domain := none
  owner := some "data-platform"
  source := .ofTable "shop.orders"
  params := []
  checks :=
    [{ name := "id_not_null", description := none, rule := "not_null", ruleParams := [],
       column := some "id", params := [], severity := .critical, threshold := some (.exact 0) },
     { name := "statuses", description := some "known ones", rule := "accepted_values",
       ruleParams := [("accepted_values", .strings ["new", "paid"])], column := some "status",
       params := [], severity := .error, threshold := none }]
  tags := [("tier", "gold")]

theorem declared_roundTrips :
    declared.IsFinite
      ∧ SuiteDefinition.ofValue declared.toJson = .ok declared
      ∧ ∃ t, Threshold.ofValue (.object [("value", .int 3)]) = .ok t
        ∧ t.lower = some (Json.Number.int 3).toFloat ∧ t.upper = some (Json.Number.int 3).toFloat
        ∧ Threshold.ofValue t.toJson = .ok t := by
  obtain ⟨hdefinition, _, hread⟩ := SuiteDefinition.definition_roundTrips
  have hfinite : declared.IsFinite := by
    have hzero : Threshold.IsFinite (.exact 0) := by
      constructor <;>
      . rintro x ⟨⟩
        decide +kernel
    unfold SuiteDefinition.IsFinite declared
    rw [List.forall_mem_cons, List.forall_mem_singleton]
    constructor
    . rintro t ⟨⟩
      exact hzero
    . rintro t ⟨⟩
  have hshorthand : Threshold.ofValue (.object [("value", .int 3)])
      = .ok (.exact (Json.Number.int 3).toFloat) := by
    rfl
  refine ⟨hfinite, (hdefinition declared).2 hfinite, _, hshorthand, rfl, rfl, ?_⟩
  refine hread (.object [("value", .int 3)]) _ ?_ hshorthand
  intro n hmem
  obtain rfl : n = .int 3 := by simpa [Value.elements, Value.int] using hmem
  exact ⟨by decide, by decide⟩

end Sample

end DataQuality
