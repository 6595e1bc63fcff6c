import DataQuality.Proofs.Template.Unresolved
import DataQuality.Rule.Basic

/-!
Parameters that a rule is said to miss. Required parameters have to have content; other variables of
the template only have to have a value. Both are looked for before the template is read. Main
statement: `Rule.render_reportsMissing`.
-/

namespace DataQuality
namespace Rule

open Json (Value)
open Template (freeNames)

/-- What a parameter stands for: the given value, or the default of the rule if there is none. -/
def effective (r : Rule) (extra : Dict Value) (name : String) : Option Value :=
  (extra.find? name).or (r.defaults.find? name)

/-- What does not count as given for a required parameter. -/
inductive LacksContent : Option Value → Prop
  | absent : LacksContent none
  | null : LacksContent (some .null)
  | emptyText : LacksContent (some (.string ""))
  | emptyList : LacksContent (some (.array []))

/-- What does not count as given for a variable. -/
inductive LacksValue : Option Value → Prop
  | absent : LacksValue none
  | null : LacksValue (some .null)

/-- What is false as a condition, but given. -/
inductive IsBare : Value → Prop
  | zero : IsBare (.number (.int 0))
  | zeroFloat {x : Float} (h : (x == 0) = true) : IsBare (.number (.float x))
  | false : IsBare (.bool false)
  | emptyObject : IsBare (.object [])

theorem isGiven_eq_false_iff {v : Option Value} : isGiven v = false ↔ LacksContent v := by
  constructor
  . intro h
    cases v with
    | none => exact .absent
    | some a =>
      cases a with
      | null => exact .null
      | string s =>
        have hs : s = "" := by simpa [isGiven] using h
        rw [hs]
        exact .emptyText
      | array items =>
        have hitems : items = [] := by simpa [isGiven] using h
        rw [hitems]
        exact .emptyList
      | _ => cases h
  . intro h
    cases h <;> rfl

instance (v : Option Value) : Decidable (LacksContent v) :=
  decidable_of_iff (isGiven v = false) isGiven_eq_false_iff

theorem IsBare.not_lacksContent {v : Value} (h : IsBare v) : ¬ LacksContent (some v) := by
  intro hlacks
  cases hlacks <;> cases h

theorem IsBare.not_lacksValue {v : Value} (h : IsBare v) : ¬ LacksValue (some v) := by
  intro hlacks
  cases hlacks
  cases h

theorem effective_of_given {r : Rule} {extra : Dict Value} {name : String} {v : Value}
    (hv : extra.find? name = some v) : r.effective extra name = some v := by
  unfold effective
  rw [hv, Option.some_or]

section

variable {r : Rule} {extra : Dict Value} (h : extra.Sorted)

include h

theorem find?_merged_eq_effective (name : String) :
    (r.merged extra).find? name = r.effective extra name :=
  Dict.find?_overlay h name r.defaults

theorem missing_merged :
    r.missing (r.merged extra)
      =
    r.definition.required.filter fun name => LacksContent (r.effective extra name) := by
  unfold missing
  apply List.filter_congr
  intro name _
  rw [find?_merged_eq_effective h, Bool.eq_iff_iff, Bool.not_eq_true', isGiven_eq_false_iff,
    decide_eq_true_eq]

theorem absent_merged_iff {name : String} :
    Template.Absent (r.merged extra) name ↔ LacksValue (r.effective extra name) := by
  unfold Template.Absent
  rw [find?_merged_eq_effective h]
  constructor
  . rintro (hnone | hnull)
    . rw [hnone]
      exact .absent
    . rw [hnull]
      exact .null
  . generalize r.effective extra name = v
    rintro (_ | _)
    . exact .inl rfl
    . exact .inr rfl

theorem missing_merged_eq_nil_iff :
    r.missing (r.merged extra) = []
      ↔
    ∀ name ∈ r.definition.required, ¬ LacksContent (r.effective extra name) := by
  rw [missing_merged h, List.filter_eq_nil_iff]
  simp only [decide_eq_true_eq]

end

theorem render_of_missing {r : Rule} {extra : Dict Value} (h : r.missing (r.merged extra) ≠ []) :
    r.render extra = .error (.missingParameter r.name (r.missing (r.merged extra))) := by
  unfold render
  dsimp only
  split
  . next hnil => exact absurd hnil h
  . rfl

theorem render_of_not_missing {r : Rule} {extra : Dict Value}
    (h : r.missing (r.merged extra) = []) :
    r.render extra = Template.render r.name r.definition.template (r.merged extra) := by
  unfold render
  dsimp only
  rw [h]

theorem render_eq_ok_iff {r : Rule} {extra : Dict Value} {query : String} :
    r.render extra = .ok query
      ↔
    r.missing (r.merged extra) = []
      ∧ Template.render r.name r.definition.template (r.merged extra) = .ok query := by
  unfold render
  dsimp only
  cases r.missing (r.merged extra) with
  | nil => simp
  | cons name rest => simp [throw, throwThe, MonadExceptOf.throw]

theorem exists_of_missing_eq_nil {r : Rule} {params : Dict Value}
    (h : r.missing params = []) {key : String} (hkey : key ∈ r.definition.required) :
    ∃ v, params.find? key = some v := by
  unfold missing at h
  rw [List.filter_eq_nil_iff] at h
  have hgiven := h key hkey
  cases hv : params.find? key with
  | none =>
    rw [hv] at hgiven
    exact absurd rfl hgiven
  | some v => exact ⟨v, rfl⟩

/-- The parameters that are reported before the template of a rule is read. -/
structure ReportsMissing (r : Rule) (extra : Dict Value) : Prop where
  /-- Required parameters are reported in the order and as often as they are declared. -/
  required : (∃ name ∈ r.definition.required, LacksContent (r.effective extra name)) →
    r.render extra = .error (.missingParameter r.name
      (r.definition.required.filter fun name => LacksContent (r.effective extra name)))
  /-- If there are none, variables of the template are reported in order, each once. -/
  referenced : (∀ name ∈ r.definition.required, ¬ LacksContent (r.effective extra name)) →
    (∃ name ∈ freeNames r.definition.template, LacksValue (r.effective extra name)) →
      ∃ names, r.render extra = .error (.missingParameter r.name names)
        ∧ names.Pairwise (fun v w => Text.bytes v < Text.bytes w)
        ∧ ∀ name, name ∈ names
            ↔
          name ∈ freeNames r.definition.template ∧ LacksValue (r.effective extra name)
  /-- If there are none either, the template is rendered. -/
  nothing : (∀ name ∈ r.definition.required, ¬ LacksContent (r.effective extra name)) →
    (∀ name ∈ freeNames r.definition.template, ¬ LacksValue (r.effective extra name)) →
      r.render extra
        =
      (Template.renderText r.name r.definition.template (r.merged extra) >>= fun text =>
        if Template.hasMark text.toList then
          .error (.missingParameter r.name (Template.residue text.toList))
        else
          .ok text)
  /-- No parameter with a value that is merely false is reported. -/
  bare : ∀ name v, r.effective extra name = some v → IsBare v →
    name ∉ r.missing (r.merged extra)
      ∧ name ∉ Template.unresolved r.definition.template (r.merged extra)

theorem render_reportsMissing (r : Rule) (extra : Dict Value) (h : extra.Sorted) :
    r.ReportsMissing extra := by
  constructor
  case required =>
    rintro ⟨name, hname, hlacks⟩
    rw [← missing_merged h]
    apply render_of_missing
    intro hnil
    exact (missing_merged_eq_nil_iff h).1 hnil name hname hlacks
  case referenced =>
    rintro hrequired ⟨name, hname, hlacks⟩
    have hmem (name : String) :
        name ∈ Template.unresolved r.definition.template (r.merged extra)
          ↔
        name ∈ freeNames r.definition.template ∧ LacksValue (r.effective extra name) := by
      rw [Template.mem_unresolved, absent_merged_iff h]
    refine ⟨_, ?_, Template.pairwise_unresolved _ _, hmem⟩
    rw [render_of_not_missing ((missing_merged_eq_nil_iff h).2 hrequired)]
    apply Template.render_of_unresolved
    exact List.ne_nil_of_mem ((hmem name).2 ⟨hname, hlacks⟩)
  case nothing =>
    intro hrequired hreferenced
    rw [render_of_not_missing ((missing_merged_eq_nil_iff h).2 hrequired)]
    apply Template.render_of_resolved
    rw [Template.unresolved_eq_nil_iff]
    intro name hname habsent
    exact hreferenced name hname ((absent_merged_iff h).1 habsent)
  case bare =>
    intro name v hv hbare
    constructor
    . intro hmem
      rw [missing_merged h, List.mem_filter, decide_eq_true_eq, hv] at hmem
      exact hbare.not_lacksContent hmem.2
    . intro hmem
      rw [Template.mem_unresolved, absent_merged_iff h, hv] at hmem
      exact hbare.not_lacksValue hmem.2

namespace Sample

/-- A rule whose template has no form, with a parameter that is declared twice. -/
def unreadable : Rule where
  definition :=
    { name := "span"
      description := ""
      template := "\x7b\x7b zone \x7d\x7d\x7b% if %\x7d\x7b\x7b low \x7d\x7d\x7b\x7b day \x7d\x7d"
      required := ["low", "high", "low", "day"] }
  defaults := Dict.ofEntries [("day", .int 0), ("low", .int 1)]
  sorted := Dict.sorted_ofEntries _

def emptied : Dict Value :=
  Dict.ofEntries [("high", .array []), ("low", .string ""), ("zone", .null)]

def filled : Dict Value := Dict.ofEntries [("high", .bool false), ("zone", .null)]

theorem unreadable_reportsMissing :
    Template.parse? unreadable.definition.template = none
      ∧ unreadable.render emptied = .error (.missingParameter "span" ["low", "high", "low"])
      ∧ unreadable.ReportsMissing emptied ∧ unreadable.ReportsMissing filled := by
  have hform : (Template.parse? unreadable.definition.template).isNone = true := by
    decide +kernel
  have hemptied := render_reportsMissing unreadable emptied (by decide)
  have hfilled := render_reportsMissing unreadable filled (by decide)
  exact ⟨Option.isNone_iff_eq_none.1 hform, hemptied.required ⟨"low", by decide, .emptyText⟩,
    hemptied, hfilled⟩

end Sample

end Rule
end DataQuality
