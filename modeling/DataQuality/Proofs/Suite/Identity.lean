import DataQuality.Proofs.Suite.Fragment
import DataQuality.Proofs.Suite.Layout
import DataQuality.Rule.Builtin

/-!
The identity of a check: its own name, the name of its suite and its column. What a template sees
under these names cannot be changed by parameters; under every other name it sees the parameter of
the check, and without one the default of the rule.
-/

namespace DataQuality

open Json (Value)
open Sql (TableQuote)

/-- Whether two dictionaries have the same entries but for some keys. -/
def Dict.AgreeExcept {α : Type} (keys : List String) (d e : Dict α) : Prop :=
  ∀ key, key ∉ keys → d.find? key = e.find? key

namespace Check

def identityKeys : List String := ["check_name", "suite_name", "column_name"]

/-- What a template can look up when it is rendered for a check. -/
structure Sees (c : Check) (rule : Rule) (suite : String) (seen : Dict Value) : Prop where
  sorted : seen.Sorted
  checkName : seen.find? "check_name" = some (.string c.name)
  suiteName : seen.find? "suite_name" = some (.string suite)
  columnName : seen.find? "column_name" = some (.ofString? c.column)
  other : ∀ key, key ∉ identityKeys →
    seen.find? key = (c.params.find? key).or (rule.defaults.find? key)

/-- Two checks of the same rule that differ in entries under identity keys only. -/
structure SameButIdentity (c c' : Check) : Prop where
  same : c' = { c with params := c'.params, rule := c'.rule, sorted := c'.sorted }
  params : c.params.AgreeExcept identityKeys c'.params
  rule : Option.Rel
    (fun r r' => r.definition = r'.definition ∧ r.defaults.AgreeExcept identityKeys r'.defaults)
    c.rule c'.rule

theorem sorted_identified (c : Check) (suite : String) : (c.identified suite).Sorted := by
  unfold identified
  apply Dict.sorted_insert
  apply Dict.sorted_insert
  apply Dict.sorted_insert
  exact c.sorted

theorem sees_merged (c : Check) (rule : Rule) (suite : String) :
    c.Sees rule suite (rule.merged (c.identified suite)) := by
  have hidentified := c.sorted_identified suite
  have hfind (key : String) : (rule.merged (c.identified suite)).find? key
      = ((c.identified suite).find? key).or (rule.defaults.find? key) :=
    Dict.find?_overlay hidentified key rule.defaults
  constructor
  case sorted => exact Dict.sorted_insertAll rule.sorted _
  case checkName =>
    rw [hfind]
    unfold identified
    rw [Dict.find?_insert_of_ne (by decide), Dict.find?_insert_of_ne (by decide),
      Dict.find?_insert_self, Option.some_or]
  case suiteName =>
    rw [hfind]
    unfold identified
    rw [Dict.find?_insert_of_ne (by decide), Dict.find?_insert_self, Option.some_or]
  case columnName =>
    rw [hfind]
    unfold identified
    rw [Dict.find?_insert_self, Option.some_or]
  case other =>
    intro key hkey
    rw [hfind, find?_identified hkey]

/-- A template sees the same for two checks of the same identity whose other entries agree. -/
theorem Sees.unique {c c' : Check} {rule rule' : Rule} {suite : String} {seen seen' : Dict Value}
    (h : c.Sees rule suite seen) (h' : c'.Sees rule' suite seen') (hname : c'.name = c.name)
    (hcolumn : c'.column = c.column) (hparams : c.params.AgreeExcept identityKeys c'.params)
    (hdefaults : rule.defaults.AgreeExcept identityKeys rule'.defaults) : seen = seen' := by
  apply Dict.eq_of_find?_eq h.sorted h'.sorted
  intro key
  by_cases hkey : key ∈ identityKeys
  . simp only [identityKeys, List.mem_cons, List.not_mem_nil, or_false] at hkey
    rcases hkey with rfl | rfl | rfl
    . rw [h.checkName, h'.checkName, hname]
    . rw [h.suiteName, h'.suiteName]
    . rw [h.columnName, h'.columnName, hcolumn]
  . rw [h.other key hkey, h'.other key hkey, hparams key hkey, hdefaults key hkey]

/-- The query of a check from what its template sees. -/
def queryFrom (rule : Rule) (seen : Dict Value) : Except Error String :=
  match rule.missing seen with
  | [] => (Template.render rule.name rule.definition.template seen).map bareQuery
  | missing => .error (.missingParameter rule.name missing)

theorem fragment_eq_queryFrom {c : Check} {rule : Rule} (hrule : c.rule = some rule)
    (suite : String) : c.fragment suite = queryFrom rule (rule.merged (c.identified suite)) := by
  unfold fragment queryFrom Rule.render
  rw [hrule]
  dsimp only
  cases rule.missing (rule.merged (c.identified suite)) with
  | nil =>
    dsimp only
    cases Template.render rule.name rule.definition.template
      (rule.merged (c.identified suite)) <;> rfl
  | cons name rest => rfl

theorem queryFrom_of_definition_eq {rule rule' : Rule} (h : rule.definition = rule'.definition)
    (seen : Dict Value) : queryFrom rule seen = queryFrom rule' seen := by
  unfold queryFrom Rule.missing Rule.name
  rw [h]

theorem SameButIdentity.fragment_eq {c c' : Check} (h : c.SameButIdentity c') (suite : String) :
    c.fragment suite = c'.fragment suite := by
  have hname : c'.name = c.name := by rw [h.same]
  have hcolumn : c'.column = c.column := by rw [h.same]
  have hrel := h.rule
  cases hrule : c.rule with
  | none =>
    rw [hrule] at hrel
    cases hrule' : c'.rule with
    | none =>
      unfold fragment
      rw [hrule, hrule', hname]
    | some rule' =>
      rw [hrule'] at hrel
      cases hrel
  | some rule =>
    rw [hrule] at hrel
    cases hrule' : c'.rule with
    | none =>
      rw [hrule'] at hrel
      cases hrel
    | some rule' =>
      rw [hrule'] at hrel
      cases hrel with
      | some hsame =>
        have hseen := (c.sees_merged rule suite).unique (c'.sees_merged rule' suite) hname hcolumn
          h.params hsame.2
        rw [fragment_eq_queryFrom hrule, fragment_eq_queryFrom hrule', hseen,
          queryFrom_of_definition_eq hsame.1]

theorem SameButIdentity.block_eq {c c' : Check} (h : c.SameButIdentity c') (suite : String) :
    c.block suite = c'.block suite := by
  have hcomment : c'.comment = c.comment := by rw [h.same]; rfl
  have hname : c'.name = c.name := by rw [h.same]
  unfold block
  rw [h.fragment_eq, hcomment, hname]

end Check

namespace Suite

/-- Another suite with the same checks, but for entries under identity keys. -/
structure SameButIdentity (s s' : Suite) : Prop where
  same : s'.toSuiteDraft = { s.toSuiteDraft with checks := s'.checks }
  checks : List.Forall₂ Check.SameButIdentity s.checks s'.checks

end Suite
namespace Sample

def counted : Suite where
  name := "orders"
  domain := none
  owner := none
  source := .ofTable "shop.orders"
  params := .empty
  checks := [{ Check.named "rows" with rule := some (.ofDefinition Builtin.negativeValues) }]
  tags := .empty
  valid := by decide +kernel

end Sample
end DataQuality
