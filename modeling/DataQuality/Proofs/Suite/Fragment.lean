import DataQuality.Proofs.Outcome
import DataQuality.Proofs.Rule.Missing
import DataQuality.Suite.Statement

/-!
The parameters from which the query of a check is rendered: the defaults of its rule, in place of
which the parameters of the check count, in place of which its identity counts.
-/

namespace DataQuality

open Json (Value)

namespace Check

theorem find?_identified {key : String} (h : key ∉ ["check_name", "suite_name", "column_name"])
    (c : Check) (suite : String) : (c.identified suite).find? key = c.params.find? key := by
  simp only [List.mem_cons, List.not_mem_nil, or_false, not_or] at h
  obtain ⟨hcheck, hsuite, hcolumn⟩ := h
  unfold identified
  rw [Dict.find?_insert_of_ne (Ne.symm hcolumn), Dict.find?_insert_of_ne (Ne.symm hsuite),
    Dict.find?_insert_of_ne (Ne.symm hcheck)]

theorem find?_merged {key : String} (h : key ∉ ["check_name", "suite_name", "column_name"])
    {c : Check} (hparams : c.params.find? key = none) (rule : Rule) (suite : String) :
    (rule.merged (c.identified suite)).find? key = rule.defaults.find? key := by
  unfold Rule.merged
  apply Dict.find?_overlay_of_absent
  rw [find?_identified h, hparams]

theorem fragment_eq_ok {c : Check} {rule : Rule} (hrule : c.rule = some rule)
    {suite query : String} (h : c.fragment suite = .ok query) :
    ∃ raw, query = bareQuery raw ∧ rule.missing (rule.merged (c.identified suite)) = []
      ∧ Template.render rule.name rule.definition.template (rule.merged (c.identified suite))
        = .ok raw := by
  unfold fragment at h
  rw [hrule] at h
  dsimp only at h
  obtain ⟨raw, hraw, h⟩ := Outcome.bind_eq_ok_iff.1 h
  have hquery : bareQuery raw = query := Except.ok.inj h
  obtain ⟨hmissing, hraw⟩ := Rule.render_eq_ok_iff.1 hraw
  exact ⟨raw, hquery.symm, hmissing, hraw⟩

end Check

end DataQuality
