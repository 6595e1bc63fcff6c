import DataQuality.Proofs.Outcome
import DataQuality.Rule.Registry

/-!
Registries as a caller can obtain them. Main statement: `Registry.Obtained.resolve_builtin`. No
source of rules can put another definition in the place of a built-in one.
-/

namespace DataQuality
namespace Registry

inductive Obtained : Registry → Prop
  | builtinOnly : Obtained builtinOnly
  | standard : Obtained standard
  | built {files : Storage.Tree} {sources : Sources} {r : Registry}
    (h : (build files sources).outcome = .ok r) : Obtained r

theorem register_builtins {r r' : Registry} {d : RuleDefinition} (h : r.register d = .ok r') :
    r'.builtins = r.builtins := by
  unfold register at h
  obtain ⟨_, _, h⟩ := Outcome.bind_eq_ok_iff.1 h
  split at h
  . cases h
  . split at h
    . cases h
    . cases h
      rfl

theorem registerAll_builtins {r r' : Registry} {ds : List RuleDefinition}
    (h : (r.registerAll ds).outcome = .ok r') : r'.builtins = r.builtins := by
  induction ds generalizing r with
  | nil =>
    cases h
    rfl
  | cons d rest ih =>
    unfold registerAll at h
    rw [Logged.bind_outcome] at h
    obtain ⟨middle, hmiddle, h⟩ := Outcome.bind_eq_ok_iff.1 h
    rw [Logged.bind_outcome] at h
    obtain ⟨_, _, h⟩ := Outcome.bind_eq_ok_iff.1 h
    rw [ih h]
    exact register_builtins hmiddle

theorem build_builtins {files : Storage.Tree} {sources : Sources} {r : Registry}
    (h : (build files sources).outcome = .ok r) : r.builtins = keyed Builtin.definitions := by
  unfold build at h
  rw [Logged.bind_outcome] at h
  obtain ⟨loaded, _, h⟩ := Outcome.bind_eq_ok_iff.1 h
  rw [Logged.bind_outcome] at h
  obtain ⟨r', hr', h⟩ := Outcome.bind_eq_ok_iff.1 h
  rw [Logged.bind_outcome] at h
  obtain ⟨_, _, h⟩ := Outcome.bind_eq_ok_iff.1 h
  cases h
  rw [registerAll_builtins hr', builtinOnly]

theorem Obtained.builtins {r : Registry} (h : r.Obtained) :
    r.builtins = keyed Builtin.definitions := by
  cases h with
  | builtinOnly => rw [Registry.builtinOnly]
  | standard => rw [Registry.standard]
  | built h => exact build_builtins h

theorem Obtained.resolve_builtin {r : Registry} (h : r.Obtained) {name : String}
    {d : RuleDefinition} (hd : (keyed Builtin.definitions).find? (keyOf name) = some d) :
    r.resolve name = .ok (.ofDefinition d) := by
  unfold resolve find?
  rw [h.builtins, hd]
  rfl

end Registry
end DataQuality
