import Mathlib.Data.List.Nodup
import DataQuality.Proofs.Dict
import DataQuality.Proofs.Rule.Discovery
import DataQuality.Proofs.Sql.Name
import DataQuality.Proofs.Text.Trim

/-!
Registration of definitions. They are taken in order, each next to those before it, and the first
that gives offence decides how the registration fails. Main statements:
`Registry.registerAll_of_registrable` and `Registry.registerAll_of_definitionsFail`.
-/

namespace DataQuality

open Json (Value)
open Text (isBlank)

namespace RuleDefinition

/-- A definition with a name, and with a template that has content and the form of one. -/
structure Acceptable (d : RuleDefinition) : Prop where
  name : Sql.IsName d.name
  content : ∃ c ∈ d.template.toList, isBlank c = false
  form : ∃ nodes, Template.parse? d.template = some nodes

theorem validate_of_name {d : RuleDefinition} (h : Sql.IsName d.name) :
    d.validate
      =
    if Text.hasContent d.template then
      Template.checkSyntax d.name d.template
    else
      .error (.invalidRule d.name "template is empty") := by
  unfold validate Sql.checkName
  rw [Sql.nameFault?_eq_none_iff_isName.2 h]
  rfl

theorem validate_of_nameFault {d : RuleDefinition} {fault : Sql.NameFault}
    (h : Sql.nameFault? d.name = some fault) :
    d.validate = .error (.invalidRule d.name ("Security error: " ++ fault.message)) := by
  unfold validate Sql.checkName
  rw [h]
  rfl

theorem Acceptable.validate {d : RuleDefinition} (h : d.Acceptable) : d.validate = .ok () := by
  obtain ⟨nodes, hnodes⟩ := h.form
  rw [validate_of_name h.name, if_pos (Text.hasContent_iff.2 h.content)]
  unfold Template.checkSyntax
  rw [hnodes]
  rfl

end RuleDefinition

namespace Registry

def entries (ds : List RuleDefinition) : List (String × RuleDefinition) :=
  ds.map fun d => (Text.lower d.name, d)

structure Registrable (ds : List RuleDefinition) : Prop where
  acceptable : ∀ d ∈ ds, d.Acceptable
  distinct : (ds.map fun d => Text.lower d.name).Nodup
  notBuiltin : ∀ d ∈ ds, ∀ b ∈ Builtin.definitions, Text.lower d.name ≠ Text.lower b.name

structure Admits (before : List RuleDefinition) (d : RuleDefinition) : Prop where
  acceptable : d.Acceptable
  notBuiltin : ∀ b ∈ Builtin.definitions, Text.lower d.name ≠ Text.lower b.name
  new : ∀ b ∈ before, Text.lower d.name ≠ Text.lower b.name

/-- What a definition gives offence by next to others. The name comes first, then the template, then
the other definitions. -/
inductive Offence (before : List RuleDefinition) (d : RuleDefinition) : Error → Prop
  | name {fault : Sql.NameFault} (h : Sql.nameFault? d.name = some fault) :
    Offence before d (.invalidRule d.name ("Security error: " ++ fault.message))
  | blank (hname : Sql.IsName d.name) (h : ∀ c ∈ d.template.toList, isBlank c = true) :
    Offence before d (.invalidRule d.name "template is empty")
  | form (hname : Sql.IsName d.name) (hcontent : ∃ c ∈ d.template.toList, isBlank c = false)
      (h : Template.parse? d.template = none) :
    Offence before d (.template d.name "<parse error>")
  | builtin (hd : d.Acceptable) (h : ∃ b ∈ Builtin.definitions, Text.lower d.name = Text.lower b.name) :
    Offence before d (.invalidRule d.name "name collides with a built-in rule")
  | taken (hd : d.Acceptable)
      (hbuiltin : ∀ b ∈ Builtin.definitions, Text.lower d.name ≠ Text.lower b.name)
      (h : ∃ b ∈ before, Text.lower d.name = Text.lower b.name) :
    Offence before d (.invalidRule d.name "name registered by more than one plugin")

/-- How registering definitions one after the other fails: the first that gives offence next to those
before it does. -/
def DefinitionsFail (ds : List RuleDefinition) (e : Error) : Prop :=
  ∃ before d after, ds = before ++ d :: after ∧ Registrable before ∧ Offence before d e

/-- A registry of the built-in rules and some others. -/
structure Holds (r : Registry) (ds : List RuleDefinition) : Prop where
  builtins : r.builtins = keyed Builtin.definitions
  plugins : r.plugins.Perm (entries ds)
  sorted : Dict.Sorted r.plugins

theorem admits_or_offence (before : List RuleDefinition) (d : RuleDefinition) :
    Admits before d ∨ ∃ e, Offence before d e := by
  cases hname : Sql.nameFault? d.name with
  | some fault => exact .inr ⟨_, .name hname⟩
  | none =>
    have hname := Sql.nameFault?_eq_none_iff_isName.1 hname
    by_cases hcontent : ∃ c ∈ d.template.toList, isBlank c = false
    . cases hform : Template.parse? d.template with
      | none => exact .inr ⟨_, .form hname hcontent hform⟩
      | some nodes =>
        have hd : d.Acceptable := ⟨hname, hcontent, nodes, hform⟩
        by_cases hbuiltin : ∃ b ∈ Builtin.definitions, Text.lower d.name = Text.lower b.name
        . exact .inr ⟨_, .builtin hd hbuiltin⟩
        . have hbuiltin : ∀ b ∈ Builtin.definitions, Text.lower d.name ≠ Text.lower b.name :=
            fun b hb heq => hbuiltin ⟨b, hb, heq⟩
          by_cases htaken : ∃ b ∈ before, Text.lower d.name = Text.lower b.name
          . exact .inr ⟨_, .taken hd hbuiltin htaken⟩
          . exact .inl ⟨hd, hbuiltin, fun b hb heq => htaken ⟨b, hb, heq⟩⟩
    . have hblank : ∀ c ∈ d.template.toList, isBlank c = true := by
        simpa using hcontent
      exact .inr ⟨_, .blank hname hblank⟩

theorem registrable_nil : Registrable [] := ⟨by simp, by simp, by simp⟩

theorem registrable_concat_iff {before : List RuleDefinition} {d : RuleDefinition} :
    Registrable (before ++ [d]) ↔ Registrable before ∧ Admits before d := by
  constructor
  . intro h
    have hdistinct := h.distinct
    rw [List.map_append, List.map_singleton, List.nodup_append] at hdistinct
    obtain ⟨hbefore, _, hnew⟩ := hdistinct
    have hd : d ∈ before ++ [d] := List.mem_append_right _ (List.mem_singleton_self d)
    refine ⟨⟨?_, hbefore, ?_⟩, h.acceptable d hd, h.notBuiltin d hd, ?_⟩
    . exact fun b hb => h.acceptable b (List.mem_append_left _ hb)
    . exact fun b hb => h.notBuiltin b (List.mem_append_left _ hb)
    . intro b hb heq
      exact hnew _ (List.mem_map_of_mem hb) _ (List.mem_singleton_self _) heq.symm
  . intro ⟨h, hd⟩
    constructor
    case acceptable =>
      rw [List.forall_mem_append, List.forall_mem_singleton]
      exact ⟨h.acceptable, hd.acceptable⟩
    case distinct =>
      rw [List.map_append, List.map_singleton, List.nodup_append]
      refine ⟨h.distinct, List.nodup_singleton _, ?_⟩
      intro key hkey key' hkey'
      obtain ⟨b, hb, rfl⟩ := List.mem_map.1 hkey
      rw [List.mem_singleton.1 hkey']
      exact Ne.symm (hd.new b hb)
    case notBuiltin =>
      rw [List.forall_mem_append, List.forall_mem_singleton]
      exact ⟨h.notBuiltin, hd.notBuiltin⟩

theorem Registrable.of_append {before rest : List RuleDefinition}
    (h : Registrable (before ++ rest)) : Registrable before := by
  have hdistinct := h.distinct
  rw [List.map_append] at hdistinct
  constructor
  case acceptable => exact fun b hb => h.acceptable b (List.mem_append_left _ hb)
  case distinct => exact hdistinct.of_append_left
  case notBuiltin => exact fun b hb => h.notBuiltin b (List.mem_append_left _ hb)

theorem registrable_or_definitionsFail (ds : List RuleDefinition) :
    Registrable ds ∨ ∃ e, DefinitionsFail ds e := by
  -- Each definition is seen next to those before it, so the induction takes off the last one.
  induction ds using List.reverseRecOn with
  | nil => exact .inl registrable_nil
  | append_singleton ds d ih =>
    rcases ih with hds | ⟨e, before, d', after, rfl, hbefore, hoffence⟩
    . rcases admits_or_offence ds d with hd | ⟨e, hoffence⟩
      . exact .inl (registrable_concat_iff.2 ⟨hds, hd⟩)
      . exact .inr ⟨e, ds, d, [], rfl, hds, hoffence⟩
    . right
      refine ⟨e, before, d', after ++ [d], ?_, hbefore, hoffence⟩
      simp

section

variable {r : Registry} {before ds : List RuleDefinition} {d : RuleDefinition} {e : Error}

theorem keyed_perm : (keyed Builtin.definitions).Perm (entries Builtin.definitions) := by
  have hkeys : ((entries Builtin.definitions ++ []).map Prod.fst).Nodup := by decide +kernel
  have hperm := Dict.insertAll_perm hkeys
  rwa [List.append_nil] at hperm

theorem sorted_keyed : Dict.Sorted (keyed Builtin.definitions) := Dict.sorted_ofEntries _

theorem holds_builtinOnly : Holds builtinOnly [] := ⟨rfl, .refl _, .nil⟩

theorem mem_keys_iff_of_perm {table : Dict RuleDefinition} (h : table.Perm (entries ds))
    {key : String} : key ∈ table.keys ↔ ∃ b ∈ ds, key = Text.lower b.name := by
  unfold Dict.keys
  rw [(h.map Prod.fst).mem_iff]
  unfold entries
  simp [eq_comm]

theorem hasKey_iff_of_perm {table : Dict RuleDefinition} (h : table.Perm (entries ds))
    {key : String} : table.hasKey key = true ↔ ∃ b ∈ ds, key = Text.lower b.name := by
  rw [← mem_keys_iff_of_perm h, Dict.mem_keys_iff]
  unfold Dict.hasKey
  rw [Option.isSome_iff_ne_none]

theorem Holds.hasKey_builtins_iff (h : r.Holds before) {key : String} :
    r.builtins.hasKey key = true ↔ ∃ b ∈ Builtin.definitions, key = Text.lower b.name := by
  rw [h.builtins]
  exact hasKey_iff_of_perm keyed_perm

theorem Holds.not_hasKey_builtins (h : r.Holds before) {key : String}
    (hkey : ∀ b ∈ Builtin.definitions, key ≠ Text.lower b.name) :
    ¬ r.builtins.hasKey key = true := by
  rw [h.hasKey_builtins_iff]
  rintro ⟨b, hb, heq⟩
  exact hkey b hb heq

theorem register_of_acceptable (hd : d.Acceptable) :
    r.register d
      =
    if r.builtins.hasKey (Text.lower d.name) then
      .error (.invalidRule d.name "name collides with a built-in rule")
    else if r.plugins.hasKey (Text.lower d.name) then
      .error (.invalidRule d.name "name registered by more than one plugin")
    else
      .ok { r with plugins := r.plugins.insert (Text.lower d.name) d } := by
  unfold register
  rw [hd.validate]
  rfl

theorem register_of_admits (h : r.Holds before) (hd : Admits before d) :
    ∃ r', r.register d = .ok r' ∧ r'.Holds (before ++ [d]) := by
  have hkey : Text.lower d.name ∉ r.plugins.keys := by
    rw [mem_keys_iff_of_perm h.plugins]
    rintro ⟨b, hb, heq⟩
    exact hd.new b hb heq
  have hplugins : ¬ r.plugins.hasKey (Text.lower d.name) = true := by
    rw [hasKey_iff_of_perm h.plugins, ← mem_keys_iff_of_perm h.plugins]
    exact hkey
  rw [register_of_acceptable hd.acceptable, if_neg (h.not_hasKey_builtins hd.notBuiltin),
    if_neg hplugins]
  refine ⟨_, rfl, h.builtins, ?_, Dict.sorted_insert h.sorted _ _⟩
  calc
    (r.plugins.insert (Text.lower d.name) d).Perm ((Text.lower d.name, d) :: r.plugins) :=
      Dict.insert_perm hkey d
    List.Perm _ ((Text.lower d.name, d) :: entries before) := h.plugins.cons _
    List.Perm _ (entries before ++ [(Text.lower d.name, d)]) := (List.perm_append_singleton _ _).symm
    List.Perm _ (entries (before ++ [d])) := by
      unfold entries
      rw [List.map_append, List.map_singleton]

theorem register_of_validate_error (h : d.validate = .error e) : r.register d = .error e := by
  unfold register
  rw [h]
  rfl

theorem register_of_offence (h : r.Holds before) (hd : Offence before d e) :
    r.register d = .error e := by
  cases hd with
  | name hfault => exact register_of_validate_error (RuleDefinition.validate_of_nameFault hfault)
  | blank hname hblank =>
    apply register_of_validate_error
    rw [RuleDefinition.validate_of_name hname, Text.hasContent_eq_false_iff.2 hblank]
    rfl
  | form hname hcontent hform =>
    apply register_of_validate_error
    rw [RuleDefinition.validate_of_name hname, if_pos (Text.hasContent_iff.2 hcontent)]
    unfold Template.checkSyntax
    rw [hform]
    rfl
  | builtin hd hbuiltin =>
    rw [register_of_acceptable hd, if_pos (h.hasKey_builtins_iff.2 hbuiltin)]
  | taken hd hbuiltin htaken =>
    rw [register_of_acceptable hd, if_neg (h.not_hasKey_builtins hbuiltin),
      if_pos ((hasKey_iff_of_perm h.plugins).2 htaken)]

theorem registerAll_cons (rest : List RuleDefinition) :
    (r.registerAll (d :: rest)).outcome
      =
    (r.register d >>= fun r' => (r'.registerAll rest).outcome) := by
  rw [registerAll]
  simp only [Logged.bind_outcome]
  rfl

theorem registerAll_of_registrable {rest : List RuleDefinition} (h : r.Holds before)
    (hds : Registrable (before ++ rest)) :
    ∃ r', (r.registerAll rest).outcome = .ok r' ∧ r'.Holds (before ++ rest) := by
  -- `before` grows by the definition that has been registered, which `Holds` keeps track of.
  induction rest generalizing r before with
  | nil =>
    refine ⟨r, rfl, ?_⟩
    rwa [List.append_nil]
  | cons d rest ih =>
    have hassoc : before ++ d :: rest = before ++ [d] ++ rest := by simp
    rw [hassoc] at hds ⊢
    obtain ⟨r', hr', hholds⟩ := register_of_admits h (registrable_concat_iff.1 hds.of_append).2
    rw [registerAll_cons, hr']
    exact ih hholds hds

theorem registerAll_of_offence {middle after : List RuleDefinition} (h : r.Holds before)
    (hds : Registrable (before ++ middle)) (hd : Offence (before ++ middle) d e) :
    (r.registerAll (middle ++ d :: after)).outcome = .error e := by
  induction middle generalizing r before with
  | nil =>
    rw [List.append_nil] at hd
    rw [List.nil_append, registerAll_cons, register_of_offence h hd]
    rfl
  | cons d' middle ih =>
    have hassoc : before ++ d' :: middle = before ++ [d'] ++ middle := by simp
    rw [hassoc] at hds hd
    obtain ⟨r', hr', hholds⟩ := register_of_admits h (registrable_concat_iff.1 hds.of_append).2
    rw [List.cons_append, registerAll_cons, hr']
    exact ih hholds hds hd

theorem registerAll_of_definitionsFail (h : DefinitionsFail ds e) :
    (builtinOnly.registerAll ds).outcome = .error e := by
  obtain ⟨before, d, after, rfl, hbefore, hd⟩ := h
  exact registerAll_of_offence holds_builtinOnly hbefore hd

end

end Registry
end DataQuality
