import DataQuality.Proofs.Rule.Registry
import DataQuality.Proofs.Suite.Fragment
import DataQuality.Proofs.Suite.Layout
import DataQuality.Suite.Definition

/-!
Arguments that become part of a statement only in a prepared form: patterns, lists of values and
units of time. `Preparing.Prepares` says what their prepared forms are.
-/

namespace DataQuality

open Json (Value)

/-- The rules that prepare an argument. -/
inductive Preparing
  | regexMatch
  | acceptedValues
  | freshness
  deriving DecidableEq

namespace Preparing

def rule : Preparing → RuleDefinition
  | .regexMatch => Builtin.regexMatch
  | .acceptedValues => Builtin.acceptedValues
  | .freshness => Builtin.freshness

def key : Preparing → String
  | .regexMatch => "regex_pattern"
  | .acceptedValues => "accepted_values"
  | .freshness => "granularity"

/-- A text with every single quote doubled. -/
def doubled (s : String) : String :=
  .ofList (s.toList.flatMap fun c => if c = '\'' then ['\'', '\''] else [c])

def units : List String := ["MICROSECOND", "MILLISECOND", "SECOND", "MINUTE", "HOUR", "DAY"]

/-- What a rule binds for the argument that it is given. -/
inductive Prepares (reader : Sql.PatternReader) : Preparing → Option Value → Option Value → Prop
  | pattern {s : String} (h : Sql.patternFault? reader s = none) :
    Prepares reader .regexMatch (some (.string s)) (some (.string (doubled s)))
  | noPattern : Prepares reader .regexMatch none none
  | values {vs : List Value} :
    Prepares reader .acceptedValues (some (.array vs))
      (some (.array (vs.map fun v => .string (Sql.literal v))))
  | noValues : Prepares reader .acceptedValues none none
  | unit {s : String} (h : Text.upper (Text.stripped s) ∈ units) :
    Prepares reader .freshness (some (.string s)) (some (.string (Text.upper (Text.stripped s))))
  | nullUnit : Prepares reader .freshness (some .null) (some (.string "HOUR"))
  | noUnit : Prepares reader .freshness none (some (.string "HOUR"))

/-- The arguments for which a rule cannot be bound. -/
inductive Refuses (reader : Sql.PatternReader) : Preparing → Value → Error → Prop
  | pattern {s : String} {fault : Sql.PatternFault}
      (h : Sql.patternFault? reader s = some fault) :
    Refuses reader .regexMatch (.string s) (.security fault.message)
  | notPattern {v : Value} (h : ∀ s, v ≠ .string s) :
    Refuses reader .regexMatch v
      (.configuration ("regex_pattern must be a string, got " ++ v.compact))
  | notValues {v : Value} (h : ∀ vs, v ≠ .array vs) :
    Refuses reader .acceptedValues v
      (.configuration ("accepted_values must be a list, got " ++ v.compact))
  | unit {s : String} (h : Text.upper (Text.stripped s) ∉ units) :
    Refuses reader .freshness (.string s)
      (.configuration ("unknown freshness granularity '" ++ s ++ "'"))
  | notUnit {v : Value} (h : ∀ s, v ≠ .string s) (hnull : v ≠ .null) :
    Refuses reader .freshness v
      (.configuration ("granularity must be a string, got " ++ v.compact))

theorem find?_definitions (p : Preparing) :
    (Registry.keyed Builtin.definitions).find? p.rule.name = some p.rule := by
  cases p <;> rfl

theorem preparedKey?_name (p : Preparing) :
    CheckDefinition.preparedKey? p.rule.name = some p.key := by
  cases p <;> rfl

theorem key_not_mem_identity (p : Preparing) :
    p.key ∉ ["check_name", "suite_name", "column_name"] := by
  cases p <;> decide

theorem key_mem_required (p : Preparing) : p.key ∈ p.rule.required := by
  cases p <;> decide

end Preparing

theorem Text.Quoted.double_eq_flatMap (q : Char) (s : List Char) :
    double q s = s.flatMap fun c => if c = q then [q, q] else [c] := by
  induction s with
  | nil => rfl
  | cons c rest ih =>
    unfold double
    rw [List.flatMap_cons, ih]
    split <;> rfl

theorem Sql.doubleQuotes_eq_doubled (s : String) : doubleQuotes s = Preparing.doubled s := by
  unfold doubleQuotes Preparing.doubled
  rw [Text.Quoted.double_eq_flatMap]

theorem Granularity.ofText?_eq_some_iff {s : String} {g : Granularity} :
    ofText? s = some g ↔ g.text = s := by
  constructor
  . intro h
    have := List.find?_some h
    simpa using this
  . intro h
    rw [← h]
    exact ofText?_text g

theorem Granularity.mem_units_iff {s : String} : s ∈ Preparing.units ↔ ∃ g, text g = s := by
  have : Preparing.units = all.map text := rfl
  rw [this, List.mem_map]
  constructor
  . rintro ⟨g, _, h⟩
    exact ⟨g, h⟩
  . rintro ⟨g, h⟩
    refine ⟨g, ?_, h⟩
    cases g <;> decide

namespace CheckDefinition

variable {reader : Sql.PatternReader} {r : Registry} {name : String}

theorem ruleWith_pattern (h : Registry.keyOf name = "regex_match") (s : String) :
    ruleWith reader r name (some (.string s)) = Rule.regexMatch reader s := by
  unfold ruleWith
  rw [h]
  rfl

theorem ruleWith_notPattern (h : Registry.keyOf name = "regex_match") {v : Value}
    (hv : ∀ s, v ≠ .string s) :
    ruleWith reader r name (some v)
      =
    .error (.configuration ("regex_pattern must be a string, got " ++ v.compact)) := by
  unfold ruleWith
  rw [h]
  cases v with
  | string s => exact absurd rfl (hv s)
  | _ => rfl

theorem ruleWith_values (h : Registry.keyOf name = "accepted_values") (vs : List Value) :
    ruleWith reader r name (some (.array vs)) = .ok (Rule.acceptedValues vs) := by
  unfold ruleWith
  rw [h]
  rfl

theorem ruleWith_notValues (h : Registry.keyOf name = "accepted_values") {v : Value}
    (hv : ∀ vs, v ≠ .array vs) :
    ruleWith reader r name (some v)
      =
    .error (.configuration ("accepted_values must be a list, got " ++ v.compact)) := by
  unfold ruleWith
  rw [h]
  cases v with
  | array vs => exact absurd rfl (hv vs)
  | _ => rfl

theorem ruleWith_none {p : Preparing} (h : Registry.keyOf name = p.rule.name)
    (hp : p ≠ .freshness) : ruleWith reader r name none = r.resolve name := by
  unfold ruleWith
  rw [h]
  cases p with
  | regexMatch => rfl
  | acceptedValues => rfl
  | freshness => exact absurd rfl hp

theorem ruleWith_unit (h : Registry.keyOf name = "freshness") (given : Option Value) :
    ruleWith reader r name given = (granularity given).map Rule.freshness := by
  have hbind : ruleWith reader r name given
      = (granularity given >>= fun g => .ok (Rule.freshness g)) := by
    unfold ruleWith
    rw [h]
    cases given with
    | none => rfl
    | some v => cases v <;> rfl
  rw [hbind]
  cases granularity given <;> rfl

theorem granularity_string (s : String) :
    granularity (some (.string s))
      =
    match Granularity.ofText? (Text.upper (Text.stripped s)) with
    | some g => .ok g
    | none => .error (.configuration ("unknown freshness granularity '" ++ s ++ "'")) := by
  unfold granularity
  dsimp only
  cases Granularity.ofText? (Text.upper (Text.stripped s)) <;> rfl

theorem granularity_other {v : Value} (h : ∀ s, v ≠ .string s) (hnull : v ≠ .null) :
    granularity (some v)
      =
    .error (.configuration ("granularity must be a string, got " ++ v.compact)) := by
  cases v with
  | string s => exact absurd rfl (h s)
  | null => exact absurd rfl hnull
  | _ => rfl

end CheckDefinition

namespace Preparing

open CheckDefinition

variable {reader : Sql.PatternReader} {r : Registry} {name : String} {p : Preparing}

theorem ruleWith_of_prepares (hr : r.Obtained) (hname : Registry.keyOf name = p.rule.name)
    {given default : Option Value} (h : p.Prepares reader given default) :
    ∃ rule, ruleWith reader r name given = .ok rule ∧ rule.definition = p.rule
      ∧ rule.defaults.find? p.key = default := by
  have hresolve : r.resolve name = .ok (.ofDefinition p.rule) := by
    apply hr.resolve_builtin
    rw [hname]
    exact p.find?_definitions
  -- Without an argument the rule is looked up, and no plugin can stand in for a built-in rule.
  cases h with
  | pattern h =>
    rw [ruleWith_pattern hname, ← Sql.doubleQuotes_eq_doubled]
    unfold Rule.regexMatch Sql.preparePattern
    rw [h]
    exact ⟨_, rfl, rfl, Dict.find?_insert_self _ _ _⟩
  | noPattern =>
    rw [ruleWith_none hname (by decide)]
    exact ⟨_, hresolve, rfl, rfl⟩
  | values =>
    rw [ruleWith_values hname]
    refine ⟨_, rfl, rfl, ?_⟩
    unfold Rule.acceptedValues Rule.withParam Rule.literals Value.strings
    rw [List.map_map]
    exact Dict.find?_insert_self _ _ _
  | noValues =>
    rw [ruleWith_none hname (by decide)]
    exact ⟨_, hresolve, rfl, rfl⟩
  | unit h =>
    obtain ⟨g, hg⟩ := Granularity.mem_units_iff.1 h
    rw [ruleWith_unit hname, granularity_string, Granularity.ofText?_eq_some_iff.2 hg, ← hg]
    exact ⟨_, rfl, rfl, Dict.find?_insert_self _ _ _⟩
  | nullUnit =>
    rw [ruleWith_unit hname]
    exact ⟨_, rfl, rfl, rfl⟩
  | noUnit =>
    rw [ruleWith_unit hname]
    exact ⟨_, rfl, rfl, rfl⟩

theorem ruleWith_of_refuses (hname : Registry.keyOf name = p.rule.name) {v : Value} {e : Error}
    (h : p.Refuses reader v e) : ruleWith reader r name (some v) = .error e := by
  cases h with
  | pattern h =>
    rw [ruleWith_pattern hname]
    unfold Rule.regexMatch Sql.preparePattern
    rw [h]
    rfl
  | notPattern h => exact ruleWith_notPattern hname h
  | notValues h => exact ruleWith_notValues hname h
  | unit h =>
    rw [ruleWith_unit hname, granularity_string]
    cases hg : Granularity.ofText? (Text.upper (Text.stripped _)) with
    | none => rfl
    | some g =>
      have := Granularity.mem_units_iff.2 ⟨g, Granularity.ofText?_eq_some_iff.1 hg⟩
      exact absurd this h
  | notUnit h hnull =>
    rw [ruleWith_unit hname, granularity_other h hnull]
    rfl

theorem prepares_or_refuses (reader : Sql.PatternReader) (p : Preparing) (given : Option Value) :
    (∃ default, p.Prepares reader given default)
      ∨ ∃ v e, given = some v ∧ p.Refuses reader v e := by
  cases p with
  | regexMatch =>
    cases given with
    | none => exact .inl ⟨_, .noPattern⟩
    | some v =>
      by_cases hv : ∃ s, v = .string s
      . obtain ⟨s, rfl⟩ := hv
        cases hfault : Sql.patternFault? reader s with
        | none => exact .inl ⟨_, .pattern hfault⟩
        | some fault => exact .inr ⟨_, _, rfl, .pattern hfault⟩
      . exact .inr ⟨_, _, rfl, .notPattern (not_exists.1 hv)⟩
  | acceptedValues =>
    cases given with
    | none => exact .inl ⟨_, .noValues⟩
    | some v =>
      by_cases hv : ∃ vs, v = .array vs
      . obtain ⟨vs, rfl⟩ := hv
        exact .inl ⟨_, .values⟩
      . exact .inr ⟨_, _, rfl, .notValues (not_exists.1 hv)⟩
  | freshness =>
    cases given with
    | none => exact .inl ⟨_, .noUnit⟩
    | some v =>
      by_cases hv : ∃ s, v = .string s
      . obtain ⟨s, rfl⟩ := hv
        by_cases hunit : Text.upper (Text.stripped s) ∈ units
        . exact .inl ⟨_, .unit hunit⟩
        . exact .inr ⟨_, _, rfl, .unit hunit⟩
      . by_cases hnull : v = .null
        . subst hnull
          exact .inl ⟨_, .nullUnit⟩
        . exact .inr ⟨_, _, rfl, .notUnit (not_exists.1 hv) hnull⟩

theorem of_ruleWith_eq_ok (hr : r.Obtained) (hname : Registry.keyOf name = p.rule.name)
    {given : Option Value} {rule : Rule} (h : ruleWith reader r name given = .ok rule) :
    rule.definition = p.rule ∧ p.Prepares reader given (rule.defaults.find? p.key) := by
  obtain ⟨default, hdefault⟩ | ⟨v, e, rfl, hrefuses⟩ := p.prepares_or_refuses reader given
  . obtain ⟨rule', hrule', hdefinition, hfind⟩ := ruleWith_of_prepares hr hname hdefault
    rw [h, Except.ok.injEq] at hrule'
    subst hrule'
    rw [hfind]
    exact ⟨hdefinition, hdefault⟩
  . rw [ruleWith_of_refuses hname hrefuses] at h
    cases h

theorem ruleWith_eq_error_iff (hr : r.Obtained) (hname : Registry.keyOf name = p.rule.name)
    {given : Option Value} {e : Error} :
    ruleWith reader r name given = .error e ↔ ∃ v, given = some v ∧ p.Refuses reader v e := by
  constructor
  . intro h
    obtain ⟨default, hdefault⟩ | ⟨v, e', rfl, hrefuses⟩ := p.prepares_or_refuses reader given
    . obtain ⟨rule, hrule, _⟩ := ruleWith_of_prepares hr hname hdefault
      rw [hrule] at h
      cases h
    . rw [ruleWith_of_refuses hname hrefuses] at h
      cases h
      exact ⟨v, rfl, hrefuses⟩
  . rintro ⟨v, rfl, hrefuses⟩
    exact ruleWith_of_refuses hname hrefuses

end Preparing

namespace CheckDefinition

variable {reader : Sql.PatternReader} {r : Registry} {d : CheckDefinition} {key : String}

theorem argument?_eq (d : CheckDefinition) (key : String) :
    d.argument? key = (d.params.find? key).or (d.ruleParams.find? key) := by
  unfold argument?
  cases d.params.find? key <;> rfl

theorem toCheck_eq_ok (hkey : preparedKey? (Registry.keyOf d.rule) = some key) {c : Check}
    (h : d.toCheck reader r = .ok c) :
    ∃ rule, ruleWith reader r d.rule (d.argument? key) = .ok rule
      ∧ c.rule = some (rule.withParams (d.ruleParams.erase key))
      ∧ c.params = .ofEntries (d.params.erase key) := by
  unfold toCheck at h
  rw [hkey] at h
  obtain ⟨rule, hrule, h⟩ := Outcome.bind_eq_ok_iff.1 h
  cases h
  exact ⟨rule, hrule, rfl, rfl⟩

theorem toCheck_eq_error_iff (hkey : preparedKey? (Registry.keyOf d.rule) = some key)
    {e : Error} :
    d.toCheck reader r = .error e ↔ ruleWith reader r d.rule (d.argument? key) = .error e := by
  unfold toCheck
  rw [hkey]
  dsimp only
  rw [Outcome.bind_eq_error_iff]
  simp only [pure, Except.pure, reduceCtorEq, and_false, exists_false, or_false]
  rfl

/-- Only a prepared argument gets from a definition into the check and into its query. -/
structure Prepared (reader : Sql.PatternReader) (r : Registry) (d : CheckDefinition)
    (p : Preparing) (given : Option Value) : Prop where
  error_iff : ∀ e, d.toCheck reader r = .error e ↔ ∃ v, given = some v ∧ p.Refuses reader v e
  params : ∀ c, d.toCheck reader r = .ok c → c.params.find? p.key = none
  bound : ∀ c, d.toCheck reader r = .ok c →
    ∃ rule, c.rule = some rule ∧ rule.definition = p.rule
      ∧ p.Prepares reader given (rule.defaults.find? p.key)
  rendered : ∀ c rule, d.toCheck reader r = .ok c → c.rule = some rule →
    ∀ (s : Suite) (quote : Sql.TableQuote) (sql : String), c ∈ s.checks →
      (s.compile quote).outcome = .ok sql →
      ∃ v raw before after, (rule.merged (c.identified s.name)).find? p.key = some v
        ∧ p.Prepares reader given (some v)
        ∧ Template.render p.rule.name p.rule.template (rule.merged (c.identified s.name))
          = .ok raw
        ∧ sql = before ++ bareQuery raw ++ after

theorem toCheck_prepared (reader : Sql.PatternReader) (hr : r.Obtained) (p : Preparing)
    (hname : Text.lower (Text.stripped d.rule) = p.rule.name) :
    d.Prepared reader r p ((d.params.find? p.key).or (d.ruleParams.find? p.key)) := by
  have hkey : preparedKey? (Registry.keyOf d.rule) = some p.key := by
    unfold Registry.keyOf
    rw [hname]
    exact p.preparedKey?_name
  -- What came with the argument is erased on both sides, so neither set of parameters can put
  -- another value over the prepared one.
  have hparams : ∀ c, d.toCheck reader r = .ok c → c.params.find? p.key = none := by
    intro c hc
    obtain ⟨_, _, _, hparams⟩ := toCheck_eq_ok hkey hc
    rw [hparams, Dict.find?_ofEntries_eq_none_iff]
    change p.key ∉ (d.params.erase p.key).keys
    rw [Dict.mem_keys_iff, not_not]
    exact Dict.find?_erase_self _ _
  have hbound : ∀ c rule, d.toCheck reader r = .ok c → c.rule = some rule →
      rule.definition = p.rule
        ∧ p.Prepares reader (d.argument? p.key) (rule.defaults.find? p.key) := by
    intro c rule hc hrule
    obtain ⟨bare, hbare, hrule', _⟩ := toCheck_eq_ok hkey hc
    rw [hrule, Option.some.injEq] at hrule'
    rw [hrule']
    unfold Rule.withParams
    rw [Dict.find?_overlay_of_absent (Dict.find?_erase_self _ _)]
    exact Preparing.of_ruleWith_eq_ok hr hname hbare
  rw [← argument?_eq]
  constructor
  . intro e
    rw [toCheck_eq_error_iff hkey]
    exact Preparing.ruleWith_eq_error_iff hr hname
  . exact hparams
  . intro c hc
    obtain ⟨_, _, hrule, _⟩ := toCheck_eq_ok hkey hc
    exact ⟨_, hrule, hbound c _ hc hrule⟩
  . intro c rule hc hrule s quote sql hmem hsql
    have ⟨hdefinition, hprepares⟩ := hbound c rule hc hrule
    obtain ⟨before, query, after, hquery, rfl⟩ := Suite.exists_query_of_compile hsql hmem
    obtain ⟨raw, rfl, hmissing, hraw⟩ := Check.fragment_eq_ok hrule hquery
    have ⟨v, hv⟩ := Rule.exists_of_missing_eq_nil hmissing (hdefinition ▸ p.key_mem_required)
    rw [← Check.find?_merged p.key_not_mem_identity (hparams c hc) rule s.name, hv] at hprepares
    unfold Rule.name at hraw
    rw [hdefinition] at hraw
    exact ⟨v, raw, before, after, hv, hprepares, hraw, rfl⟩

end CheckDefinition

namespace Sample

def patterned : CheckDefinition where
  name := "a"
  description := none
  rule := " Regex_Match"
  ruleParams := [("regex_pattern", .string "^[a-z]+$")]
  column := some "code"
  params := [("regex_pattern", .string "^a' OR '1'='1")]
  severity := default
  threshold := none

/-- A library that knows patterns without groups, classes, repetitions and escapes. -/
def plainReader : Sql.PatternReader where
  refusal? s :=
    if s.toList.any (· ∈ "\\.()[]\x7b\x7d*+?|".toList) then some "not a plain pattern" else none

theorem patterned_prepared :
    ∃ c rule, patterned.toCheck plainReader .standard = .ok c
      ∧ c.params.find? "regex_pattern" = none ∧ c.rule = some rule
      ∧ rule.defaults.find? "regex_pattern" = some (.string "^a'' OR ''1''=''1") := by
  have hfault : Sql.patternFault? plainReader "^a' OR '1'='1" = none := by decide +kernel
  have hprepared := CheckDefinition.toCheck_prepared (d := patterned) plainReader .standard
    .regexMatch (by decide +kernel)
  cases hc : patterned.toCheck plainReader .standard with
  | error e =>
    obtain ⟨v, hgiven, hrefuses⟩ := (hprepared.error_iff e).1 hc
    cases hgiven
    cases hrefuses with
    | pattern h =>
      rw [hfault] at h
      cases h
    | notPattern h => exact absurd rfl (h _)
  | ok c =>
    obtain ⟨rule, hrule, _, hbound⟩ := hprepared.bound c hc
    have hprepares : Preparing.Prepares plainReader .regexMatch (some (.string "^a' OR '1'='1"))
      (rule.defaults.find? "regex_pattern") := hbound
    refine ⟨c, rule, rfl, hprepared.params c hc, hrule, ?_⟩
    generalize rule.defaults.find? "regex_pattern" = default at hprepares ⊢
    cases hprepares with
    | pattern _ =>
      have : Preparing.doubled "^a' OR '1'='1" = "^a'' OR ''1''=''1" := by decide
      rw [this]

end Sample
end DataQuality
