import DataQuality.Proofs.Rule.Construction

/-!
Registries that have been built. Building fails by the first directory or the first definition that
gives reason to, and a registry that has been built finds each of its definitions under every
spelling of its name. Main statement: `Registry.build_exact`.
-/

namespace DataQuality

open Text (isBlank)

namespace Registry

/-- The definitions that sources hold: those of the registrations, those of the directories, and the
single ones. -/
def Discovers (files : Storage.Tree) (sources : Sources) (found : List RuleDefinition) : Prop :=
  ∃ loaded, List.Forall₂ (DirectoryHolds files) sources.directories loaded
    ∧ found = sources.registrations.flatten ++ loaded.flatten ++ sources.definitions

/-- A registry in which the built-in rules and some others are found, and nothing else. -/
structure Serves (r : Registry) (found : List RuleDefinition) : Prop where
  length_plugins : r.plugins.length = found.length
  resolve_eq_ok : ∀ d ∈ Builtin.definitions ++ found, ∀ lead name trail : String,
    (∀ c ∈ lead.toList, isBlank c = true) → (∀ c ∈ trail.toList, isBlank c = true) →
      Text.lower name = Text.lower d.name →
        r.resolve (lead ++ name ++ trail) = .ok (.ofDefinition d)
  resolve_eq_error : ∀ name : String,
    (∀ d ∈ Builtin.definitions ++ found, Text.lower (Text.stripped name) ≠ Text.lower d.name) →
      r.resolve name = .error (.ruleNotFound name)
  contains_iff : ∀ name, r.contains name = true ↔ ∃ rule, r.resolve name = .ok rule
  find?_list : ∀ name d, r.list.find? (Text.lower (Text.stripped name)) = some d
      ↔
    r.resolve name = .ok (.ofDefinition d)
  list_perm : r.list.Perm (entries (Builtin.definitions ++ found))
  list_sorted : Dict.Sorted r.list

/-- What building a registry says about its sources, and what a registry that has been built is
like. -/
structure Builds (files : Storage.Tree) (sources : Sources) : Prop where
  ok_iff : (∃ r, (build files sources).outcome = .ok r)
      ↔
    ∃ found, Discovers files sources found ∧ Registrable found
  error_iff : ∀ e, (build files sources).outcome = .error e
      ↔
    DirectoriesFail files sources.directories e
      ∨ ∃ found, Discovers files sources found ∧ DefinitionsFail found e
  serves : ∀ r, (build files sources).outcome = .ok r →
    ∃ found, Discovers files sources found ∧ r.Serves found

theorem isName_builtin : ∀ d ∈ Builtin.definitions, Sql.IsName d.name := by
  have hfaults : ∀ d ∈ Builtin.definitions, Sql.nameFault? d.name = none := by decide +kernel
  intro d hd
  exact Sql.nameFault?_eq_none_iff_isName.1 (hfaults d hd)

theorem keyOf_of_blank {lead name trail : String} {d : RuleDefinition} (hd : Sql.IsName d.name)
    (hlead : ∀ c ∈ lead.toList, isBlank c = true) (htrail : ∀ c ∈ trail.toList, isBlank c = true)
    (hname : Text.lower name = Text.lower d.name) :
    keyOf (lead ++ name ++ trail) = Text.lower d.name := by
  have hblank : ∀ c ∈ name.toList, isBlank c = false := by
    intro c hc
    cases h : isBlank c with
    | false => rfl
    | true =>
      -- White space would stay in lower case, where the definition has none.
      have hmem := Text.mem_lower_of_isBlank h hc
      rw [hname] at hmem
      rw [← h, hd.not_isBlank_of_mem_lower hmem]
  unfold keyOf Text.stripped
  rw [String.toList_append, String.toList_append, Text.trim_append hlead hblank htrail,
    String.ofList_toList, hname]

theorem mem_entries_iff {ds : List RuleDefinition} {key : String} {d : RuleDefinition} :
    (key, d) ∈ entries ds ↔ d ∈ ds ∧ key = Text.lower d.name := by
  unfold entries
  simp only [List.mem_map, Prod.mk.injEq]
  constructor
  . rintro ⟨d', hd', hkey, rfl⟩
    exact ⟨hd', hkey.symm⟩
  . intro ⟨hd, hkey⟩
    exact ⟨d, hd, hkey.symm, rfl⟩

theorem resolve_eq_ok_iff {r : Registry} {name : String} {d : RuleDefinition} :
    r.resolve name = .ok (.ofDefinition d) ↔ r.find? name = some d := by
  unfold resolve
  cases r.find? name with
  | none => simp [throw, throwThe, MonadExceptOf.throw]
  | some found =>
    have hdefinition : Rule.ofDefinition found = Rule.ofDefinition d ↔ found = d :=
      ⟨congrArg Rule.definition, congrArg Rule.ofDefinition⟩
    simpa [pure, Except.pure] using hdefinition

section

variable {r : Registry} {found : List RuleDefinition} (h : r.Holds found)
  (hfound : Registrable found)

include h

theorem Holds.find?_builtins_eq_some_iff {key : String} {d : RuleDefinition} :
    r.builtins.find? key = some d ↔ d ∈ Builtin.definitions ∧ key = Text.lower d.name := by
  rw [h.builtins, Dict.find?_eq_some_iff_of_perm sorted_keyed keyed_perm, mem_entries_iff]

theorem Holds.find?_plugins_eq_some_iff {key : String} {d : RuleDefinition} :
    r.plugins.find? key = some d ↔ d ∈ found ∧ key = Text.lower d.name := by
  rw [Dict.find?_eq_some_iff_of_perm h.sorted h.plugins, mem_entries_iff]

theorem Holds.sorted_list : Dict.Sorted r.list := by
  unfold list Dict.overlay
  apply Dict.sorted_insertAll
  rw [h.builtins]
  exact sorted_keyed

include hfound

theorem Holds.find?_eq_some_iff {name : String} {d : RuleDefinition} :
    r.find? name = some d ↔ d ∈ Builtin.definitions ++ found ∧ keyOf name = Text.lower d.name := by
  have hnone (hd : d ∈ found) (hkey : keyOf name = Text.lower d.name) :
      r.builtins.find? (keyOf name) = none := by
    rw [Option.eq_none_iff_forall_not_mem]
    intro b hb
    obtain ⟨hb, hname⟩ := h.find?_builtins_eq_some_iff.1 hb
    exact hfound.notBuiltin d hd b hb (hkey.symm.trans hname)
  unfold find?
  rw [Option.orElse_eq_orElse, Option.orElse_eq_or, Option.or_eq_some_iff,
    h.find?_builtins_eq_some_iff, h.find?_plugins_eq_some_iff, List.mem_append]
  constructor
  . rintro (⟨hd, hkey⟩ | ⟨_, hd, hkey⟩)
    . exact ⟨.inl hd, hkey⟩
    . exact ⟨.inr hd, hkey⟩
  . rintro ⟨hd | hd, hkey⟩
    . exact .inl ⟨hd, hkey⟩
    . exact .inr ⟨hnone hd hkey, hd, hkey⟩

theorem Holds.list_perm : r.list.Perm (entries (Builtin.definitions ++ found)) := by
  have hentries : (r.plugins ++ r.builtins).Perm (entries (Builtin.definitions ++ found)) := by
    have happend : entries (Builtin.definitions ++ found)
        = entries Builtin.definitions ++ entries found := List.map_append
    rw [h.builtins, happend]
    exact List.perm_append_comm.trans (keyed_perm.append h.plugins)
  have hkeys : ((r.plugins ++ r.builtins).map Prod.fst).Nodup := by
    rw [(hentries.map Prod.fst).nodup_iff]
    have hbuiltins : ((entries Builtin.definitions).map Prod.fst).Nodup := by decide +kernel
    unfold entries at hbuiltins ⊢
    rw [List.map_map] at hbuiltins ⊢
    rw [List.map_append, List.nodup_append]
    refine ⟨hbuiltins, hfound.distinct, ?_⟩
    rintro key hkey key' hkey' rfl
    obtain ⟨b, hb, hbkey⟩ := List.mem_map.1 hkey
    obtain ⟨d, hd, hdkey⟩ := List.mem_map.1 hkey'
    exact hfound.notBuiltin d hd b hb (hdkey.trans hbkey.symm)
  exact (Dict.insertAll_perm hkeys).trans hentries

theorem Holds.serves : r.Serves found := by
  constructor
  case length_plugins =>
    rw [h.plugins.length_eq]
    exact List.length_map _
  case resolve_eq_ok =>
    intro d hd lead name trail hlead htrail hname
    have hdname : Sql.IsName d.name := by
      rcases List.mem_append.1 hd with hd | hd
      . exact isName_builtin d hd
      . exact (hfound.acceptable d hd).name
    rw [resolve_eq_ok_iff, h.find?_eq_some_iff hfound]
    exact ⟨hd, keyOf_of_blank hdname hlead htrail hname⟩
  case resolve_eq_error =>
    intro name hname
    have hnone : r.find? name = none := by
      rw [Option.eq_none_iff_forall_not_mem]
      intro d hd
      obtain ⟨hd, hkey⟩ := (h.find?_eq_some_iff hfound).1 hd
      exact hname d hd hkey
    unfold resolve
    rw [hnone]
    rfl
  case contains_iff =>
    intro name
    unfold contains resolve
    cases r.find? name with
    | none => simp [throw, throwThe, MonadExceptOf.throw]
    | some d => simp [pure, Except.pure]
  case find?_list =>
    intro name d
    rw [resolve_eq_ok_iff, h.find?_eq_some_iff hfound,
      Dict.find?_eq_some_iff_of_perm h.sorted_list (h.list_perm hfound), mem_entries_iff]
    rfl
  case list_perm => exact h.list_perm hfound
  case list_sorted => exact h.sorted_list

end

theorem build_outcome (files : Storage.Tree) (sources : Sources) :
    (build files sources).outcome
      =
    ((readDirectories files sources.directories).outcome >>= fun loaded =>
      (builtinOnly.registerAll
        (sources.registrations.flatten ++ loaded ++ sources.definitions)).outcome) := by
  unfold build
  simp only [Logged.bind_outcome]
  cases (readDirectories files sources.directories).outcome with
  | error e => rfl
  | ok loaded =>
    dsimp only [bind, Except.bind]
    cases (builtinOnly.registerAll
      (sources.registrations.flatten ++ loaded ++ sources.definitions)).outcome <;> rfl

section

variable {files : Storage.Tree} {sources : Sources} {found : List RuleDefinition}

theorem build_of_discovers (h : Discovers files sources found) :
    (build files sources).outcome = (builtinOnly.registerAll found).outcome := by
  obtain ⟨loaded, hloaded, rfl⟩ := h
  rw [build_outcome, readDirectories_eq_ok_iff.2 ⟨loaded, hloaded, rfl⟩]
  rfl

theorem build_of_registrable (h : Discovers files sources found) (hfound : Registrable found) :
    ∃ r, (build files sources).outcome = .ok r ∧ r.Serves found := by
  obtain ⟨r, hr, hholds⟩ := registerAll_of_registrable holds_builtinOnly hfound
  exact ⟨r, (build_of_discovers h).trans hr, hholds.serves hfound⟩

theorem build_of_definitionsFail {e : Error} (h : Discovers files sources found)
    (hfound : DefinitionsFail found e) : (build files sources).outcome = .error e := by
  rw [build_of_discovers h, registerAll_of_definitionsFail hfound]

theorem build_of_directoriesFail {e : Error} (h : DirectoriesFail files sources.directories e) :
    (build files sources).outcome = .error e := by
  rw [build_outcome, readDirectories_eq_error_iff.2 h]
  rfl

variable (files sources)

theorem build_cases :
    (∃ found, Discovers files sources found ∧ Registrable found)
      ∨ ∃ e, DirectoriesFail files sources.directories e
        ∨ ∃ found, Discovers files sources found ∧ DefinitionsFail found e := by
  cases hloaded : (readDirectories files sources.directories).outcome with
  | error e => exact .inr ⟨e, .inl (readDirectories_eq_error_iff.1 hloaded)⟩
  | ok ds =>
    obtain ⟨loaded, hholds, _⟩ := readDirectories_eq_ok_iff.1 hloaded
    have h : Discovers files sources _ := ⟨loaded, hholds, rfl⟩
    rcases registrable_or_definitionsFail
        (sources.registrations.flatten ++ loaded.flatten ++ sources.definitions) with hfound | ⟨e, he⟩
    . exact .inl ⟨_, h, hfound⟩
    . exact .inr ⟨e, .inr ⟨_, h, he⟩⟩

theorem build_of_fails {e : Error} (h : DirectoriesFail files sources.directories e
      ∨ ∃ found, Discovers files sources found ∧ DefinitionsFail found e) :
    (build files sources).outcome = .error e := by
  rcases h with h | ⟨found, h, hfound⟩
  . exact build_of_directoriesFail h
  . exact build_of_definitionsFail h hfound

theorem build_exact : Builds files sources := by
  constructor
  case ok_iff =>
    constructor
    . rintro ⟨r, hr⟩
      rcases build_cases files sources with h | ⟨e, he⟩
      . exact h
      . rw [build_of_fails files sources he] at hr
        cases hr
    . rintro ⟨found, h, hfound⟩
      obtain ⟨r, hr, _⟩ := build_of_registrable h hfound
      exact ⟨r, hr⟩
  case error_iff =>
    intro e
    refine ⟨?_, build_of_fails files sources⟩
    intro he
    rcases build_cases files sources with ⟨found, h, hfound⟩ | ⟨e', he'⟩
    . obtain ⟨r, hr, _⟩ := build_of_registrable h hfound
      rw [hr] at he
      cases he
    . rw [build_of_fails files sources he'] at he
      cases he
      exact he'
  case serves =>
    intro r hr
    rcases build_cases files sources with ⟨found, h, hfound⟩ | ⟨e, he⟩
    . obtain ⟨r', hr', hserves⟩ := build_of_registrable h hfound
      rw [hr, Except.ok.injEq] at hr'
      subst hr'
      exact ⟨found, h, hserves⟩
    . rw [build_of_fails files sources he] at hr
      cases hr

end

end Registry
end DataQuality
