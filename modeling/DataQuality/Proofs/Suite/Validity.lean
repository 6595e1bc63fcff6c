import DataQuality.Suite.Basic

/-!
Valid suites. Main statement: `SuiteDraft.checkFault?_eq_none_iff`, which says what the names of
checks have to be like.
-/

namespace DataQuality

theorem Sql.checkName_eq_ok_iff {name : String} {u : Unit} :
    checkName name = .ok u ↔ nameFault? name = none := by
  unfold checkName
  cases nameFault? name with
  | none => simp [pure, Except.pure]
  | some fault => simp [throw, throwThe, MonadExceptOf.throw]

theorem Sql.isAsciiWord_of_mem_name {name : String} (h : nameFault? name = none) {c : Char}
    (hc : c ∈ name.toList) : Text.isAsciiWord c = true := by
  have hform := (nameFault?_eq_none_iff.1 h).1
  cases hs : name.toList with
  | nil => simp [hs] at hc
  | cons first rest =>
    rw [hs, hasNameForm, Bool.and_eq_true, List.all_eq_true] at hform
    rw [hs] at hc
    rcases List.mem_cons.1 hc with rfl | hc
    . have hstart := hform.1
      unfold isNameStart at hstart
      unfold Text.isAsciiWord Char.isAlphanum
      simp only [Bool.or_eq_true] at hstart ⊢
      exact hstart.imp_left .inl
    . exact hform.2 c hc

namespace SuiteDraft

theorem checkFault?_eq_none_iff {base : String} {taken names : List String} :
    checkFault? base taken names = none
      ↔
    (∀ name ∈ names, Sql.nameFault? name = none ∧ Text.lower name ≠ base
        ∧ Text.lower name ∉ taken)
      ∧ (names.map Text.lower).Nodup := by
  induction names generalizing taken with
  | nil => simp [checkFault?]
  | cons name rest ih =>
    unfold checkFault?
    rw [List.map_cons, List.nodup_cons, List.forall_mem_cons]
    split
    . next e he =>
      have hname : Sql.nameFault? name ≠ none := by
        intro hname
        rw [← Sql.checkName_eq_ok_iff (u := ()), he] at hname
        contradiction
      simp [hname]
    . next he =>
      have hname := Sql.checkName_eq_ok_iff.1 he
      split
      . next hbase => simp [hbase]
      . next hbase =>
        split
        . next htaken => simp [htaken]
        . next htaken =>
          rw [ih]
          -- The names that follow must also keep clear of this one.
          have hrest : (∀ n ∈ rest, Sql.nameFault? n = none ∧ Text.lower n ≠ base
                ∧ Text.lower n ∉ Text.lower name :: taken)
              ↔ (∀ n ∈ rest, Sql.nameFault? n = none ∧ Text.lower n ≠ base
                ∧ Text.lower n ∉ taken) ∧ Text.lower name ∉ rest.map Text.lower := by
            simp only [List.mem_cons, not_or, List.mem_map, not_exists, not_and]
            grind
          rw [hrest]
          simp [hname, hbase, htaken, and_assoc]

theorem fault?_eq_none_iff {d : SuiteDraft} :
    d.fault? = none
      ↔
    Sql.nameFault? d.name = none ∧ d.source.fault? = none
      ∧ checkFault? (baseName d.name) [] (d.checks.map Check.name) = none := by
  unfold fault?
  split
  . next e he =>
    have hname : Sql.nameFault? d.name ≠ none := by
      intro hname
      rw [← Sql.checkName_eq_ok_iff (u := ()), he] at hname
      contradiction
    simp [hname]
  . next he =>
    have hname := Sql.checkName_eq_ok_iff.1 he
    split
    . next fault hfault => simp [hfault]
    . next hfault => simp [hname, hfault]

end SuiteDraft

namespace Suite

theorem nameFault?_check (s : Suite) {c : Check} (h : c ∈ s.checks) :
    Sql.nameFault? c.name = none := by
  have hchecks := (SuiteDraft.fault?_eq_none_iff.1 s.valid).2.2
  have hnames := (SuiteDraft.checkFault?_eq_none_iff.1 hchecks).1
  apply (hnames c.name _).1
  exact List.mem_map_of_mem h

theorem nodup_names (s : Suite) : (s.checks.map Check.name).Nodup := by
  have hchecks := (SuiteDraft.fault?_eq_none_iff.1 s.valid).2.2
  have hlower := (SuiteDraft.checkFault?_eq_none_iff.1 hchecks).2
  apply List.Pairwise.of_map Text.lower _ hlower
  intro a b hne heq
  exact hne (by rw [heq])

theorem find?_name_of_mem {checks : List Check} (hnodup : (checks.map Check.name).Nodup)
    {c : Check} (h : c ∈ checks) : checks.find? (·.name == c.name) = some c := by
  induction checks with
  | nil => cases h
  | cons first rest ih =>
    rw [List.map_cons, List.nodup_cons] at hnodup
    rcases List.mem_cons.1 h with rfl | h
    . rw [List.find?_cons_of_pos]
      simp
    . rw [List.find?_cons_of_neg, ih hnodup.2 h]
      have hfirst : first.name ≠ c.name := by
        intro heq
        apply hnodup.1
        rw [heq]
        exact List.mem_map_of_mem h
      simpa using hfirst

theorem check?_eq_some_iff (s : Suite) {name : String} {c : Check} :
    s.check? name = some c ↔ c ∈ s.checks ∧ c.name = name := by
  unfold check?
  constructor
  . intro h
    have hname := List.find?_some h
    exact ⟨List.mem_of_find?_eq_some h, by simpa using hname⟩
  . rintro ⟨hc, rfl⟩
    exact find?_name_of_mem s.nodup_names hc

end Suite
end DataQuality
