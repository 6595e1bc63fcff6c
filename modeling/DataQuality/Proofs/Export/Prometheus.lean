import Mathlib.Data.List.Induction
import Mathlib.Data.List.Perm.Basic
import DataQuality.Proofs.Dict
import DataQuality.Proofs.Export.Exposition
import DataQuality.Proofs.Text.Words

/-!
The samples of a run. A reader of the text finds one sample for each series of results, which is
that of the last result of the series, and one for each of the two families about the run itself.
Main statement: `prometheus_samples`.
-/

namespace DataQuality.Export

open Exposition (IsName readFrom read?)

/-- The results of a run with the same series have the same labels. -/
def seriesOf (r : CheckResult) : String × CheckStatus × Severity :=
  (r.checkName, r.status, r.severity)

/-- The last result of each series. -/
structure LastOfEach (results selected : List CheckResult) : Prop where
  last : ∀ r ∈ selected, ∃ before after,
    results = before ++ r :: after ∧ ∀ later ∈ after, seriesOf later ≠ seriesOf r
  covers : ∀ r ∈ results, ∃ r' ∈ selected, seriesOf r' = seriesOf r
  distinct : (selected.map seriesOf).Nodup

/-- Puts a result in the place of that of its series. -/
def replaceLast (selected : List CheckResult) (r : CheckResult) : List CheckResult :=
  if seriesOf r ∈ selected.map seriesOf then
    selected.map fun r' => if seriesOf r' = seriesOf r then r else r'
  else
    selected ++ [r]

theorem mem_replaceLast {selected : List CheckResult} {r r' : CheckResult}
    (h : r' ∈ replaceLast selected r) :
    r' = r ∨ (r' ∈ selected ∧ seriesOf r' ≠ seriesOf r) := by
  unfold replaceLast at h
  split at h
  . obtain ⟨r'', hmem, rfl⟩ := List.mem_map.1 h
    split
    . exact .inl rfl
    . next hne => exact .inr ⟨hmem, hne⟩
  . next hnew =>
    rcases List.mem_append.1 h with hmem | hmem
    . refine .inr ⟨hmem, fun heq => hnew ?_⟩
      rw [← heq]
      exact List.mem_map_of_mem hmem
    . exact .inl (List.mem_singleton.1 hmem)

theorem map_seriesOf_replaceLast (selected : List CheckResult) (r : CheckResult) :
    (replaceLast selected r).map seriesOf
      =
    if seriesOf r ∈ selected.map seriesOf then
      selected.map seriesOf
    else
      selected.map seriesOf ++ [seriesOf r] := by
  unfold replaceLast
  split
  . rw [List.map_map]
    apply List.map_congr_left
    intro r' _
    rw [Function.comp_apply]
    split
    . next heq => exact heq.symm
    . rfl
  . rw [List.map_append, List.map_singleton]

theorem LastOfEach.nil : LastOfEach [] [] := by
  constructor
  case last => nofun
  case covers => nofun
  case distinct => exact .nil

theorem LastOfEach.concat {results selected : List CheckResult} (h : LastOfEach results selected)
    (r : CheckResult) : LastOfEach (results ++ [r]) (replaceLast selected r) := by
  have hseries (s : String × CheckStatus × Severity) :
      s ∈ (replaceLast selected r).map seriesOf ↔ s ∈ selected.map seriesOf ∨ s = seriesOf r := by
    rw [map_seriesOf_replaceLast]
    split
    . next hmem =>
      constructor
      . exact .inl
      . rintro (hs | rfl)
        . exact hs
        . exact hmem
    . rw [List.mem_append, List.mem_singleton]
  constructor
  case last =>
    intro r' hr'
    rcases mem_replaceLast hr' with rfl | ⟨hmem, hne⟩
    . exact ⟨results, [], rfl, nofun⟩
    . obtain ⟨before, after, rfl, hafter⟩ := h.last r' hmem
      refine ⟨before, after ++ [r], by simp, ?_⟩
      rw [List.forall_mem_append, List.forall_mem_singleton]
      exact ⟨hafter, Ne.symm hne⟩
  case covers =>
    intro r' hr'
    rw [← List.mem_map, hseries]
    rcases List.mem_append.1 hr' with hmem | hmem
    . exact .inl (List.mem_map.2 (h.covers r' hmem))
    . rw [List.mem_singleton.1 hmem]
      exact .inr rfl
  case distinct =>
    rw [map_seriesOf_replaceLast]
    split
    . exact h.distinct
    . next hnew =>
      rw [← List.concat_eq_append]
      exact h.distinct.concat hnew

theorem LastOfEach.of_perm {results selected selected' : List CheckResult}
    (h : LastOfEach results selected) (hperm : selected'.Perm selected) :
    LastOfEach results selected' := by
  constructor
  case last => exact fun r hr => h.last r (hperm.mem_iff.1 hr)
  case covers =>
    intro r hr
    obtain ⟨r', hr', hseries⟩ := h.covers r hr
    exact ⟨r', hperm.mem_iff.2 hr', hseries⟩
  case distinct => exact (hperm.map seriesOf).nodup_iff.2 h.distinct

theorem LastOfEach.series_perm {results selected : List CheckResult}
    (h : LastOfEach results selected) :
    (selected.map seriesOf).Perm (results.map seriesOf).dedup := by
  rw [List.perm_ext_iff_of_nodup h.distinct (List.nodup_dedup _)]
  intro s
  rw [List.mem_dedup, List.mem_map, List.mem_map]
  constructor
  . rintro ⟨r, hr, rfl⟩
    obtain ⟨before, after, rfl, _⟩ := h.last r hr
    exact ⟨r, by simp, rfl⟩
  . rintro ⟨r, hr, rfl⟩
    exact h.covers r hr

section CheckValues

variable (m : RunMetadata)

/-- The values of the labels of a result. -/
def labelValues (r : CheckResult) : List String :=
  [m.suiteName, r.checkName, r.status.text, r.severity.text]

theorem labelValues_eq_iff {r r' : CheckResult} :
    labelValues m r = labelValues m r' ↔ seriesOf r = seriesOf r' := by
  have hstatus : r.status.text = r'.status.text ↔ r.status = r'.status := by
    refine ⟨fun h => ?_, congrArg _⟩
    rw [← Option.some_inj, ← CheckStatus.ofText?_text, h, CheckStatus.ofText?_text]
  have hseverity : r.severity.text = r'.severity.text ↔ r.severity = r'.severity := by
    refine ⟨fun h => ?_, congrArg _⟩
    rw [← Option.some_inj, ← Severity.ofText?_text, h, Severity.ofText?_text]
  simp [labelValues, seriesOf, hstatus, hseverity]

def checkSample (r : CheckResult) : List String × Float := (labelValues m r, r.value.getD (0 / 0))

/-- The family of the results with the samples of some of them. -/
def selectedValues (selected : List CheckResult) : Family :=
  { checkValues m [] with samples := selected.map (checkSample m) }

theorem set_selectedValues (selected : List CheckResult) (r : CheckResult) :
    (selectedValues m selected).set (labelValues m r) (r.value.getD (0 / 0))
      =
    selectedValues m (replaceLast selected r) := by
  have hany : (selected.map (checkSample m)).any (·.1 == labelValues m r) = true
      ↔ seriesOf r ∈ selected.map seriesOf := by
    simp [checkSample, labelValues_eq_iff]
  unfold Family.set selectedValues replaceLast
  dsimp only
  by_cases hmem : seriesOf r ∈ selected.map seriesOf
  . rw [if_pos (hany.2 hmem), if_pos hmem, List.map_map, List.map_map]
    congr 1
    apply List.map_congr_left
    intro r' _
    simp only [Function.comp_apply, checkSample, beq_iff_eq, labelValues_eq_iff]
    split <;> rfl
  . rw [if_neg (mt hany.1 hmem), if_neg hmem, List.map_append]
    rfl

theorem exists_checkValues_eq (results : List CheckResult) :
    ∃ selected, LastOfEach results selected
      ∧ checkValues m results = selectedValues m selected := by
  -- The samples are set in the order of the results, so the last result is taken off.
  induction results using List.reverseRecOn with
  | nil => exact ⟨[], .nil, rfl⟩
  | append_singleton results r ih =>
    obtain ⟨selected, hlast, hvalues⟩ := ih
    refine ⟨replaceLast selected r, hlast.concat r, ?_⟩
    have hconcat : checkValues m (results ++ [r])
        = (checkValues m results).set (labelValues m r) (r.value.getD (0 / 0)) := by
      unfold checkValues
      rw [List.foldl_concat]
      rfl
    rw [hconcat, hvalues, set_selectedValues]

end CheckValues

/-- The labels that a family has itself in a sample, and those of the user beside them. -/
def IsLabelled (user : Dict String) (own labels : List (String × String)) : Prop :=
  labels.Perm (own ++ user.filter fun (label, _) => label ∉ own.map Prod.fst)

section Labels

variable {user : Dict String} {own values : List String}

theorem extraLabels_eq (user : Dict String) (hlength : own.length = values.length) :
    extraLabels user own
      =
    user.filter fun (label, _) => label ∉ (own.zip values).map Prod.fst := by
  rw [List.map_fst_zip (Nat.le_of_eq hlength)]
  unfold extraLabels
  apply List.filter_congr
  intro e _
  simp

theorem nodup_labels (huser : user.Sorted) (hown : own.Nodup)
    (hlength : own.length = values.length) :
    (own.zip values ++ extraLabels user own).map Prod.fst |>.Nodup := by
  rw [List.map_append, List.map_fst_zip (Nat.le_of_eq hlength), List.nodup_append]
  refine ⟨hown, ?_, ?_⟩
  . exact huser.nodup_keys.sublist (List.filter_sublist.map Prod.fst)
  . rintro label hlabel _ hmem rfl
    obtain ⟨e, he, rfl⟩ := List.mem_map.1 hmem
    simpa [hlabel] using (List.mem_filter.1 he).2

theorem isLabelled_sampleLabels (huser : user.Sorted) (hown : own.Nodup)
    (hlength : own.length = values.length) :
    IsLabelled user (own.zip values) (sampleLabels user own values) := by
  have hentries : (Dict.ofEntries (own.zip values)).Perm (own.zip values) := by
    have hnodup : (own.zip values ++ Dict.empty).map Prod.fst |>.Nodup := by
      rw [Dict.empty, List.append_nil, List.map_fst_zip (Nat.le_of_eq hlength)]
      exact hown
    have := Dict.insertAll_perm hnodup
    rwa [Dict.empty, List.append_nil] at this
  have hall := hentries.append_right (extraLabels user own)
  have hnodup := (hall.map Prod.fst).nodup_iff.2 (nodup_labels huser hown hlength)
  unfold IsLabelled sampleLabels Dict.overlay
  rw [← extraLabels_eq user hlength]
  exact (Dict.insertAll_perm hnodup).trans hall

end Labels

/-- A family that can be written with the labels of the user. -/
structure IsWritable (user : Dict String) (f : Family) : Prop where
  name : IsName f.name
  help : '\n' ∉ f.help.toList
  labels : ∀ label ∈ f.labels, IsName label
  nonempty : f.labels ≠ []
  distinct : f.labels.Nodup
  extra : ∀ e ∈ extraLabels user f.labels, IsName e.1
  values : ∀ s ∈ f.samples, f.labels.length = s.1.length

/-- A sample of a family as it is read. -/
def readingOf (user : Dict String) (f : Family) (s : List String × Float) : Exposition.Sample :=
  ⟨f.name, sampleLabels user f.labels s.1, Decimal.plain s.2⟩

namespace IsWritable

variable {user : Dict String} {f : Family}

theorem isLabelled (h : IsWritable user f) (huser : user.Sorted) {s : List String × Float}
    (hs : s ∈ f.samples) :
    IsLabelled user (f.labels.zip s.1) (sampleLabels user f.labels s.1) :=
  isLabelled_sampleLabels huser h.distinct (h.values s hs)

theorem sampleLabels_ne_nil (h : IsWritable user f) (huser : user.Sorted) {s : List String × Float}
    (hs : s ∈ f.samples) : sampleLabels user f.labels s.1 ≠ [] := by
  intro hnil
  have hlabelled := h.isLabelled huser hs
  rw [IsLabelled, hnil, List.nil_perm, List.append_eq_nil_iff] at hlabelled
  rcases List.zip_eq_nil_iff.1 hlabelled.1 with hlabels | hvalues
  . exact h.nonempty hlabels
  . have hlength := h.values s hs
    rw [hvalues, List.length_nil, List.length_eq_zero_iff] at hlength
    exact h.nonempty hlength

theorem isName_of_mem (h : IsWritable user f) (huser : user.Sorted) {s : List String × Float}
    (hs : s ∈ f.samples) : ∀ e ∈ sampleLabels user f.labels s.1, IsName e.1 := by
  intro e he
  have hlabelled := h.isLabelled huser hs
  rw [IsLabelled, ← extraLabels_eq user (h.values s hs)] at hlabelled
  rcases List.mem_append.1 (hlabelled.mem_iff.1 he) with hown | hextra
  . exact h.labels e.1 (List.of_mem_zip hown).1
  . exact h.extra e hextra

theorem readFrom_familyText (h : IsWritable user f) (huser : user.Sorted) (rest : List Char) :
    ∃ samples, samples.Perm (f.samples.map (readingOf user f))
      ∧ readFrom .start ((familyText user f).toList ++ rest)
        = (readFrom .start rest).map (samples ++ ·) := by
  unfold familyText
  split
  . next hempty =>
    rw [List.isEmpty_iff.1 hempty]
    exact ⟨[], .refl _, Option.map_id'.symm⟩
  . dsimp only
    rw [String.toList_append, List.append_assoc, Exposition.readFrom_description h.name h.help,
      Exposition.readFrom_samples h.name]
    . refine ⟨_, ((List.mergeSort_perm _ _).map _).trans ?_, rfl⟩
      rw [List.map_map]
      exact .refl _
    . intro s hs
      obtain ⟨s', hs', rfl⟩ := List.mem_map.1 ((List.mergeSort_perm _ _).mem_iff.1 hs)
      exact ⟨h.sampleLabels_ne_nil huser hs', h.isName_of_mem huser hs'⟩

end IsWritable

theorem read?_families {user : Dict String} (huser : user.Sorted) {fs : List Family}
    (h : ∀ f ∈ fs, IsWritable user f) :
    ∃ parts, List.Forall₂ (fun f part => part.Perm (f.samples.map (readingOf user f))) fs parts
      ∧ read? (Text.join "" (fs.map (familyText user))) = some parts.flatten := by
  rw [Text.join_empty_eq_join]
  induction fs with
  | nil => exact ⟨[], .nil, rfl⟩
  | cons f fs ih =>
    rw [List.forall_mem_cons] at h
    obtain ⟨parts, hparts, hread⟩ := ih h.2
    unfold read? at hread ⊢
    rw [List.map_cons, String.join_cons, String.toList_append]
    obtain ⟨part, hpart, hfamily⟩ := h.1.readFrom_familyText huser
      (String.join (fs.map (familyText user))).toList
    refine ⟨part :: parts, .cons hpart hparts, ?_⟩
    rw [hfamily, hread, Option.map_some, List.flatten_cons]

/-- A sample with the given name, labels and number. -/
structure IsSample (user : Dict String) (name : String) (own : List (String × String))
    (value : String) (sample : Exposition.Sample) : Prop where
  name : sample.name = name
  labels : IsLabelled user own sample.labels
  value : sample.value = value

theorem IsWritable.isSample {user : Dict String} {f : Family} (h : IsWritable user f)
    (huser : user.Sorted) {s : List String × Float} (hs : s ∈ f.samples) :
    IsSample user f.name (f.labels.zip s.1) (Decimal.plain s.2) (readingOf user f s) := by
  constructor
  case name => rfl
  case labels => exact h.isLabelled huser hs
  case value => rfl

theorem isName_of_badLabel? {user : Dict String} {fs : List Family} (h : badLabel? user fs = none) :
    ∀ f ∈ fs, ∀ e ∈ extraLabels user f.labels, IsName e.1 := by
  intro f hf e he
  unfold badLabel? at h
  rw [List.findSome?_eq_none_iff] at h
  have hlabel := List.findSome?_eq_none_iff.1 (h f hf) e he
  dsimp only at hlabel
  split at hlabel
  . next hform => exact hform
  . cases hlabel

section Run

variable {user : Dict String} {m : RunMetadata} {results : List CheckResult} {text : String}

theorem prometheusText_of_ok (h : prometheusText user m results = .ok text) :
    badLabel? user (families m results) = none
      ∧ text = Text.join "" ((families m results).map (familyText user)) := by
  unfold prometheusText at h
  dsimp only at h
  split at h
  . cases h
  . next hbad =>
    cases h
    exact ⟨hbad, rfl⟩

theorem isWritable_selectedValues {selected : List CheckResult}
    (h : ∀ e ∈ extraLabels user (selectedValues m selected).labels, IsName e.1) :
    IsWritable user (selectedValues m selected) := by
  constructor
  case extra => exact h
  case values =>
    unfold selectedValues
    rw [List.forall_mem_map]
    exact fun _ _ => rfl
  all_goals
    dsimp only [selectedValues, checkValues, List.foldl_nil]
    decide

theorem isWritable_runDuration (h : ∀ e ∈ extraLabels user (runDuration m).labels, IsName e.1) :
    IsWritable user (runDuration m) := by
  constructor
  case extra => exact h
  case values => exact List.forall_mem_singleton.2 rfl
  all_goals
    dsimp only [runDuration]
    decide

theorem isWritable_runErrors (h : ∀ e ∈ extraLabels user (runErrors m).labels, IsName e.1) :
    IsWritable user (runErrors m) := by
  constructor
  case extra => exact h
  case values => exact List.forall_mem_singleton.2 rfl
  all_goals
    dsimp only [runErrors]
    decide

/-- The sample of a result. -/
def IsCheckSample (user : Dict String) (m : RunMetadata) (r : CheckResult) :
    Exposition.Sample → Prop :=
  IsSample user "sentinel_check_value"
    [("suite", m.suiteName), ("check", r.checkName), ("status", r.status.text),
     ("severity", r.severity.text)]
    ((r.value.map Decimal.plain).getD "NaN")

theorem plain_getD (x : Option Float) {absent : Float} {text : String}
    (h : Decimal.plain absent = text) :
    Decimal.plain (x.getD absent) = (x.map Decimal.plain).getD text := by
  cases x with
  | none => exact h
  | some x => rfl

theorem exists_isCheckSample (huser : user.Sorted) {selected : List CheckResult}
    (h : IsWritable user (selectedValues m selected)) {part : List Exposition.Sample}
    (hpart : part.Perm
      ((selectedValues m selected).samples.map (readingOf user (selectedValues m selected)))) :
    ∃ order, order.Perm selected ∧ List.Forall₂ (IsCheckSample user m) order part := by
  have hsamples : List.Forall₂ (fun sample r => IsCheckSample user m r sample)
      ((selectedValues m selected).samples.map (readingOf user (selectedValues m selected)))
      selected := by
    change List.Forall₂ _ ((selected.map (checkSample m)).map _) selected
    rw [List.map_map, List.forall₂_map_left_iff, List.forall₂_same]
    intro r hr
    have hsample := h.isSample huser (List.mem_map_of_mem hr)
    unfold IsCheckSample
    rwa [← plain_getD r.value (by decide +kernel : Decimal.plain (0 / 0) = "NaN")]
  -- The text has the samples in the order of their labels; the results follow them in it.
  obtain ⟨order, hforall, horder⟩ := List.perm_comp_forall₂ hpart hsamples
  exact ⟨order, horder, hforall.flip⟩

end Run

theorem prometheus_samples (user : Dict String) (huser : user.Sorted) (m : RunMetadata)
    (results : List CheckResult) (text : String) (h : prometheusText user m results = .ok text) :
    ∃ selected checks duration errors,
      read? text = some (checks ++ [duration, errors])
        ∧ LastOfEach results selected
        ∧ List.Forall₂ (IsCheckSample user m) selected checks
        ∧ IsSample user "sentinel_run_duration_ms"
            [("suite", m.suiteName), ("status", m.status.text)]
            ((m.durationMs.map Decimal.plain).getD "0") duration
        ∧ IsSample user "sentinel_run_error_count" [("suite", m.suiteName)]
            (Decimal.plain (Float.ofNat m.errors.length)) errors := by
  obtain ⟨hbad, rfl⟩ := prometheusText_of_ok h
  obtain ⟨selected, hlast, hvalues⟩ := exists_checkValues_eq m results
  have hextra := isName_of_badLabel? hbad
  unfold families at hextra ⊢
  rw [hvalues] at hextra ⊢
  simp only [List.forall_mem_cons] at hextra
  have hchecks := isWritable_selectedValues hextra.1
  have hduration := isWritable_runDuration hextra.2.1
  have herrors := isWritable_runErrors hextra.2.2.1
  obtain ⟨parts, hparts, hread⟩ := read?_families huser
    (List.forall_mem_cons.2 ⟨hchecks, List.forall_mem_cons.2 ⟨hduration,
      List.forall_mem_singleton.2 herrors⟩⟩)
  obtain _ | ⟨hpart, _ | ⟨hpartDuration, _ | ⟨hpartErrors, ⟨⟩⟩⟩⟩ := hparts
  obtain ⟨order, horder, hforall⟩ := exists_isCheckSample huser hchecks hpart
  have hsampleDuration := hduration.isSample huser (List.mem_singleton.2 rfl)
  have hsampleErrors := herrors.isSample huser (List.mem_singleton.2 rfl)
  rw [plain_getD _ (by decide +kernel : Decimal.plain 0 = "0")] at hsampleDuration
  refine ⟨order, _, _, _, ?_, hlast.of_perm horder, hforall, hsampleDuration, hsampleErrors⟩
  rw [hread, List.perm_singleton.1 hpartDuration, List.perm_singleton.1 hpartErrors]
  rfl

namespace Sample

def labels : Dict String := [("env", "a\"b"), ("suite", "shadowed")]

def unfinished : RunMetadata := .start "orders" true false ⟨0, 0⟩

/-- Two of these results have the same series. -/
def measured : List CheckResult :=
  [⟨"rows", .pass, .error, "", some (.ofNat 150), none, none⟩,
   ⟨"broken", .error, .warn, "", none, none, none⟩,
   ⟨"rows", .pass, .error, "", some (.ofNat 3), none, none⟩]

theorem measured_samples :
    labels.Sorted
      ∧ ∃ text checks duration errors,
          prometheusText labels unfinished measured = .ok text
            ∧ read? text = some (checks ++ [duration, errors])
            ∧ checks.length = 2
            ∧ IsSample labels "sentinel_run_duration_ms"
                [("suite", "orders"), ("status", "UNKNOWN")] "0" duration := by
  have hlabels : labels.Sorted := by decide
  have hbad : badLabel? labels (families unfinished measured) = none := by decide +kernel
  have htext : prometheusText labels unfinished measured
      = .ok (Text.join "" ((families unfinished measured).map (familyText labels))) := by
    unfold prometheusText
    dsimp only
    rw [hbad]
    rfl
  obtain ⟨_, checks, duration, errors, hread, hlast, hchecks, hduration, _⟩ :=
    prometheus_samples labels hlabels unfinished measured _ htext
  refine ⟨hlabels, _, checks, duration, errors, htext, hread, ?_, hduration⟩
  have hlength := hlast.series_perm.length_eq
  rw [List.length_map, hchecks.length_eq] at hlength
  rw [hlength]
  decide

end Sample

end DataQuality.Export
