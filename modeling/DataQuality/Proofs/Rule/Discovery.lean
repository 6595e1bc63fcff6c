import DataQuality.Proofs.Outcome
import DataQuality.Rule.Registry

/-!
The definitions that directories hold: those of their rule files in the order of the names. The first
directory that cannot be loaded decides how loading them fails. Main statements:
`Registry.readDirectories_eq_ok_iff` and `Registry.readDirectories_eq_error_iff`.
-/

namespace DataQuality

namespace Storage.Tree

def children (t : Tree) (path : String) : List String :=
  t.entries.filterMap fun (r, _) => if r.dropLast = route path then r.getLast? else none

theorem mem_children_iff {t : Tree} {path name : String} :
    name ∈ t.children path ↔ ∃ e, (route path ++ [name], e) ∈ t.entries := by
  unfold children
  simp only [List.mem_filterMap, Prod.exists, Option.ite_none_right_eq_some]
  constructor
  . rintro ⟨r, e, hmem, hroute, hname⟩
    obtain ⟨front, rfl⟩ := List.getLast?_eq_some_iff.1 hname
    rw [List.dropLast_concat] at hroute
    exact ⟨e, by rwa [hroute] at hmem⟩
  . rintro ⟨e, hmem⟩
    exact ⟨route path ++ [name], e, hmem, List.dropLast_concat, List.getLast?_concat⟩

theorem names_eq_mergeSort (t : Tree) (path : String) :
    t.names path = (t.children path).mergeSort fun a b => a ≤ b := by
  unfold names children
  dsimp only
  congr 1
  congr 1
  funext ⟨r, e⟩
  dsimp only
  cases r.getLast? with
  | none => simp
  | some name => simp

end Storage.Tree

namespace Registry

open Json (Value Shape)

theorem pairwise_mergeSort_le (names : List String) :
    (names.mergeSort fun a b => a ≤ b).Pairwise (· ≤ ·) := by
  have htrans (a b c : String) : decide (a ≤ b) = true → decide (b ≤ c) = true →
      decide (a ≤ c) = true := by
    simp only [decide_eq_true_eq]
    exact String.le_trans
  have htotal (a b : String) : (decide (a ≤ b) || decide (b ≤ a)) = true := by
    simp only [Bool.or_eq_true, decide_eq_true_eq]
    exact String.le_total a b
  have h := List.pairwise_mergeSort htrans htotal names
  apply h.imp
  intro a b hab
  simpa using hab

/-- The definitions that a text describes: those of a list in its order, or a single one. -/
def Describes (text : String) (ds : List RuleDefinition) : Prop :=
  (∃ v, Shape.any.read text = .ok v)
    ∧ ((∃ many, (Shape.sequence RuleDefinition.shape).read text = .ok many
        ∧ ds = many.items.map RuleDefinition.ofJson)
      ∨ ((∀ many, (Shape.sequence RuleDefinition.shape).read text ≠ .ok many)
        ∧ ∃ one, RuleDefinition.shape.read text = .ok one ∧ ds = [RuleDefinition.ofJson one]))

/-- The names of the rule files of a directory, in increasing order. -/
structure RuleFiles (files : Storage.Tree) (path : String) (names : List String) : Prop where
  perm : names.Perm ((files.children path).filter isRuleFile)
  sorted : names.Pairwise (· ≤ ·)

theorem RuleFiles.mem_iff {files : Storage.Tree} {path : String} {names : List String}
    (h : RuleFiles files path names) {name : String} :
    name ∈ names
      ↔
    isRuleFile name = true ∧ ∃ e, (Storage.route path ++ [name], e) ∈ files.entries := by
  rw [h.perm.mem_iff, List.mem_filter, Storage.Tree.mem_children_iff, and_comm]

def filePath (path name : String) : String :=
  String.ofList (Text.dropSlashes path.toList) ++ "/" ++ name

def FileHolds (files : Storage.Tree) (path : String) (ds : List RuleDefinition) : Prop :=
  ∃ text, files.readText path = .ok text ∧ Describes text ds

/-- How reading a file fails: it holds no text, or a text that describes no rules. -/
def FileFails (files : Storage.Tree) (path : String) (e : Error) : Prop :=
  (∃ fault, files.readText path = .error fault ∧ e = .io fault.message)
    ∨ ∃ text cause, files.readText path = .ok text ∧ (∀ ds, ¬ Describes text ds)
      ∧ definitionsOf text = .error cause
      ∧ e = .configuration ("Failed to parse rule file '" ++ path ++ "': " ++ cause.message)

def DirectoryHolds (files : Storage.Tree) (path : String) (ds : List RuleDefinition) : Prop :=
  files.isDirectory path = true
    ∧ ∃ names parts, RuleFiles files path names
      ∧ List.Forall₂ (fun name part => FileHolds files (filePath path name) part) names parts
      ∧ ds = parts.flatten

/-- How loading a directory fails: there is none, or its first rule file that describes no rules
fails. -/
def DirectoryFails (files : Storage.Tree) (path : String) (e : Error) : Prop :=
  (files.isDirectory path = false
      ∧ e = .configuration ("Rule directory '" ++ path ++ "' is not a readable directory"))
    ∨ (files.isDirectory path = true
      ∧ ∃ before name after, RuleFiles files path (before ++ name :: after)
        ∧ (∀ b ∈ before, ∃ part, FileHolds files (filePath path b) part)
        ∧ FileFails files (filePath path name) e)

/-- How loading directories fails: the first of them that cannot be loaded fails so. -/
def DirectoriesFail (files : Storage.Tree) (paths : List String) (e : Error) : Prop :=
  ∃ before path after, paths = before ++ path :: after
    ∧ (∀ b ∈ before, ∃ ds, DirectoryHolds files b ds) ∧ DirectoryFails files path e

theorem definitionsOf_eq_ok_iff {text : String} {ds : List RuleDefinition} :
    definitionsOf text = .ok ds ↔ Describes text ds := by
  unfold definitionsOf Describes
  rw [Outcome.bind_eq_ok_iff, exists_and_right]
  apply and_congr_right
  intro _
  cases (Shape.sequence RuleDefinition.shape).read text with
  | ok many => simp [pure, Except.pure, eq_comm]
  | error e =>
    cases RuleDefinition.shape.read text with
    | ok one => simp [pure, Except.pure, eq_comm]
    | error e' => simp [throw, throwThe, MonadExceptOf.throw]

section

variable {files : Storage.Tree} {path : String} {ds : List RuleDefinition} {e : Error}

theorem readFile_eq_ok_iff : readFile files path = .ok ds ↔ FileHolds files path ds := by
  unfold readFile FileHolds
  cases files.readText path with
  | error fault => simp [throw, throwThe, MonadExceptOf.throw]
  | ok text =>
    simp only [Except.ok.injEq, exists_eq_left', ← definitionsOf_eq_ok_iff]
    cases definitionsOf text with
    | error cause => simp [throw, throwThe, MonadExceptOf.throw]
    | ok found => simp [pure, Except.pure]

theorem readFile_eq_error_iff : readFile files path = .error e ↔ FileFails files path e := by
  unfold readFile FileFails
  cases files.readText path with
  | error fault => simp [throw, throwThe, MonadExceptOf.throw, eq_comm]
  | ok text =>
    simp only [← definitionsOf_eq_ok_iff]
    cases hfound : definitionsOf text with
    | error cause => simp [throw, throwThe, MonadExceptOf.throw, hfound, eq_comm]
    | ok found => simp [pure, Except.pure, hfound]

theorem readFiles_outcome (paths : List String) :
    (readFiles files paths).outcome = (paths.mapM (readFile files)).map List.flatten := by
  induction paths with
  | nil => rfl
  | cons path rest ih =>
    unfold readFiles
    simp only [Logged.bind_outcome, ih, List.mapM_cons]
    change (readFile files path >>= _) = _
    cases readFile files path with
    | error e => rfl
    | ok here => cases rest.mapM (readFile files) <;> rfl

theorem ruleFiles_iff {names : List String} :
    RuleFiles files path names ↔ (files.names path).filter isRuleFile = names := by
  have hperm : ((files.names path).filter isRuleFile).Perm
      ((files.children path).filter isRuleFile) := by
    rw [Storage.Tree.names_eq_mergeSort]
    exact (List.mergeSort_perm _ _).filter _
  have hsorted : ((files.names path).filter isRuleFile).Pairwise (· ≤ ·) := by
    rw [Storage.Tree.names_eq_mergeSort]
    exact (pairwise_mergeSort_le _).filter _
  constructor
  . intro h
    apply (hperm.trans h.perm.symm).eq_of_pairwise _ hsorted h.sorted
    intro a b _ _ hab hba
    exact String.le_antisymm hab hba
  . rintro rfl
    exact ⟨hperm, hsorted⟩

theorem readDirectory_outcome (h : files.isDirectory path = true) :
    (readDirectory files path).outcome
      =
    (((files.names path).filter isRuleFile).mapM fun name =>
      readFile files (filePath path name)).map List.flatten := by
  unfold readDirectory
  rw [if_pos h]
  change (readFiles files (List.map (filePath path) _)).outcome = _
  rw [readFiles_outcome, List.mapM_map, Function.comp_def]

theorem readDirectory_of_not_isDirectory (h : files.isDirectory path = false) :
    (readDirectory files path).outcome
      =
    .error (.configuration ("Rule directory '" ++ path ++ "' is not a readable directory")) := by
  unfold readDirectory
  rw [h]
  rfl

theorem readDirectory_eq_ok_iff :
    (readDirectory files path).outcome = .ok ds ↔ DirectoryHolds files path ds := by
  unfold DirectoryHolds
  cases h : files.isDirectory path with
  | false => simp [readDirectory_of_not_isDirectory h]
  | true =>
    rw [readDirectory_outcome h, Outcome.map_eq_ok_iff]
    simp only [Outcome.mapM_eq_ok_iff, readFile_eq_ok_iff, ruleFiles_iff, true_and,
      exists_and_left, exists_eq_left', eq_comm (a := ds)]

theorem readDirectory_eq_error_iff :
    (readDirectory files path).outcome = .error e ↔ DirectoryFails files path e := by
  unfold DirectoryFails
  cases h : files.isDirectory path with
  | false => simp [readDirectory_of_not_isDirectory h, eq_comm]
  | true =>
    rw [readDirectory_outcome h, Outcome.map_eq_error_iff]
    simp only [Outcome.mapM_eq_error_iff, readFile_eq_ok_iff, readFile_eq_error_iff, ruleFiles_iff]
    simp

theorem readDirectories_outcome (paths : List String) :
    (readDirectories files paths).outcome
      =
    (paths.mapM fun path => (readDirectory files path).outcome).map List.flatten := by
  induction paths with
  | nil => rfl
  | cons path rest ih =>
    unfold readDirectories
    simp only [Logged.bind_outcome, ih, List.mapM_cons]
    cases (readDirectory files path).outcome with
    | error e => rfl
    | ok here => cases rest.mapM fun path => (readDirectory files path).outcome <;> rfl

theorem readDirectories_eq_ok_iff {paths : List String} :
    (readDirectories files paths).outcome = .ok ds
      ↔
    ∃ parts, List.Forall₂ (DirectoryHolds files) paths parts ∧ ds = parts.flatten := by
  rw [readDirectories_outcome, Outcome.map_eq_ok_iff]
  simp only [Outcome.mapM_eq_ok_iff, readDirectory_eq_ok_iff, eq_comm (a := ds)]

theorem readDirectories_eq_error_iff {paths : List String} :
    (readDirectories files paths).outcome = .error e ↔ DirectoriesFail files paths e := by
  unfold DirectoriesFail
  rw [readDirectories_outcome, Outcome.map_eq_error_iff, Outcome.mapM_eq_error_iff]
  simp only [readDirectory_eq_ok_iff, readDirectory_eq_error_iff]

end

end Registry
end DataQuality
