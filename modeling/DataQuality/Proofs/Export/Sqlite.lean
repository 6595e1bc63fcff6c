import DataQuality.Proofs.Export.Database
import DataQuality.Proofs.Storage.Tree

/-!
Exports into a database file, one after the other, of which any operation may fail. Each export that
succeeds adds its run and the results of it at the end of the two tables, with the next number; each
other one leaves their rows as they are. Main statement: `sqlite_appends`.
-/

namespace DataQuality.Export

open Storage (Cell Database DatabaseFault Table Tree Trouble route parent)

/-- The database in a file. Where there is no file, or one of another kind, there are no tables. -/
def databaseAt (files : Tree) (path : String) : Database :=
  match files.entry? (route path) with
  | some (.file (.database d)) => d
  | _ => .empty

/-- A path at which a database can be opened, when the directories above it have been made. -/
def Opens (files : Tree) (path : String) : Prop :=
  ∃ files' d, makeParent "sqlite" path files = .ok files'
    ∧ openDatabase .none files' path = .ok (.ok d)

section Files

variable {files files' : Tree} {path : String}

theorem makeParent_of_ok {exporter : String} (h : makeParent exporter path files = .ok files') :
    files'.IsRooted (route (parent path)) ∧ Tree.Grows files files' := by
  unfold makeParent at h
  dsimp only at h
  split at h
  . next hempty =>
    cases h
    have hroute : route (parent path) = [] := by
      rw [String.isEmpty_iff.1 hempty]
      rfl
    rw [hroute]
    exact ⟨Tree.isRooted_nil _, .refl _⟩
  . split at h
    . next hmade =>
      cases h
      exact Tree.makeDirectories_of_ok hmade
    . cases h

theorem makeParent_of_isRooted {exporter : String} (h : files.IsRooted (route (parent path))) :
    makeParent exporter path files = .ok files := by
  unfold makeParent
  dsimp only
  split
  . rfl
  . rw [Tree.makeDirectories_of_isRooted h]
    rfl

theorem databaseAt_of_grows (h : Tree.Grows files files') :
    databaseAt files' path = databaseAt files path := by
  unfold databaseAt
  rcases h (route path) with heq | ⟨hnone, hdirectory⟩
  . rw [heq]
  . rw [hnone, hdirectory]

theorem openDatabase_of_isRooted (h : files.IsRooted (route (parent path))) {d : Database}
    (hopen : openDatabase .none files path = .ok (.ok d)) :
    databaseAt files path = d ∧ files.entry? (route path) ≠ some .directory := by
  unfold openDatabase Trouble.none at hopen
  dsimp only at hopen
  rw [Tree.find_of_isRooted (h.of_prefix (Storage.dropLast_route_prefix path))] at hopen
  unfold databaseAt
  cases hentry : files.entry? (route path) with
  | none =>
    rw [hentry] at hopen
    cases hopen
    exact ⟨rfl, nofun⟩
  | some entry =>
    rw [hentry] at hopen
    split at hopen
    . next heq =>
      cases heq
      cases hopen
      exact ⟨rfl, nofun⟩
    . next heq =>
      cases heq
      cases hopen
      exact ⟨rfl, nofun⟩
    . cases hopen
    . cases hopen
    . next heq => cases heq

theorem opens_iff_of_isRooted (h : files.IsRooted (route (parent path))) :
    Opens files path ↔ ∃ d, openDatabase .none files path = .ok (.ok d) := by
  unfold Opens
  rw [makeParent_of_isRooted h]
  constructor
  . rintro ⟨files', d, heq, hopen⟩
    cases heq
    exact ⟨d, hopen⟩
  . rintro ⟨d, hopen⟩
    exact ⟨files, d, rfl, hopen⟩

theorem insert_database (h : files.IsRooted (route (parent path)))
    (hdirectory : files.entry? (route path) ≠ some .directory) (d : Database) :
    let files' := files.insert (route path) (.file (.database d))
    Opens files' path ∧ databaseAt files' path = d := by
  intro files'
  have hprefix : ¬ route path <+: route (parent path) := fun hprefix => hdirectory (h _ hprefix)
  have hne : route path ≠ [] := by
    intro hnil
    rw [hnil] at hprefix
    exact hprefix List.nil_prefix
  have hentry : files'.entry? (route path) = some (.file (.database d)) := by
    rw [Tree.entry?_insert hne, if_pos rfl]
  have hrooted : files'.IsRooted (route (parent path)) := h.insert hprefix _
  constructor
  . rw [opens_iff_of_isRooted hrooted]
    refine ⟨d, ?_⟩
    unfold openDatabase Trouble.none
    dsimp only
    rw [Tree.find_of_isRooted (hrooted.of_prefix (Storage.dropLast_route_prefix path)), hentry]
    rfl
  . unfold databaseAt
    rw [hentry]

end Files

/-- Tries an export. -/
def Attempt.deliver (a : Attempt) (path : String) (names : TableNames) (files : Tree) : Delivery :=
  (sqlite path names a.trouble).deliver files a.run.1 a.run.2

section Deliver

variable {files : Tree} {path : String} (names : TableNames) {a : Attempt}

/-- The answer of an export that got a number from the database, or none. -/
def placed (path : String) (names : TableNames) : Except DatabaseFault Nat → Except Error String
  | .ok runId => .ok (path ++ "#" ++ names.runs ++ "/" ++ toString runId)
  | .error fault => .error (.exportFailed "sqlite" fault.message)

theorem openDatabase_of_calm {trouble : Trouble} (h : trouble 0 = none) (files : Tree)
    (path : String) : openDatabase trouble files path = openDatabase .none files path := by
  unfold openDatabase Trouble.none
  rw [h]

theorem deliver_of_opens (h : Opens files path) (hopened : a.trouble 0 = none) :
    let delivery := a.deliver path names files
    let stored := (write names a.run.1 a.run.2).onDatabase a.trouble (databaseAt files path)
    Opens delivery.files path ∧ databaseAt delivery.files path = stored.1
      ∧ delivery.outcome = placed path names stored.2 := by
  obtain ⟨files', d, hparent, hopen⟩ := h
  obtain ⟨hrooted, hgrows⟩ := makeParent_of_ok hparent
  obtain ⟨hdatabase, hdirectory⟩ := openDatabase_of_isRooted hrooted hopen
  rw [databaseAt_of_grows hgrows] at hdatabase
  simp only [Attempt.deliver, sqlite, hparent, openDatabase_of_calm hopened, hopen, hdatabase]
  rcases (write names a.run.1 a.run.2).onDatabase a.trouble d with ⟨d', fault | runId⟩
  . obtain ⟨hopens, heq⟩ := insert_database hrooted hdirectory d'
    exact ⟨hopens, heq, rfl⟩
  . obtain ⟨hopens, heq⟩ := insert_database hrooted hdirectory d'
    exact ⟨hopens, heq, rfl⟩

theorem deliver_of_not_opens (h : ¬ (Opens files path ∧ a.trouble 0 = none)) :
    let delivery := a.deliver path names files
    (Opens delivery.files path ↔ Opens files path)
      ∧ databaseAt delivery.files path = databaseAt files path
      ∧ ∃ e, delivery.outcome = .error e := by
  dsimp only [Attempt.deliver, sqlite]
  cases hparent : makeParent "sqlite" path files with
  | error e => exact ⟨Iff.rfl, rfl, e, rfl⟩
  | ok files' =>
    obtain ⟨hrooted, hgrows⟩ := makeParent_of_ok hparent
    have hdatabase : databaseAt files' path = databaseAt files path := databaseAt_of_grows hgrows
    have hopens : Opens files' path ↔ Opens files path := by
      rw [opens_iff_of_isRooted hrooted]
      unfold Opens
      simp [hparent]
    dsimp only
    split
    . exact ⟨hopens, hdatabase, _, rfl⟩
    . exact ⟨hopens, hdatabase, _, rfl⟩
    . next d hopen =>
      cases hopened : a.trouble 0 with
      | none =>
        rw [openDatabase_of_calm hopened] at hopen
        exact absurd ⟨⟨files', d, hparent, hopen⟩, hopened⟩ h
      | some message =>
        unfold openDatabase at hopen
        rw [hopened] at hopen
        cases hopen

theorem opens_deliver (a : Attempt) :
    Opens (a.deliver path names files).files path ↔ Opens files path := by
  by_cases h : Opens files path ∧ a.trouble 0 = none
  . exact iff_of_true (deliver_of_opens names h.1 h.2).1 h.1
  . exact (deliver_of_not_opens names h).1

end Deliver

/-- What stands in a row under a column. -/
def cellUnder (columns : List String) (row : List Cell) (column : String) : Option Cell :=
  (columns.zip row).lookup column

/-- The row of a run under its number. -/
structure IsRunRow (runId : Nat) (m : RunMetadata) (row : List Cell) : Prop where
  width : row.length = runTableColumns.length
  runId : cellUnder runTableColumns row "run_id" = some (.int runId)
  suiteName : cellUnder runTableColumns row "suite_name" = some (.text m.suiteName)
  jobId : cellUnder runTableColumns row "job_id" = some (.ofText? m.jobId)
  status : cellUnder runTableColumns row "status" = some (.text m.status.text)
  startedAt : cellUnder runTableColumns row "started_at" = some (.text m.startedAt.offsetText)
  endedAt : cellUnder runTableColumns row "ended_at"
    = some (.ofText? (m.endedAt.map Time.Timestamp.offsetText))
  durationMs : cellUnder runTableColumns row "duration_ms" = some (.ofFloat? m.durationMs)
  bytesProcessed : cellUnder runTableColumns row "bytes_processed" = some (.ofNat? m.bytesProcessed)
  cacheHit : cellUnder runTableColumns row "cache_hit" = some ((m.cacheHit.map .ofBool).getD .null)
  validateFirst : cellUnder runTableColumns row "validate_first" = some (.ofBool m.validateFirst)
  validateOnly : cellUnder runTableColumns row "validate_only" = some (.ofBool m.validateOnly)
  errorCount : cellUnder runTableColumns row "error_count" = some (.int m.errors.length)
  errors : cellUnder runTableColumns row "errors"
    = some (.text (Json.Value.strings m.errors).compact)
  extra : cellUnder runTableColumns row "extra" = some (.text (Json.Value.object m.extra).compact)

/-- The row of a result of the run with the given number. -/
structure IsResultRow (runId : Nat) (r : CheckResult) (row : List Cell) : Prop where
  width : row.length = resultTableColumns.length
  runId : cellUnder resultTableColumns row "run_id" = some (.int runId)
  checkName : cellUnder resultTableColumns row "check_name" = some (.text r.checkName)
  status : cellUnder resultTableColumns row "status" = some (.text r.status.text)
  severity : cellUnder resultTableColumns row "severity" = some (.text r.severity.text)
  value : cellUnder resultTableColumns row "value" = some (.ofFloat? r.value)
  lower : cellUnder resultTableColumns row "threshold_lower" = some (.ofFloat? r.lower)
  upper : cellUnder resultTableColumns row "threshold_upper" = some (.ofFloat? r.upper)
  message : cellUnder resultTableColumns row "message" = some (.text r.message)

/-- What an export with the given outcome does to the rows of the two tables: every new row is there,
under the next number, or none is. -/
inductive Appends (path : String) (names : TableNames) (run : ExportedRun)
    (before after : Database) : Except Error String → Prop
  | all {runId : Nat} {row : List Cell} {rows : List (List Cell)}
      (next : runId = (rowsOf before names.runs).length + 1)
      (isRunRow : IsRunRow runId run.1 row)
      (areResultRows : List.Forall₂ (IsResultRow runId) run.2 rows)
      (runs : rowsOf after names.runs = rowsOf before names.runs ++ [row])
      (results : rowsOf after names.results = rowsOf before names.results ++ rows) :
      Appends path names run before after (.ok (path ++ "#" ++ names.runs ++ "/" ++ toString runId))
  | none {e : Error} (runs : rowsOf after names.runs = rowsOf before names.runs)
      (results : rowsOf after names.results = rowsOf before names.results) :
      Appends path names run before after (.error e)

/-- The runs have the numbers from one to `count`, and the results those of runs. -/
structure IsNumbered (names : TableNames) (count : Nat) (d : Database) : Prop where
  runs : (rowsOf d names.runs).map (cellUnder runTableColumns · "run_id")
    = (List.range' 1 count).map fun runId : Nat => some (.int runId)
  results : ∀ row ∈ rowsOf d names.results, ∃ run ∈ rowsOf d names.runs,
    cellUnder resultTableColumns row "run_id" = cellUnder runTableColumns run "run_id"

section Rows

variable {names : TableNames} {written : List ExportedRun} {before after : Database}

theorem isRunRow (runId : Nat) (m : RunMetadata) : IsRunRow runId m (.int runId :: runRow m) := by
  constructor <;> rfl

theorem isResultRow (resultId runId : Nat) (r : CheckResult) :
    IsResultRow runId r (.int resultId :: resultRow runId r) := by
  constructor <;> rfl

theorem Keeps.isNumbered (h : Keeps names written before) :
    IsNumbered names written.length before := by
  constructor
  case runs =>
    rw [h.runs.rowsOf_eq]
    apply List.ext_getElem
    . simp [numbered]
    . intro i _ _
      simp [numbered, Nat.add_comm 1]
      rfl
  case results =>
    rw [h.runs.rowsOf_eq, h.results.rowsOf_eq]
    intro row hrow
    obtain ⟨j, hj, rfl⟩ := List.mem_mapIdx.1 hrow
    obtain ⟨rows, hrows, hresult⟩ := List.mem_flatten.1 (List.getElem_mem hj)
    obtain ⟨i, hi, rfl⟩ := List.mem_mapIdx.1 hrows
    obtain ⟨r, _, heq⟩ := List.mem_map.1 hresult
    refine ⟨.int (i + 1) :: runRow written[i].1, ?_, ?_⟩
    . refine List.mem_mapIdx.2 ⟨i, by simpa using hi, ?_⟩
      rw [List.getElem_map]
    . rw [← heq]
      rfl

theorem forall₂_isResultRow (runId written : Nat) (results : List CheckResult) :
    List.Forall₂ (IsResultRow runId) results
      ((results.map (resultRow runId)).mapIdx fun i row => .int ((i + written : Nat) + 1) :: row)
    := by
  rw [List.forall₂_iff_get]
  refine ⟨by simp, fun i hi _ => ?_⟩
  simp only [List.get_eq_getElem, List.getElem_mapIdx, List.getElem_map]
  exact isResultRow (i + written + 1) runId results[i]

theorem Keeps.appends {path : String} {a : Attempt} (h : Keeps names written before)
    {stored : Except DatabaseFault Nat} (hstores : Stores names written a (after, stored)) :
    Appends path names a.run before after (placed path names stored) := by
  cases hstores with
  | refused hkeeps _ =>
    apply Appends.none
    . rw [h.runs.rowsOf_eq, hkeeps.runs.rowsOf_eq]
    . rw [h.results.rowsOf_eq, hkeeps.results.rowsOf_eq]
  | stored hkeeps _ _ =>
    have hlength : (rowsOf before names.runs).length = written.length := by
      rw [h.runs.rowsOf_eq, numbered, List.length_mapIdx, List.length_map]
    refine .all (by rw [hlength]) (isRunRow _ a.run.1)
      (forall₂_isResultRow _ (resultRows written).length a.run.2) ?_ ?_
    . rw [h.runs.rowsOf_eq, hkeeps.runs.rowsOf_eq, List.map_append, numbered_append]
      simp
    . rw [h.results.rowsOf_eq, hkeeps.results.rowsOf_eq, resultRows_concat, numbered_append]

end Rows

/-- The files after some exports have been tried one after the other. -/
def deliverAll (path : String) (names : TableNames) (files : Tree) : List Attempt → Tree
  | [] => files
  | a :: rest => deliverAll path names (a.deliver path names files).files rest

/-- The runs of those exports that have succeeded. -/
def delivered (path : String) (names : TableNames) (files : Tree) : List Attempt → List ExportedRun
  | [] => []
  | a :: rest =>
    let delivery := a.deliver path names files
    let later := delivered path names delivery.files rest
    if delivery.outcome.isOk then a.run :: later else later

section History

variable {path : String} {names : TableNames} {files : Tree} {written : List ExportedRun}

theorem opens_deliverAll (history : List Attempt) :
    Opens (deliverAll path names files history) path ↔ Opens files path := by
  induction history generalizing files with
  | nil => exact Iff.rfl
  | cons a rest ih => rw [deliverAll, ih, opens_deliver]

/-- Either the run is stored or refused in the database of the file, or that is not opened. -/
theorem Keeps.deliver_cases (hnames : sameName names.runs names.results = false)
    (h : Keeps names written (databaseAt files path)) (a : Attempt) {delivery : Delivery}
    (hdelivery : a.deliver path names files = delivery) :
    (Opens files path
        ∧ ∃ stored, Stores names written a (databaseAt delivery.files path, stored)
          ∧ delivery.outcome = placed path names stored)
      ∨ (¬ (Opens files path ∧ a.trouble 0 = none)
          ∧ databaseAt delivery.files path = databaseAt files path
          ∧ ∃ e, delivery.outcome = .error e) := by
  subst hdelivery
  by_cases hopens : Opens files path ∧ a.trouble 0 = none
  . obtain ⟨_, hdatabase, houtcome⟩ := deliver_of_opens names hopens.1 hopens.2
    have hstores := stores_write hnames h a hopens.2
    refine .inl ⟨hopens.1, _, ?_, houtcome⟩
    rw [hdatabase]
    exact hstores
  . exact .inr ⟨hopens, (deliver_of_not_opens names hopens).2⟩

/-- A run that has been exported with success is kept after those before it. -/
theorem Keeps.deliver (hnames : sameName names.runs names.results = false)
    (h : Keeps names written (databaseAt files path)) (a : Attempt) :
    let delivery := a.deliver path names files
    Keeps names (if delivery.outcome.isOk then written ++ [a.run] else written)
      (databaseAt delivery.files path) := by
  intro delivery
  rcases h.deliver_cases hnames a (rfl : _ = delivery) with ⟨_, stored, hstores, houtcome⟩
    | ⟨_, hdatabase, e, houtcome⟩
  . rw [houtcome]
    cases hstores with
    | refused hkeeps _ => exact hkeeps
    | stored hkeeps _ _ => exact hkeeps
  . rw [hdatabase, houtcome]
    exact h

theorem Keeps.deliverAll (hnames : sameName names.runs names.results = false)
    (h : Keeps names written (databaseAt files path)) (history : List Attempt) :
    Keeps names (written ++ delivered path names files history)
      (databaseAt (deliverAll path names files history) path) := by
  induction history generalizing files written with
  | nil => rwa [delivered, List.append_nil]
  | cons a rest ih =>
    -- What is kept grows by the first run, if it is stored, before the rest is exported.
    have hkept := ih (h.deliver hnames a)
    unfold delivered Export.deliverAll
    dsimp only
    split at hkept
    . next hok => rwa [if_pos hok, List.append_cons]
    . next hok => rwa [if_neg hok]

theorem Keeps.appends_deliver (hnames : sameName names.runs names.results = false)
    (h : Keeps names written (databaseAt files path)) (a : Attempt) :
    let delivery := a.deliver path names files
    ((∃ place, delivery.outcome = .ok place)
        ↔ Opens files path ∧ Storable names a.run.1 ∧ a.Undisturbed)
      ∧ Appends path names a.run (databaseAt files path) (databaseAt delivery.files path)
          delivery.outcome := by
  intro delivery
  rcases h.deliver_cases hnames a (rfl : _ = delivery) with ⟨hopens, stored, hstores, houtcome⟩
    | ⟨hclosed, hdatabase, e, houtcome⟩
  . rw [houtcome]
    refine ⟨?_, h.appends hstores⟩
    cases hstores with
    | refused _ hcause => exact iff_of_false nofun fun ⟨_, h⟩ => hcause h
    | stored _ hstorable hundisturbed =>
      exact iff_of_true ⟨_, rfl⟩ ⟨hopens, hstorable, hundisturbed⟩
  . rw [hdatabase, houtcome]
    refine ⟨iff_of_false nofun fun ⟨hopens, _, hundisturbed⟩ => ?_, .none rfl rfl⟩
    exact hclosed ⟨hopens, hundisturbed 0 (Nat.succ_pos _)⟩

end History

theorem sqlite_appends (path : String) (names : TableNames)
    (hnames : sameName names.runs names.results = false) (files : Tree)
    (hempty : databaseAt files path = .empty) (history : List Attempt) :
    let current := deliverAll path names files history
    IsNumbered names (delivered path names files history).length (databaseAt current path)
      ∧
    ∀ a : Attempt,
      let delivery := a.deliver path names current
      ((∃ place, delivery.outcome = .ok place)
          ↔ Opens files path ∧ Storable names a.run.1 ∧ a.Undisturbed)
        ∧ Appends path names a.run (databaseAt current path) (databaseAt delivery.files path)
            delivery.outcome := by
  have hstart : Keeps names [] (databaseAt files path) := by
    rw [hempty]
    exact .empty names
  have hkeeps := hstart.deliverAll hnames history
  rw [List.nil_append] at hkeeps
  refine ⟨hkeeps.isNumbered, fun a => ?_⟩
  rw [← opens_deliverAll history]
  exact hkeeps.appends_deliver hnames a

namespace Sample

def attempt (suiteName : String) (bytesProcessed : Nat) (trouble : Trouble) : Attempt where
  run :=
    ({ RunMetadata.start suiteName true false ⟨0, 0⟩ with bytesProcessed := some bytesProcessed },
      [⟨"rows", .pass, .warn, "", none, none, none⟩, ⟨"age", .fail, .warn, "", none, none, none⟩])
  trouble := trouble

/-- The disk is full when the second result is inserted. -/
def fullDisk : Trouble := fun i => if i = 7 then some "database or disk is full" else none

/-- The second of these runs has read too much to be written, and the third one fails amid its
results. -/
def history : List Attempt :=
  [attempt "orders" 2048 .none, attempt "orders" (0x8000000000000000) .none,
    attempt "orders" 4096 fullDisk, attempt "returns" 0 .none]

def path : String := "out/quality.sqlite"

theorem history_appends :
    let current := deliverAll path .standard .empty history
    sameName TableNames.standard.runs TableNames.standard.results = false
      ∧ databaseAt .empty path = .empty
      ∧ (delivered path .standard .empty history).length = 2
      ∧ IsNumbered .standard 2 (databaseAt current path)
      ∧ (rowsOf (databaseAt current path) TableNames.standard.results).length = 4
      ∧ ¬ ∃ place, ((attempt "orders" 4096 fullDisk).deliver path .standard current).outcome
          = .ok place := by
  intro current
  have hnames : sameName TableNames.standard.runs TableNames.standard.results = false := by
    decide +kernel
  have hempty : databaseAt .empty path = .empty := rfl
  have hlength : (delivered path .standard .empty history).length = 2 := by
    decide +kernel
  have hresults : (rowsOf (databaseAt current path) TableNames.standard.results).length = 4 := by
    decide +kernel
  obtain ⟨hnumbered, hmore⟩ := sqlite_appends path .standard hnames .empty hempty history
  refine ⟨hnames, hempty, hlength, hlength ▸ hnumbered, hresults, fun hplace => ?_⟩
  obtain ⟨_, _, hundisturbed⟩ := (hmore (attempt "orders" 4096 fullDisk)).1.1 hplace
  exact absurd (hundisturbed 7 (by decide)) (by decide)

end Sample

end DataQuality.Export
