import DataQuality.Proofs.Export.Tables
import DataQuality.Proofs.Storage.Session

/-!
What exports leave in a database. `Keeps` says which runs are in the two tables, and with which
numbers; writing a run either adds it at the end of both tables or leaves their rows as they are,
whatever the system lets fail (`stores_write`).
-/

namespace DataQuality.Export

open Storage (Cell Connection Database DatabaseFault Session Table Trouble View)

/-- A run with its results, as an exporter gets it. -/
abbrev ExportedRun := RunMetadata × List CheckResult

/-- The rows of the results of some runs, which are numbered from one on, without numbers of their
own. -/
def resultRows (runs : List ExportedRun) : List (List Cell) :=
  (runs.mapIdx fun i run => run.2.map (resultRow (i + 1))).flatten

theorem resultRows_concat (runs : List ExportedRun) (run : ExportedRun) :
    resultRows (runs ++ [run]) = resultRows runs ++ run.2.map (resultRow (runs.length + 1)) := by
  unfold resultRows
  rw [List.mapIdx_concat, List.flatten_append, List.flatten_singleton]

/-- The two tables hold the given runs and their results, as far as there are tables. -/
structure Keeps (names : TableNames) (written : List ExportedRun) (d : Database) : Prop where
  runs : Lists d names.runs runTableColumns (written.map fun run => runRow run.1)
  results : Lists d names.results resultTableColumns (resultRows written)

theorem Keeps.empty (names : TableNames) : Keeps names [] .empty := ⟨.empty, .empty⟩

/-- A run that can be written into tables of the given names. -/
structure Storable (names : TableNames) (m : RunMetadata) : Prop where
  runs : ¬ IsReserved names.runs
  results : ¬ IsReserved names.results
  bytesProcessed : ∀ n ∈ m.bytesProcessed, n < 0x8000000000000000
  errorCount : m.errors.length < 0x8000000000000000

/-- An export that is tried, with the operations that the system lets fail meanwhile. -/
structure Attempt where
  run : ExportedRun
  trouble : Trouble

/-- The system lets none of the operations of an export fail: to open the file, to create two tables,
to start the transaction, to insert the run, to prepare for the results, to insert each of them, and
to commit. -/
def Attempt.Undisturbed (a : Attempt) : Prop := ∀ i < a.run.2.length + 7, a.trouble i = none

/-- What becomes of a database that keeps some runs when one more is written into it. -/
inductive Stores (names : TableNames) (written : List ExportedRun) (a : Attempt) :
    Database × Except DatabaseFault Nat → Prop
  | refused {d : Database} {fault : DatabaseFault} (keeps : Keeps names written d)
      (cause : ¬ (Storable names a.run.1 ∧ a.Undisturbed)) : Stores names written a (d, .error fault)
  | stored {d : Database} (keeps : Keeps names (written ++ [a.run]) d)
      (storable : Storable names a.run.1) (undisturbed : a.Undisturbed) :
      Stores names written a (d, .ok (written.length + 1))

section Tables

variable {names : TableNames} {written : List ExportedRun} {d : Database} {c c' : Connection}

/-- The database with both tables. -/
def withTables (names : TableNames) (d : Database) : Database :=
  withTable names.results resultTableColumns (withTable names.runs runTableColumns d)

theorem exists_tables (names : TableNames) (d : Database) :
    (∃ t, find? (withTables names d) names.runs = some t)
      ∧ ∃ t, find? (withTables names d) names.results = some t := by
  have hself (name : String) : sameName name name = true := sameName_iff.2 rfl
  unfold withTables
  simp only [find?_withTable, hself, if_true]
  constructor
  . cases find? d names.runs <;> exact ⟨_, rfl⟩
  . cases (find? d names.results).or _ <;> exact ⟨_, rfl⟩

theorem Keeps.withTable_runs (h : Keeps names written d)
    (hnames : sameName names.runs names.results = false) :
    Keeps names written (withTable names.runs runTableColumns d) := by
  constructor
  case runs => exact h.runs.withTable fun _ => rfl
  case results =>
    apply h.results.withTable
    rw [hnames]
    rintro ⟨⟩

theorem Keeps.withTable_results (h : Keeps names written d)
    (hnames : sameName names.runs names.results = false) :
    Keeps names written (withTable names.results resultTableColumns d) := by
  constructor
  case runs =>
    apply h.runs.withTable
    rw [sameName_iff, eq_comm, ← sameName_iff, hnames]
    rintro ⟨⟩
  case results => exact h.results.withTable fun _ => rfl

theorem Keeps.addRun (h : Keeps names written d) (hnames : sameName names.runs names.results = false)
    {t t' : Table} (ht : find? d names.runs = some t) (ht' : find? d names.results = some t')
    (m : RunMetadata) (results : List CheckResult) :
    Keeps names (written ++ [(m, results)])
      (addRows names.results (results.map (resultRow (written.length + 1)))
        (addRows names.runs [runRow m] d)) := by
  have hnames' : sameName names.results names.runs = false := by
    rw [← Bool.not_eq_true, sameName_iff, eq_comm, ← sameName_iff, hnames]
    decide
  constructor
  case runs =>
    rw [List.map_append, List.map_singleton]
    exact (h.runs.addRows_self ht _).addRows_of_ne hnames' _
  case results =>
    rw [resultRows_concat]
    apply (h.results.addRows_of_ne hnames _).addRows_self
    exact (find?_addRows_of_ne hnames _).trans ht'

theorem change_createTable_eq_ok_iff (hidle : c.view.pending = none) {name : String}
    {columns : List String} :
    Session.change (createTable name columns) c = .ok () c'
      ↔
    c.Calm 1 ∧ ¬ IsReserved name
      ∧ c' = c.advance 1 { c.view with committed := withTable name columns c.view.committed } := by
  rw [Session.change_eq_ok_iff, View.current_of_idle hidle]
  simp only [createTable_eq_ok_iff, View.put_of_idle hidle, and_assoc, exists_and_left,
    exists_eq_left]

theorem createTables_eq_ok_iff (hidle : c.view.pending = none) :
    createTables names c = .ok () c'
      ↔
    c.Calm 2 ∧ ¬ IsReserved names.runs ∧ ¬ IsReserved names.results
      ∧ c' = c.advance 2 { c.view with committed := withTables names c.view.committed } := by
  let v : View := { c.view with
    committed := withTable names.runs runTableColumns c.view.committed }
  have hsecond : Session.change (createTable names.results resultTableColumns) (c.advance 1 v)
      = .ok () c'
      ↔ (c.advance 1 v).Calm 1 ∧ ¬ IsReserved names.results
        ∧ c' = (c.advance 1 v).advance 1
          { v with committed := withTables names c.view.committed } :=
    change_createTable_eq_ok_iff (c := c.advance 1 v) hidle
  unfold createTables
  rw [Session.bind_eq_ok_iff, Connection.calm_add_iff (m := 1) (n := 1) v]
  simp only [change_createTable_eq_ok_iff hidle]
  constructor
  . rintro ⟨_, _, ⟨hcalm, hruns, rfl⟩, hrest⟩
    obtain ⟨hcalm', hresults, rfl⟩ := hsecond.1 hrest
    exact ⟨⟨hcalm, hcalm'⟩, hruns, hresults, rfl⟩
  . rintro ⟨⟨hcalm, hcalm'⟩, hruns, hresults, rfl⟩
    exact ⟨(), _, ⟨hcalm, hruns, rfl⟩, hsecond.2 ⟨hcalm', hresults, rfl⟩⟩

theorem takes_createTables (names : TableNames) : (createTables names).Takes 2 :=
  (Session.takes_change _).bind fun _ => Session.takes_change _

/-- Whether it succeeds or not, the creation of the tables adds and removes no row. -/
theorem Keeps.preserves_createTables (written : List ExportedRun)
    (hnames : sameName names.runs names.results = false) :
    (createTables names).Preserves fun v => v.pending = none ∧ Keeps names written v.committed := by
  apply Session.Preserves.bind
  . apply Session.preserves_change
    rintro v d ⟨hidle, hkeeps⟩ hd
    rw [View.current_of_idle hidle, createTable_eq_ok_iff] at hd
    rw [View.put_of_idle hidle, hd.2]
    exact ⟨hidle, hkeeps.withTable_runs hnames⟩
  . intro _
    apply Session.preserves_change
    rintro v d ⟨hidle, hkeeps⟩ hd
    rw [View.current_of_idle hidle, createTable_eq_ok_iff] at hd
    rw [View.put_of_idle hidle, hd.2]
    exact ⟨hidle, hkeeps.withTable_results hnames⟩

end Tables

section Insert

variable {name : String} {columns : List String} {d : Database} {t : Table} {c : Connection}

theorem insert_of_calm (hcalm : c.Calm 1) (hpending : c.view.pending = some d)
    (ht : target name columns d = .ok t) (cells : List Cell) :
    insert name columns cells c
      =
    .ok () (c.advance 1 { c.view with
      pending := some (appendRow name cells d), lastRowId := t.lastId + 1 }) := by
  refine Session.operation_eq_ok_iff.2 ⟨hcalm, _, ?_, rfl⟩
  rw [View.current_of_pending hpending, ht, View.put_of_pending hpending]
  rfl

theorem prepare_of_calm (hcalm : c.Calm 1) (hpending : c.view.pending = some d)
    (ht : target name columns d = .ok t) :
    prepare name columns c = .ok () (c.advance 1 c.view) := by
  refine Session.change_eq_ok_iff.2 ⟨hcalm, d, ?_, ?_⟩
  . rw [View.current_of_pending hpending, ht]
    rfl
  . rw [View.put_of_pending hpending, ← hpending]

theorem forM_insert_of_calm (rows : List (List Cell)) (hcalm : c.Calm rows.length)
    (hpending : c.view.pending = some d) (ht : target name columns d = .ok t) :
    ∃ rowId, rows.forM (insert name columns) c
      =
    .ok () (c.advance rows.length { c.view with
      pending := some (addRows name rows d), lastRowId := rowId }) := by
  induction rows generalizing c d t with
  | nil =>
    refine ⟨c.view.lastRowId, ?_⟩
    rw [addRows_nil, ← hpending]
    rfl
  | cons row rows ih =>
    -- The first row changes the connection and the database, so the induction is on the rows for all
    -- of these.
    let v : View := { c.view with
      pending := some (appendRow name row d), lastRowId := t.lastId + 1 }
    rw [List.length_cons, Nat.add_comm, Connection.calm_add_iff v] at hcalm
    have hinsert : insert name columns row c = .ok () (c.advance 1 v) :=
      insert_of_calm hcalm.1 hpending ht row
    have ht' : target name columns (appendRow name row d) = .ok (t.append row) := by
      rw [target_eq_ok_iff] at ht ⊢
      exact ⟨find?_appendRow ht.1 row, ht.2⟩
    obtain ⟨rowId, hrest⟩ := ih hcalm.2 rfl ht'
    refine ⟨rowId, ?_⟩
    rw [Session.forM_cons, Session.bind_of_ok hinsert, hrest, addRows_cons,
      Connection.advance_advance, List.length_cons, Nat.add_comm 1]
    rfl

theorem takes_insert (name : String) (columns : List String) (cells : List Cell) :
    (insert name columns cells).Takes 1 :=
  Session.takes_operation _

theorem pends_insert (name : String) (columns : List String) (cells : List Cell) :
    (insert name columns cells).Pends := by
  intro d
  apply Session.preserves_operation
  intro v v' h hv
  obtain ⟨t, _, heq⟩ := Outcome.bind_eq_ok_iff.1 hv
  cases heq
  have hput := h.put (appendRow name cells v.current)
  exact ⟨hput.committed, hput.pending⟩

theorem pends_prepare (name : String) (columns : List String) : (prepare name columns).Pends :=
  fun _ => Session.preserves_change fun _ d h _ => h.put d

end Insert

section Write

variable {names : TableNames} {written : List ExportedRun} {m : RunMetadata}
  {results : List CheckResult} {d : Database} {c c' : Connection}

theorem takes_insertRun : (insertRun names m results).Takes (results.length + 2) := by
  have hcount : results.length + 2 = 1 + (0 + (1 + (results.length + 0))) := by omega
  rw [hcount]
  refine (takes_insert _ _ _).bind fun _ => Session.takes_lastRowId.bind fun runId => ?_
  have hresults := Session.takes_forM
    (takes_insert names.results (resultTableColumns.drop 1))
    (results.map (resultRow runId))
  rw [List.length_map] at hresults
  exact (Session.takes_change _).bind fun _ => hresults.bind fun _ => Session.takes_pure _

theorem pends_insertRun : (insertRun names m results).Pends := by
  intro d
  refine (pends_insert _ _ _ d).bind fun _ => Session.preserves_lastRowId.bind fun runId => ?_
  have hresults := Session.preserves_forM
    (fun row => pends_insert names.results (resultTableColumns.drop 1) row d)
    (results.map (resultRow runId))
  exact (pends_prepare _ _ d).bind fun _ => hresults.bind fun _ => Session.preserves_pure _

theorem insertRun_of_calm (hcalm : c.Calm (results.length + 2)) (hpending : c.view.pending = some d)
    (hkeeps : Keeps names written d) (hnames : sameName names.runs names.results = false)
    {t t' : Table} (ht : find? d names.runs = some t) (ht' : find? d names.results = some t') :
    ∃ rowId, insertRun names m results c
      =
    .ok (written.length + 1) (c.advance (results.length + 2) { c.view with
      pending := some (addRows names.results (results.map (resultRow (written.length + 1)))
        (addRows names.runs [runRow m] d))
      lastRowId := rowId }) := by
  let d₁ := addRows names.runs [runRow m] d
  let v₁ : View := { c.view with pending := some d₁, lastRowId := written.length + 1 }
  have htarget : target names.runs (runTableColumns.drop 1) d = .ok t := by
    refine target_eq_ok_iff.2 ⟨ht, fun column => ?_⟩
    rw [(hkeeps.runs.table t ht).columns]
    exact List.mem_of_mem_drop
  have htarget' : target names.results (resultTableColumns.drop 1) d₁ = .ok t' := by
    refine target_eq_ok_iff.2 ⟨(find?_addRows_of_ne hnames _).trans ht', fun column => ?_⟩
    rw [(hkeeps.results.table t' ht').columns]
    exact List.mem_of_mem_drop
  have hcount : results.length + 2 = 1 + (1 + results.length) := by omega
  rw [hcount, Connection.calm_add_iff v₁, Connection.calm_add_iff v₁] at hcalm
  obtain ⟨hcalm, hcalm₁, hcalm₂⟩ := hcalm
  have hinsert : insert names.runs (runTableColumns.drop 1) (runRow m) c
      = .ok () (c.advance 1 v₁) := by
    rw [insert_of_calm hcalm hpending htarget, ← addRows_singleton,
      (hkeeps.runs.table t ht).lastId, List.length_map]
  have hlast : Session.lastRowId (c.advance 1 v₁) = .ok (written.length + 1) (c.advance 1 v₁) := rfl
  have hprepare : prepare names.results (resultTableColumns.drop 1) (c.advance 1 v₁)
      = .ok () ((c.advance 1 v₁).advance 1 v₁) := prepare_of_calm hcalm₁ rfl htarget'
  obtain ⟨rowId, hresults⟩ := forM_insert_of_calm (results.map (resultRow (written.length + 1)))
    (by rwa [List.length_map]) rfl htarget'
  refine ⟨rowId, ?_⟩
  unfold insertRun
  rw [Session.bind_of_ok hinsert, Session.bind_of_ok hlast, Session.bind_of_ok hprepare,
    Session.bind_of_ok hresults, Connection.advance_advance, Connection.advance_advance,
    List.length_map, ← hcount]
  rfl

theorem checkNumber_eq_ok_iff {column : String} {n : Nat} :
    checkNumber column n c = .ok () c' ↔ n < 0x8000000000000000 ∧ c' = c := by
  unfold checkNumber
  split
  . next h => exact iff_of_false nofun fun h' => Nat.not_le_of_lt h'.1 h
  . next h =>
    rw [and_iff_right (Nat.lt_of_not_le h)]
    constructor
    . rintro ⟨⟩
      rfl
    . rintro rfl
      rfl

theorem takes_checkNumber (column : String) (n : Nat) : (checkNumber column n).Takes 0 := by
  intro c _ c' h
  rw [(checkNumber_eq_ok_iff.1 h).2]
  exact .refl c

theorem preserves_checkNumber {P : View → Prop} (column : String) (n : Nat) :
    (checkNumber column n).Preserves P := by
  unfold checkNumber
  split
  . exact Session.preserves_throw _
  . exact Session.preserves_pure _

theorem getD_bytesProcessed_lt_iff {k : Nat} :
    m.bytesProcessed.getD 0 < k + 1 ↔ ∀ n ∈ m.bytesProcessed, n < k + 1 := by
  cases m.bytesProcessed <;> simp

/-- Where nothing stands in its way, a run is written. -/
theorem write_of_calm (hcalm : c.Calm (results.length + 6)) (hidle : c.view.pending = none)
    (hkeeps : Keeps names written c.view.committed)
    (hnames : sameName names.runs names.results = false) (hstorable : Storable names m) :
    ∃ c', write names m results c = .ok (written.length + 1) c'
      ∧ Keeps names (written ++ [(m, results)]) c'.view.committed := by
  let v : View := { c.view with committed := withTables names c.view.committed }
  let started := (c.advance 2 v).advance 1 { v with pending := some v.committed }
  -- Two tables, and a transaction around the rows.
  have hcount : results.length + 6 = 2 + (1 + (results.length + 2) + 1) := by omega
  rw [hcount, Connection.calm_add_iff v] at hcalm
  obtain ⟨hcalm, hcalm'⟩ := hcalm
  have hstarted : started.Calm (results.length + 2) :=
    ((Connection.calm_add_iff _).1 ((Connection.calm_add_iff v).1 hcalm').1).2
  have htables : createTables names c = .ok () (c.advance 2 v) :=
    (createTables_eq_ok_iff hidle).2 ⟨hcalm, hstorable.runs, hstorable.results, rfl⟩
  have hbytes := getD_bytesProcessed_lt_iff.2 hstorable.bytesProcessed
  have herrors : m.errorCount < 0x8000000000000000 := hstorable.errorCount
  have hkeeps' : Keeps names written v.committed :=
    (hkeeps.withTable_runs hnames).withTable_results hnames
  obtain ⟨⟨t, ht⟩, t', ht'⟩ := exists_tables names c.view.committed
  have hwrite : write names m results c
      = Session.transaction (insertRun names m results) (c.advance 2 v) := by
    unfold write
    rw [Session.bind_of_ok htables,
      Session.bind_of_ok (checkNumber_eq_ok_iff.2 ⟨hbytes, rfl⟩),
      Session.bind_of_ok (checkNumber_eq_ok_iff.2 ⟨herrors, rfl⟩)]
  obtain ⟨rowId, hinsert⟩ := insertRun_of_calm (m := m) hstarted rfl hkeeps' hnames ht ht'
  have htransaction := Session.transaction_of_calm hcalm' hidle rfl hinsert
  exact ⟨_, hwrite.trans htransaction, hkeeps'.addRun hnames ht ht' m results⟩

theorem of_write_eq_ok (hidle : c.view.pending = none) {runId : Nat}
    (h : write names m results c = .ok runId c') :
    Storable names m ∧ c.Calm (results.length + 6) := by
  have hcount : results.length + 6 = 2 + (0 + (0 + (1 + (results.length + 2) + 1))) := by omega
  have htakes : (write names m results).Takes (results.length + 6) := by
    rw [hcount]
    exact (takes_createTables names).bind fun _ => (takes_checkNumber _ _).bind fun _ =>
      (takes_checkNumber _ _).bind fun _ => Session.takes_transaction takes_insertRun
  refine ⟨?_, (htakes _ _ _ h).calm⟩
  unfold write at h
  obtain ⟨_, c₁, htables, h⟩ := Session.bind_eq_ok_iff.1 h
  obtain ⟨_, c₂, hbytes, h⟩ := Session.bind_eq_ok_iff.1 h
  obtain ⟨_, c₃, herrors, h⟩ := Session.bind_eq_ok_iff.1 h
  obtain ⟨_, hruns, hresults, _⟩ := (createTables_eq_ok_iff hidle).1 htables
  exact ⟨hruns, hresults, getD_bytesProcessed_lt_iff.1 (checkNumber_eq_ok_iff.1 hbytes).1,
    (checkNumber_eq_ok_iff.1 herrors).1⟩

/-- Wherever a run fails to be written, the rows of both tables stay as they are. -/
theorem keeps_of_write_eq_error (hidle : c.view.pending = none)
    (hkeeps : Keeps names written c.view.committed)
    (hnames : sameName names.runs names.results = false) {fault : DatabaseFault}
    (h : write names m results c = .error fault c') : Keeps names written c'.view.committed := by
  have htables := Keeps.preserves_createTables written hnames
  have hnumber (column : String) (n : Nat) :=
    preserves_checkNumber (P := fun v => Keeps names written v.committed) column n
  unfold write at h
  rcases Session.bind_eq_error_iff.1 h with h | ⟨_, c₁, hok, h⟩
  . exact (htables.of_error h ⟨hidle, hkeeps⟩).2
  have hkeeps₁ := (htables.of_ok hok ⟨hidle, hkeeps⟩).2
  rcases Session.bind_eq_error_iff.1 h with h | ⟨_, c₂, hok, h⟩
  . exact (hnumber _ _).of_error h hkeeps₁
  have hkeeps₂ := (hnumber _ _).of_ok hok hkeeps₁
  rcases Session.bind_eq_error_iff.1 h with h | ⟨_, c₃, hok, h⟩
  . exact (hnumber _ _).of_error h hkeeps₂
  rw [Session.committed_of_transaction_error pends_insertRun h]
  exact (hnumber _ _).of_ok hok hkeeps₂

theorem Attempt.undisturbed_iff (a : Attempt) (d : Database) :
    a.Undisturbed
      ↔
    a.trouble 0 = none ∧ (Connection.opened a.trouble d).Calm (a.run.2.length + 6) := by
  constructor
  . intro h
    exact ⟨h 0 (by omega), fun i hi => h (1 + i) (by omega)⟩
  . rintro ⟨hopened, hcalm⟩ (_ | i) hi
    . exact hopened
    . rw [Nat.add_comm]
      exact hcalm i (by omega)

theorem stores_write (hnames : sameName names.runs names.results = false)
    (hkeeps : Keeps names written d) (a : Attempt) (hopened : a.trouble 0 = none) :
    Stores names written a ((write names a.run.1 a.run.2).onDatabase a.trouble d) := by
  have hidle : (Connection.opened a.trouble d).view.pending = none := rfl
  -- What a calm connection does decides both cases: it contradicts a failure, and it is the only
  -- way to succeed.
  unfold Session.onDatabase
  cases h : write names a.run.1 a.run.2 (.opened a.trouble d) with
  | error fault c' =>
    refine .refused (keeps_of_write_eq_error hidle hkeeps hnames h) fun ⟨hstorable, hcalm⟩ => ?_
    obtain ⟨c'', hok, _⟩ :=
      write_of_calm ((a.undisturbed_iff d).1 hcalm).2 hidle hkeeps hnames hstorable
    rw [h] at hok
    cases hok
  | ok runId c' =>
    obtain ⟨hstorable, hcalm⟩ := of_write_eq_ok hidle h
    obtain ⟨c'', hok, hkeeps'⟩ := write_of_calm hcalm hidle hkeeps hnames hstorable
    rw [h] at hok
    cases hok
    exact .stored hkeeps' hstorable ((a.undisturbed_iff d).2 ⟨hopened, hcalm⟩)

end Write

end DataQuality.Export
