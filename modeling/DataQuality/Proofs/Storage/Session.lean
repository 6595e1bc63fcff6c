import DataQuality.Proofs.Outcome
import DataQuality.Storage.Connection

/-!
Sessions on a database. `Preserves` is about every connection that a session leaves behind, also by a
failure; `Takes` counts the operations of a session that succeeds; `Agree` compares two sessions. A
transaction changes what has been committed as a whole (`transaction_eq_ok_iff`) or not at all
(`committed_of_transaction_error`).
-/

namespace DataQuality.Storage

open Outcome (Related)

namespace View

variable {v : View} {d : Database}

theorem put_of_idle (h : v.pending = none) (d : Database) : v.put d = { v with committed := d } := by
  unfold put
  rw [h]

theorem put_of_pending (h : v.pending = some d) (d' : Database) :
    v.put d' = { v with pending := some d' } := by
  unfold put
  rw [h]

theorem current_of_idle (h : v.pending = none) : v.current = v.committed := by
  unfold current
  rw [h, Option.getD_none]

theorem current_of_pending (h : v.pending = some d) : v.current = d := by
  unfold current
  rw [h, Option.getD_some]

/-- A view inside a transaction, before which `d` was committed. -/
structure Within (d : Database) (v : View) : Prop where
  committed : v.committed = d
  pending : v.pending.isSome = true

theorem Within.put (h : v.Within d) (d' : Database) : (v.put d').Within d := by
  obtain ⟨before, hbefore⟩ := Option.isSome_iff_exists.1 h.pending
  rw [put_of_pending hbefore]
  exact ⟨h.committed, rfl⟩

end View

namespace Connection

variable {c c₁ c₂ : Connection} {m n : Nat}

/-- The connection after some more operations. -/
def advance (c : Connection) (n : Nat) (v : View) : Connection := ⟨c.trouble, c.operations + n, v⟩

theorem advance_advance (c : Connection) (m n : Nat) (v v' : View) :
    (c.advance m v).advance n v' = c.advance (m + n) v' := by
  unfold advance
  rw [Nat.add_assoc]

/-- The system lets none of the next operations fail. -/
def Calm (c : Connection) (n : Nat) : Prop := ∀ i < n, c.trouble (c.operations + i) = none

theorem calm_one_iff : c.Calm 1 ↔ c.trouble c.operations = none := by
  simp [Calm]

theorem calm_add_iff (v : View) : c.Calm (m + n) ↔ c.Calm m ∧ (c.advance m v).Calm n := by
  constructor
  . intro h
    refine ⟨fun i hi => h i (Nat.lt_add_right n hi), fun i hi => ?_⟩
    have := h (m + i) (Nat.add_lt_add_left hi m)
    rwa [← Nat.add_assoc] at this
  . intro ⟨hleft, hright⟩ i hi
    by_cases hlt : i < m
    . exact hleft i hlt
    . have hsum : c.operations + i = c.operations + m + (i - m) := by omega
      rw [hsum]
      exact hright (i - m) (by omega)

/-- Between two states of a connection some operations have been tried, and none was let fail. -/
structure Took (c : Connection) (n : Nat) (c' : Connection) : Prop where
  calm : c.Calm n
  advanced : c' = c.advance n c'.view

theorem Took.refl (c : Connection) : c.Took 0 c := ⟨nofun, rfl⟩

theorem Took.trans (h : c.Took m c₁) (h₁ : c₁.Took n c₂) : c.Took (m + n) c₂ := by
  obtain ⟨hcalm, hadvanced⟩ := h
  rw [hadvanced] at h₁
  refine ⟨(calm_add_iff c₁.view).2 ⟨hcalm, h₁.calm⟩, ?_⟩
  rw [← advance_advance]
  exact h₁.advanced

end Connection

namespace Session

variable {α β : Type} {x : Session α} {f : α → Session β} {c c' : Connection}

theorem bind_of_ok {a : α} (h : x c = .ok a c') : (x >>= f) c = f a c' := by
  change EStateM.bind x f c = _
  unfold EStateM.bind
  rw [h]

theorem bind_of_error {fault : DatabaseFault} (h : x c = .error fault c') :
    (x >>= f) c = .error fault c' := by
  change EStateM.bind x f c = _
  unfold EStateM.bind
  rw [h]

theorem bind_eq_ok_iff {b : β} :
    (x >>= f) c = .ok b c' ↔ ∃ a c₁, x c = .ok a c₁ ∧ f a c₁ = .ok b c' := by
  cases h : x c with
  | ok a c₁ => simp [bind_of_ok h, and_assoc]
  | error fault c₁ => simp [bind_of_error h]

theorem bind_eq_error_iff {fault : DatabaseFault} :
    (x >>= f) c = .error fault c'
      ↔
    x c = .error fault c' ∨ ∃ a c₁, x c = .ok a c₁ ∧ f a c₁ = .error fault c' := by
  cases h : x c with
  | ok a c₁ => simp [bind_of_ok h, and_assoc]
  | error fault c₁ => simp [bind_of_error h]

theorem forM_cons {γ : Type} (g : γ → Session PUnit) (a : γ) (rest : List γ) :
    (a :: rest).forM g = g a >>= fun _ => rest.forM g := rfl

section Operation

variable {step : View → Except DatabaseFault View}

theorem operation_eq_ok_iff :
    operation step c = .ok () c'
      ↔
    c.Calm 1 ∧ ∃ v, step c.view = .ok v ∧ c' = c.advance 1 v := by
  rw [Connection.calm_one_iff]
  unfold operation
  cases c.trouble c.operations with
  | some message => simp
  | none =>
    cases step c.view with
    | error fault => simp
    | ok v => simp [eq_comm, Connection.advance, Connection.counted]

theorem view_of_operation_error {fault : DatabaseFault} (h : operation step c = .error fault c') :
    c'.view = c.view := by
  unfold operation at h
  split at h
  . cases h
    rfl
  . split at h
    . cases h
      rfl
    . cases h

theorem change_eq_ok_iff {f : Database → Except DatabaseFault Database} :
    change f c = .ok () c'
      ↔
    c.Calm 1 ∧ ∃ d, f c.view.current = .ok d ∧ c' = c.advance 1 (c.view.put d) := by
  unfold change
  rw [operation_eq_ok_iff]
  cases f c.view.current with
  | error fault => simp [bind, Except.bind]
  | ok d => simp [bind, Except.bind, pure, Except.pure]

theorem start_eq_ok_iff :
    start c = .ok () c'
      ↔
    c.Calm 1 ∧ c.view.pending = none
      ∧ c' = c.advance 1 { c.view with pending := some c.view.committed } := by
  unfold start
  rw [operation_eq_ok_iff]
  cases c.view.pending with
  | none => simp [pure, Except.pure]
  | some d => simp [throw, throwThe, MonadExceptOf.throw]

theorem commit_eq_ok_iff :
    commit c = .ok () c'
      ↔
    c.Calm 1 ∧ ∃ d, c.view.pending = some d
      ∧ c' = c.advance 1 { c.view with committed := d, pending := none } := by
  unfold commit
  rw [operation_eq_ok_iff]
  cases c.view.pending with
  | none => simp [throw, throwThe, MonadExceptOf.throw]
  | some d => simp [pure, Except.pure]

end Operation

/-- The connection that a session leaves behind, whether it has succeeded or not. -/
def after (x : Session α) (c : Connection) : Connection :=
  match x c with
  | .ok _ c => c
  | .error _ c => c

/-- What holds before a session holds after it as well, whether it has succeeded or not. -/
def Preserves (P : View → Prop) (x : Session α) : Prop :=
  ∀ c : Connection, P c.view → P (after x c).view

section Preserves

variable {P : View → Prop}

theorem preserves_pure (a : α) : Preserves P (pure a) := fun _ h => h

theorem preserves_throw (fault : DatabaseFault) : Preserves P (throw fault : Session α) :=
  fun _ h => h

theorem preserves_lastRowId : Preserves P lastRowId := fun _ h => h

theorem preserves_operation {step : View → Except DatabaseFault View}
    (hstep : ∀ v v', P v → step v = .ok v' → P v') : Preserves P (operation step) := by
  intro c h
  unfold after operation
  cases c.trouble c.operations with
  | some message => exact h
  | none =>
    cases hv : step c.view with
    | error fault => exact h
    | ok v => exact hstep c.view v h hv

theorem preserves_change {f : Database → Except DatabaseFault Database}
    (hf : ∀ v d, P v → f v.current = .ok d → P (v.put d)) : Preserves P (change f) := by
  apply preserves_operation
  intro v v' h hv
  obtain ⟨d, hd, hput⟩ := Outcome.bind_eq_ok_iff.1 hv
  cases hput
  exact hf v d h hd

theorem Preserves.bind (hx : Preserves P x) (hf : ∀ a, Preserves P (f a)) :
    Preserves P (x >>= f) := by
  intro c h
  have hafter := hx c h
  unfold after at hafter ⊢
  cases hc : x c with
  | error fault c₁ =>
    rw [hc] at hafter
    rw [bind_of_error hc]
    exact hafter
  | ok a c₁ =>
    rw [hc] at hafter
    rw [bind_of_ok hc]
    exact hf a c₁ hafter

theorem preserves_forM {γ : Type} {g : γ → Session PUnit} (hg : ∀ a, Preserves P (g a))
    (items : List γ) : Preserves P (items.forM g) := by
  induction items with
  | nil => exact preserves_pure _
  | cons a rest ih => exact (hg a).bind fun _ => ih

theorem Preserves.of_ok (h : Preserves P x) {a : α} (hc : x c = .ok a c') (hP : P c.view) :
    P c'.view := by
  have := h c hP
  unfold after at this
  rwa [hc] at this

theorem Preserves.of_error (h : Preserves P x) {fault : DatabaseFault}
    (hc : x c = .error fault c') (hP : P c.view) : P c'.view := by
  have := h c hP
  unfold after at this
  rwa [hc] at this

end Preserves

/-- A session that has succeeded has tried `n` operations. -/
def Takes (x : Session α) (n : Nat) : Prop := ∀ c a c', x c = .ok a c' → c.Took n c'

section Takes

variable {m n : Nat}

theorem takes_pure (a : α) : Takes (pure a) 0 := by
  rintro c _ _ ⟨⟩
  exact .refl c

theorem takes_lastRowId : Takes lastRowId 0 := by
  rintro c _ _ ⟨⟩
  exact .refl c

theorem takes_operation (step : View → Except DatabaseFault View) : Takes (operation step) 1 := by
  intro c _ c' h
  obtain ⟨hcalm, v, _, rfl⟩ := operation_eq_ok_iff.1 h
  exact ⟨hcalm, rfl⟩

theorem takes_change (f : Database → Except DatabaseFault Database) : Takes (change f) 1 :=
  takes_operation _

theorem Takes.bind (hx : Takes x m) (hf : ∀ a, Takes (f a) n) : Takes (x >>= f) (m + n) := by
  intro c b c' h
  obtain ⟨a, c₁, hc, hb⟩ := bind_eq_ok_iff.1 h
  exact (hx c a c₁ hc).trans (hf a c₁ b c' hb)

theorem takes_forM {γ : Type} {g : γ → Session PUnit} (hg : ∀ a, Takes (g a) 1) (items : List γ) :
    Takes (items.forM g) items.length := by
  induction items with
  | nil => exact takes_pure _
  | cons a rest ih =>
    rw [List.length_cons, Nat.add_comm]
    exact (hg a).bind fun _ => ih

end Takes

section Transaction

variable {body : Session α}

/-- A session that stays inside of the transaction in which it runs. -/
def Pends (x : Session α) : Prop := ∀ d, Preserves (View.Within d) x

theorem transaction_apply (body : Session α) (c : Connection) :
    transaction body c
      =
    match start c with
    | .error fault c₁ => .error fault c₁
    | .ok _ c₁ =>
      match (body >>= fun a => commit >>= fun _ => pure a) c₁ with
      | .error fault c₂ => .error fault { c₂ with view := { c₂.view with pending := none } }
      | .ok a c₂ => .ok a c₂ := by
  have htransaction : transaction body
      = start >>= fun _ => tryCatch (body >>= fun a => commit >>= fun _ => pure a) fun fault =>
        rollback >>= fun _ => throw fault := rfl
  rw [htransaction]
  cases hstart : start c with
  | error fault c₁ => rw [bind_of_error hstart]
  | ok _ c₁ =>
    rw [bind_of_ok hstart]
    change EStateM.tryCatch _ _ c₁ = _
    unfold EStateM.tryCatch
    dsimp only
    cases (body >>= fun a => commit >>= fun _ => pure a) c₁ <;> rfl

theorem transaction_eq_ok_iff {a : α} :
    transaction body c = .ok a c'
      ↔
    ∃ c₁ c₂, start c = .ok () c₁ ∧ body c₁ = .ok a c₂ ∧ commit c₂ = .ok () c' := by
  rw [transaction_apply]
  cases hstart : start c with
  | error fault c₁ => simp
  | ok _ c₁ =>
    have hinner : (body >>= fun a => commit >>= fun _ => pure a) c₁ = .ok a c'
        ↔ ∃ c₂, body c₁ = .ok a c₂ ∧ commit c₂ = .ok () c' := by
      simp only [bind_eq_ok_iff]
      constructor
      . rintro ⟨_, c₂, hbody, _, _, hcommit, ⟨⟩⟩
        exact ⟨c₂, hbody, hcommit⟩
      . rintro ⟨c₂, hbody, hcommit⟩
        exact ⟨a, c₂, hbody, (), c', hcommit, rfl⟩
    simp only [EStateM.Result.ok.injEq, true_and, exists_and_left, exists_eq_left', ← hinner]
    cases (body >>= fun a => commit >>= fun _ => pure a) c₁ <;> simp

theorem transaction_of_calm {n : Nat} (hcalm : c.Calm (1 + n + 1)) (hidle : c.view.pending = none)
    {a : α} {v : View} {d : Database} (hpending : v.pending = some d)
    (hbody : body (c.advance 1 { c.view with pending := some c.view.committed })
      = .ok a ((c.advance 1 { c.view with pending := some c.view.committed }).advance n v)) :
    transaction body c
      =
    .ok a (c.advance (1 + n + 1) { v with committed := d, pending := none }) := by
  rw [Connection.calm_add_iff v, Connection.calm_add_iff v] at hcalm
  rw [Connection.advance_advance] at hbody
  refine transaction_eq_ok_iff.2 ⟨_, _, start_eq_ok_iff.2 ⟨hcalm.1.1, hidle, rfl⟩, hbody, ?_⟩
  exact commit_eq_ok_iff.2 ⟨hcalm.2, d, hpending, (Connection.advance_advance ..).symm⟩

/-- A transaction that fails leaves what has been committed as it was. -/
theorem committed_of_transaction_error (hbody : Pends body) {fault : DatabaseFault}
    (h : transaction body c = .error fault c') : c'.view.committed = c.view.committed := by
  rw [transaction_apply] at h
  cases hstart : start c with
  | error fault₁ c₁ =>
    rw [hstart] at h
    cases h
    rw [view_of_operation_error hstart]
  | ok _ c₁ =>
    rw [hstart] at h
    dsimp only at h
    obtain ⟨_, _, rfl⟩ := start_eq_ok_iff.1 hstart
    have hstarted : View.Within c.view.committed
        { c.view with pending := some c.view.committed } := ⟨rfl, rfl⟩
    split at h
    . next fault₂ c₂ hinner =>
      cases h
      -- The failure is one of the session in the transaction or one of its end.
      rcases bind_eq_error_iff.1 hinner with hinner | ⟨a, c₁, hok, hinner⟩
      . exact ((hbody _).of_error hinner hstarted).committed
      . rcases bind_eq_error_iff.1 hinner with hcommit | ⟨_, _, _, ⟨⟩⟩
        change c₂.view.committed = _
        rw [view_of_operation_error hcommit]
        exact ((hbody _).of_ok hok hstarted).committed
    . cases h

theorem takes_transaction {n : Nat} (h : Takes body n) : Takes (transaction body) (1 + n + 1) := by
  intro c a c' htransaction
  obtain ⟨c₁, c₂, hstart, hbody, hcommit⟩ := transaction_eq_ok_iff.1 htransaction
  exact ((takes_operation _ _ _ _ hstart).trans (h _ _ _ hbody)).trans
    (takes_operation _ _ _ _ hcommit)

end Transaction

section Agree

/-- Views of related databases. -/
structure Alike (R : Database → Database → Prop) (v v' : View) : Prop where
  committed : R v.committed v'.committed
  pending : Option.Rel R v.pending v'.pending
  lastRowId : v.lastRowId = v'.lastRowId

/-- The same failure or the same value, and views of related databases. -/
inductive AlikeEnd (R : Database → Database → Prop) :
    EStateM.Result DatabaseFault Connection α → EStateM.Result DatabaseFault Connection α → Prop
  | ok {a : α} {trouble : Trouble} {n : Nat} {v v' : View} (h : Alike R v v') :
      AlikeEnd R (.ok a ⟨trouble, n, v⟩) (.ok a ⟨trouble, n, v'⟩)
  | error {fault : DatabaseFault} {trouble : Trouble} {n : Nat} {v v' : View} (h : Alike R v v') :
      AlikeEnd R (.error fault ⟨trouble, n, v⟩) (.error fault ⟨trouble, n, v'⟩)

/-- Two sessions that end alike when they begin alike. -/
def Agree (R : Database → Database → Prop) (x x' : Session α) : Prop :=
  ∀ trouble n v v', Alike R v v' → AlikeEnd R (x ⟨trouble, n, v⟩) (x' ⟨trouble, n, v'⟩)

variable {R : Database → Database → Prop} {x' : Session α} {f' : α → Session β}

theorem Alike.current {v v' : View} (h : Alike R v v') : R v.current v'.current := by
  obtain ⟨committed, pending, lastRowId⟩ := v
  obtain ⟨committed', pending', lastRowId'⟩ := v'
  cases h.pending with
  | none => exact h.committed
  | some hpending => exact hpending

theorem Alike.put {v v' : View} (h : Alike R v v') {d d' : Database} (hd : R d d') :
    Alike R (v.put d) (v'.put d') := by
  obtain ⟨committed, pending, lastRowId⟩ := v
  obtain ⟨committed', pending', lastRowId'⟩ := v'
  cases h.pending with
  | none => exact ⟨hd, .none, h.lastRowId⟩
  | some _ => exact ⟨h.committed, .some hd, h.lastRowId⟩

theorem agree_pure (a : α) : Agree R (pure a) (pure a) := fun _ _ _ _ h => .ok h

theorem Agree.bind (hx : Agree R x x') (hf : ∀ a, Agree R (f a) (f' a)) :
    Agree R (x >>= f) (x' >>= f') := by
  intro trouble n v v' h
  have hend := hx trouble n v v' h
  generalize hc : x ⟨trouble, n, v⟩ = r, hc' : x' ⟨trouble, n, v'⟩ = r' at hend
  cases hend with
  | ok h =>
    rw [bind_of_ok hc, bind_of_ok hc']
    exact hf _ _ _ _ _ h
  | error h =>
    rw [bind_of_error hc, bind_of_error hc']
    exact .error h

theorem agree_operation {step step' : View → Except DatabaseFault View}
    (hstep : ∀ v v', Alike R v v' → Related (Alike R) (step v) (step' v')) :
    Agree R (operation step) (operation step') := by
  intro trouble n v v' h
  unfold operation
  dsimp only
  cases trouble n with
  | some message => exact .error h
  | none =>
    rcases (hstep v v' h).cases with ⟨fault, hv, hv'⟩ | ⟨w, w', hv, hv', hw⟩
    . rw [hv, hv']
      exact .error h
    . rw [hv, hv']
      exact .ok hw

theorem agree_start : Agree R start start := by
  apply agree_operation
  intro v v' h
  obtain ⟨committed, pending, lastRowId⟩ := v
  obtain ⟨committed', pending', lastRowId'⟩ := v'
  cases h.pending with
  | none => exact .ok ⟨h.committed, .some h.committed, h.lastRowId⟩
  | some _ => exact .error _

theorem agree_commit : Agree R commit commit := by
  apply agree_operation
  intro v v' h
  obtain ⟨committed, pending, lastRowId⟩ := v
  obtain ⟨committed', pending', lastRowId'⟩ := v'
  cases h.pending with
  | none => exact .error _
  | some hpending => exact .ok ⟨hpending, .none, h.lastRowId⟩

theorem Agree.transaction {body body' : Session α} (hbody : Agree R body body') :
    Agree R (transaction body) (transaction body') := by
  intro trouble n v v' h
  have hstart := agree_start trouble n v v' h
  rw [transaction_apply, transaction_apply]
  generalize start ⟨trouble, n, v⟩ = r, start ⟨trouble, n, v'⟩ = r' at hstart ⊢
  cases hstart with
  | error h => exact .error h
  | @ok _ trouble n v v' h =>
    have hinner := (hbody.bind fun a => agree_commit.bind fun _ => agree_pure a) trouble n v v' h
    dsimp only
    generalize (body >>= fun a => commit >>= fun _ => pure a) ⟨trouble, n, v⟩ = r,
      (body' >>= fun a => commit >>= fun _ => pure a) ⟨trouble, n, v'⟩ = r' at hinner ⊢
    cases hinner with
    | ok h => exact .ok h
    | error h => exact .error ⟨h.committed, .none, h.lastRowId⟩

/-- Two sessions that agree end in the same way on the same database. -/
theorem Agree.onDatabase (h : Agree R x x') (hR : ∀ d, R d d) (trouble : Trouble) (d : Database) :
    (x.onDatabase trouble d).2 = (x'.onDatabase trouble d).2 := by
  have hend := h trouble 1 ⟨d, none, 0⟩ ⟨d, none, 0⟩ ⟨hR d, .none, rfl⟩
  unfold Session.onDatabase
  change AlikeEnd R (x (.opened trouble d)) (x' (.opened trouble d)) at hend
  generalize x (.opened trouble d) = r, x' (.opened trouble d) = r' at hend ⊢
  cases hend with
  | ok _ => rfl
  | error _ => rfl

end Agree

end Session

end DataQuality.Storage
