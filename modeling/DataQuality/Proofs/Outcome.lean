import Mathlib.Data.List.Forall2
import DataQuality.Logged

/-!
Outcomes of tasks that follow one another, and of a task that is carried out for each element of a
list: the first failure is the failure of the whole.
-/

namespace DataQuality
namespace Outcome

variable {ε α β : Type}

theorem bind_eq_ok_iff {x : Except ε α} {f : α → Except ε β} {b : β} :
    (x >>= f) = .ok b ↔ ∃ a, x = .ok a ∧ f a = .ok b := by
  cases x with
  | error e => simp [bind, Except.bind]
  | ok a => simp [bind, Except.bind]

theorem bind_eq_error_iff {x : Except ε α} {f : α → Except ε β} {e : ε} :
    (x >>= f) = .error e ↔ x = .error e ∨ ∃ a, x = .ok a ∧ f a = .error e := by
  cases x with
  | error e => simp [bind, Except.bind]
  | ok a => simp [bind, Except.bind]

theorem exists_of_isOk {x : Except ε α} (h : x.isOk = true) : ∃ a, x = .ok a := by
  cases x with
  | error e => cases h
  | ok a => exact ⟨a, rfl⟩

theorem map_eq_ok_iff {x : Except ε α} {f : α → β} {b : β} :
    x.map f = .ok b ↔ ∃ a, x = .ok a ∧ f a = b := by
  cases x with
  | error e => simp [Except.map]
  | ok a => simp [Except.map]

theorem map_eq_error_iff {x : Except ε α} {f : α → β} {e : ε} :
    x.map f = .error e ↔ x = .error e := by
  cases x with
  | error e => simp [Except.map]
  | ok a => simp [Except.map]

/-- Two outcomes are the same failure, or values that are related. -/
inductive Related (R : α → β → Prop) : Except ε α → Except ε β → Prop
  | error (e : ε) : Related R (.error e) (.error e)
  | ok {a : α} {b : β} (h : R a b) : Related R (.ok a) (.ok b)

theorem Related.cases {R : α → β → Prop} {x : Except ε α} {y : Except ε β} (h : Related R x y) :
    (∃ e, x = .error e ∧ y = .error e) ∨ ∃ a b, x = .ok a ∧ y = .ok b ∧ R a b := by
  cases h with
  | error e => exact .inl ⟨e, rfl, rfl⟩
  | ok h => exact .inr ⟨_, _, rfl, rfl, h⟩

theorem Related.bind {γ δ : Type} {R : α → β → Prop} {S : γ → δ → Prop} {x : Except ε α}
    {y : Except ε β} {f : α → Except ε γ} {g : β → Except ε δ} (h : Related R x y)
    (hnext : ∀ a b, R a b → Related S (f a) (g b)) : Related S (x >>= f) (y >>= g) := by
  cases h with
  | error e => exact .error e
  | ok h => exact hnext _ _ h

theorem mapM_eq_ok_iff {f : α → Except ε β} {xs : List α} {ys : List β} :
    xs.mapM f = .ok ys ↔ List.Forall₂ (fun x y => f x = .ok y) xs ys := by
  induction xs generalizing ys with
  | nil =>
    rw [List.mapM_nil, List.forall₂_nil_left_iff]
    simp [pure, Except.pure, eq_comm]
  | cons x rest ih =>
    rw [List.mapM_cons, List.forall₂_cons_left_iff]
    simp only [bind_eq_ok_iff, pure, Except.pure, Except.ok.injEq, ih]
    constructor
    . intro ⟨y, hy, ys', hys', h⟩
      exact ⟨y, ys', hy, hys', h.symm⟩
    . intro ⟨y, ys', hy, hys', h⟩
      exact ⟨y, hy, ys', hys', h.symm⟩

theorem mapM_eq_error_iff {f : α → Except ε β} {xs : List α} {e : ε} :
    xs.mapM f = .error e
      ↔
    ∃ before x after, xs = before ++ x :: after ∧ (∀ b ∈ before, ∃ y, f b = .ok y)
      ∧ f x = .error e := by
  induction xs with
  | nil => simp [pure, Except.pure]
  | cons x rest ih =>
    rw [List.mapM_cons]
    simp only [bind_eq_error_iff, pure, Except.pure, reduceCtorEq, and_false, exists_false,
      or_false, ih]
    constructor
    . rintro (h | ⟨y, hy, before, x', after, rfl, hbefore, hx'⟩)
      . exact ⟨[], x, rest, rfl, by simp, h⟩
      . refine ⟨x :: before, x', after, rfl, ?_, hx'⟩
        intro b hb
        cases hb with
        | head => exact ⟨y, hy⟩
        | tail _ hb => exact hbefore b hb
    . rintro ⟨before, x', after, heq, hbefore, hx'⟩
      cases before with
      | nil =>
        obtain ⟨rfl, rfl⟩ := List.cons.inj heq
        exact .inl hx'
      | cons b before =>
        obtain ⟨rfl, rfl⟩ := List.cons.inj heq
        have ⟨y, hy⟩ := hbefore x List.mem_cons_self
        refine .inr ⟨y, hy, before, x', after, rfl, ?_, hx'⟩
        intro b hb
        exact hbefore b (List.mem_cons_of_mem _ hb)

theorem mapM_eq_of_forall₂ {γ : Type} {f : α → Except ε β} {g : γ → Except ε β} {xs : List α}
    {ys : List γ} (h : List.Forall₂ (fun x y => f x = g y) xs ys) : xs.mapM f = ys.mapM g := by
  induction h with
  | nil => rfl
  | cons hhead _ ih => rw [List.mapM_cons, List.mapM_cons, hhead, ih]

end Outcome

theorem map_eq_of_forall₂ {α β γ : Type} {f : α → γ} {g : β → γ} {xs : List α} {ys : List β}
    (h : List.Forall₂ (fun x y => f x = g y) xs ys) : xs.map f = ys.map g := by
  rwa [← List.forall₂_eq_eq_eq, List.forall₂_map_left_iff, List.forall₂_map_right_iff]

theorem Logged.bind_outcome {α β : Type} (x : Logged α) (f : α → Logged β) :
    (x >>= f).outcome = (x.outcome >>= fun a => (f a).outcome) := by
  obtain ⟨outcome, events⟩ := x
  cases outcome with
  | error e => rfl
  | ok a => rfl

end DataQuality
