import DataQuality.Proofs.Template.Evaluation

/-!
Variables without a value in plain templates: which are reported before rendering, which while the
template is rendered, and which not at all.
-/

namespace DataQuality.Template

open Json (Value)
open Text (afterLeading? afterLeading?_eq_some_iff)

def Halt.toError (rule : String) : Halt → Error
  | .unbound v => .missingParameter rule [v.text]
  | h => .template rule ("Failed to render '__tera_one_off': " ++ h.fault.headline)

theorem missingIn?.start?_of_ne {c : Char} (h : c ≠ 'V') (r : List Char) :
    start? (c :: r) = none := by
  unfold start?
  have hleading : afterLeading? "Variable \x60".toList (c :: r) = none := lit?_eq_none rfl h.symm
  rw [hleading]
  rfl

theorem missingIn?_append {s : List Char} (hs : 'V' ∉ s) (r : List Char) :
    missingIn? (s ++ r) = missingIn? r := by
  induction s with
  | nil => rfl
  | cons c s ih =>
    rw [List.mem_cons, not_or] at hs
    rw [List.cons_append, missingIn?, missingIn?.start?_of_ne (Ne.symm hs.1), ih hs.2]
    rfl

theorem missingIn?_quoted {s : List Char} (hs : ∀ c ∈ s, isNameChar c = true) {r : List Char}
    (hr : 'V' ∉ r) : missingIn? (s ++ '\x60' :: r) = none := by
  induction s with
  | nil =>
    have hquoted : 'V' ∉ '\x60' :: r := List.not_mem_cons_of_ne_of_not_mem (by decide) hr
    have := missingIn?_append hquoted []
    rw [List.append_nil] at this
    exact this
  | cons c s ih =>
    have hstart : missingIn?.start? (c :: (s ++ '\x60' :: r)) = none := by
      -- The message that is looked for has a space before its quote, and a name has none.
      have hword : afterLeading? "Variable ".toList (c :: s ++ '\x60' :: r) = none := by
        apply afterLeading?_eq_none (by decide)
        intro hleads
        have := hs ' ' (hleads.subset (by decide))
        revert this
        decide
      unfold missingIn?.start?
      cases hquoted : afterLeading? "Variable \x60".toList (c :: (s ++ '\x60' :: r)) with
      | none => rfl
      | some rest =>
        rw [afterLeading?_eq_some_iff] at hquoted
        have hleading : afterLeading? "Variable ".toList (c :: (s ++ '\x60' :: r))
            = some ('\x60' :: rest) := afterLeading?_eq_some_iff.2 hquoted
        rw [List.cons_append, hleading] at hword
        cases hword
    rw [List.forall_mem_cons] at hs
    rw [List.cons_append, missingIn?, hstart, ih hs.2]
    rfl

/-- A message that says something else of a variable is passed on. -/
theorem Fault.toError_of_quoted {fault : Fault} (hmissing : fault.missing? = none) (v : Name)
    {before after : String} {r : List Char} (hmessage : fault.message = before ++ v.text ++ after)
    (hbefore : 'V' ∉ before.toList) (hafter : after.toList = '\x60' :: r) (hr : 'V' ∉ r)
    (rule : String) :
    fault.toError rule
      =
    .template rule ("Failed to render '__tera_one_off': " ++ fault.message) := by
  have hstart : 'V' ∉ "Failed to render '__tera_one_off': ".toList := by decide
  have hname : missingIn? (v.text.toList ++ '\x60' :: r) = none :=
    missingIn?_quoted (fun c hc => v.isNameChar_of_mem hc) hr
  have hnone :
      missingIn? ("Failed to render '__tera_one_off': " ++ fault.message).toList = none := by
    rw [hmessage]
    simp only [String.toList_append, hafter]
    rw [missingIn?_append hstart, List.append_assoc, missingIn?_append hbefore, hname]
  unfold toError
  dsimp only
  rw [hmissing, hnone]
  rfl

theorem Halt.toError_fault (rule : String) (h : Halt) : h.fault.toError rule = h.toError rule := by
  cases h with
  | unbound v => rfl
  | notIterable v a =>
    cases a with
    | object fields => exact Fault.toError_of_quoted rfl v rfl (by decide) rfl (by decide) rule
    | _ => exact Fault.toError_of_quoted rfl v rfl (by decide) rfl (by decide) rule

theorem Plain.renderText_source (t : Plain) (ht : t.IsOrdinary) (rule : String)
    (params : Dict Value) :
    renderText rule (.ofList t.source) params
      =
    (t.eval (.ofParams params)).mapError (Halt.toError rule) := by
  unfold renderText
  rw [t.parse?_source ht]
  dsimp only
  rw [t.renderNodes_nodes ht (Scope.agrees_ofParams params) [], prepend_nil]
  cases t.eval (.ofParams params) with
  | error h =>
    change Except.error (h.fault.toError rule) = _
    rw [h.toError_fault]
    rfl
  | ok text => rfl

section

variable {env : Env} {v : Name}

theorem Env.value_eq_error_iff {w : Name} :
    env.value w = .error (.unbound v) ↔ w = v ∧ env v.text = none := by
  unfold value
  cases hw : env w.text with
  | none =>
    change Except.error (Halt.unbound w) = _ ↔ _
    rw [Except.error.injEq, Halt.unbound.injEq]
    constructor
    . rintro rfl
      exact ⟨rfl, hw⟩
    . exact And.left
  | some a =>
    constructor
    . intro h
      cases h
    . rintro ⟨rfl, h⟩
      rw [hw] at h
      cases h

theorem Env.value_of_elements {list : Name} (h : env.elements list = .error (.unbound v)) :
    env.value list = .error (.unbound v) := by
  unfold elements at h
  rw [Outcome.bind_eq_error_iff] at h
  rcases h with h | ⟨a, _, h⟩
  . exact h
  . split at h <;> cases h

end

namespace Plain

section

variable {env : Env} {v : Name}

theorem mem_filter_bound {bound names : List String} (hbound : ∀ b ∈ bound, (env b).isSome)
    (hv : env v.text = none) (hmem : v.text ∈ names) : v.text ∈ names.filter (· ∉ bound) := by
  rw [List.mem_filter, decide_eq_true_eq]
  refine ⟨hmem, ?_⟩
  intro h
  have := hbound _ h
  rw [hv] at this
  cases this

theorem openReads_of_eval {t : Plain} {bound : List String} (hbound : ∀ b ∈ bound, (env b).isSome)
    (h : t.eval env = .error (.unbound v)) : v.text ∈ t.openReads bound ∧ env v.text = none := by
  -- The loops around a place have given their variables values, so the one without is not theirs.
  induction t generalizing env bound with
  | done => cases h
  | text s rest ih =>
    unfold eval at h
    rw [Outcome.bind_eq_error_iff] at h
    rcases h with h | ⟨_, _, h⟩
    . exact ih hbound h
    . cases h
  | output w rest ih =>
    unfold eval at h
    rw [Outcome.bind_eq_error_iff] at h
    unfold openReads
    rw [List.mem_append]
    rcases h with h | ⟨_, _, h⟩
    . obtain ⟨rfl, hnone⟩ := Env.value_eq_error_iff.1 h
      exact ⟨.inl (mem_filter_bound hbound hnone (List.mem_singleton_self _)), hnone⟩
    . rw [Outcome.bind_eq_error_iff] at h
      rcases h with h | ⟨_, _, h⟩
      . exact ⟨.inr (ih hbound h).1, (ih hbound h).2⟩
      . cases h
  | loop item list body rest ihBody ihRest =>
    unfold eval at h
    rw [Outcome.bind_eq_error_iff] at h
    unfold openReads
    rw [List.mem_append, List.mem_append]
    rcases h with h | ⟨_, _, h⟩
    . obtain ⟨rfl, hnone⟩ := Env.value_eq_error_iff.1 (Env.value_of_elements h)
      exact ⟨.inl (.inl (mem_filter_bound hbound hnone (List.mem_singleton_self _))), hnone⟩
    . rw [Outcome.bind_eq_error_iff] at h
      rcases h with h | ⟨_, _, h⟩
      . obtain ⟨_, a, _, _, _, h⟩ := Outcome.mapM_eq_error_iff.1 h
        have hround : ∀ b ∈ item.text :: bound, (env.bind item.text a b).isSome := by
          unfold Env.bind
          intro b hb
          split
          . rfl
          . next hne => exact hbound b ((List.mem_cons.1 hb).resolve_left hne)
        obtain ⟨hmem, hnone⟩ := ihBody hround h
        refine ⟨.inl (.inr hmem), ?_⟩
        unfold Env.bind at hnone
        split at hnone
        . cases hnone
        . exact hnone
      . rw [Outcome.bind_eq_error_iff] at h
        rcases h with h | ⟨_, _, h⟩
        . exact ⟨.inr (ihRest hbound h).1, (ihRest hbound h).2⟩
        . cases h
  | branch c body rest ihBody ihRest =>
    unfold eval at h
    rw [Outcome.bind_eq_error_iff] at h
    unfold openReads
    rw [List.mem_append, List.mem_append]
    rcases h with h | ⟨_, _, h⟩
    . split at h
      . exact ⟨.inl (.inr (ihBody hbound h).1), (ihBody hbound h).2⟩
      . cases h
    . rw [Outcome.bind_eq_error_iff] at h
      rcases h with h | ⟨_, _, h⟩
      . exact ⟨.inr (ihRest hbound h).1, (ihRest hbound h).2⟩
      . cases h

end

theorem mem_openReads_of_heads {t : Plain} {bound : List String} {v : String} (hheads : v ∈ t.heads)
    (hbinders : v ∉ t.binders) (hbound : v ∉ bound) : v ∈ t.openReads bound := by
  induction t generalizing bound with
  | done => cases hheads
  | text s rest ih => exact ih hheads hbinders hbound
  | output w rest ih =>
    unfold heads at hheads
    unfold openReads
    rcases List.mem_cons.1 hheads with rfl | hheads
    . simp [hbound]
    . exact List.mem_append_right _ (ih hheads hbinders hbound)
  | loop item list body rest ihBody ihRest =>
    unfold heads at hheads
    unfold binders at hbinders
    rw [List.mem_append, List.mem_cons] at hheads hbinders
    rw [not_or, not_or] at hbinders
    unfold openReads
    rw [List.mem_append, List.mem_append]
    rcases hheads with (rfl | hheads) | hheads
    . simp [hbound]
    . have hround : v ∉ item.text :: bound := by
        rw [List.mem_cons, not_or]
        exact ⟨hbinders.1.1, hbound⟩
      exact .inl (.inr (ihBody hheads hbinders.1.2 hround))
    . exact .inr (ihRest hheads hbinders.2 hbound)
  | branch c body rest ihBody ihRest =>
    unfold heads at hheads
    unfold binders at hbinders
    rw [List.mem_append, List.mem_cons] at hheads
    rw [List.mem_append, not_or] at hbinders
    unfold openReads
    rw [List.mem_append, List.mem_append]
    rcases hheads with (rfl | hheads) | hheads
    . left
      left
      rw [List.mem_filter]
      exact ⟨List.mem_cons_self, decide_eq_true hbound⟩
    . exact .inl (.inr (ihBody hheads hbinders.1 hbound))
    . exact .inr (ihRest hheads hbinders.2 hbound)

theorem render_of_absent (t : Plain) (rule : String) {params : Dict Value}
    (h : ∃ v, t.Checked v ∧ Absent params v) :
    ∃ names, render rule (.ofList t.source) params = .error (.missingParameter rule names)
      ∧ ∀ v, v ∈ names ↔ t.Checked v ∧ Absent params v := by
  obtain ⟨v, hv⟩ := h
  refine ⟨unresolved (.ofList t.source) params, ?_, t.mem_unresolved params⟩
  have hmem := (t.mem_unresolved params v).2 hv
  exact render_of_unresolved (List.ne_nil_of_mem hmem) rule

theorem render_of_present (t : Plain) (ht : t.IsOrdinary) (rule : String) {params : Dict Value}
    (h : ¬ ∃ v, t.Checked v ∧ Absent params v) :
    render rule (.ofList t.source) params
      =
    match t.eval (.ofParams params) with
    | .ok a =>
      if hasMark a.toList then .error (.missingParameter rule (residue a.toList)) else .ok a
    | .error halt => .error (halt.toError rule) := by
  have hnil : unresolved (.ofList t.source) params = [] := by
    apply List.eq_nil_iff_forall_not_mem.2
    intro v hv
    exact h ⟨v, (t.mem_unresolved params v).1 hv⟩
  rw [render_of_resolved hnil, t.renderText_source ht]
  cases t.eval (.ofParams params) with
  | error halt => rfl
  | ok a => rfl

theorem render_eq_missing_iff (t : Plain) (ht : t.IsOrdinary) (rule : String)
    (params : Dict Value) :
    (∃ names, render rule (.ofList t.source) params = .error (.missingParameter rule names))
      ↔
    (∃ v, t.Checked v ∧ Absent params v)
      ∨ (∃ v, t.eval (.ofParams params) = .error (.unbound v))
      ∨ ∃ text, t.eval (.ofParams params) = .ok text ∧ hasMark text.toList = true := by
  by_cases habsent : ∃ v, t.Checked v ∧ Absent params v
  . obtain ⟨names, hrender, _⟩ := t.render_of_absent rule habsent
    exact iff_of_true ⟨names, hrender⟩ (.inl habsent)
  . rw [t.render_of_present ht rule habsent]
    cases t.eval (.ofParams params) with
    | ok a => cases hmark : hasMark a.toList <;> simp [habsent, hmark]
    | error halt => cases halt <;> simp [habsent, Halt.toError]

theorem render_eq_ok_iff (t : Plain) (ht : t.IsOrdinary) (rule : String) (params : Dict Value)
    (text : String) :
    render rule (.ofList t.source) params = .ok text
      ↔
    (¬ ∃ v, t.Checked v ∧ Absent params v) ∧ t.eval (.ofParams params) = .ok text
      ∧ hasMark text.toList = false := by
  by_cases habsent : ∃ v, t.Checked v ∧ Absent params v
  . obtain ⟨names, hrender, _⟩ := t.render_of_absent rule habsent
    rw [hrender]
    simp [habsent]
  . rw [t.render_of_present ht rule habsent]
    cases t.eval (.ofParams params) with
    | error halt => simp
    | ok a =>
      dsimp only
      by_cases hmark : hasMark a.toList = true
      . rw [if_pos hmark]
        constructor
        . intro h
          cases h
        . rintro ⟨_, h, hclear⟩
          cases h
          rw [hmark] at hclear
          cases hclear
      . rw [if_neg hmark]
        constructor
        . intro h
          cases h
          exact ⟨habsent, rfl, eq_false_of_ne_true hmark⟩
        . rintro ⟨_, h, _⟩
          cases h
          rfl

/-- How far rendering is closed against variables that the parameters leave without a value. -/
structure Closed (t : Plain) (rule : String) (params : Dict Value) : Prop where
  /-- Checked variables are reported, all that have no value and no others. -/
  reported : (∃ v, t.Checked v ∧ Absent params v) →
    ∃ names, render rule (.ofList t.source) params = .error (.missingParameter rule names)
      ∧ ∀ v, v ∈ names ↔ t.Checked v ∧ Absent params v
  checked_open : ∀ v, t.Checked v → v ∈ t.openReads []
  /-- Of the other variables only those are reported that stop the evaluation. -/
  missing_iff : t.IsOrdinary →
    ((∃ names, render rule (.ofList t.source) params = .error (.missingParameter rule names))
      ↔
    (∃ v, t.Checked v ∧ Absent params v)
      ∨ (∃ v, t.eval (.ofParams params) = .error (.unbound v))
      ∨ ∃ text, t.eval (.ofParams params) = .ok text ∧ hasMark text.toList = true)
  text_iff : t.IsOrdinary →
    ∀ text, render rule (.ofList t.source) params = .ok text
      ↔
    (¬ ∃ v, t.Checked v ∧ Absent params v) ∧ t.eval (.ofParams params) = .ok text
      ∧ hasMark text.toList = false
  /-- The variable that stops the evaluation has no entry, and it is the one that is reported. -/
  unbound : ∀ v, t.eval (.ofParams params) = .error (.unbound v) →
    v.text ∈ t.openReads [] ∧ params.find? v.text = none
      ∧ (t.IsOrdinary → (¬ ∃ w, t.Checked w ∧ Absent params w) →
        render rule (.ofList t.source) params = .error (.missingParameter rule [v.text]))

theorem render_closed (t : Plain) (rule : String) (params : Dict Value) :
    t.Closed rule params := by
  constructor
  case reported => exact t.render_of_absent rule
  case checked_open =>
    intro v hv
    exact mem_openReads_of_heads hv.1 hv.2.1 List.not_mem_nil
  case missing_iff => exact fun ht => t.render_eq_missing_iff ht rule params
  case text_iff => exact fun ht => t.render_eq_ok_iff ht rule params
  case unbound =>
    intro v hv
    obtain ⟨hopen, hnone⟩ := openReads_of_eval (List.forall_mem_nil _) hv
    refine ⟨hopen, hnone, ?_⟩
    intro ht habsent
    rw [t.render_of_present ht rule habsent, hv]
    rfl

end Plain

namespace Sample

def a : Name := ⟨"a", by decide, by decide⟩

def b : Name := ⟨"b", by decide, by decide⟩

/-- A condition on two variables, of which the second is not checked. -/
def joined : Plain := .branch ⟨⟨⟨false, a⟩, [⟨false, b⟩]⟩, []⟩ (.text ⟨"x", by decide⟩ .done) .done

example : joined.source = "\x7b% if a and b %\x7dx\x7b% endif %\x7d".toList := by
  decide

/-- Only the first variable of a condition is checked, and a condition takes a variable without a
value for false. -/
theorem not_closed_under_conditions :
    ¬ ∀ (t : Plain) (rule : String) (params : Dict Value) (v : String),
      v ∈ t.openReads [] → v ∉ reservedNames → Absent params v →
        ∃ names, render rule (.ofList t.source) params = .error (.missingParameter rule names) := by
  intro h
  have hrender : (render "stmt" (.ofList joined.source) [("a", .bool true)]).isOk = true := by
    decide +kernel
  obtain ⟨names, hnames⟩ := h joined "stmt" [("a", .bool true)] "b" (by decide) (by decide)
    (.inl rfl)
  rw [hnames] at hrender
  cases hrender

end Sample

end DataQuality.Template
