import DataQuality.Proofs.Flatten.Leaves

/-!
The spelling of paths. Each step but the root starts with a dot or an opening bracket, so a joined
path falls apart at these characters in one way only, provided that no key holds one. Main
statement: `LeafPath.joined_injective`.
-/

namespace DataQuality

open Json (Value)

/-- The characters that a step of a joined path starts with. -/
def isJoint (c : Char) : Bool := c == '.' || c == '['

def IsPlainKey (key : String) : Prop := '.' ∉ key.toList ∧ '[' ∉ key.toList

instance (key : String) : Decidable (IsPlainKey key) := inferInstanceAs (Decidable (_ ∧ _))

theorem isPlainKey_iff {key : String} :
    IsPlainKey key ↔ ∀ c ∈ key.toList, isJoint c = false := by
  unfold IsPlainKey isJoint
  constructor
  . rintro ⟨hdot, hbracket⟩ c hc
    have hdot' : c ≠ '.' := fun h => hdot (h ▸ hc)
    have hbracket' : c ≠ '[' := fun h => hbracket (h ▸ hc)
    simp [hdot', hbracket']
  . intro h
    constructor
    . intro hdot
      simpa using h '.' hdot
    . intro hbracket
      simpa using h '[' hbracket

/-- Up to the first joint, a text can be read in one way only. -/
theorem append_injective_of_joint {s t u v : List Char} (hs : ∀ c ∈ s, isJoint c = false)
    (ht : ∀ c ∈ t, isJoint c = false) (hu : ∀ c, u.head? = some c → isJoint c = true)
    (hv : ∀ c, v.head? = some c → isJoint c = true) (h : s ++ u = t ++ v) : s = t ∧ u = v := by
  have htakeWhile {s u : List Char} (hs : ∀ c ∈ s, isJoint c = false)
      (hu : ∀ c, u.head? = some c → isJoint c = true) :
      (s ++ u).takeWhile (!isJoint ·) = s := by
    rw [List.takeWhile_append_of_pos]
    . cases u with
      | nil => simp
      | cons c r => simp [hu c rfl]
    . intro c hc
      simp [hs c hc]
  have hst : s = t := by rw [← htakeWhile hs hu, h, htakeWhile ht hv]
  subst hst
  exact ⟨rfl, List.append_cancel_left h⟩

namespace PathStep

def IsPlain (step : PathStep) : Prop := ∀ k, step = .key k → IsPlainKey k

theorem exists_text_eq_cons {step : PathStep} (h : step.IsPlain) :
    ∃ c rest, step.text.toList = c :: rest ∧ isJoint c = true
      ∧ ∀ d ∈ rest, isJoint d = false := by
  cases step with
  | key k =>
    refine ⟨'.', k.toList, ?_, rfl, isPlainKey_iff.1 (h k rfl)⟩
    simp [text]
  | index i =>
    refine ⟨'[', Nat.toDigits 10 i ++ [']'], ?_, rfl, ?_⟩
    . simp [text]
    . intro d hd
      rw [List.mem_append, List.mem_singleton] at hd
      rcases hd with hd | rfl
      . have hdigit := Nat.isDigit_of_mem_toDigits (by omega) (by omega) hd
        unfold isJoint
        rw [Bool.or_eq_false_iff, beq_eq_false_iff_ne, beq_eq_false_iff_ne]
        constructor
        . rintro rfl
          simp at hdigit
        . rintro rfl
          simp at hdigit
      . rfl

theorem text_injective {step step' : PathStep} (h : step.text = step'.text) : step = step' := by
  cases step with
  | key k =>
    cases step' with
    | key k' => simpa [text] using h
    | index i' => simp [text, ← String.toList_inj] at h
  | index i =>
    cases step' with
    | key k' => simp [text, ← String.toList_inj] at h
    | index i' =>
      have hdigits : Nat.toDigits 10 i = Nat.toDigits 10 i' := by
        simpa [text, ← String.toList_inj] using h
      have hvalue := congrArg (Nat.ofDigitChars 10 · 0) hdigits
      simpa [Nat.ofDigitChars_toDigits] using hvalue

theorem head?_flatMap_text {steps : List PathStep} (h : ∀ step ∈ steps, step.IsPlain) {c : Char}
    (hc : (steps.flatMap (·.text.toList)).head? = some c) : isJoint c = true := by
  cases steps with
  | nil => simp at hc
  | cons step rest =>
    obtain ⟨d, more, htext, hd, _⟩ := exists_text_eq_cons (h step List.mem_cons_self)
    simp only [List.flatMap_cons, htext, List.cons_append, List.head?_cons,
      Option.some.injEq] at hc
    exact hc ▸ hd

theorem flatMap_text_injective {steps steps' : List PathStep} (h : ∀ step ∈ steps, step.IsPlain)
    (h' : ∀ step ∈ steps', step.IsPlain)
    (heq : steps.flatMap (·.text.toList) = steps'.flatMap (·.text.toList)) : steps = steps' := by
  induction steps generalizing steps' with
  | nil =>
    cases steps' with
    | nil => rfl
    | cons step' rest' =>
      obtain ⟨_, _, htext, _, _⟩ := exists_text_eq_cons (h' step' List.mem_cons_self)
      simp [htext] at heq
  | cons step rest ih =>
    obtain ⟨c, more, htext, _, hmore⟩ := exists_text_eq_cons (h step List.mem_cons_self)
    cases steps' with
    | nil => simp [htext] at heq
    | cons step' rest' =>
      obtain ⟨c', more', htext', _, hmore'⟩ := exists_text_eq_cons (h' step' List.mem_cons_self)
      rw [List.forall_mem_cons] at h h'
      rw [List.flatMap_cons, List.flatMap_cons, htext, htext', List.cons_append,
        List.cons_append] at heq
      obtain ⟨rfl, htail⟩ := List.cons.inj heq
      -- The rest of the step ends where the next step starts.
      obtain ⟨rfl, hrest⟩ := append_injective_of_joint hmore hmore'
        (fun d => head?_flatMap_text h.2) (fun d => head?_flatMap_text h'.2) htail
      have hstep : step = step' := by
        apply text_injective
        rw [← String.toList_inj, htext, htext']
      rw [hstep, ih h.2 h'.2 hrest]

end PathStep

namespace LeafPath

structure IsPlain (path : LeafPath) : Prop where
  root : IsPlainKey path.root
  steps : ∀ step ∈ path.steps, step.IsPlain

theorem toList_joined (path : LeafPath) :
    path.joined.toList = path.root.toList ++ path.steps.flatMap (·.text.toList) := by
  have hfoldl (steps : List PathStep) (s : String) :
      (steps.foldl (fun s step => s ++ step.text) s).toList
        = s.toList ++ steps.flatMap (·.text.toList) := by
    induction steps generalizing s with
    | nil => simp
    | cons step rest ih => simp [ih]
  exact hfoldl path.steps path.root

theorem joined_injective {path path' : LeafPath} (h : path.IsPlain) (h' : path'.IsPlain)
    (heq : path.joined = path'.joined) : path = path' := by
  rw [← String.toList_inj, toList_joined, toList_joined] at heq
  obtain ⟨hroot, hsteps⟩ := append_injective_of_joint (isPlainKey_iff.1 h.root)
    (isPlainKey_iff.1 h'.root) (fun c => PathStep.head?_flatMap_text h.steps)
    (fun c => PathStep.head?_flatMap_text h'.steps) heq
  obtain ⟨root, steps⟩ := path
  obtain ⟨root', steps'⟩ := path'
  rw [mk.injEq]
  exact ⟨String.toList_inj.1 hroot, PathStep.flatMap_text_injective h.steps h'.steps hsteps⟩

/-- A joined path without joints has no steps, whatever the keys of the path are. -/
theorem eq_of_isPlainKey_joined {path : LeafPath} (h : IsPlainKey path.joined) :
    path = ⟨path.joined, []⟩ := by
  obtain ⟨root, steps⟩ := path
  cases steps with
  | nil => rfl
  | cons step rest =>
    rw [isPlainKey_iff, toList_joined, List.flatMap_cons] at h
    cases step with
    | key k =>
      have := h '.' (by simp [PathStep.text])
      cases this
    | index i =>
      have := h '[' (by simp [PathStep.text])
      cases this

end LeafPath

mutual

/-- No key of a value, at any depth, can be taken for several. -/
def hasPlainKeys : Value → Bool
  | .array items => itemsHavePlainKeys items
  | .object fields => fieldsHavePlainKeys fields
  | _ => true

def itemsHavePlainKeys : List Value → Bool
  | [] => true
  | v :: rest => hasPlainKeys v && itemsHavePlainKeys rest

def fieldsHavePlainKeys : List (String × Value) → Bool
  | [] => true
  | (k, v) :: rest => decide (IsPlainKey k) && hasPlainKeys v && fieldsHavePlainKeys rest

end

theorem hasPlainKeys_array {items : List Value} :
    hasPlainKeys (.array items) = true ↔ ∀ v ∈ items, hasPlainKeys v = true := by
  rw [hasPlainKeys]
  induction items with
  | nil => simp [itemsHavePlainKeys]
  | cons v rest ih => simp [itemsHavePlainKeys, ih]

theorem hasPlainKeys_object {fields : List (String × Value)} :
    hasPlainKeys (.object fields) = true
      ↔
    ∀ e ∈ fields, IsPlainKey e.1 ∧ hasPlainKeys e.2 = true := by
  rw [hasPlainKeys]
  induction fields with
  | nil => simp [fieldsHavePlainKeys]
  | cons e rest ih => simp [fieldsHavePlainKeys, ih]

theorem LeafAt.isPlain_of_mem {v leaf : Value} {steps : List PathStep} (h : LeafAt v steps leaf)
    (hv : hasPlainKeys v = true) : ∀ step ∈ steps, step.IsPlain := by
  induction h with
  | here _ => simp
  | field hmem _ ih =>
    rw [hasPlainKeys_object] at hv
    rw [List.forall_mem_cons]
    refine ⟨?_, ih (hv _ hmem).2⟩
    rintro k ⟨⟩
    exact (hv _ hmem).1
  | item hmem _ ih =>
    rw [hasPlainKeys_array] at hv
    rw [List.forall_mem_cons]
    refine ⟨?_, ih (hv _ (List.mem_of_getElem? hmem))⟩
    rintro k ⟨⟩

theorem HasLeaf.isPlain {row : Dict Value} {path : LeafPath} {leaf : Value}
    (h : HasLeaf row path leaf) (hrow : hasPlainKeys (.object row) = true) : path.IsPlain := by
  have hplain := LeafAt.isPlain_of_mem h hrow
  rw [List.forall_mem_cons] at hplain
  exact ⟨hplain.1 _ rfl, hplain.2⟩

end DataQuality
