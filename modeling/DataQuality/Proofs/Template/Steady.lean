import DataQuality.Proofs.Outcome
import DataQuality.Proofs.Template.Evaluation

/-!
Templates that set no variables and stay in their loops. Each of their nodes is rendered with the
scope that the template starts with, so a variable at any place between them has the value that it
has at the start.
-/

namespace DataQuality.Template

open Json (Value)

mutual

/-- Whether a node sets no variable and does not lead out of a loop. -/
def Node.isSteady : Node → Bool
  | .text _ => true
  | .output _ => true
  | .assign _ _ _ => false
  | .filtered _ body => areSteady body
  | .branch branches otherwise => areSteadyBranches branches && areSteady otherwise
  | .loop _ _ _ body otherwise => areSteady body && areSteady otherwise
  | .leave => false
  | .next => false

def areSteady : List Node → Bool
  | [] => true
  | node :: rest => node.isSteady && areSteady rest

def areSteadyBranches : List (Expr × List Node) → Bool
  | [] => true
  | (_, body) :: rest => areSteady body && areSteadyBranches rest

end

def KeepsScope (render : Scope → Outcome Progress) : Prop :=
  ∀ s p, render s = .ok p → p.scope = s ∧ p.flow = .onward

theorem KeepsScope.runRounds {body : Scope → Outcome Progress} (h : KeepsScope body)
    (key : Option String) (name : String) (length index : Nat) (items : List (String × Value)) :
    KeepsScope (runRounds body key name length index items) := by
  intro s p hp
  induction items generalizing s p index with
  | nil =>
    cases hp
    exact ⟨rfl, rfl⟩
  | cons item rest ih =>
    unfold Template.runRounds at hp
    obtain ⟨here, hhere, hp⟩ := Outcome.bind_eq_ok_iff.1 hp
    obtain ⟨hscope, hflow⟩ := h _ _ hhere
    -- Leaving the round takes away its variables only, so the next round starts from `s`.
    have hexit (l : Loop) : (s.enter l).exit = s := rfl
    rw [if_neg (by rw [hflow]; decide), hscope, hexit] at hp
    obtain ⟨more, hmore, hp⟩ := Outcome.bind_eq_ok_iff.1 hp
    cases hp
    exact ih (index + 1) s more hmore

theorem renderNodes_cons_of_onward {node : Node} {text : String} {s : Scope}
    (h : node.render s = .ok ⟨text, s, .onward⟩) (rest : List Node) :
    renderNodes (node :: rest) s
      =
    (renderNodes rest s).map fun more => { more with text := text ++ more.text } := by
  rw [renderNodes, h]
  dsimp only [bind, Except.bind, if_pos]
  cases renderNodes rest s <;> rfl

theorem KeepsScope.renderNodes_cons {node : Node} {rest : List Node}
    (hnode : KeepsScope node.render) {s : Scope} {p : Progress}
    (hp : renderNodes (node :: rest) s = .ok p) :
    ∃ text more, renderNodes rest s = .ok more ∧ p = { more with text := text ++ more.text } := by
  cases hhere : node.render s with
  | error fault =>
    rw [renderNodes, hhere] at hp
    cases hp
  | ok here =>
    obtain ⟨text, scope, flow⟩ := here
    obtain ⟨rfl, rfl⟩ := hnode s _ hhere
    rw [renderNodes_cons_of_onward hhere] at hp
    obtain ⟨more, hmore, rfl⟩ := Outcome.map_eq_ok_iff.1 hp
    exact ⟨text, more, hmore, rfl⟩

mutual

theorem keepsScope_render (node : Node) (h : node.isSteady = true) : KeepsScope node.render := by
  intro s p hp
  cases node with
  | text t =>
    cases hp
    exact ⟨rfl, rfl⟩
  | output e =>
    obtain ⟨v, _, hp⟩ := Outcome.bind_eq_ok_iff.1 hp
    cases hp
    exact ⟨rfl, rfl⟩
  | assign everywhere name e => cases h
  | filtered f body =>
    rw [Node.render] at hp
    obtain ⟨inside, hinside, hp⟩ := Outcome.bind_eq_ok_iff.1 hp
    obtain ⟨text, _, hp⟩ := Outcome.bind_eq_ok_iff.1 hp
    cases hp
    exact keepsScope_renderNodes body h s inside hinside
  | branch branches otherwise =>
    unfold Node.isSteady at h
    rw [Bool.and_eq_true] at h
    rw [Node.render] at hp
    exact keepsScope_renderBranches branches h.1 (keepsScope_renderNodes otherwise h.2) s p hp
  | loop key name container body otherwise =>
    unfold Node.isSteady at h
    rw [Bool.and_eq_true] at h
    rw [Node.render] at hp
    obtain ⟨label, _, hp⟩ := Outcome.bind_eq_ok_iff.1 hp
    obtain ⟨v, _, hp⟩ := Outcome.bind_eq_ok_iff.1 hp
    obtain ⟨items, _, hp⟩ := Outcome.bind_eq_ok_iff.1 hp
    split at hp
    . exact keepsScope_renderNodes otherwise h.2 s p hp
    . exact (keepsScope_renderNodes body h.1).runRounds key name items.length 0 items s p hp
  | leave => cases h
  | next => cases h

theorem keepsScope_renderNodes (nodes : List Node) (h : areSteady nodes = true) :
    KeepsScope (renderNodes nodes) := by
  intro s p hp
  cases nodes with
  | nil =>
    cases hp
    exact ⟨rfl, rfl⟩
  | cons node rest =>
    unfold areSteady at h
    rw [Bool.and_eq_true] at h
    obtain ⟨text, more, hmore, rfl⟩ := (keepsScope_render node h.1).renderNodes_cons hp
    exact keepsScope_renderNodes rest h.2 s more hmore

theorem keepsScope_renderBranches (branches : List (Expr × List Node))
    (h : areSteadyBranches branches = true) {otherwise : Scope → Outcome Progress}
    (hotherwise : KeepsScope otherwise) : KeepsScope (renderBranches branches otherwise) := by
  intro s p hp
  cases branches with
  | nil =>
    rw [renderBranches] at hp
    exact hotherwise s p hp
  | cons branch rest =>
    obtain ⟨condition, body⟩ := branch
    unfold areSteadyBranches at h
    rw [Bool.and_eq_true] at h
    rw [renderBranches] at hp
    obtain ⟨holds, _, hp⟩ := Outcome.bind_eq_ok_iff.1 hp
    split at hp
    . exact keepsScope_renderNodes body h.1 s p hp
    . exact keepsScope_renderBranches rest h.2 hotherwise s p hp

end

theorem Scope.read_name {name : String} (hname : name ≠ "__tera_context") {s : Scope} {v : Value}
    (hv : s.find? name [] = some v) : s.read (.mk name name []) = .ok v := by
  rw [read, if_neg hname, keys]
  simp only [pure_bind]
  rw [hv]
  rfl

def Expr.isVariable (name : String) : Expr → Bool
  | .mk (.path (.mk text head [])) false [] =>
    text == name && head == name && name != "__tera_context"
  | _ => false

theorem Expr.value_of_isVariable {name : String} {e : Expr} (h : e.isVariable name = true)
    {s : Scope} {v : Value} (hv : s.find? name [] = some v) : e.value s = .ok v := by
  unfold isVariable at h
  split at h
  . next text head =>
    simp only [Bool.and_eq_true, beq_iff_eq, bne_iff_ne] at h
    obtain ⟨⟨rfl, rfl⟩, htext⟩ := h
    unfold value
    rw [meaning, Term.meaning, Scope.read_name htext hv, applications]
    dsimp only
    rw [pathValue_nil]
    rfl
  . cases h

end DataQuality.Template
