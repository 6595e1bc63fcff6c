import Mathlib.Data.List.Forall2
import DataQuality.Proofs.Template.Steady

/-!
Loops that write the items of a list one after the other, with a separator behind every item but the
last. Their text is that of the joined items. Main statement: `render_of_isListing`.
-/

namespace DataQuality.Template

open Json (Value)

theorem renderNodes_of_forall₂ {nodes : List Node} {texts : List String} {s : Scope}
    (h : List.Forall₂ (fun node text => node.render s = .ok ⟨text, s, .onward⟩) nodes texts) :
    renderNodes nodes s = .ok ⟨String.join texts, s, .onward⟩ := by
  induction h with
  | nil =>
    rw [renderNodes]
    rfl
  | cons hnode _ ih =>
    rw [renderNodes_cons_of_onward hnode, ih, String.join_cons]
    rfl

theorem render_text (t : String) (s : Scope) : (Node.text t).render s = .ok ⟨t, s, .onward⟩ := by
  rw [Node.render]
  rfl

theorem Loop.find?_last (item : String) (a : Value) (index length : Nat) :
    (round item a index length).find? "loop" ["last"]
      =
    some (.bool (index + 1 = length)) := rfl

theorem Scope.find?_enter {s : Scope} {l : Loop} {head : String} {keys : List String} {v : Value}
    (h : l.find? head keys = some v) : (s.enter l).find? head keys = some v := by
  unfold find? enter
  rw [List.findSome?_cons, h]
  rfl

/-- Whether a condition is that a loop is not at its last round. -/
def Expr.isNotLast : Expr → Bool
  | .mk (.path (.mk "loop.last" "loop" [.key "last"])) true [] => true
  | _ => false

theorem Expr.holds_of_isNotLast {e : Expr} (h : e.isNotLast = true) {s : Scope} {last : Bool}
    (hlast : s.find? "loop" ["last"] = some (.bool last)) : e.holds s = .ok (!last) := by
  unfold isNotLast at h
  split at h
  . have hread : s.read (.mk "loop.last" "loop" [.key "last"]) = .ok (.bool last) := by
      rw [Scope.read, if_neg (by decide), Scope.keys, Scope.stepKeys, Scope.keys]
      simp only [pure_bind, List.append_nil]
      rw [hlast]
      rfl
    unfold holds
    rw [meaning, Term.meaning, hread, applications]
    dsimp only
    rw [pathValue_nil]
    cases last <;> rfl
  . cases h

theorem render_of_isNotLast {condition : Expr} (h : condition.isNotLast = true) {s : Scope}
    {last : Bool} (hlast : s.find? "loop" ["last"] = some (.bool last)) (separator : String) :
    (Node.branch [(condition, [.text separator])] []).render s
      =
    .ok ⟨if last then "" else separator, s, .onward⟩ := by
  rw [Node.render, renderBranches, Expr.holds_of_isNotLast h hlast]
  cases last with
  | true =>
    change renderBranches [] (renderNodes []) s = _
    rw [renderBranches, renderNodes]
    rfl
  | false =>
    change renderNodes [.text separator] s = _
    rw [renderNodes_of_forall₂ (.cons (render_text separator s) .nil), String.join_cons,
      String.join_nil, String.append_empty]
    rfl

theorem runRounds_cons {body : Scope → Outcome Progress} {s : Scope} {item text : String}
    {a : Value} {index length : Nat}
    (hbody : body (s.enter (.round item a index length))
      = .ok ⟨text, s.enter (.round item a index length), .onward⟩)
    (rest : List (String × Value)) :
    runRounds body none item length index (("", a) :: rest) s
      =
    (do
      let more ← runRounds body none item length (index + 1) rest s
      pure { more with text := text ++ more.text }) := by
  unfold Loop.round at hbody
  rw [runRounds, hbody]
  rfl

/-- The text of a round depends on its item, and it ends with the separator unless it is the last. -/
theorem runRounds_join {body : Scope → Outcome Progress} {s : Scope} {item separator : String}
    {length : Nat} {text : Value → String}
    (hbody : ∀ a index, body (s.enter (.round item a index length))
      = .ok ⟨text a ++ (if index + 1 = length then "" else separator),
          s.enter (.round item a index length), .onward⟩)
    (index : Nat) (items : List Value) (hlength : index + items.length = length) :
    runRounds body none item length index (items.map fun a => ("", a)) s
      =
    .ok ⟨Text.join separator (items.map text), s, .onward⟩ := by
  induction items generalizing index with
  | nil => rfl
  | cons a rest ih =>
    rw [List.length_cons] at hlength
    rw [List.map_cons, runRounds_cons (hbody a index), ih (index + 1) (by omega)]
    cases rest with
    | nil =>
      have hlast : index + 1 = length := hlength
      rw [if_pos hlast, String.append_empty]
      exact congrArg (fun t => Except.ok (Progress.mk t s .onward)) String.append_empty
    | cons b rest =>
      have hlast : index + 1 ≠ length := by
        rw [List.length_cons] at hlength
        omega
      rw [if_neg hlast]
      rfl

/-- Whether a node is a loop over a list that writes each item between two texts, with a separator
behind every item but the last. -/
def Node.isListing (item list front back separator : String) : Node → Bool
  | .loop none name container
      [.text before, .output e, .text behind, .branch [(condition, [.text between])] []] [] =>
    name == item && container.isVariable list && e.isVariable item && condition.isNotLast
      && before == front && behind == back && between == separator
  | _ => false

theorem containerName_of_isVariable {name : String} {e : Expr} (h : e.isVariable name = true) :
    containerName e.term = .ok name := by
  unfold Expr.isVariable at h
  split at h
  . next text head =>
    simp only [Bool.and_eq_true, beq_iff_eq] at h
    rw [← h.1.1]
    rfl
  . cases h

theorem render_of_isListing {item list front back separator : String} {node : Node}
    (h : node.isListing item list front back separator = true) {s : Scope} {items : List Value}
    (hlist : s.find? list [] = some (.array items)) :
    node.render s
      =
    .ok ⟨Text.join separator (items.map fun a => front ++ textOf a ++ back), s, .onward⟩ := by
  unfold Node.isListing at h
  split at h
  . next name container before e behind condition between =>
    simp only [Bool.and_eq_true, beq_iff_eq] at h
    obtain ⟨⟨⟨⟨⟨⟨rfl, hcontainer⟩, he⟩, hcondition⟩, rfl⟩, rfl⟩, rfl⟩ := h
    have hround (length : Nat) (a : Value) (index : Nat) :
        renderNodes
            [.text before, .output e, .text behind, .branch [(condition, [.text between])] []]
            (s.enter (.round name a index length))
          =
        .ok ⟨before ++ textOf a ++ behind ++ (if index + 1 = length then "" else between),
          s.enter (.round name a index length), .onward⟩ := by
      have hitem : (s.enter (.round name a index length)).find? name [] = some a := by
        apply Scope.find?_enter
        rw [Loop.find?_round, if_pos rfl]
      have hlast := Scope.find?_enter (s := s) (Loop.find?_last name a index length)
      have hvalue : (Node.output e).render (s.enter (.round name a index length))
          = .ok ⟨textOf a, s.enter (.round name a index length), .onward⟩ := by
        rw [Node.render, Expr.value_of_isVariable he hitem]
        rfl
      rw [renderNodes_of_forall₂ (.cons (render_text _ _) (.cons hvalue
        (.cons (render_text _ _) (.cons (render_of_isNotLast hcondition hlast between) .nil))))]
      simp only [String.join_cons, String.join_nil, String.append_empty, String.append_assoc,
        decide_eq_true_eq]
    rw [Node.render, containerName_of_isVariable hcontainer,
      Expr.value_of_isVariable hcontainer hlist]
    change (if (items.map fun a => ("", a)).isEmpty then
        renderNodes [] s
      else
        runRounds _ none name (items.map fun a => ("", a)).length 0 (items.map fun a => ("", a)) s)
      = _
    rw [List.length_map, runRounds_join (hround items.length) 0 items (Nat.zero_add _)]
    cases items with
    | nil =>
      rw [renderNodes]
      rfl
    | cons a rest => rfl
  . cases h

end DataQuality.Template
