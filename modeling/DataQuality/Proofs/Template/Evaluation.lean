import DataQuality.Proofs.Outcome
import DataQuality.Proofs.Template.Reading

/-!
Rendering of the syntax tree of a plain template: it gives the text that `Plain.eval` defines, and
leaves the scope as it was.
-/

namespace DataQuality.Template

open Json (Value)

def Halt.fault : Halt → Fault
  | .unbound v => .notFound v.text v.text
  | .notIterable v (.object _) => .needsKey v.text
  | .notIterable v _ => .notIterable v.text

/-- The outcome of nodes that give a text, or stop, and change nothing. -/
def outcome (s : Scope) : Except Halt String → Outcome Progress
  | .ok text => .ok ⟨text, s, .onward⟩
  | .error h => .error h.fault

section

variable {s : Scope} {x y : Except Halt String}

theorem renderNodes_cons {node : Node} {rest : List Node} (hnode : node.render s = outcome s x)
    (hrest : renderNodes rest s = outcome s y) :
    renderNodes (node :: rest) s = outcome s (do pure ((← x) ++ (← y))) := by
  rw [renderNodes, hnode]
  cases x with
  | error h => rfl
  | ok a =>
    change (do
      let more ← renderNodes rest s
      pure { more with text := a ++ more.text }) = _
    rw [hrest]
    cases y <;> rfl

theorem renderNodes_textNode (pending : List Char) {rest : List Node}
    (hrest : renderNodes rest s = outcome s x) :
    renderNodes (Plain.textNode pending ++ rest) s
      =
    outcome s (do pure (.ofList pending ++ (← x))) := by
  unfold Plain.textNode
  split
  . next h =>
    rw [List.isEmpty_iff.1 h, List.nil_append, hrest]
    cases x <;> simp [bind, Except.bind, pure, Except.pure]
  . have htext : (Node.text (.ofList pending)).render s = outcome s (pure (.ofList pending)) := by
      rw [Node.render]
      rfl
    exact renderNodes_cons htext hrest

end

/-- A round of a loop that has bound nothing but its item. -/
def Loop.round (item : String) (a : Value) (index length : Nat) : Loop :=
  ⟨Dict.empty, none, item, "", a, index, length⟩

theorem Loop.find?_round (item : String) (a : Value) (index length : Nat) (name : String) :
    (round item a index length).find? name [] = if name = item then some a else none := by
  simp [find?, round, position?, descend?]

/-- A scope in which the variables have the values of an environment. -/
def Scope.Agrees (s : Scope) (env : Env) : Prop := ∀ name, s.find? name [] = env name

namespace Scope

variable {s : Scope} {env : Env}

theorem agrees_ofParams (params : Dict Value) :
    (ofParams params).Agrees (.ofParams params) := by
  intro name
  simp [find?, ofParams, Env.ofParams, Dict.find?, descend?]

theorem agrees_enter (h : s.Agrees env) (item : String) (a : Value) (index length : Nat) :
    (s.enter (.round item a index length)).Agrees (env.bind item a) := by
  intro name
  have hfind := h name
  unfold find? at hfind
  unfold find? enter Env.bind
  rw [List.findSome?_cons, Loop.find?_round]
  by_cases hname : name = item
  . simp [hname]
  . simp only [if_neg hname]
    exact hfind

theorem read_path (h : s.Agrees env) {v : Name} (hv : v.IsOrdinary) :
    s.read v.path = (env.value v).mapError Halt.fault := by
  unfold Name.path Env.value
  rw [read, if_neg hv.1, keys]
  simp only [pure_bind]
  rw [h]
  cases env v.text <;> rfl

end Scope

theorem pathValue_nil (found : Outcome Value) (negated : Bool) :
    pathValue found negated []
      =
    match found with
    | .ok a => .ok (if negated then .bool (!isTrue a) else a)
    | .error e => if negated then .ok (.bool true) else .error e := by
  cases found with
  | error e => cases negated <;> rfl
  | ok a => cases a <;> cases negated <;> rfl

section

variable {s : Scope} {env : Env} (hs : s.Agrees env)

include hs

theorem Name.value_expr {v : Name} (hv : v.IsOrdinary) :
    v.expr.value s = (env.value v).mapError Halt.fault := by
  unfold Name.expr Expr.ofTerm Expr.value
  rw [Expr.meaning, Term.meaning, s.read_path hs hv, applications]
  dsimp only
  rw [pathValue_nil]
  cases env.value v <;> rfl

theorem Literal.holds_expr {l : Literal} (hl : l.name.IsOrdinary) :
    l.expr.holds s = .ok (l.holds env) := by
  unfold Literal.expr Expr.holds Literal.holds
  rw [Expr.meaning, Term.meaning, s.read_path hs hl, applications]
  dsimp only
  rw [pathValue_nil]
  unfold Env.value
  cases env l.name.text with
  | none => cases l.negated <;> rfl
  | some a => cases hnegated : l.negated <;> simp [pure, Except.pure, Except.mapError, isTrue]

end

theorem joinExpr_holds {s : Scope} {l r : Expr} {a b : Bool} (hl : l.holds s = .ok a)
    (hr : r.holds s = .ok b) (isBoth : Bool) :
    (joinExpr isBoth l r).holds s = .ok (if isBoth then a && b else a || b) := by
  unfold Expr.holds at hl hr
  unfold joinExpr Expr.ofTerm Expr.holds
  cases isBoth with
  | true =>
    rw [if_pos rfl, Expr.meaning, Term.meaning]
    simp only [hl, hr, Term.meaning.ofCondition]
    cases a <;> cases b <;> rfl
  | false =>
    rw [if_neg Bool.false_ne_true, Expr.meaning, Term.meaning]
    simp only [hl, hr, Term.meaning.ofCondition]
    cases a <;> cases b <;> rfl

theorem foldl_joinExpr_holds {α : Type} {s : Scope} {read : α → Expr} {holds : α → Bool}
    {items : List α} (hitems : ∀ a ∈ items, (read a).holds s = .ok (holds a)) (isBoth : Bool)
    {e : Expr} {b : Bool} (he : e.holds s = .ok b) :
    (items.foldl (fun e a => joinExpr isBoth e (read a)) e).holds s
      =
    .ok (if isBoth then b && items.all holds else b || items.any holds) := by
  induction items generalizing e b with
  | nil => cases isBoth <;> simpa using he
  | cons a items ih =>
    rw [List.forall_mem_cons] at hitems
    rw [List.foldl_cons, ih hitems.2 (joinExpr_holds he hitems.1 isBoth)]
    cases isBoth with
    | true => simp [Bool.and_assoc]
    | false => simp [Bool.or_assoc]

section

variable {s : Scope} {env : Env} (hs : s.Agrees env)

include hs

theorem Conjunction.holds_expr {g : Conjunction} (hg : ∀ l ∈ g.literals, l.name.IsOrdinary) :
    g.expr.holds s = .ok (g.holds env) := by
  unfold literals at hg
  rw [List.forall_mem_cons] at hg
  have hmore : ∀ l ∈ g.more, l.expr.holds s = .ok (l.holds env) :=
    fun l hl => Literal.holds_expr hs (hg.2 l hl)
  exact foldl_joinExpr_holds hmore true (Literal.holds_expr hs hg.1)

theorem Condition.holds_expr {c : Condition} (hc : c.IsOrdinary) :
    c.expr.holds s = .ok (c.holds env) := by
  unfold IsOrdinary literals at hc
  rw [List.forall_mem_append, List.forall_mem_flatMap] at hc
  have hmore : ∀ g ∈ c.more, g.expr.holds s = .ok (g.holds env) :=
    fun g hg => Conjunction.holds_expr hs (hc.2 g hg)
  exact foldl_joinExpr_holds hmore false (Conjunction.holds_expr hs hc.1)

theorem render_output {v : Name} (hv : v.IsOrdinary) :
    (Node.output v.expr).render s = outcome s (do pure (textOf (← env.value v))) := by
  rw [Node.render, v.value_expr hs hv]
  cases env.value v <;> rfl

end

theorem runRounds_eq {s : Scope} {body : Scope → Outcome Progress} {name : String}
    {text : Value → Except Halt String} {length : Nat}
    (hbody : ∀ a index, body (s.enter (.round name a index length))
      = outcome (s.enter (.round name a index length)) (text a))
    (index : Nat) (items : List Value) :
    runRounds body none name length index (items.map fun a => ("", a)) s
      =
    outcome s (do pure (String.join (← items.mapM text))) := by
  induction items generalizing index with
  | nil => rfl
  | cons a items ih =>
    have hround := hbody a index
    unfold Loop.round at hround
    rw [List.map_cons, runRounds, hround, List.mapM_cons]
    cases text a with
    | error h => rfl
    | ok here =>
      -- Leaving the round takes away its variables only, so the next round starts from `s`.
      have hexit (l : Loop) : (s.enter l).exit = s := rfl
      simp only [outcome, bind, Except.bind, hexit]
      rw [ih]
      cases items.mapM text with
      | error h => rfl
      | ok texts =>
        change _ = Except.ok (Progress.mk (String.join (here :: texts)) s .onward)
        rw [String.join_cons]
        rfl

theorem rounds_eq (v : Name) (a : Value) :
    rounds none v.text a
      =
    match elements? a with
    | some items => .ok (items.map fun a => ("", a))
    | none => .error (Halt.notIterable v a).fault := by
  cases a <;> simp [rounds, elements?, Halt.fault, pure, Except.pure, throw, throwThe,
    MonadExceptOf.throw]

section

variable {s : Scope} {env : Env} (hs : s.Agrees env)

include hs

theorem render_loop {item list : Name} (hlist : list.IsOrdinary) {body : List Node}
    {text : Value → Except Halt String}
    (hbody : ∀ a index length, renderNodes body (s.enter (.round item.text a index length))
      = outcome (s.enter (.round item.text a index length)) (text a)) :
    (Node.loop none item.text list.expr body []).render s
      =
    outcome s (do pure (String.join (← (← env.elements list).mapM text))) := by
  have hname : containerName list.expr.term = .ok list.text := rfl
  rw [Node.render, hname, list.value_expr hs hlist]
  unfold Env.elements
  cases env.value list with
  | error h => rfl
  | ok a =>
    change (do
      let items ← rounds none list.text a
      if items.isEmpty then
        renderNodes [] s
      else
        runRounds (renderNodes body) none item.text items.length 0 items s) = _
    rw [rounds_eq]
    dsimp only [bind, Except.bind]
    cases elements? a with
    | none => rfl
    | some items =>
      cases items with
      | nil =>
        rw [renderNodes]
        rfl
      | cons first more =>
        exact runRounds_eq (fun a index => hbody a index _) 0 (first :: more)

theorem render_branch {c : Condition} (hc : c.IsOrdinary) {body : List Node}
    {text : Except Halt String} (hbody : renderNodes body s = outcome s text) :
    (Node.branch [(c.expr, body)] []).render s
      =
    outcome s (if c.holds env then text else pure "") := by
  rw [Node.render, renderBranches, c.holds_expr hs hc]
  cases c.holds env with
  | true => exact hbody
  | false =>
    rw [renderBranches, renderNodes]
    rfl

end

namespace Plain

theorem prepend_nil (x : Except Halt String) : (do pure (String.ofList [] ++ (← x))) = x := by
  simp only [String.ofList_nil, String.empty_append, bind_pure]

/-- The nodes of a template give its text after the text that was passed on. -/
theorem renderNodes_nodes (t : Plain) (ht : t.IsOrdinary) {s : Scope} {env : Env}
    (hs : s.Agrees env) (pending : List Char) :
    renderNodes (t.nodes pending) s = outcome s (do pure (.ofList pending ++ (← t.eval env))) := by
  induction t generalizing s env pending with
  | done =>
    have hnil : renderNodes [] s = outcome s (pure "") := rfl
    have := renderNodes_textNode pending hnil
    rw [List.append_nil] at this
    exact this
  | text a rest ih =>
    unfold nodes eval
    rw [ih ht hs, String.ofList_append, String.ofList_toList]
    simp only [bind_assoc, pure_bind, String.append_assoc]
  | output v rest ih =>
    unfold IsOrdinary reads at ht
    rw [List.forall_mem_cons] at ht
    have hrest := ih ht.2 hs []
    rw [prepend_nil] at hrest
    unfold nodes eval
    rw [renderNodes_textNode pending (renderNodes_cons (render_output hs ht.1) hrest)]
    simp only [bind_assoc, pure_bind]
  | loop item list body rest ihBody ihRest =>
    unfold IsOrdinary reads at ht
    rw [List.forall_mem_append, List.forall_mem_cons] at ht
    obtain ⟨⟨hlist, hbody⟩, hrest⟩ := ht
    have hround (a : Value) (index length : Nat) :
        renderNodes (body.nodes []) (s.enter (.round item.text a index length))
          = outcome (s.enter (.round item.text a index length))
            (body.eval (env.bind item.text a)) := by
      rw [ihBody hbody (Scope.agrees_enter hs item.text a index length) [], prepend_nil]
    have hrest := ihRest hrest hs []
    rw [prepend_nil] at hrest
    unfold nodes eval
    rw [renderNodes_textNode pending (renderNodes_cons (render_loop hs hlist hround) hrest)]
    simp only [bind_assoc, pure_bind]
  | branch c body rest ihBody ihRest =>
    unfold IsOrdinary reads at ht
    rw [List.forall_mem_append, List.forall_mem_append, List.forall_mem_map] at ht
    obtain ⟨⟨hc, hbody⟩, hrest⟩ := ht
    have hbody := ihBody hbody hs []
    have hrest := ihRest hrest hs []
    rw [prepend_nil] at hbody hrest
    unfold nodes eval
    rw [renderNodes_textNode pending (renderNodes_cons (render_branch hs hc hbody) hrest)]

end Plain

end DataQuality.Template
