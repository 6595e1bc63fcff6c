import DataQuality.Proofs.Template.PlainScanning

/-!
The grammar on the expressions of plain templates: a variable is read as a path, and a condition as
its syntax tree, each up to what follows it in its tag.
-/

namespace DataQuality.Template

open Text (afterLeading? afterLeading?_eq_some_iff)

/-- A name that is read as a variable. The grammar takes a leading `true` or `false` for a value, and
one name stands for all variables. -/
def Name.IsOrdinary (v : Name) : Prop :=
  v.text ≠ "__tera_context"
    ∧ ∀ word ∈ ["true", "false", "True", "False"], ¬ word.toList <+: v.source

def Name.path (v : Name) : Path := .mk v.text v.text []

def Literal.expr (l : Literal) : Expr := .mk (.path l.name.path) l.negated []

def Conjunction.expr (g : Conjunction) : Expr :=
  g.more.foldl (fun e l => joinExpr true e l.expr) g.first.expr

def Condition.expr (c : Condition) : Expr :=
  c.more.foldl (fun e g => joinExpr false e g.expr) c.first.expr

/-- What can follow a variable and a space. -/
inductive Follows : List Char → Prop
  | output (r : List Char) : Follows ('\x7d' :: '\x7d' :: r)
  | statement (r : List Char) : Follows ('%' :: '\x7d' :: r)
  | both (r : List Char) : Follows ('a' :: 'n' :: 'd' :: ' ' :: r)
  | either (r : List Char) : Follows ('o' :: 'r' :: ' ' :: r)

namespace Follows

variable {e : List Char}

theorem token?_eq_none (h : Follows e) :
    token? "(" (' ' :: e) = none ∧ token? "is" (' ' :: e) = none ∧ token? "~" (' ' :: e) = none
      ∧ token? "|" (' ' :: e) = none := by
  cases h <;> exact ⟨rfl, rfl, rfl, rfl⟩

theorem skipSpace_eq (h : Follows e) : skipSpace (' ' :: e) = e := by
  cases h <;> rfl

theorem comparison_eq_none (h : Follows e) : oneOf? comparisons e = none := by
  cases h <;> rfl

theorem member_eq_none (h : Follows e) : word? "not" e = none ∧ lit? "in" e = none := by
  cases h <;> exact ⟨rfl, rfl⟩

/-- The only operator that can seem to follow is that of a remainder, before a closing brace. -/
theorem mathOp (h : Follows e) :
    oneOf? mathOps e = none ∨ ∃ r, e = '%' :: '\x7d' :: r := by
  cases h with
  | statement r => exact .inr ⟨r, rfl⟩
  | _ => exact .inl rfl

end Follows

theorem afterLeading?_eq_none {p s r : List Char} {c : Char} (hp : c ∉ p) (h : ¬ p <+: s) :
    afterLeading? p (s ++ c :: r) = none := by
  cases hrest : afterLeading? p (s ++ c :: r) with
  | none => rfl
  | some rest =>
    rw [afterLeading?_eq_some_iff, List.append_eq_append_iff] at hrest
    rcases hrest with ⟨a, rfl, ha⟩ | ⟨a, rfl, _⟩
    . cases a with
      | nil => exact absurd (by simp) h
      | cons d a =>
        rw [List.cons_append, List.cons.injEq] at ha
        exact absurd (by simp [ha.1]) hp
    . exact absurd (List.prefix_append p a) h

theorem lit?_eq_none {word : String} {d c : Char} {w r : List Char} (hword : word.toList = d :: w)
    (h : d ≠ c) : lit? word (c :: r) = none := by
  unfold lit?
  rw [hword]
  exact if_neg h

section

variable {c : Char} (h : isNameStart c = true)

include h

theorem ne_of_isNameStart {d : Char} (hd : isNameStart d = false) : d ≠ c := by
  rintro rfl
  rw [h] at hd
  cases hd

theorem isDigit_of_isNameStart : Decimal.isDigit c = false := by
  have halpha : c.isAlpha = (decide (c.val ≥ 'A'.val ∧ c.val ≤ 'Z'.val)
    || (decide (c.val ≥ 'a'.val) && decide (c.val ≤ 'z'.val))) := rfl
  have hline : c = '_' → c.val.toNat = 95 := fun h => by subst h; rfl
  have h57 : '9'.val.toNat = 57 := rfl
  have h65 : 'A'.val.toNat = 65 := rfl
  have h97 : 'a'.val.toNat = 97 := rfl
  rw [isNameStart, halpha] at h
  simp only [Bool.or_eq_true, Bool.and_eq_true, decide_eq_true_eq, beq_iff_eq, ge_iff_le,
    UInt32.le_iff_toNat_le] at h
  simp only [Decimal.isDigit, Char.le_def, UInt32.le_iff_toNat_le, Bool.and_eq_false_iff,
    decide_eq_false_iff_not]
  right
  rcases h with h | h
  . omega
  . have := hline h
    omega

theorem wholeDigits?_eq_none (r : List Char) : wholeDigits? (c :: r) = none := by
  unfold wholeDigits?
  split
  . next heq => exact absurd (List.cons.inj heq).1.symm (ne_of_isNameStart h (by decide))
  . simp [isDigit_of_isNameStart h]

theorem sign_eq (r : List Char) : sign (c :: r) = (false, c :: r) := by
  unfold sign
  split
  . next heq => exact absurd (List.cons.inj heq).1.symm (ne_of_isNameStart h (by decide))
  . rfl

theorem float?_eq_none (r : List Char) : float? (c :: r) = none := by
  unfold float?
  rw [sign_eq h]
  simp [wholeDigits?_eq_none h]

theorem int?_eq_none (r : List Char) : int? (c :: r) = none := by
  unfold int? intText?
  rw [sign_eq h]
  simp [wholeDigits?_eq_none h]

theorem string?_eq_none (r : List Char) : string? (c :: r) = none := by
  have hdouble := ne_of_isNameStart h (d := '"') (by decide)
  have hsingle := ne_of_isNameStart h (d := '\'') (by decide)
  have hback := ne_of_isNameStart h (d := '\x60') (by decide)
  simp [string?, hdouble.symm, hsingle.symm, hback.symm]

end

section

variable (r : List Char)

theorem path?_brace (fuel : Nat) : path? fuel ('\x7d' :: r) = none := by
  cases fuel <;> rfl

theorem basicValue_brace (fuel : Nat) : basicValue fuel ('\x7d' :: r) = none := by
  match fuel with
  | 0 => rfl
  | 1 => simp [basicValue, test, call, path?_brace]; rfl
  | fuel + 2 => simp [basicValue, test, call, path?_brace]; rfl

theorem factor_brace (fuel : Nat) : factor fuel ('\x7d' :: r) = none := by
  cases fuel with
  | zero => rfl
  | succ fuel => exact basicValue_brace r fuel

theorem filteredExpr_brace (fuel : Nat) : filteredExpr fuel ('\x7d' :: r) = none := by
  match fuel with
  | 0 => rfl
  | 1 => rfl
  | fuel + 2 => simp [filteredExpr, calculation, factor_brace]

end

theorem many_eq_nil {α : Type} {read? : List Char → Option (α × List Char)} {s : List Char}
    (h : read? s = none) (fuel : Nat) : many read? fuel s = ([], s) := by
  cases fuel with
  | zero => rfl
  | succ fuel => rw [many, h]

theorem Follows.operands_eq_nil {α : Type} {e : List Char} (h : Follows e)
    {read? : List Char → Option (α × List Char)} (hbrace : ∀ r, read? ('\x7d' :: r) = none)
    (fuel : Nat) :
    many (fun s => do
        let (op, r) ← oneOf? mathOps (skipSpace s)
        let (next, rest) ← read? (skipSpace r)
        pure ((op, next), rest)) fuel (' ' :: e)
      =
    ([], ' ' :: e) := by
  apply many_eq_nil
  rw [h.skipSpace_eq]
  rcases h.mathOp with hnone | ⟨r, rfl⟩
  . rw [hnone]
    rfl
  . -- The end of a statement starts like a remainder, but a brace is no operand.
    have hop : oneOf? mathOps ('%' :: '\x7d' :: r) = some (.mod, '\x7d' :: r) := rfl
    have hskip : skipSpace ('\x7d' :: r) = '\x7d' :: r := rfl
    rw [hop, Option.bind_eq_bind, Option.bind_some]
    dsimp only
    rw [hskip, hbrace]
    rfl

namespace Name

variable {v : Name} {e : List Char}

theorem not_isSpace {c : Char} (h : isNameChar c = true) : isSpace c = false := by
  unfold isSpace
  simp only [Bool.or_eq_false_iff, beq_eq_false_iff_ne]
  refine ⟨⟨⟨?_, ?_⟩, ?_⟩, ?_⟩
  all_goals
    rintro rfl
    revert h
    decide

theorem skipSpace_source (v : Name) (r : List Char) :
    skipSpace (v.source ++ r) = v.source ++ r := by
  obtain ⟨c, s, hs, hstart, _⟩ := v.exists_cons
  unfold skipSpace
  rw [hs, List.cons_append, List.dropWhile_cons, not_isSpace (isNameChar_of_isNameStart hstart)]
  simp

theorem ident?_source (v : Name) (r : List Char) :
    ident? (v.source ++ ' ' :: r) = some (v.text, ' ' :: r) := by
  unfold ident?
  rw [v.leadingName?_source (.space r)]
  simp [v.ofList_source]

theorem word?_not (v : Name) (r : List Char) : word? "not" (v.source ++ ' ' :: r) = none := by
  unfold word?
  split
  . next c s h =>
    split
    . next hspace =>
      refine absurd (afterLeading?_eq_some_iff.1 h) (v.ne_not_append (.space r) (.cons ?_ s))
      cases hc : isNameChar c with
      | false => rfl
      | true =>
        rw [not_isSpace hc] at hspace
        cases hspace
    . rfl
  . rfl

theorem lit?_opening (v : Name) (word : String) {d : Char} {w : List Char}
    (hword : word.toList = d :: w) (hd : isNameStart d = false) (r : List Char) :
    lit? word (v.source ++ r) = none := by
  obtain ⟨c, s, hs, hstart, _⟩ := v.exists_cons
  rw [hs, List.cons_append]
  exact lit?_eq_none hword (ne_of_isNameStart hstart hd)

theorem steps_space (fuel : Nat) (r : List Char) : steps fuel (' ' :: r) = ([], ' ' :: r) := by
  cases fuel <;> simp [steps]

theorem path?_source (v : Name) (r : List Char) :
    path? (v.source ++ ' ' :: r).length (v.source ++ ' ' :: r) = some (v.path, ' ' :: r) := by
  have hlength : (v.source ++ ' ' :: r).length = (v.source ++ r).length + 1 := by
    simp [Nat.add_assoc]
  have hspelling : spelling (v.source ++ ' ' :: r) (' ' :: r) = v.text := by
    unfold spelling
    rw [List.length_append, Nat.add_sub_cancel, List.take_left, v.ofList_source]
  rw [hlength, path?, v.ident?_source]
  simp [steps_space, hspelling, path]

theorem call_source (v : Name) (he : Follows e) (fuel : Nat) :
    call fuel (v.source ++ ' ' :: e) = none := by
  cases fuel with
  | zero => rfl
  | succ fuel => simp [call, v.ident?_source, he.token?_eq_none]

theorem test_source (v : Name) (he : Follows e) (fuel : Nat) :
    test fuel (v.source ++ ' ' :: e) = none := by
  cases fuel with
  | zero => rfl
  | succ fuel =>
    rw [test, v.path?_source]
    simp [he.token?_eq_none]

theorem number?_source (v : Name) (r : List Char) :
    float? (v.source ++ r) = none ∧ int? (v.source ++ r) = none
      ∧ string? (v.source ++ r) = none := by
  obtain ⟨c, s, hs, hstart, _⟩ := v.exists_cons
  rw [hs, List.cons_append]
  exact ⟨float?_eq_none hstart _, int?_eq_none hstart _, string?_eq_none hstart _⟩

theorem piece_source (v : Name) (he : Follows e) (fuel : Nat) :
    piece (fuel + 1) (v.source ++ ' ' :: e) = some (.path v.path, ' ' :: e) := by
  rw [piece, v.path?_source]
  simp [v.call_source he, v.number?_source]

theorem textExpr_source (v : Name) (he : Follows e) (fuel : Nat) :
    textExpr fuel (v.source ++ ' ' :: e) = none := by
  match fuel with
  | 0 => rfl
  | 1 => simp [textExpr, piece, v.number?_source]
  | fuel + 2 =>
    simp [textExpr, v.piece_source he, v.number?_source, many, he.token?_eq_none]

theorem boolWords_source (hv : v.IsOrdinary) (r : List Char) :
    oneOf? boolWords (v.source ++ ' ' :: r) = none := by
  have h (word : String) (hmem : word ∈ ["true", "false", "True", "False"]) :
      lit? word (v.source ++ ' ' :: r) = none := by
    refine afterLeading?_eq_none ?_ (hv.2 word hmem)
    revert word
    decide
  simp [boolWords, oneOf?, h]

theorem basicValue_source (hv : v.IsOrdinary) (he : Follows e) (fuel : Nat) :
    basicValue (fuel + 1) (v.source ++ ' ' :: e) = some (.path v.path, ' ' :: e) := by
  rw [basicValue, v.path?_source]
  simp [boolWords_source hv, v.test_source he, v.call_source he]

theorem factor_source (hv : v.IsOrdinary) (he : Follows e) (fuel : Nat) :
    factor (fuel + 2) (v.source ++ ' ' :: e) = some (.path v.path, ' ' :: e) := by
  have hopening := v.lit?_opening "(" rfl (by decide) (' ' :: e)
  simp [factor, hopening, basicValue_source hv he]

theorem calculation_source (hv : v.IsOrdinary) (he : Follows e) (fuel : Nat) :
    calculation (fuel + 3) (v.source ++ ' ' :: e) = some (.path v.path, ' ' :: e) := by
  rw [calculation, factor_source hv he, Option.bind_eq_bind, Option.bind_some]
  dsimp only
  rw [he.operands_eq_nil fun r => factor_brace r _]
  rfl

theorem filteredExpr_source (hv : v.IsOrdinary) (he : Follows e) (fuel : Nat) :
    filteredExpr (fuel + 4) (v.source ++ ' ' :: e)
      =
    some (.ofTerm (.path v.path), ' ' :: e) := by
  have hfilter : filter (fuel + 3) (' ' :: e) = none := by simp [filter, he.token?_eq_none]
  rw [filteredExpr, calculation_source hv he, Option.bind_eq_bind, Option.bind_some]
  dsimp only
  rw [many_eq_nil hfilter]
  rfl

theorem operand_source (hv : v.IsOrdinary) (he : Follows e) (fuel : Nat) :
    operand (fuel + 5) (v.source ++ ' ' :: e) = some (.ofTerm (.path v.path), ' ' :: e) := by
  rw [operand, v.textExpr_source he, filteredExpr_source hv he]
  dsimp only
  rw [Option.bind_eq_bind, Option.bind_some]
  dsimp only
  rw [he.operands_eq_nil fun r => filteredExpr_brace r _]
  rfl

theorem comparison_source (hv : v.IsOrdinary) (he : Follows e) (fuel : Nat) :
    comparison (fuel + 6) (v.source ++ ' ' :: e) = some (.ofTerm (.path v.path), ' ' :: e) := by
  rw [comparison, operand_source hv he]
  simp [he.skipSpace_eq, he.comparison_eq_none]

theorem membership_source (hv : v.IsOrdinary) (he : Follows e) (fuel : Nat) :
    membership (fuel + 5) (v.source ++ ' ' :: e) = none := by
  rw [membership, v.textExpr_source he, filteredExpr_source hv he]
  simp [he.skipSpace_eq, he.member_eq_none]

end Name

namespace Literal

variable {l : Literal} {e : List Char}

theorem logicVal_source (hl : l.name.IsOrdinary) (he : Follows e) (fuel : Nat) :
    logicVal (fuel + 7) (l.source ++ ' ' :: e) = some (l.expr, ' ' :: e) := by
  have hplain := Name.comparison_source hl he fuel
  have hmember : membership (fuel + 6) (l.name.source ++ ' ' :: e) = none :=
    Name.membership_source hl he (fuel + 1)
  unfold source expr
  cases l.negated with
  | false =>
    change logicVal (fuel + 7) (l.name.source ++ ' ' :: e) = _
    rw [logicVal, l.name.word?_not]
    dsimp only
    rw [hmember, hplain]
    rfl
  | true =>
    have hnot : word? "not" ('n' :: 'o' :: 't' :: ' ' :: (l.name.source ++ ' ' :: e))
        = some (' ' :: (l.name.source ++ ' ' :: e)) := rfl
    have hskip : skipSpace (' ' :: (l.name.source ++ ' ' :: e)) = l.name.source ++ ' ' :: e :=
      l.name.skipSpace_source _
    change logicVal (fuel + 7) ('n' :: 'o' :: 't' :: ' ' :: (l.name.source ++ ' ' :: e)) = _
    rw [logicVal, hnot]
    dsimp only
    rw [hskip, hmember, hplain]
    rfl

theorem skipSpace_source (l : Literal) (r : List Char) :
    skipSpace (l.source ++ r) = l.source ++ r := by
  unfold source
  cases l.negated with
  | true => rfl
  | false => exact l.name.skipSpace_source r

end Literal

/-- An operator and the literal behind it; the flag says that both sides have to hold. -/
abbrev Joined := Bool × Literal

namespace Joined

def source (j : Joined) : List Char :=
  (if j.1 then " and ".toList else " or ".toList) ++ j.2.source

def expr (j : Joined) : Bool × Expr := (j.1, j.2.expr)

/-- Reads what `source` writes. -/
def read? (fuel : Nat) (s : List Char) : Option ((Bool × Expr) × List Char) := do
  let s := skipSpace s
  let (isBoth, r) ←
    match word? "or" s with
    | some r => some (false, r)
    | none => (word? "and" s).map fun r => (true, r)
  let (next, rest) ← logicVal fuel (skipSpace r)
  pure ((isBoth, next), rest)

variable {e : List Char}

theorem read?_source {j : Joined} (hj : j.2.name.IsOrdinary) (he : Follows e) (fuel : Nat) :
    read? (fuel + 7) (j.source ++ ' ' :: e) = some (j.expr, ' ' :: e) := by
  obtain ⟨isBoth, l⟩ := j
  have hskip : skipSpace (' ' :: (l.source ++ ' ' :: e)) = l.source ++ ' ' :: e :=
    l.skipSpace_source _
  have hval := Literal.logicVal_source hj he fuel
  cases isBoth with
  | true =>
    have hor : word? "or" (skipSpace (' ' :: 'a' :: 'n' :: 'd' :: ' ' :: (l.source ++ ' ' :: e)))
        = none := rfl
    have hand : word? "and" (skipSpace (' ' :: 'a' :: 'n' :: 'd' :: ' ' :: (l.source ++ ' ' :: e)))
        = some (' ' :: (l.source ++ ' ' :: e)) := rfl
    change read? (fuel + 7) (' ' :: 'a' :: 'n' :: 'd' :: ' ' :: (l.source ++ ' ' :: e)) = _
    unfold read?
    simp [hor, hand, hskip, hval, expr]
  | false =>
    have hor : word? "or" (skipSpace (' ' :: 'o' :: 'r' :: ' ' :: (l.source ++ ' ' :: e)))
        = some (' ' :: (l.source ++ ' ' :: e)) := rfl
    change read? (fuel + 7) (' ' :: 'o' :: 'r' :: ' ' :: (l.source ++ ' ' :: e)) = _
    unfold read?
    simp [hor, hskip, hval, expr]

theorem exists_follows (items : List Joined) (he : Follows e) :
    ∃ e', items.flatMap source ++ ' ' :: e = ' ' :: e' ∧ Follows e' := by
  cases items with
  | nil => exact ⟨e, rfl, he⟩
  | cons j items =>
    obtain ⟨isBoth, l⟩ := j
    cases isBoth with
    | true =>
      have h : ((true, l) :: items).flatMap source ++ ' ' :: e
          = ' ' :: 'a' :: 'n' :: 'd' :: ' '
            :: (l.source ++ (items.flatMap source ++ ' ' :: e)) := by
        simp [source]
      exact ⟨_, h, .both _⟩
    | false =>
      have h : ((false, l) :: items).flatMap source ++ ' ' :: e
          = ' ' :: 'o' :: 'r' :: ' ' :: (l.source ++ (items.flatMap source ++ ' ' :: e)) := by
        simp [source]
      exact ⟨_, h, .either _⟩

theorem many_source (items : List Joined) (hitems : ∀ j ∈ items, j.2.name.IsOrdinary)
    (he : Follows e) {fuel : Nat} (hend : read? (fuel + 7) (' ' :: e) = none) (n : Nat)
    (hn : items.length ≤ n) :
    many (read? (fuel + 7)) n (items.flatMap source ++ ' ' :: e)
      =
    (items.map expr, ' ' :: e) := by
  induction items generalizing n with
  | nil => exact many_eq_nil hend n
  | cons j items ih =>
    rw [List.forall_mem_cons] at hitems
    obtain ⟨e', hrest, he'⟩ := exists_follows items he
    match n, hn with
    | n + 1, hn =>
      have := ih hitems.2 n (Nat.le_of_succ_le_succ hn)
      rw [hrest] at this
      rw [List.flatMap_cons, List.append_assoc, hrest, many, read?_source hitems.1 he']
      dsimp only
      rw [this]
      rfl

theorem length_le (items : List Joined) : items.length ≤ (items.flatMap source).length := by
  induction items with
  | nil => exact Nat.le_refl 0
  | cons j items ih =>
    have : 0 < j.source.length := by
      unfold source
      cases j.1 <;> simp
    simp only [List.flatMap_cons, List.length_append, List.length_cons]
    omega

end Joined

theorem logicExpr_succ (fuel : Nat) (s : List Char) :
    logicExpr (fuel + 1) s = (do
      let (first, r) ← logicVal fuel s
      let (more, rest) := many (Joined.read? fuel) r.length r
      pure (foldLevels id joinExpr first more, rest)) := by
  rw [logicExpr]
  rfl

namespace Conjunction

/-- The literals after the first. -/
def joined (g : Conjunction) : List Joined := g.more.map fun l => (true, l)

theorem source_eq (g : Conjunction) :
    g.source = g.first.source ++ g.joined.flatMap Joined.source := by
  unfold source joined
  rw [List.flatMap_map]
  rfl

theorem foldTight_joined (g : Conjunction) (rest : List (Bool × Expr)) :
    foldTight id joinExpr g.first.expr (g.joined.map Joined.expr ++ rest)
      =
    foldTight id joinExpr g.expr rest := by
  obtain ⟨first, more⟩ := g
  unfold joined expr
  dsimp only
  generalize first.expr = e
  induction more generalizing e with
  | nil => rfl
  | cons l more ih => exact ih (joinExpr true e l.expr)

end Conjunction

namespace Condition

/-- The literals after the first. -/
def joined (c : Condition) : List Joined :=
  c.first.joined ++ c.more.flatMap fun g => (false, g.first) :: g.joined

theorem source_eq (c : Condition) :
    c.source = c.first.first.source ++ c.joined.flatMap Joined.source := by
  have hgroup : (fun g : Conjunction => " or ".toList ++ g.source)
      = fun g => ((false, g.first) :: g.joined).flatMap Joined.source := by
    funext g
    rw [g.source_eq]
    simp [Joined.source]
  unfold source joined
  rw [c.first.source_eq, List.flatMap_append, List.flatMap_assoc, List.append_assoc, hgroup]

theorem foldTight_joined (g : Conjunction) (more : List Conjunction) :
    foldTight id joinExpr g.expr
        ((more.flatMap fun g => (false, g.first) :: g.joined).map Joined.expr)
      =
    (g.expr, more.map fun g => (false, g.expr)) := by
  induction more generalizing g with
  | nil => rfl
  | cons h more ih =>
    rw [List.flatMap_cons, List.cons_append, List.map_cons, List.map_append]
    change (let (second, rest) := foldTight id joinExpr h.first.expr _
      (g.expr, (false, second) :: rest)) = _
    rw [h.foldTight_joined, ih h]
    rfl

theorem foldLevels_joined (c : Condition) :
    foldLevels id joinExpr c.first.first.expr (c.joined.map Joined.expr) = c.expr := by
  unfold foldLevels joined
  rw [List.map_append, c.first.foldTight_joined, foldTight_joined]
  dsimp only
  rw [List.foldl_map]
  rfl

def IsOrdinary (c : Condition) : Prop := ∀ l ∈ c.literals, l.name.IsOrdinary

variable {c : Condition}

theorem IsOrdinary.first (hc : c.IsOrdinary) : c.first.first.name.IsOrdinary := by
  apply hc
  simp [literals, Conjunction.literals]

theorem IsOrdinary.joined (hc : c.IsOrdinary) : ∀ j ∈ c.joined, j.2.name.IsOrdinary := by
  intro j hj
  apply hc
  unfold Condition.joined Conjunction.joined at hj
  simp only [List.mem_append, List.mem_map, List.mem_flatMap, List.mem_cons] at hj
  simp only [literals, Conjunction.literals, List.mem_append, List.mem_cons, List.mem_flatMap]
  rcases hj with ⟨l, hl, rfl⟩ | ⟨g, hg, rfl | ⟨l, hl, rfl⟩⟩
  . exact .inl (.inr hl)
  . exact .inr ⟨g, hg, .inl rfl⟩
  . exact .inr ⟨g, hg, .inr hl⟩

theorem logicExpr_source (hc : c.IsOrdinary) {mark : Char} (hmark : mark = '\x7d' ∨ mark = '%')
    (fuel : Nat) (r : List Char) :
    logicExpr (fuel + 8) (c.source ++ ' ' :: mark :: '\x7d' :: r)
      =
    some (c.expr, ' ' :: mark :: '\x7d' :: r) := by
  have hfollows : Follows (mark :: '\x7d' :: r) := by
    rcases hmark with rfl | rfl
    . exact .output r
    . exact .statement r
  have hend : Joined.read? (fuel + 7) (' ' :: mark :: '\x7d' :: r) = none := by
    rcases hmark with rfl | rfl <;> rfl
  obtain ⟨e, hrest, he⟩ := Joined.exists_follows c.joined hfollows
  have hmany := Joined.many_source c.joined hc.joined hfollows hend
  rw [hrest] at hmany
  have hlength : c.joined.length ≤ (' ' :: e).length := by
    rw [← hrest, List.length_append]
    exact Nat.le_add_right_of_le (Joined.length_le c.joined)
  rw [c.source_eq, List.append_assoc, hrest, logicExpr_succ, Literal.logicVal_source hc.first he,
    Option.bind_eq_bind, Option.bind_some]
  dsimp only
  rw [hmany _ hlength]
  dsimp only
  rw [c.foldLevels_joined]
  rfl

theorem condition?_source (hc : c.IsOrdinary) (r : List Char) :
    condition? (c.source ++ ' ' :: '%' :: '\x7d' :: r)
      =
    some (c.expr, ' ' :: '%' :: '\x7d' :: r) := by
  unfold condition? exprFuel
  rw [Nat.mul_succ]
  exact logicExpr_source hc (.inr rfl) (_ + 12) r

end Condition

namespace Name

variable {v : Name}

def expr (v : Name) : Expr := .ofTerm (.path v.path)

theorem value?_source (hv : v.IsOrdinary) (r : List Char) :
    value? (v.source ++ ' ' :: '\x7d' :: '\x7d' :: r)
      =
    some (v.expr, ' ' :: '\x7d' :: '\x7d' :: r) := by
  let c : Condition := ⟨⟨⟨false, v⟩, []⟩, []⟩
  have hc : c.IsOrdinary := by
    simpa [c, Condition.IsOrdinary, Condition.literals, Conjunction.literals]
  have hsource : c.source = v.source := by
    simp [c, Condition.source, Conjunction.source, Literal.source]
  unfold value? exprFuel
  rw [Nat.mul_succ, argument, ← hsource, Condition.logicExpr_source hc (.inl rfl) (_ + 11) r]
  rfl

theorem container?_source (hv : v.IsOrdinary) (r : List Char) :
    container? (v.source ++ ' ' :: '%' :: '\x7d' :: r)
      =
    some (v.expr, ' ' :: '%' :: '\x7d' :: r) := by
  unfold container? exprFuel
  rw [Nat.mul_succ, filteredExpr_source hv (.statement r) (_ + 16)]
  rfl

theorem loopHeader?_source (item : Name) (hv : v.IsOrdinary) (r : List Char) :
    loopHeader?
        (item.source ++ ' ' :: 'i' :: 'n' :: ' ' :: (v.source ++ ' ' :: '%' :: '\x7d' :: r))
      =
    some ((none, item.text, v.expr), ' ' :: '%' :: '\x7d' :: r) := by
  have hin (s : List Char) : afterSpaces? (' ' :: 'i' :: 'n' :: s) = some ('i' :: 'n' :: s) := rfl
  have hlit (s : List Char) : lit? "in" ('i' :: 'n' :: s) = some s := rfl
  have hcomma (s : List Char) : lit? "," (' ' :: s) = none := rfl
  have hspace (s : List Char) : afterSpaces? (' ' :: s) = some (skipSpace s) := rfl
  unfold loopHeader?
  rw [item.ident?_source]
  simp [hin, hlit, hcomma, hspace, v.skipSpace_source, container?_source hv]

end Name

end DataQuality.Template
