import DataQuality.Proofs.Template.Marks
import DataQuality.Proofs.Template.Segment
import DataQuality.Proofs.Text.Case
import DataQuality.Sql.Name

/-!
The textual scan on templates that are put together from segments. It finds the variable of every
output, and of a statement the variable that a loop runs over or that a condition starts with.
-/

namespace DataQuality.Template

open Json (Value)
open Text (isBlank)

theorem isNameChar_of_isNameStart {c : Char} (h : isNameStart c = true) : isNameChar c = true := by
  unfold isNameStart at h
  unfold isNameChar Char.isAlphanum
  rw [Bool.or_eq_true] at h ⊢
  exact h.imp_left fun h => by rw [h]; rfl

theorem isNameChar_of_isBlank {c : Char} (h : isBlank c = true) : isNameChar c = false := by
  have hword := Text.isWord_of_isBlank h
  unfold Text.isWord at hword
  rw [Bool.or_eq_false_iff] at hword
  exact hword.1

theorem isBlank_of_isNameChar {c : Char} (h : isNameChar c = true) : isBlank c = false := by
  cases hblank : isBlank c with
  | false => rfl
  | true =>
    rw [isNameChar_of_isBlank hblank] at h
    cases h

theorem not_isBrace_of_isNameChar {c : Char} (h : isNameChar c = true) : ¬ IsBrace c := by
  rintro (rfl | rfl)
  . revert h
    decide
  . revert h
    decide

namespace Apart

theorem cons {c : Char} (h : isNameChar c = false) (r : List Char) : Apart (c :: r) := by
  rintro d ⟨⟩
  exact h

theorem space (r : List Char) : Apart (' ' :: r) := cons (by decide) r

theorem append {s r : List Char} (hs : Apart s) (hr : Apart r) : Apart (s ++ r) := by
  cases s with
  | nil => exact hr
  | cons c s => exact hs

end Apart

/-- A text starts with a name or a word. -/
def Opens (s : List Char) : Prop := ∃ c, s.head? = some c ∧ isNameStart c = true

namespace Opens

theorem cons {c : Char} (h : isNameStart c = true) (r : List Char) : Opens (c :: r) := ⟨c, rfl, h⟩

theorem append {s : List Char} (h : Opens s) (r : List Char) : Opens (s ++ r) := by
  obtain ⟨c, hc, hstart⟩ := h
  exact ⟨c, by rw [List.head?_append, hc]; rfl, hstart⟩

theorem skipBlank_eq {s : List Char} (h : Opens s) : skipBlank s = s := by
  obtain ⟨c, hc, hstart⟩ := h
  obtain ⟨r, rfl⟩ := List.head?_eq_some_iff.1 hc
  have hblank := isBlank_of_isNameChar (isNameChar_of_isNameStart hstart)
  unfold skipBlank
  rw [List.dropWhile_cons, hblank]
  simp

end Opens

namespace Name

theorem exists_cons (v : Name) :
    ∃ c r, v.source = c :: r ∧ isNameStart c = true ∧ ∀ d ∈ r, isNameChar d = true := by
  have hform := v.form
  unfold source
  cases hs : v.text.toList with
  | nil =>
    rw [hs] at hform
    cases hform
  | cons c r =>
    rw [hs] at hform
    unfold isName at hform
    rw [Bool.and_eq_true, List.all_eq_true] at hform
    exact ⟨c, r, rfl, hform.1, hform.2⟩

theorem isNameChar_of_mem {v : Name} {c : Char} (h : c ∈ v.source) : isNameChar c = true := by
  obtain ⟨d, r, hs, hstart, hr⟩ := v.exists_cons
  rw [hs] at h
  rcases List.mem_cons.1 h with rfl | h
  . exact isNameChar_of_isNameStart hstart
  . exact hr c h

theorem braceFree_source (v : Name) : BraceFree v.source := by
  intro c hc
  exact not_isBrace_of_isNameChar (v.isNameChar_of_mem hc)

theorem ofList_source (v : Name) : String.ofList v.source = v.text := String.ofList_toList

theorem opens_source (v : Name) : Opens v.source := by
  obtain ⟨c, r, hs, hstart, _⟩ := v.exists_cons
  rw [hs]
  exact .cons hstart r

theorem skipBlank_source (v : Name) (r : List Char) :
    skipBlank (v.source ++ r) = v.source ++ r := (v.opens_source.append r).skipBlank_eq

section

variable (v : Name) {r : List Char} (hr : Apart r)

include hr

theorem takeWhile_source : (v.source ++ r).takeWhile isNameChar = v.source := by
  rw [List.takeWhile_append_of_pos fun d hd => v.isNameChar_of_mem hd]
  cases r with
  | nil => simp
  | cons c r => simp [hr c rfl]

theorem dropWhile_source : (v.source ++ r).dropWhile isNameChar = r := by
  rw [List.dropWhile_append_of_pos fun d hd => v.isNameChar_of_mem hd]
  cases r with
  | nil => rfl
  | cons c r => simp [hr c rfl]

theorem leadingName?_source : leadingName? (v.source ++ r) = some (v.source, r) := by
  obtain ⟨c, s, hs, hstart, _⟩ := v.exists_cons
  have htake := v.takeWhile_source hr
  have hdrop := v.dropWhile_source hr
  rw [hs, List.cons_append] at htake hdrop ⊢
  rw [List.takeWhile_cons, isNameChar_of_isNameStart hstart, if_pos rfl] at htake
  rw [List.dropWhile_cons, isNameChar_of_isNameStart hstart, if_pos rfl] at hdrop
  unfold leadingName?
  dsimp only
  rw [hstart, if_pos rfl, hdrop, (List.cons.inj htake).2]

theorem ne_not_append {s : List Char} (hs : Apart s) :
    v.source ++ r ≠ 'n' :: 'o' :: 't' :: s := by
  intro h
  have htake := v.takeWhile_source hr
  have hnot : ('n' :: 'o' :: 't' :: s).takeWhile isNameChar = "not".toList := by
    have hn : isNameChar 'n' = true := by decide
    have ho : isNameChar 'o' = true := by decide
    have ht : isNameChar 't' = true := by decide
    cases s with
    | nil => simp [hn, ho, ht]
    | cons b s => simp [hn, ho, ht, hs b rfl]
  rw [h, hnot] at htake
  exact v.notWord (String.toList_inj.1 htake.symm)

theorem readName?_source : readName? (v.source ++ r) = some v.source := by
  unfold readName?
  dsimp only
  rw [v.leadingName?_source hr]
  cases hnot : Text.afterLeading? ['n', 'o', 't'] (v.source ++ r) with
  | none => rfl
  | some s =>
    -- A name can start with the letters of `not`, but then no white space follows them.
    rw [Text.afterLeading?_eq_some_iff] at hnot
    have hblank : afterBlanks? s = none := by
      cases s with
      | nil => rfl
      | cons b s =>
        have hword : isNameChar b = true := by
          cases hb : isNameChar b with
          | true => rfl
          | false => exact absurd hnot (v.ne_not_append hr (.cons hb s))
        simp [afterBlanks?, isBlank_of_isNameChar hword]
    simp [hblank]

end

end Name

namespace Blanks

theorem skipBlank_source (b : Blanks) (s : List Char) : skipBlank (b.source ++ s) = skipBlank s :=
  List.dropWhile_append_of_pos b.form

theorem apart_source (b : Blanks) : Apart b.source := by
  intro c hc
  exact isNameChar_of_isBlank (b.form c (List.mem_of_head? hc))

theorem braceFree_source (b : Blanks) : BraceFree b.source := by
  intro c hc
  exact not_isBrace_of_isBlank (b.form c hc)

theorem head?_ne_of_opens (b : Blanks) {s : List Char} (h : Opens s) {c : Char}
    (hblank : isBlank c = false) (hstart : isNameStart c = false) :
    (b.source ++ s).head? ≠ some c := by
  intro hc
  rw [List.head?_append, Option.or_eq_some_iff] at hc
  rcases hc with hc | ⟨_, hc⟩
  . have := b.form c (List.mem_of_head? hc)
    rw [hblank] at this
    cases this
  . obtain ⟨d, hd, hd'⟩ := h
    rw [hc] at hd
    cases hd
    rw [hstart] at hd'
    cases hd'

end Blanks

namespace Gap

theorem exists_cons (g : Gap) : ∃ c r, g.source = c :: r ∧ isBlank c = true := by
  have hne : g.source ≠ [] := mt String.toList_eq_nil_iff.1 g.nonempty
  obtain ⟨c, r, hs⟩ := List.exists_cons_of_ne_nil hne
  have hmem : c ∈ g.source := by rw [hs]; exact List.mem_cons_self
  exact ⟨c, r, hs, g.form c hmem⟩

theorem apart_append (g : Gap) (r : List Char) : Apart (g.source ++ r) := by
  obtain ⟨c, s, hs, hblank⟩ := g.exists_cons
  rw [hs]
  exact .cons (isNameChar_of_isBlank hblank) _

theorem afterBlanks?_source (g : Gap) (s : List Char) :
    afterBlanks? (g.source ++ s) = some (skipBlank s) := by
  have hskip := g.skipBlank_source s
  obtain ⟨c, r, hs, hblank⟩ := g.exists_cons
  unfold skipBlank at hskip
  rw [hs, List.cons_append, List.dropWhile_cons, hblank, if_pos rfl] at hskip
  rw [hs, List.cons_append]
  unfold afterBlanks?
  dsimp only
  rw [hblank, if_pos rfl]
  exact congrArg some hskip

theorem afterLeading?_source (g : Gap) {c : Char} {w : List Char} (hc : isBlank c = false)
    (s : List Char) : Text.afterLeading? (c :: w) (g.source ++ s) = none := by
  obtain ⟨d, r, hs, hblank⟩ := g.exists_cons
  rw [hs, List.cons_append]
  unfold Text.afterLeading?
  rw [if_neg]
  rintro rfl
  rw [hc] at hblank
  cases hblank

end Gap

theorem PlainText.braceFree (s : PlainText) : BraceFree s.text.toList := by
  rintro c hc (rfl | rfl)
  . exact s.form.1 hc
  . exact s.form.2 hc

theorem Tail.apart_append (t : Tail) {r : List Char} (hr : Apart r) : Apart (t.source ++ r) :=
  t.apart.append hr

namespace Opening

theorem braceFree_source (o : Opening) : BraceFree o.source := by
  unfold source
  rw [braceFree_append_iff]
  refine ⟨?_, o.blanks.braceFree_source⟩
  cases o.hyphen <;> decide

theorem skipHyphen_source (o : Opening) {s : List Char} (h : Opens s) :
    skipHyphen (o.source ++ s) = o.blanks.source ++ s := by
  unfold source
  cases o.hyphen with
  | true => rfl
  | false =>
    change skipHyphen (o.blanks.source ++ s) = _
    unfold skipHyphen
    split
    . next r hr =>
      have hne := o.blanks.head?_ne_of_opens h (c := '-') (by decide) (by decide)
      exact absurd (by rw [hr]; rfl) hne
    . rfl

theorem afterOpening?_source (o : Opening) (mark : Char) {s : List Char} (h : Opens s) :
    afterOpening? mark ('\x7b' :: mark :: (o.source ++ s)) = some s := by
  have hopen (r : List Char) : afterOpening? mark ('\x7b' :: mark :: r)
      = some (skipBlank (skipHyphen r)) := if_pos rfl
  rw [hopen, o.skipHyphen_source h, o.blanks.skipBlank_source, h.skipBlank_eq]

end Opening

/-- A reader of tags finds something only where two braces open, or a brace and a percent sign. -/
structure ReadsTags {α : Type} (read? : List Char → Option α) : Prop where
  eq_none_of_ne : ∀ c r, c ≠ '\x7b' → read? (c :: r) = none
  eq_none_of_unmarked : ∀ c r, c ≠ '\x7b' → c ≠ '%' → read? ('\x7b' :: c :: r) = none

theorem afterOpening?_of_ne {mark c : Char} (hc : c ≠ '\x7b') (r : List Char) :
    afterOpening? mark (c :: r) = none := by
  unfold afterOpening?
  split
  . next h => exact absurd (List.cons.inj h).1 hc
  . rfl

theorem afterOpening?_of_mark_ne {mark c : Char} (h : c ≠ mark) (s : List Char) :
    afterOpening? mark ('\x7b' :: c :: s) = none := if_neg h

theorem readsTags_of_afterOpening? {α : Type} (mark : Char) (hmark : mark = '\x7b' ∨ mark = '%')
    {read? : List Char → Option α} (h : ∀ s, afterOpening? mark s = none → read? s = none) :
    ReadsTags read? := by
  constructor
  . intro c r hc
    exact h _ (afterOpening?_of_ne hc r)
  . intro c r hbrace hpercent
    apply h
    apply afterOpening?_of_mark_ne
    rcases hmark with rfl | rfl
    . exact hbrace
    . exact hpercent

section

variable {s : List Char}

theorem expressionHead?_eq_none (h : afterOpening? '\x7b' s = none) : expressionHead? s = none := by
  unfold expressionHead?
  rw [h]
  rfl

theorem statementHead?_eq_none (h : afterOpening? '%' s = none) : statementHead? s = none := by
  unfold statementHead?
  rw [h]
  rfl

theorem boundNames?_eq_none (h : afterOpening? '%' s = none) : boundNames? s = none := by
  unfold boundNames?
  rw [h]
  rfl

end

theorem readsTags_expressionHead? : ReadsTags expressionHead? :=
  readsTags_of_afterOpening? '\x7b' (.inl rfl) fun _ => expressionHead?_eq_none

theorem readsTags_statementHead? : ReadsTags statementHead? :=
  readsTags_of_afterOpening? '%' (.inr rfl) fun _ => statementHead?_eq_none

theorem readsTags_boundNames? : ReadsTags boundNames? :=
  readsTags_of_afterOpening? '%' (.inr rfl) fun _ => boundNames?_eq_none

/-- A tag that opens once. -/
inductive IsTag : List Char → Prop
  | output {s : List Char} (hne : s ≠ []) (hc : s.head? ≠ some '%') (hs : BraceFree s) :
    IsTag ('\x7b' :: '\x7b' :: (s ++ "\x7d\x7d".toList))
  | statement {s : List Char} (hs : BraceFree s) : IsTag ('\x7b' :: '%' :: (s ++ "%\x7d".toList))

section

variable {α : Type} {read? : List Char → Option α}

theorem collect_cons (c : Char) (r : List Char) :
    collect read? (c :: r) = (read? (c :: r)).toList ++ collect read? r := by
  rw [collect]
  split <;> simp_all

namespace ReadsTags

variable (h : ReadsTags read?)

include h

theorem collect_append {s : List Char} (hs : '\x7b' ∉ s) (r : List Char) :
    collect read? (s ++ r) = collect read? r := by
  induction s with
  | nil => rfl
  | cons c s ih =>
    rw [List.mem_cons, not_or] at hs
    rw [List.cons_append, collect_cons, h.eq_none_of_ne c _ (Ne.symm hs.1), ih hs.2]
    rfl

theorem collect_tag {tag : List Char} (htag : IsTag tag) (r : List Char) :
    collect read? (tag ++ r) = (read? (tag ++ r)).toList ++ collect read? r := by
  have hbrace {s : List Char} (hs : BraceFree s) : '\x7b' ∉ s := fun hmem => hs _ hmem (.inl rfl)
  cases htag with
  | @output s hne hc hs =>
    obtain ⟨c, s, rfl⟩ := List.exists_cons_of_ne_nil hne
    -- The second brace of an output opens nothing, since no brace and no percent sign follows it.
    have hsecond : read? ('\x7b' :: c :: (s ++ "\x7d\x7d".toList ++ r)) = none := by
      apply h.eq_none_of_unmarked
      . exact fun hopen => hs c List.mem_cons_self (.inl hopen)
      . exact fun hpercent => hc (congrArg some hpercent)
    have hclosed : '\x7b' ∉ c :: (s ++ "\x7d\x7d".toList) :=
      List.not_mem_append (hbrace hs) (by decide)
    have hrest := h.collect_append hclosed r
    rw [List.cons_append] at hrest
    simp only [List.cons_append]
    rw [collect_cons, collect_cons, hsecond, hrest]
    rfl
  | @statement s hs =>
    have hclosed : '\x7b' ∉ '%' :: (s ++ "%\x7d".toList) :=
      List.not_mem_cons_of_ne_of_not_mem (by decide) (List.not_mem_append (hbrace hs) (by decide))
    have hrest := h.collect_append hclosed r
    rw [List.cons_append] at hrest
    simp only [List.cons_append]
    rw [collect_cons, hrest]

end ReadsTags

end

theorem read_append {s : List Char} (hs : '\x7b' ∉ s) (r : List Char) :
    read (s ++ r) = read r := by
  unfold read
  rw [readsTags_expressionHead?.collect_append hs, readsTags_statementHead?.collect_append hs]

theorem bound_append {s : List Char} (hs : '\x7b' ∉ s) (r : List Char) :
    bound (s ++ r) = bound r := by
  unfold bound
  rw [readsTags_boundNames?.collect_append hs]

section

variable {tag : List Char} (htag : IsTag tag) (r : List Char)

include htag

theorem mem_read_tag (v : String) :
    v ∈ read (tag ++ r)
      ↔
    (∃ n, expressionHead? (tag ++ r) = some n ∧ String.ofList n = v)
      ∨ (∃ n, statementHead? (tag ++ r) = some n ∧ String.ofList n = v) ∨ v ∈ read r := by
  unfold read
  rw [readsTags_expressionHead?.collect_tag htag, readsTags_statementHead?.collect_tag htag]
  simp only [List.map_append, List.mem_append, List.mem_map, Option.mem_toList]
  grind

theorem bound_tag :
    bound (tag ++ r) = ((boundNames? (tag ++ r)).getD []).map String.ofList ++ bound r := by
  unfold bound
  rw [readsTags_boundNames?.collect_tag htag]
  cases boundNames? (tag ++ r) <;> simp

end

namespace Binder

theorem braceFree_source (b : Binder) : BraceFree b.source := by
  cases b with
  | item v => exact v.braceFree_source
  | entry key before after v =>
    have hcomma : BraceFree ",".toList := by decide
    have hkey := (key.braceFree_source.append before.braceFree_source).append hcomma
    exact (hkey.append after.braceFree_source).append v.braceFree_source

theorem opens_source (b : Binder) : Opens b.source := by
  cases b with
  | item v => exact v.opens_source
  | entry key before after v =>
    unfold source
    simp only [List.append_assoc]
    exact key.opens_source.append _

theorem loopNames?_source (b : Binder) (g : Gap) (r : List Char) :
    loopNames? (b.source ++ (g.source ++ 'i' :: r))
      =
    some (b.names.map Name.source, g.source ++ 'i' :: r) := by
  have happart := g.apart_append ('i' :: r)
  unfold loopNames?
  cases b with
  | item v =>
    have hskip : skipBlank (g.source ++ 'i' :: r) = 'i' :: r := g.skipBlank_source _
    simp [source, names, v.leadingName?_source happart, hskip]
  | entry key before after v =>
    have hcomma (s : List Char) : Apart (before.source ++ ',' :: s) :=
      before.apart_source.append (.cons (by decide) s)
    have hskip (s : List Char) : skipBlank (before.source ++ ',' :: s) = ',' :: s :=
      before.skipBlank_source _
    simp [source, names, key.leadingName?_source (hcomma _), hskip, after.skipBlank_source,
      v.skipBlank_source, v.leadingName?_source happart]

end Binder

namespace Statement

theorem braceFree_source (s : Statement) : BraceFree s.source := by
  cases s with
  | loop afterFor b beforeIn afterIn list =>
    have hfor : BraceFree "for".toList := by decide
    have hin : BraceFree "in".toList := by decide
    have hnames := (hfor.append afterFor.braceFree_source).append b.braceFree_source
    have hwords := (hnames.append beforeIn.braceFree_source).append hin
    exact (hwords.append afterIn.braceFree_source).append list.braceFree_source
  | branch again gap negation v =>
    have hword : BraceFree (if again then "elif" else "if").toList := by cases again <;> decide
    have hnegation : BraceFree (negation.elim [] fun after => "not".toList ++ after.source) := by
      cases negation with
      | none => decide
      | some after => exact .append (by decide) after.braceFree_source
    exact ((hword.append gap.braceFree_source).append hnegation).append v.braceFree_source
  | assign everywhere gap v =>
    have hword : BraceFree (if everywhere then "set_global" else "set").toList := by
      cases everywhere <;> decide
    exact (hword.append gap.braceFree_source).append v.braceFree_source
  | otherwise => decide
  | endBranch => decide
  | endLoop => decide

theorem opens_source (s : Statement) : Opens s.source := by
  cases s with
  | loop afterFor b beforeIn afterIn list => exact ⟨'f', rfl, by decide⟩
  | branch again gap negation v =>
    cases again with
    | true => exact ⟨'e', rfl, by decide⟩
    | false => exact ⟨'i', rfl, by decide⟩
  | assign everywhere gap v => cases everywhere <;> exact ⟨'s', rfl, by decide⟩
  | otherwise => exact ⟨'e', rfl, by decide⟩
  | endBranch => exact ⟨'e', rfl, by decide⟩
  | endLoop => exact ⟨'e', rfl, by decide⟩

theorem loopHead?_loop (afterFor : Gap) (b : Binder) (beforeIn : Gap) (r : List Char) :
    loopHead? ('f' :: 'o' :: 'r' :: (afterFor.source
        ++ (b.source ++ (beforeIn.source ++ 'i' :: 'n' :: r))))
      =
    some (b.names.map Name.source, r) := by
  have hskip := (b.opens_source.append (beforeIn.source ++ 'i' :: 'n' :: r)).skipBlank_eq
  have hin : skipBlank ('i' :: 'n' :: r) = 'i' :: 'n' :: r := rfl
  unfold loopHead?
  simp [Text.afterLeading?, Gap.afterBlanks?_source, hskip, b.loopNames?_source, hin]

theorem loop_append (afterFor : Gap) (b : Binder) (beforeIn afterIn : Gap) (list : Name)
    (r : List Char) :
    (loop afterFor b beforeIn afterIn list).source ++ r
      =
    'f' :: 'o' :: 'r' :: (afterFor.source ++ (b.source ++ (beforeIn.source
      ++ 'i' :: 'n' :: (afterIn.source ++ (list.source ++ r))))) := by
  unfold source
  simp only [List.append_assoc]
  rfl

/-- What of a statement stands after the words that introduce the variable that it reads. -/
def afterWords? : Statement → Option (List Char)
  | loop _ _ _ afterIn list => some (afterIn.source ++ list.source)
  | branch _ gap negation v =>
    some (gap.source ++ negation.elim [] (fun after => "not".toList ++ after.source) ++ v.source)
  | assign .. | otherwise | endBranch | endLoop => none

theorem afterIntroduction?_source (s : Statement) (r : List Char) :
    afterIntroduction? (s.source ++ r) = s.afterWords?.map (· ++ r) := by
  cases s with
  | loop afterFor b beforeIn afterIn list =>
    unfold afterIntroduction?
    rw [loop_append, loopHead?_loop]
    simp [afterWords?]
  | branch again gap negation v =>
    have hwords (word before after : List Char) :
        word ++ before ++ after ++ v.source ++ r = word ++ (before ++ after ++ v.source ++ r) := by
      simp only [List.append_assoc]
    unfold source afterWords?
    rw [hwords]
    cases again <;> rfl
  | assign everywhere gap v => cases everywhere <;> rfl
  | otherwise => rfl
  | endBranch => rfl
  | endLoop => rfl

section

variable (s : Statement) {r : List Char} (hr : Apart r)

include hr

theorem readName?_negation (negation : Option Gap) (v : Name) :
    readName? (skipBlank (negation.elim [] (fun after => "not".toList ++ after.source)
        ++ (v.source ++ r)))
      =
    some v.source := by
  cases negation with
  | none =>
    change readName? (skipBlank (v.source ++ r)) = _
    rw [v.skipBlank_source, v.readName?_source hr]
  | some after =>
    change readName? ('n' :: 'o' :: 't' :: (after.source ++ (v.source ++ r))) = _
    simp [readName?, Text.afterLeading?, after.afterBlanks?_source, v.skipBlank_source,
      v.leadingName?_source hr]

theorem statementHead?_source (o : Opening) :
    statementHead? ('\x7b' :: '%' :: (o.source ++ (s.source ++ r)))
      =
    s.read?.map Name.source := by
  unfold statementHead?
  rw [o.afterOpening?_source '%' (s.opens_source.append r)]
  change ((afterIntroduction? (s.source ++ r)).bind fun rest => (afterBlanks? rest).bind readName?)
    = _
  rw [s.afterIntroduction?_source]
  cases s with
  | loop afterFor b beforeIn afterIn list =>
    simp [afterWords?, read?, afterIn.afterBlanks?_source, list.skipBlank_source,
      list.readName?_source hr]
  | branch again gap negation v =>
    simp only [afterWords?, read?, List.append_assoc, Option.map_some, Option.bind_some,
      gap.afterBlanks?_source, readName?_negation hr]
  | assign everywhere gap v => rfl
  | otherwise => rfl
  | endBranch => rfl
  | endLoop => rfl

theorem boundNames?_source (o : Opening) :
    (boundNames? ('\x7b' :: '%' :: (o.source ++ (s.source ++ r)))).getD []
      =
    s.binds.map Name.source := by
  have hopen := o.afterOpening?_source '%' (s.opens_source.append r)
  unfold boundNames?
  rw [hopen]
  cases s with
  | loop afterFor b beforeIn afterIn list =>
    obtain ⟨c, g, hg, hblank⟩ := afterIn.exists_cons
    rw [loop_append]
    simp [binds, loopHead?_loop, hg, Text.isWord_of_isBlank hblank]
  | branch again gap negation v => cases again <;> rfl
  | assign everywhere gap v =>
    let rest := gap.source ++ v.source ++ r
    have hname : ((afterBlanks? rest).bind fun t => (leadingName? t).bind fun found =>
        some [found.1]) = some [v.source] := by
      unfold rest
      rw [List.append_assoc, gap.afterBlanks?_source, Option.bind_some, v.skipBlank_source,
        v.leadingName?_source hr]
      rfl
    cases everywhere with
    | true => exact congrArg (Option.getD · []) hname
    | false =>
      have hglobal : Text.afterLeading? "_global".toList rest = none := by
        unfold rest
        rw [List.append_assoc]
        exact gap.afterLeading?_source (by decide) _
      change (((afterBlanks? ((Text.afterLeading? "_global".toList rest).getD rest)).bind fun t =>
        (leadingName? t).bind fun found => some [found.1]).getD []) = _
      rw [hglobal, Option.getD_none, hname]
      rfl
  | otherwise => rfl
  | endBranch => rfl
  | endLoop => rfl

end

end Statement

namespace Opening

theorem expressionHead?_source (o : Opening) (v : Name) {r : List Char} (hr : Apart r) :
    expressionHead? ('\x7b' :: '\x7b' :: (o.source ++ (v.source ++ r))) = some v.source := by
  unfold expressionHead?
  rw [o.afterOpening?_source '\x7b' (v.opens_source.append r)]
  simp [v.leadingName?_source hr]

theorem head?_source_ne (o : Opening) {s : List Char} (h : Opens s) :
    (o.source ++ s).head? ≠ some '%' := by
  unfold source
  cases o.hyphen with
  | true => exact fun hc => absurd (Option.some.inj hc) (by decide)
  | false => exact o.blanks.head?_ne_of_opens h (by decide) (by decide)

end Opening

namespace Segment

theorem isTag_output (o : Opening) (v : Name) (tail : Tail) : IsTag (output o v tail).source := by
  have hopens : Opens (v.source ++ tail.source) := v.opens_source.append _
  have hsource : (output o v tail).source
      = '\x7b' :: '\x7b' :: (o.source ++ (v.source ++ tail.source) ++ "\x7d\x7d".toList) := by
    simp [source]
  rw [hsource]
  refine .output ?_ (o.head?_source_ne hopens) ?_
  . obtain ⟨c, hc, _⟩ := hopens
    intro hnil
    rw [(List.append_eq_nil_iff.1 hnil).2] at hc
    cases hc
  . rw [braceFree_append_iff, braceFree_append_iff]
    exact ⟨o.braceFree_source, v.braceFree_source, tail.braceFree⟩

theorem isTag_statement (o : Opening) (s : Statement) (tail : Tail) :
    IsTag (statement o s tail).source := by
  have hsource : (statement o s tail).source
      = '\x7b' :: '%' :: (o.source ++ (s.source ++ tail.source) ++ "%\x7d".toList) := by
    simp [source]
  rw [hsource]
  refine .statement ?_
  rw [braceFree_append_iff, braceFree_append_iff]
  exact ⟨o.braceFree_source, s.braceFree_source, tail.braceFree⟩

theorem output_append (o : Opening) (v : Name) (tail : Tail) (r : List Char) :
    (output o v tail).source ++ r
      =
    '\x7b' :: '\x7b' :: (o.source ++ (v.source ++ (tail.source ++ '\x7d' :: '\x7d' :: r))) := by
  simp [source]

theorem statement_append (o : Opening) (s : Statement) (tail : Tail) (r : List Char) :
    (statement o s tail).source ++ r
      =
    '\x7b' :: '%' :: (o.source ++ (s.source ++ (tail.source ++ '%' :: '\x7d' :: r))) := by
  simp [source]

theorem mem_read_source (g : Segment) (r : List Char) (v : String) :
    v ∈ read (g.source ++ r) ↔ (∃ w, g.read? = some w ∧ w.text = v) ∨ v ∈ read r := by
  cases g with
  | text s =>
    have hread : read ((text s).source ++ r) = read r := read_append s.form.1 r
    simp [hread, read?]
  | output o w tail =>
    have hend : Apart (tail.source ++ '\x7d' :: '\x7d' :: r) :=
      tail.apart_append (.cons (by decide) _)
    rw [mem_read_tag (isTag_output o w tail), output_append, o.expressionHead?_source w hend,
      statementHead?_eq_none (afterOpening?_of_mark_ne (by decide) _)]
    simp [read?, w.ofList_source]
  | statement o s tail =>
    have hend : Apart (tail.source ++ '%' :: '\x7d' :: r) :=
      tail.apart_append (.cons (by decide) _)
    rw [mem_read_tag (isTag_statement o s tail), statement_append, s.statementHead?_source hend,
      expressionHead?_eq_none (afterOpening?_of_mark_ne (by decide) _)]
    simp [read?, Name.ofList_source]

theorem bound_source (g : Segment) (r : List Char) :
    bound (g.source ++ r) = g.binds.map Name.text ++ bound r := by
  cases g with
  | text s => exact bound_append s.form.1 r
  | output o w tail =>
    rw [bound_tag (isTag_output o w tail), output_append,
      boundNames?_eq_none (afterOpening?_of_mark_ne (by decide) _)]
    rfl
  | statement o s tail =>
    have hend : Apart (tail.source ++ '%' :: '\x7d' :: r) :=
      tail.apart_append (.cons (by decide) _)
    rw [bound_tag (isTag_statement o s tail), statement_append, s.boundNames?_source hend]
    simp [binds, Name.ofList_source, Function.comp_def]

end Segment

section

variable (t : List Segment)

theorem mem_read_source (v : String) : v ∈ read (source t) ↔ v ∈ reads t := by
  induction t with
  | nil => rfl
  | cons g t ih =>
    have hsource : source (g :: t) = g.source ++ source t := rfl
    rw [hsource, g.mem_read_source, ih]
    unfold reads
    cases hread : g.read? <;> simp [hread, eq_comm]

theorem bound_source : bound (source t) = binds t := by
  induction t with
  | nil => rfl
  | cons g t ih =>
    have hsource : source (g :: t) = g.source ++ source t := rfl
    rw [hsource, g.bound_source, ih]
    simp [binds]

theorem mem_freeNames_source (v : String) :
    v ∈ freeNames (.ofList (source t)) ↔ v ∈ reads t ∧ v ∉ binds t ∧ v ∉ reservedNames := by
  unfold freeNames
  dsimp only
  rw [mem_inOrder, String.toList_ofList, List.mem_filter, mem_read_source, bound_source]
  simp

/-- The scan finds exactly the variables that a template reads, less the names that it binds
anywhere and the reserved ones, in the order of their bytes and each once. -/
theorem freeNames_source_exact :
    (∀ v, v ∈ freeNames (.ofList (source t)) ↔ v ∈ reads t ∧ v ∉ binds t ∧ v ∉ reservedNames)
      ∧ (freeNames (.ofList (source t))).Pairwise fun v w => Text.bytes v < Text.bytes w :=
  ⟨mem_freeNames_source t, pairwise_inOrder _⟩

end

example :
    freeNames
        "\x7b%-for k , v in rows%\x7d\x7b\x7bindex\x7d\x7d\x7b%elif not notx%\x7d\x7b\x7b-v \x7d\x7d"
      =
    ["index", "notx", "rows"] := by
  decide +kernel

end DataQuality.Template
