import DataQuality.Proofs.Template.Scanning

/-!
The textual scan on plain templates, which are sequences of segments with single spaces in the tags.
-/

namespace DataQuality.Template

open Json (Value)

def Gap.space : Gap where
  text := " "
  form := List.all_eq_true.1 (by decide)
  nonempty := by decide

def Opening.space : Opening where
  hyphen := false
  blanks := Gap.space.toBlanks

def Tail.space : Tail where
  text := " "
  form := by decide
  apart := Apart.space []

theorem Literal.braceFree_source (l : Literal) : BraceFree l.source := by
  unfold source
  rw [braceFree_append_iff]
  refine ⟨?_, l.name.braceFree_source⟩
  cases l.negated <;> decide

theorem braceFree_flatMap {α : Type} {f : α → List Char} {items : List α}
    (h : ∀ a ∈ items, BraceFree (f a)) : BraceFree (items.flatMap f) := by
  intro c hc
  obtain ⟨a, ha, hc⟩ := List.mem_flatMap.1 hc
  exact h a ha c hc

namespace Conjunction

/-- The literals after the first one. -/
def rest (g : Conjunction) : List Char := g.more.flatMap fun l => " and ".toList ++ l.source

theorem braceFree_rest (g : Conjunction) : BraceFree g.rest :=
  braceFree_flatMap fun l _ => braceFree_append_iff.2 ⟨by decide, l.braceFree_source⟩

theorem braceFree_source (g : Conjunction) : BraceFree g.source :=
  braceFree_append_iff.2 ⟨g.first.braceFree_source, g.braceFree_rest⟩

end Conjunction

theorem apart_flatMap {α : Type} {f : α → List Char} (h : ∀ a, Apart (f a)) (items : List α) :
    Apart (items.flatMap f) := by
  induction items with
  | nil =>
    rintro c ⟨⟩
  | cons a items ih => exact (h a).append ih

namespace Condition

/-- What of a condition stands after its first literal. -/
def rest (c : Condition) : List Char :=
  c.first.rest ++ c.more.flatMap fun g => " or ".toList ++ g.source

theorem braceFree_rest (c : Condition) : BraceFree c.rest := by
  unfold rest
  rw [braceFree_append_iff]
  refine ⟨c.first.braceFree_rest, ?_⟩
  exact braceFree_flatMap fun g _ => braceFree_append_iff.2 ⟨by decide, g.braceFree_source⟩

theorem apart_rest (c : Condition) : Apart c.rest :=
  .append (apart_flatMap (fun _ => Apart.space _) _) (apart_flatMap (fun _ => Apart.space _) _)

def tail (c : Condition) : Tail where
  text := .ofList (c.rest ++ [' '])
  form := by
    have hfree : BraceFree (c.rest ++ [' ']) :=
      braceFree_append_iff.2 ⟨c.braceFree_rest, by decide⟩
    rw [String.toList_ofList]
    exact ⟨fun h => hfree _ h (.inl rfl), fun h => hfree _ h (.inr rfl)⟩
  apart := by
    rw [String.toList_ofList]
    exact c.apart_rest.append (.space [])

def statement (c : Condition) : Statement :=
  .branch false .space (if c.first.first.negated then some .space else none) c.head

theorem source_append_rest (c : Condition) : c.source = c.first.first.source ++ c.rest := by
  unfold source rest Conjunction.source
  rw [List.append_assoc]
  rfl

theorem source_statement (c : Condition) :
    c.statement.source ++ c.tail.source = "if ".toList ++ c.source ++ " ".toList := by
  have hstatement : c.statement.source = "if ".toList ++ c.first.first.source := by
    unfold statement Literal.source head
    cases c.first.first.negated <;> rfl
  have htail : c.tail.source = c.rest ++ " ".toList := String.toList_ofList
  rw [hstatement, htail, c.source_append_rest]
  simp only [List.append_assoc]

end Condition

namespace Plain

def segments : Plain → List Segment
  | .done => []
  | .text s rest => .text s :: rest.segments
  | .output v rest => .output .space v .space :: rest.segments
  | .loop item list body rest =>
    .statement .space (.loop .space (.item item) .space .space list) .space :: (body.segments
      ++ .statement .space .endLoop .space :: rest.segments)
  | .branch condition body rest =>
    .statement .space condition.statement condition.tail :: (body.segments
      ++ .statement .space .endBranch .space :: rest.segments)

theorem source_outputSegment (v : Name) :
    (Segment.output .space v .space).source = outputTag v := by
  simp [Segment.source, outputTag, Opening.source, Opening.space, Gap.space, Tail.space,
    Blanks.source, Tail.source]

theorem source_statementSegment {s : Statement} {tail : Tail} {content : List Char}
    (h : s.source ++ tail.source = content ++ " ".toList) :
    (Segment.statement .space s tail).source = statementTag content := by
  have hsource : (Segment.statement .space s tail).source
      = "\x7b%".toList ++ " ".toList ++ s.source ++ tail.source ++ "%\x7d".toList := rfl
  unfold statementTag
  rw [hsource, List.append_assoc _ s.source, h]
  simp

theorem source_segments (t : Plain) : Template.source t.segments = t.source := by
  have hcons (g : Segment) (more : List Segment) :
      Template.source (g :: more) = g.source ++ Template.source more := rfl
  have happend (more more' : List Segment) :
      Template.source (more ++ more') = Template.source more ++ Template.source more' :=
    List.flatMap_append
  induction t with
  | done => rfl
  | text s rest ih =>
    unfold segments source
    rw [hcons, ih]
    rfl
  | output v rest ih =>
    unfold segments source
    rw [hcons, ih, source_outputSegment]
  | loop item list body rest ihBody ihRest =>
    have hloop : (Segment.statement .space (.loop .space (.item item) .space .space list)
        .space).source = loopTag item list := by
      apply source_statementSegment
      rw [Statement.loop_append]
      simp [Binder.source, Gap.space, Tail.space, Blanks.source, Tail.source]
    have hend : (Segment.statement .space .endLoop .space).source = statementTag "endfor".toList :=
      source_statementSegment rfl
    unfold segments source
    rw [hcons, happend, hcons, hloop, hend, ihBody, ihRest]
    simp only [List.append_assoc]
  | branch c body rest ihBody ihRest =>
    have hbranch : (Segment.statement .space c.statement c.tail).source = branchTag c :=
      source_statementSegment c.source_statement
    have hend : (Segment.statement .space .endBranch .space).source
        = statementTag "endif".toList := source_statementSegment rfl
    unfold segments source
    rw [hcons, happend, hcons, hbranch, hend, ihBody, ihRest]
    simp only [List.append_assoc]

theorem reads_segments (t : Plain) : Template.reads t.segments = t.heads := by
  unfold Template.reads
  induction t with
  | done => rfl
  | text s rest ih => exact ih
  | output v rest ih => exact congrArg (v.text :: ·) ih
  | loop item list body rest ihBody ihRest =>
    simp [segments, heads, ← ihBody, ← ihRest, List.filterMap_cons, Segment.read?, Statement.read?]
  | branch c body rest ihBody ihRest =>
    simp [segments, heads, ← ihBody, ← ihRest, List.filterMap_cons, Segment.read?, Statement.read?,
      Condition.statement]

theorem binds_segments (t : Plain) : Template.binds t.segments = t.binders := by
  unfold Template.binds
  induction t with
  | done => rfl
  | text s rest ih => exact ih
  | output v rest ih => exact ih
  | loop item list body rest ihBody ihRest =>
    simp [segments, binders, ← ihBody, ← ihRest, Segment.binds, Statement.binds, Binder.names]
  | branch c body rest ihBody ihRest =>
    simp [segments, binders, ← ihBody, ← ihRest, Segment.binds, Statement.binds,
      Condition.statement]

theorem mem_freeNames (t : Plain) (v : String) :
    v ∈ freeNames (.ofList t.source) ↔ t.Checked v := by
  unfold Checked
  rw [← t.source_segments, mem_freeNames_source, t.reads_segments, t.binds_segments]

theorem mem_unresolved (t : Plain) (params : Dict Value) (v : String) :
    v ∈ unresolved (.ofList t.source) params ↔ t.Checked v ∧ Absent params v := by
  rw [Template.mem_unresolved, t.mem_freeNames]

end Plain

end DataQuality.Template
