import DataQuality.Proofs.Suite.Fragment
import DataQuality.Proofs.Suite.Naming
import DataQuality.Proofs.Suite.Terminator
import DataQuality.Proofs.Template.Marks

/-!
Marks in statements. Rendering fails where a mark is left, so the rendered texts that a statement is
put together from have none, and neither has a joint between them. Only the descriptions of checks
come into a statement without being rendered. Main statement: `Suite.compile_not_marked_iff`.
-/

namespace DataQuality

open Sql (TableQuote)
open Template (BraceFree Marked Unmarked)

theorem Sql.braceFree_of_nameFault? {name : String} (h : nameFault? name = none) :
    BraceFree name.toList := by
  intro c hc hbrace
  have hword := isAsciiWord_of_mem_name h hc
  rcases hbrace with rfl | rfl
  . revert hword
    decide
  . revert hword
    decide

theorem BodyOf.unmarked {raw body : String} (h : BodyOf raw body) (hraw : Unmarked raw.toList) :
    Unmarked body.toList := by
  obtain ⟨lead, tail, heq, _, _⟩ := h.between
  exact List.IsChain.infix hraw ⟨lead, tail, heq.symm⟩

theorem Sql.TableQuote.unmarked_wrap {quote : TableQuote} {table : String}
    (h : Unmarked table.toList) : Unmarked (quote.wrap table).toList := by
  have hchar (c : Char) (hc : quote.char? = some c) : BraceFree [c] := by
    cases quote with
    | backtick => cases hc; decide
    | doubleQuote => cases hc; decide
    | bare => cases hc
  unfold wrap
  split
  . next c hc =>
    rw [String.toList_ofList, ← List.singleton_append, List.append_assoc,
      Template.unmarked_append_iff_right (hchar c hc),
      Template.unmarked_append_iff_left (hchar c hc)]
    exact h
  . exact h

theorem DataSource.unmarked_fragment {source : DataSource} {suite : String}
    {params : Dict Json.Value} {quote : TableQuote} {base : String}
    (h : source.fragment suite params quote = .ok base) : Unmarked base.toList := by
  cases hkind : source.kind with
  | table =>
    unfold fragment at h
    rw [hkind] at h
    obtain ⟨table, htable, h⟩ := Outcome.bind_eq_ok_iff.1 h
    split at h
    . cases h
      have hselect : BraceFree "SELECT * FROM ".toList := by decide
      rw [String.toList_append, Template.unmarked_append_iff_right hselect]
      exact Sql.TableQuote.unmarked_wrap (Template.unmarked_of_render htable)
    . cases h
  | query =>
    obtain ⟨raw, hraw, hbody⟩ := fragment_of_query hkind h
    exact hbody.unmarked (Template.unmarked_of_render hraw)

namespace Check

theorem unmarked_query {c : Check} {suite : String} {q : SubQuery} (h : c.subQuery suite = .ok q) :
    Unmarked q.query.toList := by
  obtain ⟨rule, raw, _, hraw, hbody⟩ := subQuery_body h
  exact hbody.unmarked (Template.unmarked_of_render (Rule.render_eq_ok_iff.1 hraw).2)

theorem unmarked_comment_iff {c : Check} (h : Sql.nameFault? c.name = none) :
    Unmarked c.comment.toList ↔ ∀ d, c.description = some d → Unmarked d.toList := by
  have hlabel : BraceFree ("-- Check CTE: " ++ c.name).toList := by
    rw [String.toList_append, Template.braceFree_append_iff]
    exact ⟨by decide, Sql.braceFree_of_nameFault? h⟩
  have hline : BraceFree "\n".toList := by decide
  have hplain : Unmarked ("-- Check CTE: " ++ c.name ++ "\n").toList := by
    rw [String.toList_append, Template.unmarked_append_iff_left hline]
    exact hlabel.unmarked
  unfold comment
  cases hdescription : c.description with
  | none => exact iff_of_true hplain (by simp)
  | some d =>
    simp only [Option.some.injEq, forall_eq']
    split
    . have hopen : BraceFree " [".toList := by decide
      have hclose : BraceFree "]\n".toList := by decide
      have hspace : BraceFree " ".toList := by decide
      rw [String.toList_append, Template.unmarked_append_iff_left hclose, String.toList_append,
        String.toList_append, List.append_assoc, Template.unmarked_append_iff_right hlabel,
        Template.unmarked_append_iff_right hopen, Template.unmarked_join_iff (by decide) hspace,
        List.forall_mem_map]
      simp only [String.toList_ofList]
      exact Template.unmarked_words_iff
    . next hcontent =>
      -- A description that is left out is blank, so it has no brace at all.
      have hblank := Text.hasContent_eq_false_iff.1 (eq_false_of_ne_true hcontent)
      have hd : BraceFree d.toList := by
        intro x hx
        exact Template.not_isBrace_of_isBlank (hblank x hx)
      exact iff_of_true hplain hd.unmarked

theorem braceFree_queryName {c : Check} (h : Sql.nameFault? c.name = none) :
    BraceFree c.queryName.toList := by
  unfold queryName
  rw [String.toList_append, Template.braceFree_append_iff]
  exact ⟨by decide, Sql.braceFree_of_nameFault? h⟩

end Check

theorem SubQuery.unmarked_definition_iff {name : String} (h : BraceFree name.toList)
    {q : SubQuery} (hquery : Unmarked q.query.toList) :
    Unmarked (q.comment ++ name ++ " AS (\n" ++ q.query ++ "\n)").toList
      ↔
    Unmarked q.comment.toList := by
  have hopen : BraceFree (name ++ " AS (\n").toList := by
    rw [String.toList_append, Template.braceFree_append_iff]
    exact ⟨h, by decide⟩
  have hclose : BraceFree "\n)".toList := by decide
  have hne : (name ++ " AS (\n").toList ≠ [] := by simp
  have heq : q.comment ++ name ++ " AS (\n" ++ q.query
      = q.comment ++ (name ++ " AS (\n") ++ q.query := by
    simp only [String.append_assoc]
  rw [String.toList_append, Template.unmarked_append_iff_left hclose, heq, String.toList_append,
    String.toList_append, Template.unmarked_separated_iff hne hopen, and_iff_left hquery]

namespace Suite

theorem unmarked_definitions_iff {suite : String} {checks : List Check} {parts : List SubQuery}
    (h : List.Forall₂ (fun c q => c.subQuery suite = .ok q) checks parts)
    (hnames : ∀ c ∈ checks, Sql.nameFault? c.name = none) :
    (∀ text ∈ List.zipWith
          (fun name q => q.comment ++ name ++ " AS (\n" ++ SubQuery.query q ++ "\n)")
          (checks.map Check.queryName) parts,
        Unmarked text.toList)
      ↔
    ∀ c ∈ checks, ∀ d, c.description = some d → Unmarked d.toList := by
  induction h with
  | nil => simp
  | @cons c q checks parts hq _ ih =>
    rw [List.forall_mem_cons] at hnames
    have hname := Check.braceFree_queryName hnames.1
    rw [List.map_cons, List.zipWith_cons_cons, List.forall_mem_cons, List.forall_mem_cons,
      ih hnames.2, SubQuery.unmarked_definition_iff hname (Check.unmarked_query hq),
      ← (Check.subQuery_eq_ok_iff.1 hq).2, Check.unmarked_comment_iff hnames.1]

theorem braceFree_queryNames (s : Suite) : ∀ name ∈ s.queryNames, BraceFree name.toList := by
  unfold queryNames
  rw [List.forall_mem_cons, List.forall_mem_map]
  constructor
  . have hname := (SuiteDraft.fault?_eq_none_iff.1 s.valid).1
    unfold baseQuery
    simp only [String.toList_append, Template.braceFree_append_iff]
    exact ⟨⟨by decide, Sql.braceFree_of_nameFault? hname⟩, by decide⟩
  . intro c hc
    exact Check.braceFree_queryName (s.nameFault?_check hc)

theorem braceFree_selections (s : Suite) :
    BraceFree ("\nUNION ALL\n".intercalate
      (s.checks.map fun c => "SELECT * FROM " ++ c.queryName)).toList := by
  have hunion : BraceFree "\nUNION ALL\n".toList := by decide
  have hselect : BraceFree "SELECT * FROM ".toList := by decide
  intro x hx
  rw [← Text.join_eq_intercalate] at hx
  rcases Text.mem_join hx with hx | ⟨selection, hselection, hx⟩
  . exact hunion x hx
  . obtain ⟨c, hc, rfl⟩ := List.mem_map.1 hselection
    rw [String.toList_append, List.mem_append] at hx
    exact hx.elim (hselect x) (Check.braceFree_queryName (s.nameFault?_check hc) x)

/-- A statement has a mark exactly if the description of a check has one. -/
theorem compile_not_marked_iff (s : Suite) (quote : TableQuote) (sql : String)
    (h : (s.compile quote).outcome = .ok sql) :
    ¬ Marked sql ↔ ∀ c ∈ s.checks, ∀ d, c.description = some d → ¬ Marked d := by
  obtain ⟨_, base, parts, hbase, hparts, rfl⟩ := compile_eq_ok_iff.1 h
  have hnames : ∀ c ∈ s.checks, Sql.nameFault? c.name = none := fun c => s.nameFault?_check
  have hhead : BraceFree
      ("-- Base CTE (data source: " ++ s.source.kind.text ++ ")\nWITH ").toList := by
    cases s.source.kind <;> decide
  have hline : BraceFree "\n".toList := by decide
  have hcomma : BraceFree ",\n".toList := by decide
  -- The base is laid out as a query without a comment.
  have hbaseText := SubQuery.unmarked_definition_iff (q := ⟨"", base⟩)
    (s.braceFree_queryNames s.baseQuery List.mem_cons_self) (DataSource.unmarked_fragment hbase)
  simp only [Template.not_marked_iff]
  rw [laidOut_eq_definitions, String.toList_append, Template.unmarked_append_iff_left hline,
    String.toList_append, Template.unmarked_append_iff_left s.braceFree_selections,
    String.toList_append, Template.unmarked_append_iff_left hline, String.toList_append,
    Template.unmarked_append_iff_right hhead]
  unfold SubQuery.definitions queryNames
  rw [← Text.join_eq_intercalate, Template.unmarked_join_iff (by decide) hcomma,
    List.zipWith_cons_cons, List.forall_mem_cons, unmarked_definitions_iff hparts hnames,
    and_iff_right (hbaseText.2 List.isChain_nil)]

end Suite

namespace Sample

/-- Single braces are left in a query, and stand in a description. -/
def braced : Suite where
  name := "orders"
  domain := none
  owner := none
  source := .ofQuery "SELECT \x7b\x7b v \x7d\x7d\x7d"
  params := Dict.empty.insert "v" (.string "\x7b")
  checks :=
    [{ Check.named "a" with
      description := some "\x7b \x7b one row \x7d \x7d"
      rule := some (.ofDefinition Builtin.rowCount) }]
  tags := .empty
  valid := by decide +kernel

theorem braced_not_marked :
    ∃ sql, (braced.compile .backtick).outcome = .ok sql ∧ ¬ Marked sql := by
  have hcompiles : (braced.compile .backtick).outcome.isOk = true := by decide +kernel
  cases hsql : (braced.compile .backtick).outcome with
  | error e =>
    rw [hsql] at hcompiles
    cases hcompiles
  | ok sql =>
    refine ⟨sql, rfl, (Suite.compile_not_marked_iff braced .backtick sql hsql).2 ?_⟩
    intro c hc d hd
    cases List.mem_singleton.1 hc
    cases hd
    rw [Template.not_marked_iff, ← Template.hasMark_eq_false_iff]
    decide

end Sample
end DataQuality
