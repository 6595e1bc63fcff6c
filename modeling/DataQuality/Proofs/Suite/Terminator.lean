import DataQuality.Proofs.Suite.Layout
import DataQuality.Proofs.Text.Trim
import DataQuality.Rule.Builtin

/-!
The bodies of the sub-queries of a statement. Each is what trimming leaves of a rendered text, so it
has no white space at its ends. Only one run of semicolons is taken from the end of a text, and a
semicolon that white space keeps apart from this run stays where it is.
-/

namespace DataQuality

open Sql (TableQuote)
open Text (isBlank)

/-- White space keeps the semicolons at the end of a text apart from one before it. -/
def HasSplitTerminator (raw : List Char) : Prop :=
  ∃ before gap run trail, raw = before ++ [';'] ++ gap ++ run ++ trail
    ∧ gap ≠ [] ∧ (∀ c ∈ gap, isBlank c = true)
    ∧ run ≠ [] ∧ (∀ c ∈ run, c = ';')
    ∧ ∀ c ∈ trail, isBlank c = true

/-- What a body has of the text that it is made from. -/
structure BodyOf (raw body : String) : Prop where
  between : ∃ lead tail, raw.toList = lead ++ body.toList ++ tail
    ∧ (∀ c ∈ lead, isBlank c = true) ∧ ∀ c ∈ tail, isBlank c = true ∨ c = ';'
  head_not_blank : ∀ c, body.toList.head? = some c → isBlank c = false
  last_not_blank : ∀ c, body.toList.getLast? = some c → isBlank c = false
  last_eq_semicolon_iff : body.toList.getLast? = some ';' ↔ HasSplitTerminator raw.toList

namespace BareQuery

/-- A trimmed text without the semicolons at its end. -/
def cut (raw : List Char) : List Char := Text.dropWhileEnd (· == ';') (Text.trim raw)

def body (raw : List Char) : List Char := Text.trimEnd (cut raw)

/-- The parts of a text around its body, in the order in which they are taken away. -/
structure Parts (raw lead gap run trail : List Char) : Prop where
  trimmed : raw = lead ++ Text.trim raw ++ trail
  cut_run : Text.trim raw = cut raw ++ run
  body_gap : cut raw = body raw ++ gap
  lead_blank : ∀ c ∈ lead, isBlank c = true
  gap_blank : ∀ c ∈ gap, isBlank c = true
  run_semicolons : ∀ c ∈ run, c = ';'
  trail_blank : ∀ c ∈ trail, isBlank c = true

variable {raw lead gap run trail : List Char}

theorem exists_parts (raw : List Char) : ∃ lead gap run trail, Parts raw lead gap run trail := by
  obtain ⟨trail, htrail, htrailBlank⟩ := Text.exists_dropped isBlank (Text.trimStart raw)
  obtain ⟨run, hrun, hsemicolons⟩ := Text.exists_dropped (· == ';') (Text.trim raw)
  obtain ⟨gap, hgap, hgapBlank⟩ := Text.exists_dropped isBlank (cut raw)
  refine ⟨raw.takeWhile isBlank, gap, run, trail, ?_, hrun, hgap, ?_, hgapBlank, ?_, htrailBlank⟩
  . rw [List.append_assoc]
    calc
      raw = raw.takeWhile isBlank ++ Text.trimStart raw := List.takeWhile_append_dropWhile.symm
      _ = raw.takeWhile isBlank ++ (Text.trim raw ++ trail) := congrArg _ htrail
  . intro c hc
    exact List.mem_takeWhile_imp hc
  . intro c hc
    simpa using hsemicolons c hc

theorem Parts.eq_append (h : Parts raw lead gap run trail) :
    raw = lead ++ body raw ++ gap ++ run ++ trail := by
  have h' := h.trimmed
  rw [h.cut_run, h.body_gap] at h'
  simpa only [List.append_assoc] using h'

theorem head_not_blank {c : Char} (h : (body raw).head? = some c) : isBlank c = false := by
  have hcut : (cut raw).head? = some c := Text.head?_dropWhileEnd h
  have htrim : (Text.trim raw).head? = some c := Text.head?_dropWhileEnd hcut
  have hstart : (Text.trimStart raw).head? = some c := Text.head?_dropWhileEnd htrim
  exact Text.head?_dropWhile hstart

theorem last_not_blank {c : Char} (h : (body raw).getLast? = some c) : isBlank c = false :=
  Text.getLast?_dropWhileEnd h

theorem hasSplitTerminator_of_last (h : (body raw).getLast? = some ';') :
    HasSplitTerminator raw := by
  obtain ⟨before, hbody⟩ := List.getLast?_eq_some_iff.1 h
  obtain ⟨lead, gap, run, trail, parts⟩ := exists_parts raw
  have hgap : gap ≠ [] := by
    rintro rfl
    have hcut : (cut raw).getLast? = some ';' := by
      rw [parts.body_gap, List.append_nil, h]
    have := Text.getLast?_dropWhileEnd hcut
    simp at this
  have hrun : run ≠ [] := by
    rintro rfl
    -- Without a last run the gap would end the trimmed text.
    have hlast : (Text.trim raw).getLast? = some (gap.getLast hgap) := by
      rw [parts.cut_run, parts.body_gap, List.append_nil,
        List.getLast?_append_of_ne_nil _ hgap, List.getLast?_eq_some_getLast hgap]
    have hblank := Text.getLast?_dropWhileEnd hlast
    rw [parts.gap_blank _ (List.getLast_mem hgap)] at hblank
    contradiction
  refine ⟨lead ++ before, gap, run, trail, ?_, hgap, parts.gap_blank, hrun, parts.run_semicolons,
    parts.trail_blank⟩
  have heq := parts.eq_append
  rw [hbody] at heq
  simpa only [List.append_assoc] using heq

theorem trimStart_append_semicolon (before rest : List Char) :
    Text.trimStart (before ++ ';' :: rest) = Text.trimStart before ++ ';' :: rest := by
  have hsemicolon : isBlank ';' = false := by decide
  unfold Text.trimStart
  rw [List.dropWhile_append, List.dropWhile_cons, hsemicolon]
  split
  . next h => rw [List.isEmpty_iff.1 h]; rfl
  . rfl

theorem last_of_hasSplitTerminator (h : HasSplitTerminator raw) :
    (body raw).getLast? = some ';' := by
  obtain ⟨before, gap, run, trail, rfl, hgap, hgapBlank, hrun, hsemicolons, htrail⟩ := h
  have hlastRun : run.getLast? = some ';' := by
    rw [List.getLast?_eq_some_getLast hrun, hsemicolons _ (List.getLast_mem hrun)]
  have htrim : Text.trim (before ++ [';'] ++ gap ++ run ++ trail)
      = Text.trimStart before ++ ';' :: (gap ++ run) := by
    have hstart : Text.trimStart (before ++ [';'] ++ gap ++ run ++ trail)
        = Text.trimStart before ++ ';' :: (gap ++ run) ++ trail := by
      simpa using trimStart_append_semicolon before (gap ++ run ++ trail)
    unfold Text.trim
    rw [hstart]
    apply Text.dropWhileEnd_append _ htrail
    intro c hc
    rw [← List.cons_append, ← List.append_assoc, List.getLast?_append_of_ne_nil _ hrun, hlastRun,
      Option.some.injEq] at hc
    subst hc
    decide
  have hcut : cut (before ++ [';'] ++ gap ++ run ++ trail)
      = Text.trimStart before ++ [';'] ++ gap := by
    have hassoc : Text.trimStart before ++ ';' :: (gap ++ run)
        = Text.trimStart before ++ [';'] ++ gap ++ run := by simp
    unfold cut
    rw [htrim, hassoc]
    apply Text.dropWhileEnd_append
    . intro c hc
      rw [List.getLast?_append_of_ne_nil _ hgap] at hc
      have hblank := hgapBlank c (List.mem_of_getLast? hc)
      rw [beq_eq_false_iff_ne]
      rintro rfl
      revert hblank
      decide
    . intro c hc
      rw [hsemicolons c hc]
      rfl
  have hbody : body (before ++ [';'] ++ gap ++ run ++ trail)
      = Text.trimStart before ++ [';'] := by
    unfold body
    rw [hcut]
    apply Text.dropWhileEnd_append _ hgapBlank
    intro c hc
    rw [List.getLast?_concat, Option.some.injEq] at hc
    subst hc
    decide
  rw [hbody, List.getLast?_concat]

end BareQuery

theorem bodyOf_bareQuery (raw : String) : BodyOf raw (bareQuery raw) := by
  have hbody : (bareQuery raw).toList = BareQuery.body raw.toList := String.toList_ofList
  constructor
  case between =>
    obtain ⟨lead, gap, run, trail, parts⟩ := BareQuery.exists_parts raw.toList
    refine ⟨lead, gap ++ run ++ trail, ?_, parts.lead_blank, ?_⟩
    . have heq := parts.eq_append
      rw [hbody]
      simpa only [List.append_assoc] using heq
    . intro c hc
      rw [List.mem_append, List.mem_append] at hc
      rcases hc with (hc | hc) | hc
      . exact .inl (parts.gap_blank c hc)
      . exact .inr (parts.run_semicolons c hc)
      . exact .inl (parts.trail_blank c hc)
  case head_not_blank =>
    rw [hbody]
    exact fun c => BareQuery.head_not_blank
  case last_not_blank =>
    rw [hbody]
    exact fun c => BareQuery.last_not_blank
  case last_eq_semicolon_iff =>
    rw [hbody]
    exact ⟨BareQuery.hasSplitTerminator_of_last, BareQuery.last_of_hasSplitTerminator⟩

theorem DataSource.fragment_of_query {source : DataSource} (hkind : source.kind = .query)
    {suite : String} {params : Dict Json.Value} {quote : TableQuote} {base : String}
    (h : source.fragment suite params quote = .ok base) :
    ∃ raw, Template.render (suite ++ ".data_source") (source.query.getD "") params = .ok raw
      ∧ BodyOf raw base := by
  unfold fragment at h
  rw [hkind] at h
  obtain ⟨raw, hraw, h⟩ := Outcome.bind_eq_ok_iff.1 h
  have hbase : bareQuery raw = base := Except.ok.inj h
  rw [← hbase]
  exact ⟨raw, hraw, bodyOf_bareQuery raw⟩

theorem Check.subQuery_body {c : Check} {suite : String} {q : SubQuery}
    (h : c.subQuery suite = .ok q) :
    ∃ rule raw, c.rule = some rule ∧ rule.render (c.identified suite) = .ok raw
      ∧ BodyOf raw q.query := by
  have hfragment := (subQuery_eq_ok_iff.1 h).1
  unfold fragment at hfragment
  split at hfragment
  . cases hfragment
  . next rule hrule =>
    obtain ⟨raw, hraw, hfragment⟩ := Outcome.bind_eq_ok_iff.1 hfragment
    have hquery : bareQuery raw = q.query := Except.ok.inj hfragment
    rw [← hquery]
    exact ⟨rule, raw, hrule, hraw, bodyOf_bareQuery raw⟩

theorem Suite.compile_bodies (s : Suite) (quote : TableQuote) (sql : String)
    (h : (s.compile quote).outcome = .ok sql) :
    ∃ base parts, sql = s.laidOut base parts
      ∧ (s.source.kind = .query →
        ∃ raw, Template.render (s.name ++ ".data_source") (s.source.query.getD "") s.params
            = .ok raw
          ∧ BodyOf raw base)
      ∧ List.Forall₂
        (fun c q => ∃ rule raw, c.rule = some rule ∧ rule.render (c.identified s.name) = .ok raw
          ∧ BodyOf raw q.query)
        s.checks parts := by
  obtain ⟨_, base, parts, hbase, hparts, rfl⟩ := compile_eq_ok_iff.1 h
  refine ⟨base, parts, rfl, ?_, ?_⟩
  . intro hkind
    exact DataSource.fragment_of_query hkind hbase
  . apply hparts.imp
    intro c q hq
    exact Check.subQuery_body hq

namespace Sample

def terminated : Suite where
  name := "orders"
  domain := none
  owner := none
  source := .ofQuery "SELECT 1; ;"
  params := .empty
  checks := [{ Check.named "a" with rule := some (.ofDefinition Builtin.rowCount) }]
  tags := .empty
  valid := by decide +kernel

theorem fragment_terminated :
    terminated.source.fragment terminated.name terminated.params .backtick
      =
    .ok "SELECT 1;" := by
  decide +kernel

theorem exists_terminated : ∃ sql, (terminated.compile .backtick).outcome = .ok sql := by
  have hcompiles : (terminated.compile .backtick).outcome.isOk = true := by decide +kernel
  cases hsql : (terminated.compile .backtick).outcome with
  | error e =>
    rw [hsql] at hcompiles
    cases hcompiles
  | ok sql => exact ⟨sql, rfl⟩

theorem terminated_bodies :
    ∃ sql base parts, (terminated.compile .backtick).outcome = .ok sql
      ∧ sql = terminated.laidOut base parts ∧ BodyOf "SELECT 1; ;" base := by
  have ⟨sql, hsql⟩ := exists_terminated
  obtain ⟨base, parts, hlaidOut, hbase, _⟩ := Suite.compile_bodies terminated .backtick sql hsql
  have ⟨raw, hraw, hbody⟩ := hbase rfl
  have hrender : Template.render (terminated.name ++ ".data_source")
      (terminated.source.query.getD "") terminated.params = .ok "SELECT 1; ;" := by
    decide +kernel
  rw [hrender, Except.ok.injEq] at hraw
  subst hraw
  exact ⟨sql, base, parts, hsql, hlaidOut, hbody⟩

theorem terminated_keeps_semicolon :
    ¬ ∀ (s : Suite) (quote : TableQuote) (sql base : String) (parts : List SubQuery),
      (s.compile quote).outcome = .ok sql → sql = s.laidOut base parts →
      s.source.kind = .query → s.source.fragment s.name s.params quote = .ok base →
      base.toList.getLast? ≠ some ';' := by
  intro h
  have ⟨sql, hsql⟩ := exists_terminated
  obtain ⟨_, base, parts, hbase, _, hlaidOut⟩ := Suite.compile_eq_ok_iff.1 hsql
  have hlast := h terminated .backtick sql base parts hsql hlaidOut rfl hbase
  rw [fragment_terminated, Except.ok.injEq] at hbase
  subst hbase
  exact hlast (by decide)

end Sample
end DataQuality
