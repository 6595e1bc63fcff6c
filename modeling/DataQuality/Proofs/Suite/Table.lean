import DataQuality.Proofs.Sql.Table
import DataQuality.Proofs.Suite.Layout
import DataQuality.Proofs.Suite.Naming
import DataQuality.Rule.Builtin

/-!
Suites that take their rows from a table. The reference is checked after its parameters have been
filled in, and against the character that it is then quoted with. Main statement:
`Suite.compile_table`.
-/

namespace DataQuality

open Json (Value)
open Sql (IsSafeTable TableFault TableQuote)

/-- A query for the rows of a table. -/
structure SelectsTable (quote : TableQuote) (table base : String) : Prop where
  safe : IsSafeTable quote table
  bare : quote.char? = none → base = "SELECT * FROM " ++ table
  quoted : ∀ c, quote.char? = some c →
    base = "SELECT * FROM " ++ c.toString ++ table ++ c.toString
  -- The quote character stands at the two ends of the reference and nowhere else.
  quotes : ∀ c, quote.char? = some c → ∀ before after, base.toList = before ++ c :: after
      ↔
    (before = "SELECT * FROM ".toList ∧ after = table.toList ++ [c])
      ∨ (before = "SELECT * FROM ".toList ++ c :: table.toList ∧ after = [])

theorem selectsTable_wrap {quote : TableQuote} {table : String} (h : IsSafeTable quote table) :
    SelectsTable quote table ("SELECT * FROM " ++ quote.wrap table) := by
  constructor
  case safe => exact h
  case bare =>
    intro hquote
    rw [TableQuote.wrap_of_bare hquote]
  case quoted =>
    intro c hquote
    rw [← String.toList_inj, String.toList_append, TableQuote.toList_wrap hquote]
    simp
  case quotes =>
    intro c hquote before after
    have hlead : c ∉ "SELECT * FROM ".toList := by
      cases quote with
      | backtick => cases hquote; decide
      | doubleQuote => cases hquote; decide
      | bare => cases hquote
    rw [String.toList_append]
    exact TableQuote.append_wrap_eq_iff hquote hlead (h.noQuote c hquote)

namespace DataSource

section

variable {source : DataSource} (hkind : source.kind = .table) {suite : String}
  {params : Dict Value} {quote : TableQuote}

include hkind

theorem fragment_of_table :
    source.fragment suite params quote
      =
    (Template.render (suite ++ ".data_source") (Text.stripped (source.table.getD "")) params
      >>= fun table =>
        match Sql.tableFault? table quote.char? with
        | some fault => .error (.invalidSuite suite ("Security error: " ++ fault.message))
        | none => .ok ("SELECT * FROM " ++ quote.wrap table)) := by
  unfold fragment
  rw [hkind]
  dsimp only
  congr 1
  funext table
  unfold Sql.checkTable
  cases Sql.tableFault? table quote.char? with
  | none => rfl
  | some fault => rfl

theorem fragment_of_table_eq_ok_iff {base : String} :
    source.fragment suite params quote = .ok base
      ↔
    ∃ table, Template.render (suite ++ ".data_source") (Text.stripped (source.table.getD "")) params
        = .ok table
      ∧ IsSafeTable quote table ∧ base = "SELECT * FROM " ++ quote.wrap table := by
  rw [fragment_of_table hkind, Outcome.bind_eq_ok_iff]
  apply exists_congr
  intro table
  rw [and_congr_right_iff, ← Sql.tableFault?_eq_none_iff]
  intro _
  cases Sql.tableFault? table quote.char? with
  | none => simp [eq_comm]
  | some fault => simp

theorem fragment_of_unsafe {table : String}
    (htable :
      Template.render (suite ++ ".data_source") (Text.stripped (source.table.getD "")) params
        = .ok table)
    (h : ¬ IsSafeTable quote table) :
    ∃ fault : TableFault, fault.Affects quote table
      ∧ source.fragment suite params quote
        = .error (.invalidSuite suite ("Security error: " ++ fault.message)) := by
  rw [← Sql.tableFault?_eq_none_iff] at h
  obtain ⟨fault, hfault⟩ := Option.ne_none_iff_exists'.1 h
  refine ⟨fault, Sql.affects_of_tableFault? hfault, ?_⟩
  rw [fragment_of_table hkind, htable]
  change (match Sql.tableFault? table quote.char? with
    | some fault => _
    | none => _) = _
  rw [hfault]

end

end DataSource

namespace Suite

/-- What becomes of a suite whose reference to a table was rendered with some outcome. -/
structure CompilesTable (s : Suite) (quote : TableQuote) (rendered : Except Error String) :
    Prop where
  ok : ∀ sql, (s.compile quote).outcome = .ok sql →
    ∃ table base parts, rendered = .ok table ∧ SelectsTable quote table base
      ∧ s.source.fragment s.name s.params quote = .ok base ∧ sql = s.laidOut base parts
  refused : ∀ table, rendered = .ok table → ¬ IsSafeTable quote table →
    ∃ message, (s.compile quote).outcome = .error (.invalidSuite s.name message)
      ∧ (s.checks ≠ [] →
        ∃ fault : TableFault, fault.Affects quote table
          ∧ message = "Security error: " ++ fault.message)
  accepted : ∀ table, rendered = .ok table → IsSafeTable quote table → s.checks ≠ [] →
    (∀ c ∈ s.checks, ∃ q, c.subQuery s.name = .ok q) →
    ∃ sql, (s.compile quote).outcome = .ok sql

theorem exists_table (s : Suite) (hkind : s.source.kind = .table) :
    ∃ text, s.source.table = some text := by
  have hsource := s.wellFormed.source
  unfold DataSource.Consistent at hsource
  rw [hkind] at hsource
  obtain ⟨⟨text, htext, _⟩, _⟩ := hsource
  exact ⟨text, htext⟩

theorem compile_table (s : Suite) (quote : TableQuote) (hkind : s.source.kind = .table) :
    ∃ text, s.source.table = some text
      ∧ s.CompilesTable quote
        (Template.render (s.name ++ ".data_source") (Text.stripped text) s.params) := by
  obtain ⟨text, htext⟩ := s.exists_table hkind
  have hgetD : s.source.table.getD "" = text := by
    rw [htext]
    rfl
  refine ⟨text, htext, ?_⟩
  rw [← hgetD]
  constructor
  case ok =>
    intro sql hsql
    obtain ⟨_, base, parts, hbase, _, hlaidOut⟩ := compile_eq_ok_iff.1 hsql
    obtain ⟨table, htable, hsafe, rfl⟩ := (DataSource.fragment_of_table_eq_ok_iff hkind).1 hbase
    exact ⟨table, _, parts, htable, selectsTable_wrap hsafe, hbase, hlaidOut⟩
  case refused =>
    intro table htable hunsafe
    by_cases hchecks : s.checks = []
    . refine ⟨"suite has no checks", ?_, fun h => absurd hchecks h⟩
      rw [compile_eq_error_iff]
      exact .inl ⟨hchecks, rfl⟩
    . obtain ⟨fault, hfault, hfragment⟩ := DataSource.fragment_of_unsafe hkind htable hunsafe
      refine ⟨"Security error: " ++ fault.message, ?_, fun _ => ⟨fault, hfault, rfl⟩⟩
      rw [compile_eq_error_iff]
      exact .inr (.inl ⟨hchecks, hfragment⟩)
  case accepted =>
    intro table htable hsafe hchecks hparts
    have hbase := (DataSource.fragment_of_table_eq_ok_iff hkind).2 ⟨table, htable, hsafe, rfl⟩
    cases hsql : (s.compile quote).outcome with
    | ok sql => exact ⟨sql, rfl⟩
    | error e =>
      -- Neither the base nor a check can be what the compilation fails at.
      rw [compile_eq_error_iff] at hsql
      rcases hsql with ⟨hnone, _⟩ | ⟨_, hfragment⟩ | ⟨_, before, c, after, _, heq, _, hpart⟩
      . exact absurd hnone hchecks
      . rw [hbase] at hfragment
        cases hfragment
      . have hc : c ∈ s.checks := by
          rw [heq]
          exact List.mem_append_right before List.mem_cons_self
        obtain ⟨q, hq⟩ := hparts c hc
        rw [hq] at hpart
        cases hpart

end Suite

namespace Sample

/-- A reference that holds the quote character of one style, by way of a parameter. -/
def parameterized : Suite where
  name := "orders"
  domain := none
  owner := none
  source := .ofTable " shop.\x7b\x7b t \x7d\x7d\n"
  params := Dict.ofEntries [("t", .string "o\x60r")]
  checks := [{ Check.named "a" with rule := some (.ofDefinition Builtin.rowCount) }]
  tags := .empty
  valid := by decide +kernel

theorem parameterized_quoted :
    (∃ sql parts, (parameterized.compile .doubleQuote).outcome = .ok sql
      ∧ sql = parameterized.laidOut "SELECT * FROM \"shop.o\x60r\"" parts)
    ∧ ∃ message, (parameterized.compile .backtick).outcome
        = .error (.invalidSuite "orders" message) := by
  have hrender : Template.render (parameterized.name ++ ".data_source")
      (Text.stripped " shop.\x7b\x7b t \x7d\x7d\n") parameterized.params = .ok "shop.o\x60r" := by
    decide +kernel
  constructor
  . obtain ⟨text, htext, hcompiles⟩ := Suite.compile_table parameterized .doubleQuote rfl
    cases htext
    have hisOk : (parameterized.compile .doubleQuote).outcome.isOk = true := by decide +kernel
    obtain ⟨sql, hsql⟩ := Outcome.exists_of_isOk hisOk
    obtain ⟨table, base, parts, htable, hselects, _, hlaidOut⟩ := hcompiles.ok sql hsql
    rw [hrender, Except.ok.injEq] at htable
    subst htable
    refine ⟨sql, parts, hsql, ?_⟩
    rw [hlaidOut, hselects.quoted '"' rfl]
    congr 1
  . obtain ⟨text, htext, hcompiles⟩ := Suite.compile_table parameterized .backtick rfl
    cases htext
    have hunsafe : ¬ IsSafeTable .backtick "shop.o\x60r" := by
      intro h
      exact h.noQuote '\x60' rfl (by decide)
    obtain ⟨message, hmessage, _⟩ := hcompiles.refused _ hrender hunsafe
    exact ⟨message, hmessage⟩

end Sample
end DataQuality
