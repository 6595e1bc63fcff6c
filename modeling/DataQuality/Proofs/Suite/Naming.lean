import Mathlib.Data.List.Nodup
import DataQuality.Proofs.Sql.Name
import DataQuality.Proofs.Suite.Layout
import DataQuality.Proofs.Text.Trim

/-!
Names in a suite. A draft is built exactly if it is well formed, and then no two sub-queries of its
statement share a name, even without regard to case. Main statement: `SuiteDraft.build_decides`.
-/

namespace DataQuality

open Sql (IsName TableQuote)

namespace DataSource

/-- The entry of the kind of the source has a character other than white space, and there is no other
entry. -/
def Consistent (s : DataSource) : Prop :=
  match s.kind with
  | .table =>
    (∃ table, s.table = some table ∧ ∃ c ∈ table.toList, Text.isBlank c = false) ∧ s.query = none
  | .query =>
    (∃ query, s.query = some query ∧ ∃ c ∈ query.toList, Text.isBlank c = false) ∧ s.table = none

theorem hasContent_iff {entry : Option String} :
    hasContent entry = true ↔ ∃ s, entry = some s ∧ ∃ c ∈ s.toList, Text.isBlank c = false := by
  unfold hasContent
  simp only [Option.any_eq_true, Text.hasContent_iff]

theorem fault?_eq_none_iff {s : DataSource} : s.fault? = none ↔ s.Consistent := by
  unfold fault? Consistent
  cases s.kind with
  | table =>
    dsimp only
    rw [← hasContent_iff]
    cases hasContent s.table <;> cases s.query <;> simp
  | query =>
    dsimp only
    rw [← hasContent_iff]
    cases hasContent s.query <;> cases s.table <;> simp

end DataSource

namespace SuiteDraft

structure WellFormed (d : SuiteDraft) : Prop where
  name : IsName d.name
  source : d.source.Consistent
  checkNames : ∀ c ∈ d.checks, IsName c.name
  distinct : (d.checks.map fun c => Text.lower c.name).Nodup
  notBase : ∀ c ∈ d.checks, Text.lower c.name ≠ Text.lower d.name ++ "_base"

theorem baseName_eq {name : String} (h : IsName name) :
    baseName name = Text.lower name ++ "_base" := by
  unfold baseName
  rw [Text.lower_append h.isAscii (Text.isAscii_of_all (by decide))]
  congr 1

theorem fault?_eq_none_iff_wellFormed {d : SuiteDraft} : d.fault? = none ↔ d.WellFormed := by
  rw [fault?_eq_none_iff, checkFault?_eq_none_iff, DataSource.fault?_eq_none_iff,
    Sql.nameFault?_eq_none_iff_isName]
  simp only [List.forall_mem_map, Sql.nameFault?_eq_none_iff_isName, List.not_mem_nil,
    not_false_eq_true, and_true, List.map_map]
  constructor
  . intro ⟨hname, hsource, hchecks, hdistinct⟩
    rw [baseName_eq hname] at hchecks
    exact ⟨hname, hsource, fun c hc => (hchecks c hc).1, hdistinct, fun c hc => (hchecks c hc).2⟩
  . intro h
    rw [baseName_eq h.name]
    exact ⟨h.name, h.source, fun c hc => ⟨h.checkNames c hc, h.notBase c hc⟩, h.distinct⟩

theorem build_eq_ok_iff {d : SuiteDraft} {s : Suite} : d.build = .ok s ↔ s.toSuiteDraft = d := by
  unfold build
  split
  . next fault h =>
    simp only [reduceCtorEq, false_iff]
    rintro rfl
    rw [s.valid] at h
    cases h
  . next h =>
    rw [Except.ok.injEq]
    constructor
    . rintro rfl
      rfl
    . rintro rfl
      rfl

theorem build_of_fault {d : SuiteDraft} {fault : SuiteFault} (h : d.fault? = some fault) :
    d.build = .error (.invalidSuite d.name fault.message) := by
  unfold build
  split
  . next fault' h' =>
    rw [h, Option.some.injEq] at h'
    rw [h']
  . next h' =>
    rw [h] at h'
    cases h'

end SuiteDraft

theorem Suite.wellFormed (s : Suite) : s.WellFormed :=
  SuiteDraft.fault?_eq_none_iff_wellFormed.1 s.valid

/-- The name of the sub-query that a statement reads the rows of a suite from. -/
def Suite.baseQuery (s : Suite) : String := "cte_" ++ s.name ++ "_base"

def Check.queryName (c : Check) : String := "cte_" ++ c.name

def Suite.queryNames (s : Suite) : List String := s.baseQuery :: s.checks.map Check.queryName

/-- Definitions of sub-queries, each after its comment. -/
def SubQuery.definitions (names : List String) (queries : List SubQuery) : String :=
  ",\n".intercalate
    (List.zipWith (fun name q => q.comment ++ name ++ " AS (\n" ++ q.query ++ "\n)") names queries)

namespace Suite

theorem intercalate_cons (separator first : String) (rest : List String) :
    separator.intercalate (first :: rest)
      =
    first ++ String.join (rest.map (separator ++ ·)) := by
  induction rest generalizing first with
  | nil => simp
  | cons second rest ih =>
    rw [String.intercalate_cons_cons, ih, List.map_cons, String.join_cons]
    simp only [String.append_assoc]

theorem laidOut_eq_definitions (s : Suite) (base : String) (parts : List SubQuery) :
    s.laidOut base parts
      =
    "-- Base CTE (data source: " ++ s.source.kind.text ++ ")\nWITH "
      ++ SubQuery.definitions s.queryNames (⟨"", base⟩ :: parts)
      ++ "\n" ++ "\nUNION ALL\n".intercalate (s.checks.map fun c => "SELECT * FROM " ++ c.queryName)
      ++ "\n" := by
  have hwith : ")\nWITH " = ")\n" ++ "WITH " := by decide
  have hcte : "WITH cte_" = "WITH " ++ "cte_" := by decide
  have hselect : "SELECT * FROM cte_" = "SELECT * FROM " ++ "cte_" := by decide
  have hopen : "_base AS (\n" = "_base" ++ " AS (\n" := by decide
  have hparts : List.map (",\n" ++ ·) (List.zipWith
        (fun name (q : SubQuery) => q.comment ++ name ++ " AS (\n" ++ q.query ++ "\n)")
        (s.checks.map Check.queryName) parts)
      = List.zipWith (fun c q => ",\n" ++ q.text c.name) s.checks parts := by
    rw [List.map_zipWith, List.zipWith_map_left]
    congr 1
    funext c q
    unfold SubQuery.text Check.queryName
    simp only [String.append_assoc]
  unfold laidOut SubQuery.definitions queryNames baseQuery
  rw [List.zipWith_cons_cons, intercalate_cons, hparts, hwith, hcte, hselect, hopen]
  unfold Check.queryName
  simp only [String.append_assoc, String.empty_append]

theorem exists_definitions {s : Suite} {quote : TableQuote} {sql : String}
    (h : (s.compile quote).outcome = .ok sql) :
    ∃ queries, queries.length = s.queryNames.length
      ∧ sql = "-- Base CTE (data source: " ++ s.source.kind.text ++ ")\nWITH "
        ++ SubQuery.definitions s.queryNames queries
        ++ "\n" ++ "\nUNION ALL\n".intercalate
          (s.checks.map fun c => "SELECT * FROM " ++ c.queryName)
        ++ "\n" := by
  obtain ⟨_, base, parts, _, hparts, rfl⟩ := compile_eq_ok_iff.1 h
  refine ⟨⟨"", base⟩ :: parts, ?_, laidOut_eq_definitions s base parts⟩
  unfold queryNames
  rw [List.length_cons, List.length_cons, List.length_map, hparts.length_eq]

theorem lower_queryName {name : String} (h : Text.IsAscii name.toList) :
    Text.lower ("cte_" ++ name) = "cte_" ++ Text.lower name := by
  rw [Text.lower_append (Text.isAscii_of_all (by decide)) h]
  congr 1

theorem nodup_lower_queryNames (s : Suite) : (s.queryNames.map Text.lower).Nodup := by
  have hchecks : (s.checks.map Check.queryName).map Text.lower
      = (s.checks.map fun c => Text.lower c.name).map ("cte_" ++ ·) := by
    rw [List.map_map, List.map_map, List.map_inj_left]
    intro c hc
    exact lower_queryName (s.wellFormed.checkNames c hc).isAscii
  have hbase : Text.lower s.baseQuery = "cte_" ++ (Text.lower s.name ++ "_base") := by
    have hname := s.wellFormed.name.isAscii
    have hsuffix : Text.IsAscii "_base".toList :=
      Text.isAscii_of_all (by decide)
    have hwhole : Text.IsAscii (s.name ++ "_base").toList := by
      intro c hc
      rw [String.toList_append, List.mem_append] at hc
      exact hc.elim (hname c) (hsuffix c)
    unfold baseQuery
    rw [String.append_assoc, lower_queryName hwhole, Text.lower_append hname hsuffix]
    congr 1
  have hinjective : Function.Injective ("cte_" ++ · : String → String) := by
    intro a b hab
    exact (String.append_right_inj _).1 hab
  unfold queryNames
  rw [List.map_cons, List.nodup_cons, hchecks, hbase]
  constructor
  . rw [List.mem_map_of_injective hinjective, List.mem_map]
    rintro ⟨c, hc, heq⟩
    exact s.wellFormed.notBase c hc heq
  . exact List.Nodup.map hinjective s.wellFormed.distinct

end Suite

namespace SuiteDraft

/-- What building a draft says about it, and what a suite that has been built is like. -/
structure Decides (d : SuiteDraft) : Prop where
  ok_iff : (∃ s, d.build = .ok s) ↔ d.WellFormed
  error : ¬ d.WellFormed → ∃ message, d.build = .error (.invalidSuite d.name message)
  draft : ∀ s, d.build = .ok s → s.toSuiteDraft = d
  defines : ∀ s, d.build = .ok s →
    ∀ quote sql, (s.compile quote).outcome = .ok sql →
      ∃ queries, queries.length = s.queryNames.length
        ∧ sql = "-- Base CTE (data source: " ++ s.source.kind.text ++ ")\nWITH "
          ++ SubQuery.definitions s.queryNames queries
          ++ "\n" ++ "\nUNION ALL\n".intercalate
            (s.checks.map fun c => "SELECT * FROM " ++ c.queryName)
          ++ "\n"
  length_names : ∀ s, d.build = .ok s → s.queryNames.length = d.checks.length + 1
  nodup_names : ∀ s, d.build = .ok s → (s.queryNames.map Text.lower).Nodup
  check? : ∀ s, d.build = .ok s →
    ∀ (i : Nat) (hi : i < d.checks.length), s.check? d.checks[i].name = some d.checks[i]

theorem build_decides (d : SuiteDraft) : d.Decides := by
  constructor
  case ok_iff =>
    rw [← fault?_eq_none_iff_wellFormed]
    constructor
    . rintro ⟨s, hs⟩
      rw [← build_eq_ok_iff.1 hs]
      exact s.valid
    . intro h
      exact ⟨⟨d, h⟩, build_eq_ok_iff.2 rfl⟩
  case error =>
    intro h
    rw [← fault?_eq_none_iff_wellFormed, ← ne_eq, Option.ne_none_iff_exists'] at h
    obtain ⟨fault, hfault⟩ := h
    exact ⟨fault.message, build_of_fault hfault⟩
  case draft => exact fun s hs => build_eq_ok_iff.1 hs
  case defines => exact fun s _ quote sql h => Suite.exists_definitions h
  case length_names =>
    intro s hs
    unfold Suite.queryNames
    rw [List.length_cons, List.length_map, build_eq_ok_iff.1 hs]
  case nodup_names => exact fun s _ => s.nodup_lower_queryNames
  case check? =>
    intro s hs i hi
    rw [Suite.check?_eq_some_iff, build_eq_ok_iff.1 hs]
    exact ⟨List.getElem_mem hi, rfl⟩

end SuiteDraft
end DataQuality
