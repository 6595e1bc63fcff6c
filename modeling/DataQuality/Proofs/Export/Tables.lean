import DataQuality.Export.Sqlite
import DataQuality.Proofs.Outcome

/-!
The tables of a database, which are found by their names. `Lists` says which rows a database keeps
under a name; `find?_withTable` and `find?_addRows` say what becomes of each table when one is
created or gets more rows.
-/

namespace DataQuality

def Storage.Table.appendAll (t : Table) (rows : List (List Cell)) : Table := rows.foldl append t

namespace Export

open Outcome (Related)
open Storage (Cell Database Table)

/-- Rows with their numbers in front. -/
def numbered (rows : List (List Cell)) : List (List Cell) :=
  rows.mapIdx fun i row => .int (i + 1) :: row

theorem numbered_append (rows more : List (List Cell)) :
    numbered (rows ++ more)
      =
    numbered rows ++ more.mapIdx fun i row => .int ((i + rows.length : Nat) + 1) :: row :=
  List.mapIdx_append

theorem appendAll_eq (t : Table) (rows : List (List Cell)) :
    t.appendAll rows
      =
    { t with
      rows := t.rows ++ rows.mapIdx fun i row => .int ((i + t.lastId : Nat) + 1) :: row
      lastId := t.lastId + rows.length } := by
  induction rows generalizing t with
  | nil => simp [Table.appendAll]
  | cons row rows ih =>
    have hcons : t.appendAll (row :: rows) = (t.append row).appendAll rows := rfl
    rw [hcons, ih]
    simp [Table.append, List.mapIdx_cons, Nat.add_comm, Nat.add_left_comm, Int.add_assoc,
      Int.add_comm, Int.add_left_comm]

/-- A table that holds the given rows. -/
structure IsFilled (t : Table) (columns : List String) (cells : List (List Cell)) : Prop where
  columns : t.columns = columns
  rows : t.rows = numbered cells
  lastId : t.lastId = cells.length

theorem IsFilled.appendAll {t : Table} {columns : List String} {cells : List (List Cell)}
    (h : IsFilled t columns cells) (more : List (List Cell)) :
    IsFilled (t.appendAll more) columns (cells ++ more) := by
  rw [appendAll_eq]
  constructor
  case columns => exact h.columns
  case rows =>
    rw [numbered_append, ← h.rows, ← h.lastId]
  case lastId =>
    rw [List.length_append, ← h.lastId]

/-- A name that no table can have. -/
def IsReserved (name : String) : Prop :=
  Text.lower name ∈ keywords ∨ "sqlite_".toList <+: Text.lowerChars name.toList

/-- The database with a table of the given name, which is new unless there was one. -/
def withTable (name : String) (columns : List String) (d : Database) : Database :=
  match find? d name with
  | some _ => d
  | none => ⟨d.tables ++ [⟨name, columns, [], 0⟩]⟩

/-- The database with more rows in the tables of the given name. -/
def addRows (name : String) (rows : List (List Cell)) (d : Database) : Database :=
  ⟨d.tables.map fun t => if sameName t.name name then t.appendAll rows else t⟩

theorem sameName_iff {a b : String} : sameName a b = true ↔ Text.lower a = Text.lower b :=
  beq_iff_eq

theorem isReserved_iff {name : String} :
    IsReserved name
      ↔
    keywords.contains (Text.lower name) = true
      ∨ (Text.afterLeading? "sqlite_".toList (Text.lowerChars name.toList)).isSome = true := by
  unfold IsReserved
  rw [List.contains_iff_mem, Option.isSome_iff_exists]
  simp only [Text.afterLeading?_eq_some_iff]
  exact or_congr Iff.rfl ⟨fun ⟨rest, h⟩ => ⟨rest, h.symm⟩, fun ⟨rest, h⟩ => ⟨rest, h.symm⟩⟩

section Tables

variable {d : Database} {name other : String} {columns : List String}

theorem createTable_eq_ok_iff {d' : Database} :
    createTable name columns d = .ok d' ↔ ¬ IsReserved name ∧ d' = withTable name columns d := by
  rw [isReserved_iff, not_or]
  unfold createTable withTable
  split
  . next hkeyword => exact iff_of_false nofun fun h => h.1.1 hkeyword
  . next hkeyword =>
    split
    . next hprefix => exact iff_of_false nofun fun h => h.1.2 hprefix
    . next hprefix =>
      rw [and_iff_right ⟨hkeyword, hprefix⟩]
      cases find? d name <;> simp [pure, Except.pure, eq_comm]

theorem find?_congr (h : sameName name other = true) : find? d name = find? d other := by
  unfold find? sameName
  rw [sameName_iff.1 h]

theorem sameName_of_find? {t : Table} (h : find? d name = some t) :
    sameName t.name name = true := by
  have := List.find?_some h
  exact this

theorem find?_withTable (d : Database) (name : String) (columns : List String) (other : String) :
    find? (withTable name columns d) other
      =
    (find? d other).or (if sameName name other then some ⟨name, columns, [], 0⟩ else none) := by
  unfold withTable
  split
  . next t hfind =>
    split
    . next hsame => rw [← find?_congr hsame, hfind, Option.some_or]
    . rw [Option.or_none]
  . unfold find?
    rw [List.find?_append]
    simp [List.find?_cons]
    split <;> simp_all

theorem find?_addRows (d : Database) (name : String) (rows : List (List Cell)) (other : String) :
    find? (addRows name rows d) other
      =
    (find? d other).map fun t => if sameName t.name name then t.appendAll rows else t := by
  have hname (t : Table) :
      (if sameName t.name name then t.appendAll rows else t).name = t.name := by
    split
    . rw [appendAll_eq]
    . rfl
  unfold find? addRows
  rw [List.find?_map]
  simp only [Function.comp_def, hname]

theorem addRows_cons (name : String) (row : List Cell) (rows : List (List Cell)) (d : Database) :
    addRows name (row :: rows) d = addRows name rows (appendRow name row d) := by
  have htable (t : Table) : (if sameName t.name name then t.appendAll (row :: rows) else t)
      = (fun t : Table => if sameName t.name name then t.appendAll rows else t)
        (if sameName t.name name then t.append row else t) := by
    by_cases h : sameName t.name name = true
    . have hname : sameName (t.append row).name name = true := h
      rw [if_pos h, if_pos h]
      dsimp only
      rw [if_pos hname]
      rfl
    . rw [if_neg h, if_neg h]
      dsimp only
      rw [if_neg h]
  unfold addRows appendRow
  simp only [List.map_map, Function.comp_def, htable]

theorem addRows_nil (name : String) (d : Database) : addRows name [] d = d := by
  have htable (t : Table) : (if sameName t.name name then t.appendAll [] else t) = t := by
    split <;> rfl
  unfold addRows
  simp only [htable, List.map_id']

theorem addRows_singleton (name : String) (row : List Cell) (d : Database) :
    addRows name [row] d = appendRow name row d := by
  rw [addRows_cons, addRows_nil]

theorem find?_appendRow {t : Table} (hfind : find? d name = some t) (row : List Cell) :
    find? (appendRow name row d) name = some (t.append row) := by
  rw [← addRows_singleton, find?_addRows, hfind, Option.map_some,
    if_pos (sameName_of_find? hfind)]
  rfl

theorem target_eq_ok_iff {t : Table} :
    target name columns d = .ok t
      ↔
    find? d name = some t ∧ ∀ column ∈ columns, column ∈ t.columns := by
  have hcolumns (t : Table) : columns.find? (!t.columns.contains ·) = none
      ↔ ∀ column ∈ columns, column ∈ t.columns := by
    simp [List.find?_eq_none]
  unfold target
  cases hfind : find? d name with
  | none => simp [throw, throwThe, MonadExceptOf.throw]
  | some found =>
    rw [Option.some.injEq]
    dsimp only
    split
    . next column hcolumn =>
      constructor
      . rintro ⟨⟩
      . rintro ⟨rfl, h⟩
        rw [(hcolumns _).2 h] at hcolumn
        cases hcolumn
    . next hnone =>
      constructor
      . rintro ⟨⟩
        exact ⟨rfl, (hcolumns _).1 hnone⟩
      . rintro ⟨rfl, _⟩
        rfl

/-- The rows that a database keeps under a name, with the columns of their table. -/
structure Lists (d : Database) (name : String) (columns : List String)
    (rows : List (List Cell)) : Prop where
  table : ∀ t, find? d name = some t → IsFilled t columns rows
  absent : find? d name = none → rows = []

theorem Lists.empty : Lists .empty name columns [] := by
  constructor
  . rintro t ⟨⟩
  . exact fun _ => rfl

variable {rows : List (List Cell)}

theorem Lists.withTable (h : Lists d other columns rows) {columns' : List String}
    (hsame : sameName name other = true → columns' = columns) :
    Lists (withTable name columns' d) other columns rows := by
  constructor
  . intro t
    rw [find?_withTable]
    cases hfind : find? d other with
    | some t' =>
      rintro ⟨⟩
      exact h.table t hfind
    | none =>
      rw [Option.none_or]
      split
      . next hname =>
        rintro ⟨⟩
        rw [h.absent hfind]
        exact ⟨hsame hname, rfl, rfl⟩
      . rintro ⟨⟩
  . intro hnone
    rw [find?_withTable, Option.or_eq_none_iff] at hnone
    exact h.absent hnone.1

theorem Lists.addRows_self (h : Lists d name columns rows) {t : Table}
    (hfind : find? d name = some t) (more : List (List Cell)) :
    Lists (addRows name more d) name columns (rows ++ more) := by
  have hname := sameName_of_find? hfind
  constructor
  . intro t'
    rw [find?_addRows, hfind, Option.map_some, if_pos hname]
    rintro ⟨⟩
    exact (h.table t hfind).appendAll more
  . rw [find?_addRows, hfind]
    rintro ⟨⟩

theorem find?_addRows_of_ne (hne : sameName name other = false) (more : List (List Cell)) :
    find? (addRows name more d) other = find? d other := by
  rw [find?_addRows]
  cases hfind : find? d other with
  | none => rfl
  | some t =>
    have hother := sameName_of_find? hfind
    have hname : ¬ sameName t.name name = true := by
      rw [sameName_iff] at hother ⊢
      rw [← Bool.not_eq_true, sameName_iff] at hne
      exact fun heq => hne (heq.symm.trans hother)
    rw [Option.map_some, if_neg hname]

theorem Lists.addRows_of_ne (h : Lists d other columns rows) (hne : sameName name other = false)
    (more : List (List Cell)) : Lists (addRows name more d) other columns rows := by
  constructor
  . rw [find?_addRows_of_ne hne]
    exact h.table
  . rw [find?_addRows_of_ne hne]
    exact h.absent

/-- The rows under a name; none, if there is no table of that name. -/
def rowsOf (d : Database) (name : String) : List (List Cell) :=
  ((find? d name).map Table.rows).getD []

theorem Lists.rowsOf_eq (h : Lists d name columns rows) : rowsOf d name = numbered rows := by
  unfold rowsOf
  cases hfind : find? d name with
  | none =>
    rw [h.absent hfind]
    rfl
  | some t => exact (h.table t hfind).rows

end Tables

section SameTables

variable {d d' : Database}

/-- The tables of two databases have the same columns, and are as long. -/
def SameTables (d d' : Database) : Prop :=
  ∀ name, (find? d name).map (fun t => (t.columns, t.lastId))
    = (find? d' name).map fun t => (t.columns, t.lastId)

theorem SameTables.refl (d : Database) : SameTables d d := fun _ => rfl

theorem SameTables.cases (h : SameTables d d') (name : String) :
    (find? d name = none ∧ find? d' name = none)
      ∨ ∃ t t', find? d name = some t ∧ find? d' name = some t' ∧ t.columns = t'.columns
          ∧ t.lastId = t'.lastId := by
  have hname := h name
  cases hfind : find? d name with
  | none =>
    rw [hfind, Option.map_none, eq_comm, Option.map_eq_none_iff] at hname
    exact .inl ⟨rfl, hname⟩
  | some t =>
    rw [hfind, Option.map_some, eq_comm, Option.map_eq_some_iff] at hname
    obtain ⟨t', hfind', heq⟩ := hname
    obtain ⟨hcolumns, hlast⟩ := Prod.mk.inj heq
    exact .inr ⟨t, t', rfl, hfind', hcolumns.symm, hlast.symm⟩

theorem SameTables.appendRow (h : SameTables d d') (name : String) (cells cells' : List Cell) :
    SameTables (appendRow name cells d) (appendRow name cells' d') := by
  intro other
  rw [← addRows_singleton, ← addRows_singleton, find?_addRows, find?_addRows]
  rcases h.cases other with ⟨hfind, hfind'⟩ | ⟨t, t', hfind, hfind', hcolumns, hlast⟩
  . rw [hfind, hfind']
    rfl
  . have hname := sameName_iff.1 (sameName_of_find? hfind)
    have hname' := sameName_iff.1 (sameName_of_find? hfind')
    have hsame : sameName t.name name = sameName t'.name name := by
      unfold sameName
      rw [hname, hname']
    rw [hfind, hfind', Option.map_some, Option.map_some, hsame]
    by_cases h' : sameName t'.name name = true
    . simp [h', Table.appendAll, Table.append, hcolumns, hlast]
    . simp [h', hcolumns, hlast]

theorem SameTables.target (h : SameTables d d') (name : String) (columns : List String) :
    Related (fun t t' => t.lastId = t'.lastId) (target name columns d)
      (target name columns d') := by
  unfold Export.target
  rcases h.cases name with ⟨hfind, hfind'⟩ | ⟨t, t', hfind, hfind', hcolumns, hlast⟩
  . rw [hfind, hfind']
    exact .error _
  . rw [hfind, hfind']
    dsimp only
    rw [hcolumns]
    split
    . exact .error _
    . exact .ok hlast

theorem SameTables.withTable (h : SameTables d d') (name : String) (columns : List String) :
    SameTables (withTable name columns d) (withTable name columns d') := by
  intro other
  rw [find?_withTable, find?_withTable]
  rcases h.cases other with ⟨hfind, hfind'⟩ | ⟨t, t', hfind, hfind', hcolumns, hlast⟩
  . rw [hfind, hfind']
  . rw [hfind, hfind']
    simp [hcolumns, hlast]

theorem SameTables.createTable (h : SameTables d d') (name : String) (columns : List String) :
    Related SameTables (createTable name columns d) (createTable name columns d') := by
  unfold Export.createTable
  split
  . exact .error _
  . split
    . exact .error _
    . have hcreated := h.withTable name columns
      unfold Export.withTable at hcreated
      rcases h.cases name with ⟨hfind, hfind'⟩ | ⟨t, t', hfind, hfind', _⟩
      . rw [hfind, hfind'] at hcreated ⊢
        exact .ok hcreated
      . rw [hfind, hfind'] at hcreated ⊢
        exact .ok hcreated

end SameTables

end Export

end DataQuality
