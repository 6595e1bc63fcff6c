import DataQuality.Text.Csv

/-!
Comma-separated values read back. However a cell is written, a reader that stands at its start goes
over it and holds its content when the character that ends the cell comes; rows and documents follow
from that. Main statement: `Csv.read?_document`.
-/

namespace DataQuality.Text.Csv

theorem needsQuotes_cons {c : Char} {s : List Char} :
    needsQuotes (c :: s) = false
      ↔
    (c ≠ ',' ∧ c ≠ '"' ∧ c ≠ '\n' ∧ c ≠ '\r') ∧ needsQuotes s = false := by
  simp [needsQuotes, and_assoc]

section

variable {place : Place} {content : List Char} {before : List (List Char)} {rest : List Char}

theorem readFrom_comma (h : place ≠ .quoted) :
    readFrom place content before (',' :: rest)
      =
    readFrom .start [] (before ++ [content]) rest := by
  cases place with
  | quoted => exact absurd rfl h
  | _ => rfl

theorem readFrom_newline (h : place ≠ .quoted) :
    readFrom place content before ('\n' :: rest)
      =
    (readFrom .start [] [] rest).map ((before ++ [content]) :: ·) := by
  cases place with
  | quoted => exact absurd rfl h
  | _ => rfl

theorem readFrom_plain {c : Char} (hc : c ≠ ',' ∧ c ≠ '"' ∧ c ≠ '\n' ∧ c ≠ '\r')
    (hplace : place = .start ∨ place = .bare) :
    readFrom place content before (c :: rest) = readFrom .bare (content ++ [c]) before rest := by
  obtain ⟨hcomma, hquote, hfeed, hreturn⟩ := hc
  rcases hplace with rfl | rfl
  . simp [readFrom, hcomma, hquote, hfeed, hreturn]
  . simp [readFrom, hcomma, hquote, hfeed, hreturn]

theorem readFrom_bare {s : List Char} (h : needsQuotes s = false) :
    readFrom .bare content before (s ++ rest) = readFrom .bare (content ++ s) before rest := by
  induction s generalizing content with
  | nil => rw [List.nil_append, List.append_nil]
  | cons c s ih =>
    rw [needsQuotes_cons] at h
    rw [List.cons_append, readFrom_plain h.1 (.inr rfl), ih h.2, List.append_assoc,
      List.singleton_append]

theorem readFrom_double (s : List Char) :
    readFrom .quoted content before (Quoted.double '"' s ++ '"' :: rest)
      =
    readFrom .closed (content ++ s) before rest := by
  induction s generalizing content with
  | nil => simp [Quoted.double, readFrom]
  | cons c s ih =>
    by_cases hc : c = '"'
    . simp [Quoted.double, readFrom, hc, ih]
    . simp [Quoted.double, readFrom, hc, ih]

theorem readFrom_cell (before : List (List Char)) (s : List Char) :
    ∃ place, place ≠ .quoted
      ∧ ∀ rest, readFrom .start [] before (cell s ++ rest) = readFrom place s before rest := by
  unfold cell
  split
  . refine ⟨.closed, by decide, ?_⟩
    intro rest
    have hwrite : Quoted.write '"' s ++ rest = '"' :: (Quoted.double '"' s ++ '"' :: rest) := by
      simp [Quoted.write]
    rw [hwrite, ← List.nil_append s, ← readFrom_double]
    simp [readFrom]
  . next h =>
    rw [Bool.not_eq_true] at h
    cases s with
    | nil => exact ⟨.start, by decide, fun _ => rfl⟩
    | cons c s =>
      refine ⟨.bare, by decide, ?_⟩
      intro rest
      rw [needsQuotes_cons] at h
      rw [List.cons_append, readFrom_plain h.1 (.inl rfl), readFrom_bare h.2]
      rfl

theorem readFrom_cells {r : List (List Char)} (h : r ≠ []) :
    readFrom .start [] before (cells r ++ '\n' :: rest)
      =
    (readFrom .start [] [] rest).map ((before ++ r) :: ·) := by
  induction r generalizing before with
  | nil => exact absurd rfl h
  | cons s r ih =>
    obtain ⟨place, hplace, hcell⟩ := readFrom_cell before s
    cases r with
    | nil => rw [cells, hcell, readFrom_newline hplace]
    | cons t r =>
      rw [cells, List.append_assoc, hcell, List.cons_append, readFrom_comma hplace,
        ih (List.cons_ne_nil t r), List.append_assoc, List.singleton_append]
      simp

end

theorem cell_eq_nil_iff {s : List Char} : cell s = [] ↔ s = [] := by
  unfold cell
  split
  . next h =>
    have hne : s ≠ [] := by
      rintro rfl
      cases h
    simp [Quoted.write, hne]
  . exact Iff.rfl

theorem cells_eq_nil {r : List (List Char)} (hr : r ≠ []) (h : cells r = []) : r = [[]] := by
  cases r with
  | nil => exact absurd rfl hr
  | cons s r =>
    cases r with
    | nil => rw [cell_eq_nil_iff.1 h]
    | cons t r => simp [cells] at h

theorem readFrom_row {r : List (List Char)} (h : r ≠ []) (rest : List Char) :
    readFrom .start [] [] (row r ++ rest) = (readFrom .start [] [] rest).map (r :: ·) := by
  unfold row
  split
  . next hempty =>
    rw [cells_eq_nil h (List.isEmpty_iff.1 hempty)]
    simp [readFrom]
  . rw [List.append_assoc, List.singleton_append, readFrom_cells h, List.nil_append]

theorem readFrom_rows {rows : List (List (List Char))} (h : ∀ r ∈ rows, r ≠ []) :
    readFrom .start [] [] (rows.flatMap row) = some rows := by
  induction rows with
  | nil => rfl
  | cons r rows ih =>
    rw [List.forall_mem_cons] at h
    rw [List.flatMap_cons, readFrom_row h.1, ih h.2, Option.map_some]

/-- A row without cells has no written form of its own. -/
theorem read?_document {rows : List (List String)} (h : ∀ r ∈ rows, r ≠ []) :
    read? (document rows) = some rows := by
  have hrows : ∀ r ∈ rows.map (List.map String.toList), r ≠ [] := by
    simpa using h
  unfold read? document
  rw [String.toList_ofList, ← List.flatMap_map, readFrom_rows hrows]
  simp [Function.comp_def]

example :
    read? (document [["a,b", ""], ["\"\r\n", "\r"]]) = some [["a,b", ""], ["\"\r\n", "\r"]] := by
  decide

end DataQuality.Text.Csv
