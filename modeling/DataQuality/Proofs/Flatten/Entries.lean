import DataQuality.Proofs.Flatten.Spelling

/-!
The entries of a flat row. A row keeps all of its leaves exactly if their joined paths are
different, which they are if no key holds a joint. Main statement: `flatten_accounts`.
-/

namespace DataQuality

open Json (Value)

section

variable {row : Dict Value} {key : String} {leaf : Value}

theorem mem_entries_flatten :
    (key, leaf) ∈ (leaves row).map (fun (path, leaf) => (path.joined, leaf))
      ↔
    ∃ path, HasLeaf row path leaf ∧ path.joined = key := by
  simp only [List.mem_map, Prod.exists, Prod.mk.injEq, mem_leaves_iff]
  constructor
  . rintro ⟨path, _, hleaf, hkey, rfl⟩
    exact ⟨path, hleaf, hkey⟩
  . rintro ⟨path, hleaf, hkey⟩
    exact ⟨path, leaf, hleaf, hkey, rfl⟩

theorem exists_leaf_of_find?_flatten (h : (flatten row).find? key = some leaf) :
    ∃ path, HasLeaf row path leaf ∧ path.joined = key :=
  mem_entries_flatten.1 (Dict.mem_of_find?_ofEntries h)

theorem not_isNonemptyContainer_of_find?_flatten (h : (flatten row).find? key = some leaf) :
    leaf.isNonemptyContainer = false := by
  obtain ⟨path, hleaf, _⟩ := exists_leaf_of_find?_flatten h
  exact LeafAt.not_isNonemptyContainer hleaf

theorem find?_flatten_eq_some_iff
    (h : ∀ path path' v w, HasLeaf row path v → HasLeaf row path' w → path.joined = key →
      path'.joined = key → v = w) :
    (flatten row).find? key = some leaf ↔ ∃ path, HasLeaf row path leaf ∧ path.joined = key := by
  rw [← mem_entries_flatten]
  apply Dict.find?_ofEntries_eq_some_iff
  intro v w hv hw
  obtain ⟨path, hpath, hkey⟩ := mem_entries_flatten.1 hv
  obtain ⟨path', hpath', hkey'⟩ := mem_entries_flatten.1 hw
  exact h path path' v w hpath hpath' hkey hkey'

/-- A key without joints is taken from the row itself, never from inside of a container. -/
theorem find?_flatten_of_isPlainKey (h : row.Sorted) (hkey : IsPlainKey key) :
    (flatten row).find? key = (row.find? key).filter (!·.isNonemptyContainer) := by
  have hown {path : LeafPath} {v : Value} (hleaf : HasLeaf row path v)
      (hjoined : path.joined = key) :
      row.find? key = some v ∧ v.isNonemptyContainer = false := by
    rw [← hjoined] at hkey
    rw [LeafPath.eq_of_isPlainKey_joined hkey, hjoined, hasLeaf_iff] at hleaf
    obtain ⟨w, hmem, hw⟩ := hleaf
    rw [Dict.find?_eq_some_iff h.pairwise_ne]
    cases hw with
    | here hsimple => exact ⟨hmem, hsimple⟩
  ext leaf
  rw [find?_flatten_eq_some_iff, Option.filter_eq_some_iff, Bool.not_eq_true']
  . constructor
    . rintro ⟨path, hleaf, hjoined⟩
      exact hown hleaf hjoined
    . rintro ⟨hfound, hsimple⟩
      exact ⟨⟨key, []⟩, hasLeaf_iff.2 ⟨leaf, Dict.mem_of_find? hfound, .here hsimple⟩, rfl⟩
  . intro path path' v w hv hw hjoined hjoined'
    have hfound := (hown hv hjoined).1
    rw [(hown hw hjoined').1, Option.some.injEq] at hfound
    exact hfound.symm

/-- Of the leaves with one joined path the last counts. -/
theorem find?_flatten_eq_some_iff_append :
    (flatten row).find? key = some leaf
      ↔
    ∃ before path after, leaves row = before ++ (path, leaf) :: after ∧ path.joined = key
      ∧ ∀ later ∈ after, later.1.joined ≠ key := by
  unfold flatten
  rw [Dict.find?_ofEntries_eq_some_iff_append]
  constructor
  . rintro ⟨before, after, heq, hafter⟩
    obtain ⟨before, rest, hleaves, rfl, hrest⟩ := List.map_eq_append_iff.1 heq
    obtain ⟨⟨path, v⟩, after, rfl, he, rfl⟩ := List.map_eq_cons_iff.1 hrest
    obtain ⟨hkey, rfl⟩ := Prod.mk.inj he
    rw [List.forall_mem_map] at hafter
    exact ⟨before, path, after, hleaves, hkey, hafter⟩
  . rintro ⟨before, path, after, hleaves, rfl, hafter⟩
    refine ⟨_, _, by rw [hleaves, List.map_append, List.map_cons], ?_⟩
    rw [List.forall_mem_map]
    exact hafter

theorem length_flatten (row : Dict Value) :
    (flatten row).length = ((leaves row).map (·.1.joined)).dedup.length := by
  unfold flatten
  rw [Dict.length_ofEntries, List.map_map]
  rfl

end

/-- No two leaves of a row have the same joined path. -/
def SpelledApart (row : Dict Value) : Prop :=
  ∀ path path' leaf leaf', HasLeaf row path leaf → HasLeaf row path' leaf' →
    path.joined = path'.joined → path = path'

/-- There is an entry for each leaf, and every leaf is found under its joined path. -/
structure KeepsLeaves (row : Dict Value) : Prop where
  count : (flatten row).length = (leaves row).length
  found : ∀ path leaf, HasLeaf row path leaf → (flatten row).find? path.joined = some leaf

section

variable {row : Dict Value} (h : (Value.object row).WellFormed)

include h

theorem HasLeaf.unique {path : LeafPath} {leaf leaf' : Value} (hleaf : HasLeaf row path leaf)
    (hleaf' : HasLeaf row path leaf') : leaf = leaf' := by
  have := List.inj_on_of_nodup_map (nodup_paths h) (mem_leaves_iff.2 hleaf)
    (mem_leaves_iff.2 hleaf') rfl
  exact (Prod.mk.inj this).2

theorem length_flatten_eq_iff : (flatten row).length = (leaves row).length ↔ SpelledApart row := by
  have hpaths := nodup_paths h
  have hjoined : (leaves row).map (·.1.joined)
      = ((leaves row).map Prod.fst).map LeafPath.joined := by simp
  have hnodup : ((leaves row).map (·.1.joined)).dedup.length = (leaves row).length
      ↔ ((leaves row).map (·.1.joined)).Nodup := by
    rw [← List.dedup_eq_self]
    constructor
    . intro hlength
      apply (List.dedup_sublist _).eq_of_length
      rw [hlength, List.length_map]
    . intro heq
      rw [heq, List.length_map]
  rw [length_flatten, hnodup, hjoined, List.nodup_map_iff_inj_on hpaths]
  unfold SpelledApart
  simp only [List.mem_map, Prod.exists, exists_and_right, exists_eq_right, forall_exists_index,
    mem_leaves_iff]
  constructor
  . intro hinj path path' leaf leaf' hleaf hleaf' heq
    exact hinj path leaf hleaf path' leaf' hleaf' heq
  . intro hapart path leaf hleaf path' leaf' hleaf' heq
    exact hapart path path' leaf leaf' hleaf hleaf' heq

theorem find?_flatten_of_spelledApart (hapart : SpelledApart row) {path : LeafPath} {leaf : Value}
    (hleaf : HasLeaf row path leaf) : (flatten row).find? path.joined = some leaf := by
  rw [find?_flatten_eq_some_iff]
  . exact ⟨path, hleaf, rfl⟩
  . intro p p' v w hv hw hp hp'
    obtain rfl := hapart p p' v w hv hw (hp.trans hp'.symm)
    exact hv.unique h hw

end

theorem spelledApart_of_hasPlainKeys {row : Dict Value}
    (h : hasPlainKeys (.object row) = true) : SpelledApart row := by
  intro path path' leaf leaf' hleaf hleaf' heq
  exact LeafPath.joined_injective (hleaf.isPlain h) (hleaf'.isPlain h) heq

/-- The account of the leaves of a row when it is flattened. -/
structure AccountsForLeaves (row : Dict Value) : Prop where
  /-- The leaves are listed, each of them once. -/
  mem_iff : ∀ path leaf, (path, leaf) ∈ leaves row ↔ HasLeaf row path leaf
  nodup : ((leaves row).map Prod.fst).Nodup
  flat : ∀ key v, (flatten row).find? key = some v → v.isNonemptyContainer = false
  length : (flatten row).length = ((leaves row).map (·.1.joined)).dedup.length
  last : ∀ key leaf, (flatten row).find? key = some leaf
      ↔
    ∃ before path after, leaves row = before ++ (path, leaf) :: after ∧ path.joined = key
      ∧ ∀ later ∈ after, later.1.joined ≠ key
  keeps_iff : KeepsLeaves row ↔ SpelledApart row
  /-- Leaves with the same joined path differ in a key that holds a joint. -/
  apart : ∀ path path' leaf leaf', HasLeaf row path leaf → HasLeaf row path' leaf' →
    path.joined = path'.joined → path ≠ path' → ¬ (path.IsPlain ∧ path'.IsPlain)
  keeps_plain : hasPlainKeys (.object row) = true → KeepsLeaves row

theorem flatten_accounts (row : Dict Value) (h : (Value.object row).WellFormed) :
    AccountsForLeaves row := by
  have hkeeps : KeepsLeaves row ↔ SpelledApart row := by
    constructor
    . intro hkeeps
      exact (length_flatten_eq_iff h).1 hkeeps.count
    . intro hapart
      exact ⟨(length_flatten_eq_iff h).2 hapart,
        fun path leaf hleaf => find?_flatten_of_spelledApart h hapart hleaf⟩
  constructor
  case mem_iff => exact fun path leaf => mem_leaves_iff
  case nodup => exact nodup_paths h
  case flat => exact fun key v => not_isNonemptyContainer_of_find?_flatten
  case length => exact length_flatten row
  case last => exact fun key leaf => find?_flatten_eq_some_iff_append
  case keeps_iff => exact hkeeps
  case apart =>
    intro path path' leaf leaf' _ _ heq hne ⟨hplain, hplain'⟩
    exact hne (LeafPath.joined_injective hplain hplain' heq)
  case keeps_plain =>
    intro hplain
    exact hkeeps.2 (spelledApart_of_hasPlainKeys hplain)

namespace Sample

def nested : Dict Value :=
  Dict.ofEntries
    [("a", .object (Dict.ofEntries [("b", .nat 1)])),
     ("", .array
      [.nat 10, .object (Dict.ofEntries [("", .null), ("]", .object (Dict.ofEntries []))])])]

theorem wellFormed_nested : (Value.object nested).WellFormed := by
  decide +kernel

theorem nested_accounts :
    AccountsForLeaves nested ∧ KeepsLeaves nested ∧ (flatten nested).length = 4 := by
  have haccount := flatten_accounts nested wellFormed_nested
  exact ⟨haccount, haccount.keeps_plain (by decide), by decide +kernel⟩

/-- A key spelled like the path of a leaf. -/
def dotted : Dict Value :=
  Dict.ofEntries [("a", .object (Dict.ofEntries [("b", .nat 1)])), ("a.b", .nat 2)]

theorem dotted_loses_leaf :
    ¬ ∀ row : Dict Value, (Value.object row).WellFormed → KeepsLeaves row := by
  intro h
  have hwellFormed : (Value.object dotted).WellFormed := by
    decide +kernel
  have hcount := (h dotted hwellFormed).count
  revert hcount
  decide +kernel

end Sample
end DataQuality
