import DataQuality.Proofs.Flatten.Entries
import DataQuality.Proofs.Text.Bytes

/-!
The order in which the leaves of a row are visited. It decides which leaf counts where several have
the same joined path, and a flat row has nothing left to decide. Main statement:
`flatten_settlesConflicts`.
-/

namespace DataQuality

open Json (Value)

/-- The fields of an object come in the order of the bytes of their keys, and the elements of an
array by position. -/
inductive PathStep.Before : PathStep → PathStep → Prop
  | key {k l : String} (h : Text.bytes k < Text.bytes l) : Before (.key k) (.key l)
  | index {i j : Nat} (h : i < j) : Before (.index i) (.index j)

instance : Std.Asymm PathStep.Before where
  asymm := by
    rintro _ _ (h | h) (h' | h')
    . exact List.lt_asymm h h'
    . exact Nat.lt_asymm h h'

namespace LeafPath

/-- The steps from the row itself. -/
def allSteps (p : LeafPath) : List PathStep := .key p.root :: p.steps

/-- Where two paths part, the first takes the earlier step. -/
def Before (p q : LeafPath) : Prop := List.Lex PathStep.Before p.allSteps q.allSteps

theorem Before.asymm {p q : LeafPath} (h : p.Before q) : ¬ q.Before p :=
  (List.Lex.asymm PathStep.Before).asymm _ _ h

end LeafPath

section

variable {α : Type} {xs : List α}

/-- The elements of a container are visited one after the other, each with all that is inside. -/
theorem pairwise_lex_flatMap (step : α → PathStep) (value : α → Value)
    (hxs : xs.Pairwise fun x y => (step x).Before (step y))
    (h : ∀ x ∈ xs, (leavesBelow (value x)).Pairwise fun e e' =>
      List.Lex PathStep.Before e.1 e'.1) :
    (xs.flatMap fun x => (leavesBelow (value x)).map fun e => (step x :: e.1, e.2)).Pairwise
      fun e e' => List.Lex PathStep.Before e.1 e'.1 := by
  rw [List.pairwise_flatMap]
  constructor
  . intro x hx
    rw [List.pairwise_map]
    exact (h x hx).imp List.Lex.cons
  . apply hxs.imp
    intro x y hxy e he e' he'
    obtain ⟨_, _, rfl⟩ := List.mem_map.1 he
    obtain ⟨_, _, rfl⟩ := List.mem_map.1 he'
    exact .rel hxy

end

theorem Dict.Sorted.pairwise_before {fields : Dict Value} (h : fields.Sorted) :
    fields.Pairwise fun e e' => (PathStep.key e.1).Before (.key e'.1) := by
  apply h.imp
  intro e e' hlt
  exact .key (Text.bytes_lt_bytes_iff.2 hlt)

theorem pairwise_lex_leavesBelow {v : Value} (h : v.WellFormed) :
    (leavesBelow v).Pairwise fun e e' => List.Lex PathStep.Before e.1 e'.1 := by
  induction v using Value.elements_induction with
  | simple v hsimple =>
    rw [leavesBelow_simple hsimple]
    exact List.pairwise_singleton _ _
  | array items hne ih =>
    rw [Value.wellFormed_array] at h
    rw [leavesBelow_array hne, itemLeaves_eq_flatMap]
    apply pairwise_lex_flatMap (fun e => .index e.2) Prod.fst
    . have hindices : (items.zipIdx.map Prod.snd).Pairwise (· < ·) := by
        rw [List.zipIdx_map_snd]
        exact List.pairwise_lt_range'
      rw [List.pairwise_map] at hindices
      exact hindices.imp PathStep.Before.index
    . intro e he
      have hmem := List.fst_mem_of_mem_zipIdx he
      exact ih e.1 hmem (h e.1 hmem)
  | object fields hne ih =>
    rw [Value.wellFormed_object] at h
    rw [leavesBelow_object hne, fieldLeaves_eq_flatMap]
    apply pairwise_lex_flatMap (fun e => .key e.1) Prod.snd
    . exact h.1.pairwise_before
    . intro e he
      exact ih e he (h.2 e he)

theorem pairwise_before_leaves {row : Dict Value} (h : (Value.object row).WellFormed) :
    (leaves row).Pairwise fun e e' => e.1.Before e'.1 := by
  have hsteps : (leaves row).map (fun e => (e.1.allSteps, e.2)) = fieldLeaves row := by
    rw [fieldLeaves_eq_flatMap]
    unfold leaves
    simp [List.map_flatMap, Function.comp_def, LeafPath.allSteps]
  have hpairwise : (fieldLeaves row).Pairwise fun e e' => List.Lex PathStep.Before e.1 e'.1 := by
    cases row with
    | nil => exact .nil
    | cons e rest =>
      rw [← leavesBelow_object (List.cons_ne_nil e rest)]
      exact pairwise_lex_leavesBelow h
  rwa [← hsteps, List.pairwise_map] at hpairwise

/-- The leaf at a path is visited after all others that would have the same key. -/
def IsLastOf (row : Dict Value) (key : String) (path : LeafPath) : Prop :=
  path.joined = key ∧ ∀ path' leaf, HasLeaf row path' leaf → path'.joined = key →
    path' = path ∨ path'.Before path

theorem exists_isLastOf_of_find?_flatten {row : Dict Value} (h : (Value.object row).WellFormed)
    {key : String} {leaf : Value} (hfound : (flatten row).find? key = some leaf) :
    ∃ path, HasLeaf row path leaf ∧ IsLastOf row key path := by
  obtain ⟨before, path, after, hleaves, hkey, hafter⟩ := find?_flatten_eq_some_iff_append.1 hfound
  have hordered := pairwise_before_leaves h
  rw [hleaves, List.pairwise_append] at hordered
  refine ⟨path, ?_, hkey, ?_⟩
  . rw [← mem_leaves_iff, hleaves]
    exact List.mem_append_right before List.mem_cons_self
  . intro path' leaf' hleaf' hkey'
    rw [← mem_leaves_iff, hleaves, List.mem_append, List.mem_cons] at hleaf'
    rcases hleaf' with hbefore | heq | hlater
    . exact .inr (hordered.2.2 _ hbefore _ List.mem_cons_self)
    . exact .inl (congrArg Prod.fst heq)
    . exact absurd hkey' (hafter _ hlater)

theorem find?_flatten_eq_none_iff {row : Dict Value} {key : String} :
    (flatten row).find? key = none ↔ ∀ path leaf, HasLeaf row path leaf → path.joined ≠ key := by
  unfold flatten
  rw [Dict.find?_ofEntries_eq_none_iff, List.map_map]
  simp only [List.mem_map, Prod.exists, Function.comp_apply, mem_leaves_iff, not_exists, not_and]

theorem find?_flatten_eq_some_iff_isLastOf {row : Dict Value} (h : (Value.object row).WellFormed)
    {key : String} {leaf : Value} :
    (flatten row).find? key = some leaf
      ↔
    ∃ path, HasLeaf row path leaf ∧ IsLastOf row key path := by
  constructor
  . exact exists_isLastOf_of_find?_flatten h
  . rintro ⟨path, hleaf, hkey, hlast⟩
    cases hfound : (flatten row).find? key with
    | none => exact absurd hkey (find?_flatten_eq_none_iff.1 hfound path leaf hleaf)
    | some found =>
      obtain ⟨path', hleaf', hkey', hlast'⟩ := exists_isLastOf_of_find?_flatten h hfound
      -- Each of the two would be visited after the other.
      have hpath : path' = path := by
        rcases hlast path' found hleaf' hkey' with heq | hbefore
        . exact heq
        . rcases hlast' path leaf hleaf hkey with heq | hbefore'
          . exact heq.symm
          . exact absurd hbefore hbefore'.asymm
      subst hpath
      rw [hleaf'.unique h hleaf]

theorem leaves_of_simple {row : Dict Value} (h : ∀ e ∈ row, e.2.isNonemptyContainer = false) :
    leaves row = row.map fun e => (⟨e.1, []⟩, e.2) := by
  unfold leaves
  induction row with
  | nil => rfl
  | cons e rest ih =>
    obtain ⟨k, v⟩ := e
    rw [List.forall_mem_cons] at h
    rw [List.flatMap_cons, ih h.2]
    dsimp only
    rw [leavesBelow_simple h.1]
    rfl

/-- A flat row with its keys in order is its own flat row. -/
theorem flatten_of_simple {row : Dict Value} (hsorted : row.Sorted)
    (h : ∀ e ∈ row, e.2.isNonemptyContainer = false) : flatten row = row := by
  have hentries : (leaves row).map (fun e => (e.1.joined, e.2)) = row := by
    rw [leaves_of_simple h, List.map_map]
    exact List.map_id row
  change Dict.ofEntries ((leaves row).map fun e => (e.1.joined, e.2)) = row
  rw [hentries, Dict.ofEntries_of_sorted hsorted]

theorem sorted_flatten (row : Dict Value) : (flatten row).Sorted := Dict.sorted_ofEntries _

theorem not_isNonemptyContainer_of_mem_flatten {row : Dict Value} {e : String × Value}
    (h : e ∈ flatten row) : e.2.isNonemptyContainer = false := by
  have hfound := (Dict.find?_eq_some_iff (sorted_flatten row).pairwise_ne).2 h
  exact not_isNonemptyContainer_of_find?_flatten hfound

/-- What flattening makes of a row in which leaves can have the same joined path. -/
structure SettlesConflicts (row : Dict Value) : Prop where
  flat : ∀ e ∈ flatten row, e.2.isNonemptyContainer = false
  mem_keys_iff : ∀ key, key ∈ (flatten row).keys
      ↔
    ∃ path leaf, HasLeaf row path leaf ∧ path.joined = key
  /-- The leaves are visited in order. -/
  ordered : (leaves row).Pairwise fun e e' => e.1.Before e'.1
  last : ∀ key leaf, (flatten row).find? key = some leaf
      ↔
    ∃ path, HasLeaf row path leaf ∧ IsLastOf row key path
  settled : flatten (flatten row) = flatten row

theorem flatten_settlesConflicts (row : Dict Value) (h : (Value.object row).WellFormed) :
    SettlesConflicts row := by
  constructor
  case flat => exact fun e => not_isNonemptyContainer_of_mem_flatten
  case mem_keys_iff =>
    intro key
    rw [Dict.mem_keys_iff, Ne, find?_flatten_eq_none_iff]
    simp only [not_forall, not_not, exists_prop]
  case ordered => exact pairwise_before_leaves h
  case last => exact fun key leaf => find?_flatten_eq_some_iff_isLastOf h
  case settled =>
    exact flatten_of_simple (sorted_flatten row) fun e => not_isNonemptyContainer_of_mem_flatten

namespace Sample

/-- Three leaves with one joined path, inside of and beside a container. -/
def crossed : Dict Value :=
  Dict.ofEntries
    [("a", .object (Dict.ofEntries
      [("b", .object (Dict.ofEntries [("c", .nat 1)])), ("b.c", .array [])])),
     ("a.b", .object (Dict.ofEntries [("c", .string "é")])),
     ("a.b[0]", .null), ("é", .nat 2)]

theorem crossed_settlesConflicts :
    SettlesConflicts crossed
      ∧ flatten crossed = [("a.b.c", .string "é"), ("a.b[0]", .null), ("é", .nat 2)] := by
  have hwellFormed : (Value.object crossed).WellFormed := by
    decide +kernel
  exact ⟨flatten_settlesConflicts crossed hwellFormed, by rfl⟩

end Sample
end DataQuality
