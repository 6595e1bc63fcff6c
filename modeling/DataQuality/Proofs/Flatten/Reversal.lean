import DataQuality.Proofs.Flatten.Entries

/-!
The way back from a flat row. A value is known by its leaves and their places, and where no key
holds a joint the flat row tells these. Main statement: `flatten_injective`.
-/

namespace DataQuality

open Json (Value)

/-- Two values have the same leaves in the same places. -/
def SameLeaves (v w : Value) : Prop := ∀ steps leaf, LeafAt v steps leaf ↔ LeafAt w steps leaf

-- No value is without leaves, so what is absent on one side is absent on the other.
theorem option_eq_of_leaves {v? w? : Option Value}
    (hleaves : ∀ steps leaf, (∃ v, v? = some v ∧ LeafAt v steps leaf)
      ↔ ∃ w, w? = some w ∧ LeafAt w steps leaf)
    (heq : ∀ v w, v? = some v → w? = some w → SameLeaves v w → v = w) : v? = w? := by
  cases v? with
  | none =>
    cases w? with
    | none => rfl
    | some w =>
      obtain ⟨steps, leaf, hleaf⟩ := exists_leafAt w
      obtain ⟨_, hnone, _⟩ := (hleaves steps leaf).2 ⟨w, rfl, hleaf⟩
      cases hnone
  | some v =>
    cases w? with
    | none =>
      obtain ⟨steps, leaf, hleaf⟩ := exists_leafAt v
      obtain ⟨_, hnone, _⟩ := (hleaves steps leaf).1 ⟨v, rfl, hleaf⟩
      cases hnone
    | some w =>
      rw [heq v w rfl rfl]
      intro steps leaf
      simpa using hleaves steps leaf

theorem items_eq_of_leaves {items items' : List Value}
    (hleaves : ∀ i steps leaf, LeafAt (.array items) (.index i :: steps) leaf
      ↔ LeafAt (.array items') (.index i :: steps) leaf)
    (heq : ∀ v w, v ∈ items → w ∈ items' → SameLeaves v w → v = w) : items = items' := by
  apply List.ext_getElem?
  intro i
  apply option_eq_of_leaves
  . intro steps leaf
    rw [← leafAt_index_iff, ← leafAt_index_iff]
    apply hleaves
  . intro v w hv hw
    exact heq v w (List.mem_of_getElem? hv) (List.mem_of_getElem? hw)

theorem fields_eq_of_leaves {fields fields' : Dict Value} (hsorted : fields.Sorted)
    (hsorted' : fields'.Sorted)
    (hleaves : ∀ k steps leaf, LeafAt (.object fields) (.key k :: steps) leaf
      ↔ LeafAt (.object fields') (.key k :: steps) leaf)
    (heq : ∀ k v w, (k, v) ∈ fields → (k, w) ∈ fields' → SameLeaves v w → v = w) :
    fields = fields' := by
  apply Dict.eq_of_find?_eq hsorted hsorted'
  intro k
  have hmem {v : Value} : fields.find? k = some v ↔ (k, v) ∈ fields :=
    Dict.find?_eq_some_iff hsorted.pairwise_ne
  have hmem' {v : Value} : fields'.find? k = some v ↔ (k, v) ∈ fields' :=
    Dict.find?_eq_some_iff hsorted'.pairwise_ne
  apply option_eq_of_leaves
  . intro steps leaf
    simp only [hmem, hmem', ← leafAt_key_iff]
    apply hleaves
  . intro v w hv hw
    exact heq k v w (hmem.1 hv) (hmem'.1 hw)

theorem SameLeaves.eq {v w : Value} (h : SameLeaves v w) (hv : v.WellFormed)
    (hw : w.WellFormed) : v = w := by
  induction v using Value.elements_induction generalizing w with
  | simple v hsimple =>
    cases (h [] v).1 (.here hsimple) with
    | here _ => rfl
  | array items hne ih =>
    obtain ⟨first, rest, hitems⟩ := List.exists_cons_of_ne_nil hne
    obtain ⟨steps, leaf, hleaf⟩ := exists_leafAt first
    cases (h (.index 0 :: steps) leaf).1 (.item (by simp [hitems]) hleaf) with
    | item _ _ =>
      rw [Value.wellFormed_array] at hv hw
      rw [items_eq_of_leaves (fun i steps leaf => h (.index i :: steps) leaf)]
      intro v w hv' hw' hvw
      exact ih v hv' hvw (hv v hv') (hw w hw')
  | object fields hne ih =>
    obtain ⟨first, rest, hfields⟩ := List.exists_cons_of_ne_nil hne
    obtain ⟨steps, leaf, hleaf⟩ := exists_leafAt first.2
    cases (h (.key first.1 :: steps) leaf).1 (.field (by simp [hfields]) hleaf) with
    | field _ _ =>
      rw [Value.wellFormed_object] at hv hw
      rw [fields_eq_of_leaves hv.1 hw.1 (fun k steps leaf => h (.key k :: steps) leaf)]
      intro k v w hv' hw' hvw
      exact ih (k, v) hv' hvw (hv.2 _ hv') (hw.2 _ hw')

/-- With plain keys an entry of a flat row tells where its leaf is. -/
theorem hasLeaf_iff_find?_flatten {row : Dict Value} (h : (Value.object row).WellFormed)
    (hplain : hasPlainKeys (.object row) = true) {path : LeafPath} (hpath : path.IsPlain)
    {leaf : Value} : HasLeaf row path leaf ↔ (flatten row).find? path.joined = some leaf := by
  constructor
  . exact find?_flatten_of_spelledApart h (spelledApart_of_hasPlainKeys hplain)
  . intro hfound
    obtain ⟨path', hleaf, heq⟩ := exists_leaf_of_find?_flatten hfound
    rwa [← LeafPath.joined_injective (hleaf.isPlain hplain) hpath heq]

theorem flatten_injective (row row' : Dict Value) (h : (Value.object row).WellFormed)
    (h' : (Value.object row').WellFormed) (hplain : hasPlainKeys (.object row) = true)
    (hplain' : hasPlainKeys (.object row') = true) (heq : flatten row = flatten row') :
    row = row' := by
  have hleaves (path : LeafPath) (leaf : Value) :
      HasLeaf row path leaf ↔ HasLeaf row' path leaf := by
    constructor
    . intro hleaf
      have hpath := hleaf.isPlain hplain
      rwa [hasLeaf_iff_find?_flatten h' hplain' hpath, ← heq,
        ← hasLeaf_iff_find?_flatten h hplain hpath]
    . intro hleaf
      have hpath := hleaf.isPlain hplain'
      rwa [hasLeaf_iff_find?_flatten h hplain hpath, heq,
        ← hasLeaf_iff_find?_flatten h' hplain' hpath]
  rw [Value.wellFormed_object] at h h'
  apply fields_eq_of_leaves h.1 h'.1
  . exact fun k steps leaf => hleaves ⟨k, steps⟩ leaf
  . intro k v w hv hw hvw
    exact hvw.eq (h.2 _ hv) (h'.2 _ hw)

namespace Sample

/-- The same row as `nested`, put together in another order. -/
def assembled : Dict Value :=
  Dict.ofEntries
    [("", .array
      [.nat 10, .object (Dict.ofEntries [("]", .object (Dict.ofEntries [])), ("", .null)])]),
     ("a", .object (Dict.ofEntries [("b", .nat 1)]))]

theorem assembled_eq_of_flatten : flatten assembled = flatten nested ∧ assembled = nested := by
  have hwellFormed : (Value.object assembled).WellFormed := by
    decide +kernel
  have hflatten : flatten assembled = flatten nested := by rfl
  exact ⟨hflatten, flatten_injective assembled nested hwellFormed wellFormed_nested
    (by decide +kernel) (by decide) hflatten⟩

end Sample
end DataQuality
