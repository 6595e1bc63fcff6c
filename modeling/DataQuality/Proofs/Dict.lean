import Mathlib.Data.List.Dedup
import DataQuality.Dict

/-!
Look-up of keys that a dictionary does not bind, dictionaries that are known by what look-up finds
in them, and dictionaries made of entries whose keys may repeat.
-/

namespace DataQuality
namespace Dict

variable {α : Type}

theorem find?_eq_none_iff {key : String} {d : Dict α} :
    d.find? key = none ↔ ∀ e ∈ d, e.1 ≠ key := by
  induction d with
  | nil => simp [find?]
  | cons e rest ih =>
    unfold find?
    split
    . next h => simp [h]
    . next h => simp [h, ih]

theorem mem_keys_iff {key : String} {d : Dict α} : key ∈ d.keys ↔ d.find? key ≠ none := by
  rw [Ne, find?_eq_none_iff]
  unfold keys
  simp

theorem find?_overlay_of_absent {key : String} {e : Dict α} (h : e.find? key = none) (d : Dict α) :
    (d.overlay e).find? key = d.find? key := by
  have hreverse : find? key e.reverse = none := by
    rw [find?_eq_none_iff] at h ⊢
    intro entry hentry
    exact h entry (List.mem_reverse.1 hentry)
  unfold overlay
  rw [find?_insertAll, hreverse, Option.none_or]

theorem find?_insert_of_ne {key k : String} (h : k ≠ key) (v : α) (d : Dict α) :
    (d.insert k v).find? key = d.find? key := by
  rw [find?_insert, if_neg h]

theorem find?_erase_self (key : String) (d : Dict α) : (d.erase key).find? key = none := by
  rw [find?_erase, if_pos rfl]

theorem find?_eq_some_iff {key : String} {v : α} {d : Dict α}
    (h : d.Pairwise fun e e' => e.1 ≠ e'.1) : d.find? key = some v ↔ (key, v) ∈ d := by
  induction d with
  | nil => simp [find?]
  | cons e rest ih =>
    obtain ⟨k, w⟩ := e
    rw [List.pairwise_cons] at h
    unfold find?
    split
    . next hk =>
      subst hk
      -- The key does not occur again in the rest.
      have hrest : (k, v) ∉ rest := fun hmem => h.1 _ hmem rfl
      simp [hrest, eq_comm]
    . next hk =>
      rw [ih h.2]
      simp [Ne.symm hk]

theorem Sorted.pairwise_ne {d : Dict α} (h : Sorted d) : d.Pairwise fun e e' => e.1 ≠ e'.1 := by
  apply h.imp
  intro e e' hlt heq
  exact String.lt_irrefl e'.1 (heq ▸ hlt)

theorem find?_reverse {d : Dict α} (h : Sorted d) (key : String) :
    find? key d.reverse = d.find? key := by
  have hreverse : d.reverse.Pairwise fun e e' => e.1 ≠ e'.1 := by
    rw [List.pairwise_reverse]
    exact h.pairwise_ne.imp Ne.symm
  ext v
  rw [find?_eq_some_iff hreverse, find?_eq_some_iff h.pairwise_ne, List.mem_reverse]

theorem find?_overlay {e : Dict α} (h : Sorted e) (key : String) (d : Dict α) :
    (d.overlay e).find? key = (e.find? key).or (d.find? key) := by
  unfold overlay
  rw [find?_insertAll, find?_reverse h]

theorem Sorted.nodup_keys {d : Dict α} (h : Sorted d) : d.keys.Nodup := by
  unfold keys
  rw [List.Nodup, List.pairwise_map]
  exact h.pairwise_ne

theorem Sorted.nodup {d : Dict α} (h : Sorted d) : d.Nodup := h.nodup_keys.of_map

theorem Sorted.eq_of_perm {d e : Dict α} (hd : Sorted d) (he : Sorted e) (h : d.Perm e) :
    d = e := by
  apply h.eq_of_pairwise _ hd he
  intro entry entry' _ _ hlt hgt
  exact absurd (String.lt_trans hlt hgt) (String.lt_irrefl _)

theorem eq_of_find?_eq {d e : Dict α} (hd : Sorted d) (he : Sorted e)
    (h : ∀ key, d.find? key = e.find? key) : d = e := by
  have hmem (entry : String × α) : entry ∈ d ↔ entry ∈ e := by
    rw [← find?_eq_some_iff hd.pairwise_ne, h, find?_eq_some_iff he.pairwise_ne]
  exact hd.eq_of_perm he ((List.perm_ext_iff_of_nodup hd.nodup he.nodup).2 hmem)

theorem insert_perm {key : String} {d : Dict α} (h : key ∉ d.keys) (v : α) :
    (d.insert key v).Perm ((key, v) :: d) := by
  induction d with
  | nil => exact .refl _
  | cons e rest ih =>
    obtain ⟨k, w⟩ := e
    unfold keys at h
    rw [List.map_cons, List.mem_cons, not_or] at h
    unfold insert
    rw [if_neg (Ne.symm h.1)]
    split
    . exact .refl _
    . exact ((ih h.2).cons (k, w)).trans (.swap _ _ _)

theorem insertAll_perm {entries : List (String × α)} {d : Dict α}
    (h : (entries ++ d).map Prod.fst |>.Nodup) : (d.insertAll entries).Perm (entries ++ d) := by
  induction entries generalizing d with
  | nil => exact .refl _
  | cons e rest ih =>
    have hmiddle : (rest ++ e :: d).Perm (e :: rest ++ d) := List.perm_middle
    have hkey : e.1 ∉ d.keys := by
      rw [List.cons_append, List.map_cons, List.nodup_cons, List.map_append, List.mem_append,
        not_or] at h
      exact h.1.2
    have hinsert : (rest ++ d.insert e.1 e.2).Perm (e :: rest ++ d) :=
      ((insert_perm hkey e.2).append_left rest).trans hmiddle
    exact (ih ((hinsert.map Prod.fst).nodup_iff.2 h)).trans hinsert

theorem find?_eq_some_iff_of_perm {d : Dict α} (hd : Sorted d) {entries : List (String × α)}
    (h : d.Perm entries) {key : String} {v : α} :
    d.find? key = some v ↔ (key, v) ∈ entries := by
  rw [find?_eq_some_iff hd.pairwise_ne, h.mem_iff]

theorem find?_filter {d : Dict α} (h : Sorted d) (p : String × α → Bool) (key : String) :
    find? key (d.filter p) = (d.find? key).filter fun v => p (key, v) := by
  ext v
  rw [find?_eq_some_iff (h.pairwise_ne.filter p), List.mem_filter, Option.filter_eq_some_iff,
    find?_eq_some_iff h.pairwise_ne]

theorem find?_eq_some_iff_append {key : String} {v : α} {d : Dict α} :
    d.find? key = some v
      ↔
    ∃ before after, d = before ++ (key, v) :: after ∧ ∀ e ∈ before, e.1 ≠ key := by
  induction d with
  | nil => simp [find?]
  | cons e rest ih =>
    obtain ⟨k, w⟩ := e
    unfold find?
    split
    . next hk =>
      subst hk
      constructor
      . intro h
        exact ⟨[], rest, by rw [Option.some.inj h]; rfl, by simp⟩
      . rintro ⟨before, after, heq, hbefore⟩
        cases before with
        | nil => rw [(Prod.mk.inj (List.cons.inj heq).1).2]
        | cons e before =>
          rw [List.forall_mem_cons] at hbefore
          exact absurd (congrArg Prod.fst (List.cons.inj heq).1).symm hbefore.1
    . next hk =>
      rw [ih]
      constructor
      . rintro ⟨before, after, rfl, hbefore⟩
        refine ⟨(k, w) :: before, after, rfl, ?_⟩
        rw [List.forall_mem_cons]
        exact ⟨hk, hbefore⟩
      . rintro ⟨before, after, heq, hbefore⟩
        cases before with
        | nil => exact absurd (congrArg Prod.fst (List.cons.inj heq).1) hk
        | cons e before =>
          rw [List.forall_mem_cons] at hbefore
          exact ⟨before, after, (List.cons.inj heq).2, hbefore.2⟩

theorem mem_of_find? {key : String} {v : α} {d : Dict α} (h : d.find? key = some v) :
    (key, v) ∈ d := by
  obtain ⟨before, after, rfl, _⟩ := find?_eq_some_iff_append.1 h
  exact List.mem_append_right before List.mem_cons_self

/-- Of the entries for a key the last counts. -/
theorem find?_ofEntries_eq_some_iff_append {key : String} {v : α} {entries : List (String × α)} :
    (ofEntries entries).find? key = some v
      ↔
    ∃ before after, entries = before ++ (key, v) :: after ∧ ∀ e ∈ after, e.1 ≠ key := by
  unfold ofEntries
  rw [find?_insertAll, find?_empty, Option.or_none, find?_eq_some_iff_append]
  constructor
  . rintro ⟨after, before, heq, hafter⟩
    refine ⟨before.reverse, after.reverse, ?_, ?_⟩
    . rw [← List.reverse_reverse entries, heq]
      simp
    . intro e he
      exact hafter e (List.mem_reverse.1 he)
  . rintro ⟨before, after, rfl, hafter⟩
    refine ⟨after.reverse, before.reverse, by simp, ?_⟩
    intro e he
    exact hafter e (List.mem_reverse.1 he)

theorem mem_of_find?_ofEntries {key : String} {v : α} {entries : List (String × α)}
    (h : (ofEntries entries).find? key = some v) : (key, v) ∈ entries := by
  obtain ⟨before, after, rfl, _⟩ := find?_ofEntries_eq_some_iff_append.1 h
  exact List.mem_append_right before List.mem_cons_self

theorem find?_ofEntries_eq_none_iff {key : String} {entries : List (String × α)} :
    (ofEntries entries).find? key = none ↔ key ∉ entries.map Prod.fst := by
  unfold ofEntries
  rw [find?_insertAll, find?_empty, Option.or_none, find?_eq_none_iff]
  simp only [List.mem_reverse, List.mem_map, not_exists, not_and]

/-- Where the entries for a key agree, it does not matter which of them counts. -/
theorem find?_ofEntries_eq_some_iff {key : String} {v : α} {entries : List (String × α)}
    (h : ∀ v w, (key, v) ∈ entries → (key, w) ∈ entries → v = w) :
    (ofEntries entries).find? key = some v ↔ (key, v) ∈ entries := by
  constructor
  . exact mem_of_find?_ofEntries
  . intro hmem
    cases hfound : (ofEntries entries).find? key with
    | none =>
      rw [find?_ofEntries_eq_none_iff] at hfound
      exact absurd (List.mem_map_of_mem hmem) hfound
    | some w => rw [h v w hmem (mem_of_find?_ofEntries hfound)]

theorem ofEntries_of_sorted {d : Dict α} (h : Sorted d) : ofEntries d = d := by
  apply eq_of_find?_eq (sorted_ofEntries d) h
  intro key
  unfold ofEntries
  rw [find?_insertAll, find?_empty, Option.or_none, find?_reverse h]

theorem length_ofEntries (entries : List (String × α)) :
    (ofEntries entries).length = (entries.map Prod.fst).dedup.length := by
  have hmem (key : String) :
      key ∈ (ofEntries entries).keys ↔ key ∈ (entries.map Prod.fst).dedup := by
    rw [mem_keys_iff, Ne, find?_ofEntries_eq_none_iff, not_not, List.mem_dedup]
  have hperm := (List.perm_ext_iff_of_nodup (sorted_ofEntries entries).nodup_keys
    (List.nodup_dedup _)).2 hmem
  have hkeys : (ofEntries entries).keys.length = (ofEntries entries).length := by
    unfold keys
    rw [List.length_map]
  rw [← hkeys, hperm.length_eq]

end Dict
end DataQuality
