import DataQuality.Log

/-!
The cut of long fields. The search for the place of a cut ends at the start of a text at the latest,
so it finds the last boundary between two characters that a number of bytes reaches. Main statement:
`truncate_longest`.
-/

namespace DataQuality.Log

/-- Every text has a boundary at zero, where the search ends if it has not stopped before. -/
theorem boundary?_eq_posLE (s : String) (index : Nat) :
    boundary? s index = some (s.posLE ⟨index⟩) := by
  induction index with
  | zero =>
    have hvalid : (⟨0⟩ : String.Pos.Raw).IsValid s := s.startPos.isValid
    unfold boundary?
    rw [dif_pos hvalid, Option.some_inj, eq_comm, String.posLE_eq_iff]
    exact ⟨Nat.le_refl _, fun p hp => hp⟩
  | succ below ih =>
    unfold boundary?
    split
    . rw [Option.some_inj, eq_comm, String.posLE_eq_iff]
      exact ⟨Nat.le_refl _, fun p hp => hp⟩
    . next hvalid =>
      dsimp only
      rw [ih, Option.some_inj, eq_comm, String.posLE_eq_iff]
      constructor
      . exact Nat.le_succ_of_le String.offset_posLE_le
      . intro p hp
        rw [String.le_posLE_iff]
        have hne : p.offset.byteIdx ≠ below + 1 := by
          intro heq
          rw [← heq] at hvalid
          exact hvalid p.isValid
        exact Nat.le_of_lt_succ (Nat.lt_of_le_of_ne hp hne)

theorem byteLength_sliceTo {s : String} (cut : s.Pos) :
    Text.byteLength (s.sliceTo cut).copy.toList = cut.offset.byteIdx := by
  rw [Text.byteLength_toList, ← String.byteIdx_rawEndPos, ← cut.splits.offset_eq_rawEndPos]

/-- A place before the end stands before a character, and the next place stands behind it. -/
theorem toList_of_ne_endPos {s : String} {cut : s.Pos} (h : cut ≠ s.endPos) :
    s.toList
      =
    (s.sliceTo cut).copy.toList ++ cut.get h :: (s.sliceFrom (cut.next h)).copy.toList := by
  have hsplit := congrArg String.toList (cut.splits_next_right h).eq_append
  rw [String.toList_append, String.toList_append, String.toList_singleton] at hsplit
  exact hsplit

theorem truncate?_of_long {s : String} {budget : Nat} (hlong : budget < Text.byteLength s.toList) :
    ∃ kept c rest, s.toList = kept ++ c :: rest
      ∧ Text.byteLength kept ≤ budget ∧ budget < Text.byteLength (kept ++ [c])
      ∧ truncate? s budget = some (.ofList kept ++ "...(truncated)") := by
  generalize hcut : s.posLE ⟨budget⟩ = cut
  have hreached : cut.offset.byteIdx ≤ budget := by
    rw [← hcut]
    exact String.offset_posLE_le
  have hend : cut ≠ s.endPos := by
    rintro rfl
    rw [Text.byteLength_toList] at hlong
    exact Nat.lt_irrefl _ (Nat.lt_of_lt_of_le hlong hreached)
  -- No boundary that can be reached lies behind the cut.
  have hnext : budget < (cut.next hend).offset.byteIdx :=
    String.posLE_lt_iff.1 (hcut ▸ cut.lt_next)
  refine ⟨_, cut.get hend, _, toList_of_ne_endPos hend, ?_, ?_, ?_⟩
  . rw [byteLength_sliceTo]
    exact hreached
  . rw [Text.byteLength_append, byteLength_sliceTo]
    simpa using hnext
  . unfold truncate?
    rw [if_neg (Nat.not_le.2 hlong), boundary?_eq_posLE, hcut, String.ofList_toList]
    rfl

theorem truncate?_of_short {s : String} {budget : Nat} (h : Text.byteLength s.toList ≤ budget) :
    truncate? s budget = some s := by
  unfold truncate?
  rw [if_pos h]

/-- Of a text that takes more bytes than it may, the longest run of whole characters is kept. -/
theorem truncate_longest (s : String) (budget : Nat) :
    boundary? s budget = some (s.posLE ⟨budget⟩)
      ∧ truncate? s budget = some (truncate s budget)
      ∧ (Text.byteLength s.toList ≤ budget → truncate s budget = s)
      ∧ (budget < Text.byteLength s.toList →
        ∃ kept c rest, s.toList = kept ++ c :: rest
          ∧ Text.byteLength kept ≤ budget ∧ budget < Text.byteLength (kept ++ [c])
          ∧ truncate s budget = .ofList kept ++ "...(truncated)") := by
  have hof {text : String} (h : truncate? s budget = some text) : truncate s budget = text := by
    unfold truncate
    rw [h]
    rfl
  refine ⟨boundary?_eq_posLE s budget, ?_, ?_, ?_⟩
  . rcases Nat.lt_or_ge budget (Text.byteLength s.toList) with hlong | hshort
    . obtain ⟨kept, c, rest, _, _, _, htext⟩ := truncate?_of_long hlong
      rw [hof htext, htext]
    . rw [hof (truncate?_of_short hshort), truncate?_of_short hshort]
  . intro hshort
    exact hof (truncate?_of_short hshort)
  . intro hlong
    obtain ⟨kept, c, rest, hs, hkept, hnext, htext⟩ := truncate?_of_long hlong
    exact ⟨kept, c, rest, hs, hkept, hnext, hof htext⟩

example : truncate "∞∞∞" 4 = "∞...(truncated)" := by decide +kernel

end DataQuality.Log
