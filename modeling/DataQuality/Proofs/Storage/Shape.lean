import DataQuality.Proofs.Outcome
import DataQuality.Proofs.Storage.Tree

/-!
Trees that differ at most in what their files hold. An operation on one of them is refused if and only
if it is refused on the other, and for the same reason; what is written plays no part in it.
-/

namespace DataQuality.Storage

open Outcome (Related)

/-- In both places there is nothing, or a directory, or a file. -/
inductive SameKind : Option Entry → Option Entry → Prop
  | nothing : SameKind none none
  | directory : SameKind (some .directory) (some .directory)
  | file (content content' : Content) : SameKind (some (.file content)) (some (.file content'))

namespace Tree

variable {t t' : Tree}

theorem ne_nil_of_entry? (t : Tree) {r : Route} (h : t.entry? r ≠ some .directory) : r ≠ [] := by
  rintro rfl
  exact h rfl

def SameShape (t t' : Tree) : Prop := ∀ r, SameKind (t.entry? r) (t'.entry? r)

namespace SameShape

theorem refl (t : Tree) : SameShape t t := by
  intro r
  rcases t.entry? r with _ | _ | content
  . exact .nothing
  . exact .directory
  . exact .file content content

theorem cases (h : SameShape t t') (r : Route) :
    (t.entry? r = none ∧ t'.entry? r = none)
      ∨ (t.entry? r = some .directory ∧ t'.entry? r = some .directory)
      ∨ ∃ content content',
          t.entry? r = some (.file content) ∧ t'.entry? r = some (.file content') := by
  have hr := h r
  revert hr
  generalize t.entry? r = e, t'.entry? r = e'
  rintro (_ | _ | ⟨content, content'⟩)
  . exact .inl ⟨rfl, rfl⟩
  . exact .inr (.inl ⟨rfl, rfl⟩)
  . exact .inr (.inr ⟨content, content', rfl, rfl⟩)

theorem insert (h : SameShape t t') {r : Route} (hne : r ≠ []) {e e' : Entry}
    (he : SameKind (some e) (some e')) : SameShape (t.insert r e) (t'.insert r e') := by
  intro other
  rw [entry?_insert hne, entry?_insert hne]
  split
  . exact he
  . exact h other

theorem find_go (h : SameShape t t') (done rest : Route) :
    Related (fun e e' => SameKind (some e) (some e')) (find.go t done rest)
      (find.go t' done rest) := by
  induction rest generalizing done with
  | nil =>
    unfold find.go
    rcases h.cases done with ⟨hdone, hdone'⟩ | ⟨hdone, hdone'⟩ | ⟨_, _, hdone, hdone'⟩
    . rw [hdone, hdone']
      exact .error _
    . rw [hdone, hdone']
      exact .ok .directory
    . rw [hdone, hdone']
      exact .ok (.file _ _)
  | cons name rest ih =>
    unfold find.go
    rcases h.cases done with ⟨hdone, hdone'⟩ | ⟨hdone, hdone'⟩ | ⟨_, _, hdone, hdone'⟩
    . rw [hdone, hdone']
      exact .error _
    . rw [hdone, hdone']
      exact ih (done ++ [name])
    . rw [hdone, hdone']
      exact .error _

theorem makeDirectories_go (h : SameShape t t') (done rest : Route) :
    Related SameShape (makeDirectories.go t done rest) (makeDirectories.go t' done rest) := by
  induction rest generalizing t t' done with
  | nil => exact .ok h
  | cons name rest ih =>
    unfold makeDirectories.go
    dsimp only
    rcases h.cases (done ++ [name]) with ⟨hhere, hhere'⟩ | ⟨hhere, hhere'⟩ | ⟨_, _, hhere, hhere'⟩
    . rw [hhere, hhere']
      exact ih (h.insert (by simp) .directory) _
    . rw [hhere, hhere']
      exact ih h _
    . rw [hhere, hhere']
      exact .error _

theorem makeDirectories (h : SameShape t t') (path : String) :
    Related SameShape (t.makeDirectories path) (t'.makeDirectories path) :=
  h.makeDirectories_go [] (route path)

theorem write (h : SameShape t t') (path : String) (content content' : Content) :
    Related SameShape (t.write path content) (t'.write path content') := by
  unfold Tree.write
  apply (h.find_go [] (route path).dropLast).bind
  intro e e' he
  cases he with
  | file _ _ => exact .error _
  | directory =>
    dsimp only
    have hfile := SameKind.file content content'
    rcases h.cases (route path) with ⟨hfree, hfree'⟩ | ⟨htaken, htaken'⟩ | ⟨_, _, hold, hold'⟩
    . have hne : route path ≠ [] := t.ne_nil_of_entry? (by simp [hfree])
      rw [hfree, hfree']
      exact .ok (h.insert hne hfile)
    . rw [htaken, htaken']
      exact .error _
    . have hne : route path ≠ [] := t.ne_nil_of_entry? (by simp [hold])
      rw [hold, hold']
      exact .ok (h.insert hne hfile)

end SameShape
end Tree

end DataQuality.Storage
