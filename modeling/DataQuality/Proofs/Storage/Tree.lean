import Mathlib.Data.List.Induction
import DataQuality.Storage.Tree

/-!
Trees of files through their entries. The directories above a path are those on the route of its
parent, so that once they have been made a path is found by its entry alone (`find_of_isRooted`),
and making them leaves what there is in place (`Grows`).
-/

namespace DataQuality.Storage

/-- The names in a path, without those that stand for the directory they are in. -/
def routeNames (s : List Char) : Route :=
  ((Text.pieces ['/'] s).filter fun name => !name.isEmpty && name != ['.']).map String.ofList

theorem pieces_go_append (piece s t : List Char) :
    Text.pieces.go ['/'] piece 0 (s ++ '/' :: t)
      =
    Text.pieces.go ['/'] piece 0 s ++ Text.pieces.go ['/'] [] 0 t := by
  induction s generalizing piece with
  | nil => simp [Text.pieces.go]
  | cons c s ih =>
    by_cases hc : c = '/'
    . simp [Text.pieces.go, hc, ih]
    . simp [Text.pieces.go, Ne.symm hc, ih]

theorem pieces_append (s t : List Char) :
    Text.pieces ['/'] (s ++ '/' :: t) = Text.pieces ['/'] s ++ Text.pieces ['/'] t :=
  pieces_go_append [] s t

theorem pieces_go_of_not_mem {s : List Char} (h : '/' ∉ s) (piece : List Char) :
    Text.pieces.go ['/'] piece 0 s = [piece.reverse ++ s] := by
  induction s generalizing piece with
  | nil => simp [Text.pieces.go]
  | cons c s ih =>
    rw [List.mem_cons, not_or] at h
    simp [Text.pieces.go, h.1, ih h.2]

theorem pieces_of_not_mem {s : List Char} (h : '/' ∉ s) : Text.pieces ['/'] s = [s] :=
  pieces_go_of_not_mem h []

theorem routeNames_append (s t : List Char) :
    routeNames (s ++ '/' :: t) = routeNames s ++ routeNames t := by
  unfold routeNames
  rw [pieces_append, List.filter_append, List.map_append]

theorem routeNames_concat_slash (s : List Char) : routeNames (s ++ ['/']) = routeNames s := by
  rw [routeNames_append]
  exact List.append_nil _

theorem length_routeNames_le {s : List Char} (h : '/' ∉ s) : (routeNames s).length ≤ 1 := by
  unfold routeNames
  rw [pieces_of_not_mem h, List.length_map]
  exact List.length_filter_le _ _

theorem dropSlashes_concat (s : List Char) (c : Char) :
    Text.dropSlashes (s ++ [c]) = if c = '/' then Text.dropSlashes s else s ++ [c] := by
  unfold Text.dropSlashes
  rw [List.reverse_append, List.reverse_singleton, List.singleton_append, List.dropWhile_cons]
  split <;> simp_all

theorem routeNames_dropSlashes (s : List Char) :
    routeNames (Text.dropSlashes s) = routeNames s := by
  induction s using List.reverseRecOn with
  | nil => rfl
  | append_singleton s c ih =>
    rw [dropSlashes_concat]
    split
    . next hc => rw [ih, hc, routeNames_concat_slash]
    . rfl

theorem exists_last_slash {s : List Char} (h : '/' ∈ s) :
    ∃ before last, s = before ++ '/' :: last ∧ '/' ∉ last := by
  obtain ⟨front, back, heq, hfront⟩ := List.eq_append_cons_of_mem (List.mem_reverse.2 h)
  refine ⟨back.reverse, front.reverse, ?_, ?_⟩
  . rw [← List.reverse_reverse s, heq]
    simp
  . rwa [List.mem_reverse]

theorem parent_eq (path : String) :
    parent path
      =
    let s := Text.dropSlashes path.toList
    .ofList (Text.dropSlashes
      (s.take (s.length - ((Text.pieces ['/'] s).getLast?.getD []).length))) :=
  rfl

theorem route_eq_append (path : String) :
    ∃ last, route path = route (parent path) ++ last ∧ last.length ≤ 1 := by
  have hroute : route path = routeNames (Text.dropSlashes path.toList) :=
    (routeNames_dropSlashes path.toList).symm
  rw [hroute]
  generalize hs : Text.dropSlashes path.toList = s
  by_cases hslash : '/' ∈ s
  . obtain ⟨before, last, rfl, hlast⟩ := exists_last_slash hslash
    refine ⟨routeNames last, ?_, length_routeNames_le hlast⟩
    have hparent : parent path = .ofList (Text.dropSlashes (before ++ ['/'])) := by
      simp only [parent_eq, hs, pieces_append, pieces_of_not_mem hlast]
      rw [List.getLast?_concat, Option.getD_some, List.length_append, List.length_cons,
        ← Nat.add_assoc, Nat.add_right_comm, Nat.add_sub_cancel_right]
      simp [List.take_append, List.take_of_length_le]
    rw [hparent, routeNames_append]
    change _ = routeNames (String.toList (.ofList _)) ++ _
    rw [String.toList_ofList, routeNames_dropSlashes, routeNames_concat_slash]
  . refine ⟨routeNames s, ?_, length_routeNames_le hslash⟩
    have hparent : parent path = "" := by
      simp only [parent_eq, hs, pieces_of_not_mem hslash]
      simp [Text.dropSlashes]
    rw [hparent]
    rfl

theorem dropLast_route_prefix (path : String) : (route path).dropLast <+: route (parent path) := by
  obtain ⟨last, heq, hlength⟩ := route_eq_append path
  rw [heq]
  cases last with
  | nil =>
    rw [List.append_nil]
    exact List.dropLast_prefix _
  | cons name rest =>
    obtain rfl : rest = [] := by
      rw [← List.length_eq_zero_iff]
      rw [List.length_cons] at hlength
      omega
    refine ⟨[], ?_⟩
    rw [List.dropLast_concat, List.append_nil]

namespace Tree

variable {t t' : Tree}

theorem lookup_filter_ne {α β : Type} [BEq α] [LawfulBEq α] (entries : List (α × β)) {a b : α}
    (h : a ≠ b) : (entries.filter fun (k, _) => k != b).lookup a = entries.lookup a := by
  induction entries with
  | nil => rfl
  | cons e entries ih =>
    obtain ⟨k, v⟩ := e
    by_cases hk : k = b
    . subst hk
      have hak : (a == k) = false := by simpa using h
      simp [List.lookup_cons, hak, ih]
    . simp [List.lookup_cons, hk, ih]

theorem lookup_filter_self {α β : Type} [BEq α] [LawfulBEq α] (entries : List (α × β)) (a : α) :
    (entries.filter fun (k, _) => k != a).lookup a = none := by
  rw [List.lookup_eq_none_iff]
  intro p hp
  have hne := (List.mem_filter.1 hp).2
  rwa [bne_iff_ne, ne_comm, ← bne_iff_ne] at hne

theorem entry?_insert {r : Route} (h : r ≠ []) (t : Tree) (e : Entry) (other : Route) :
    entry? (t.insert r e) other = if other = r then some e else t.entry? other := by
  unfold entry? insert
  by_cases hother : other = r
  . subst hother
    simp [h, List.lookup_append, lookup_filter_self t.entries]
  . have hbeq : (other == r) = false := by simpa using hother
    simp [hother, hbeq, List.lookup_append, lookup_filter_ne t.entries hother, List.lookup_cons]

/-- The entries are the same, up to directories where there was nothing. -/
def Grows (t t' : Tree) : Prop :=
  ∀ r, t'.entry? r = t.entry? r ∨ t.entry? r = none ∧ t'.entry? r = some .directory

theorem Grows.refl (t : Tree) : Grows t t := fun _ => .inl rfl

theorem Grows.of_insert {r : Route} (hne : r ≠ []) (hnone : t.entry? r = none)
    (h : Grows (t.insert r .directory) t') : Grows t t' := by
  intro other
  have hgrows := h other
  rw [entry?_insert hne] at hgrows
  by_cases hother : other = r
  . subst hother
    rw [if_pos rfl] at hgrows
    rcases hgrows with heq | ⟨hcontra, _⟩
    . exact .inr ⟨hnone, heq⟩
    . cases hcontra
  . rwa [if_neg hother] at hgrows

theorem Grows.directory {t t' : Tree} {r : Route} (h : Grows t t')
    (hr : t.entry? r = some .directory) :
    t'.entry? r = some .directory := by
  rcases h r with heq | ⟨hnone, _⟩
  . rw [heq, hr]
  . rw [hr] at hnone
    cases hnone

/-- Every entry on the way to a route, and the one at its end, is a directory. -/
def IsRooted (t : Tree) (r : Route) : Prop := ∀ p, p <+: r → t.entry? p = some .directory

theorem makeDirectories_go {done rest : Route} (h : makeDirectories.go t done rest = .ok t')
    (hdone : t.IsRooted done) : t'.IsRooted (done ++ rest) ∧ Grows t t' := by
  induction rest generalizing t done with
  | nil =>
    cases h
    rw [List.append_nil]
    exact ⟨hdone, .refl _⟩
  | cons name rest ih =>
    have hne : done ++ [name] ≠ [] := by simp
    have hrooted {u : Tree} (hgrows : Grows t u)
        (hhere : u.entry? (done ++ [name]) = some .directory) :
        u.IsRooted (done ++ [name]) := by
      intro p hp
      rcases List.prefix_concat_iff.1 hp with rfl | hp
      . exact hhere
      . exact hgrows.directory (hdone p hp)
    unfold makeDirectories.go at h
    dsimp only at h
    split at h
    . next hhere =>
      have := ih h (hrooted (.refl t) hhere)
      rwa [List.append_assoc] at this
    . cases h
    . next hhere =>
      have hgrows : Grows t (t.insert (done ++ [name]) .directory) := .of_insert hne hhere (.refl _)
      have hinserted : entry? (t.insert (done ++ [name]) .directory) (done ++ [name])
          = some .directory := by
        rw [entry?_insert hne, if_pos rfl]
      obtain ⟨hroot, hmore⟩ := ih h (hrooted hgrows hinserted)
      rw [List.append_assoc] at hroot
      exact ⟨hroot, .of_insert hne hhere hmore⟩

theorem isRooted_nil (t : Tree) : t.IsRooted [] := by
  intro p hp
  rw [List.prefix_nil.1 hp]
  rfl

theorem makeDirectories_of_ok {path : String} (h : t.makeDirectories path = .ok t') :
    t'.IsRooted (route path) ∧ Grows t t' :=
  makeDirectories_go h (isRooted_nil t)

theorem makeDirectories_go_of_isRooted {done rest : Route} (h : t.IsRooted (done ++ rest)) :
    makeDirectories.go t done rest = .ok t := by
  induction rest generalizing done with
  | nil => rfl
  | cons name rest ih =>
    have hassoc : done ++ name :: rest = done ++ [name] ++ rest := by simp
    rw [hassoc] at h
    unfold makeDirectories.go
    dsimp only
    rw [h _ (List.prefix_append _ _)]
    exact ih h

theorem makeDirectories_of_isRooted {path : String} (h : t.IsRooted (route path)) :
    t.makeDirectories path = .ok t :=
  makeDirectories_go_of_isRooted h

theorem find_go_of_isRooted {done rest : Route} (h : t.IsRooted (done ++ rest).dropLast) :
    find.go t done rest
      =
    match t.entry? (done ++ rest) with
    | some e => .ok e
    | none => .error .notFound := by
  induction rest generalizing done with
  | nil =>
    unfold find.go
    rw [List.append_nil]
    rfl
  | cons name rest ih =>
    have hdone : t.entry? done = some .directory := by
      apply h
      rw [List.dropLast_append_of_ne_nil (List.cons_ne_nil name rest)]
      exact List.prefix_append _ _
    have hassoc : done ++ name :: rest = done ++ [name] ++ rest := by simp
    unfold find.go
    rw [hdone]
    rw [hassoc] at h ⊢
    exact ih h

/-- Below directories an entry is found where it is. -/
theorem find_of_isRooted {r : Route} (h : t.IsRooted r.dropLast) :
    t.find r
      =
    match t.entry? r with
    | some e => .ok e
    | none => .error .notFound :=
  find_go_of_isRooted h

theorem IsRooted.of_prefix {r r' : Route} (h : t.IsRooted r) (hr : r' <+: r) : t.IsRooted r' :=
  fun p hp => h p (hp.trans hr)

theorem IsRooted.insert {r r' : Route} (h : t.IsRooted r) (hr : ¬ r' <+: r) (e : Entry) :
    (t.insert r' e).IsRooted r := by
  have hne : r' ≠ [] := by
    rintro rfl
    exact hr (List.nil_prefix)
  intro p hp
  rw [entry?_insert hne, if_neg, h p hp]
  rintro rfl
  exact hr hp

end Tree

end DataQuality.Storage
