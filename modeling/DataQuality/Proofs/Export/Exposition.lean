import Mathlib.Data.List.Basic
import DataQuality.Export.Prometheus
import DataQuality.Proofs.Text.Words

/-!
The text format of metrics read back. The reader goes over the text character by character; the
names of samples and of labels have to be words, and values of labels stand in quotes with escapes.
Main statement: `Exposition.readFrom_sampleText`.
-/

namespace DataQuality.Decimal

/-- A character of a written number. -/
def IsWritten (c : Char) : Prop := c.isAlphanum = true ∨ c = '.' ∨ c = '-'

instance (c : Char) : Decidable (IsWritten c) := inferInstanceAs (Decidable (_ ∨ _))

theorem isWritten_of_all {s : List Char} (h : s.all (decide <| IsWritten ·) = true) :
    ∀ c ∈ s, IsWritten c := by
  simpa using h

theorem isWritten_digitsOf (n : Nat) : ∀ c ∈ digitsOf n, IsWritten c := by
  intro c hc
  left
  unfold Char.isAlphanum
  rw [Nat.isDigit_of_mem_toDigits (by decide) (by decide) hc, Bool.or_true]

theorem isWritten_zeros (n : Nat) : ∀ c ∈ zeros n, IsWritten c := by
  intro c hc
  rw [List.eq_of_mem_replicate hc]
  decide

theorem isWritten_writePositional (x : Scientific) :
    ∀ c ∈ writePositional false x, IsWritten c := by
  have hdigits := isWritten_digitsOf x.coefficient
  unfold writePositional
  dsimp only
  split
  . simp only [Bool.false_eq_true, if_false, List.append_nil, List.forall_mem_append]
    exact ⟨hdigits, isWritten_zeros _⟩
  . split
    . simp only [List.forall_mem_append, List.forall_mem_cons]
      exact ⟨fun c hc => hdigits c (List.mem_of_mem_take hc), by decide,
        fun c hc => hdigits c (List.mem_of_mem_drop hc)⟩
    . simp only [List.forall_mem_append, List.forall_mem_cons, List.cons_append]
      exact ⟨by decide, by decide, isWritten_zeros _, hdigits⟩

theorem isWritten_plain (x : Float) : ∀ c ∈ (plain x).toList, IsWritten c := by
  have hsign : ∀ c ∈ if isNegative x then ['-'] else [], IsWritten c := by
    split <;> exact isWritten_of_all (by decide)
  unfold plain Layout.write
  dsimp only
  split
  . exact isWritten_of_all (by decide)
  . split
    . rw [String.toList_ofList, List.forall_mem_append]
      exact ⟨hsign, isWritten_of_all (by decide)⟩
    . rw [String.toList_ofList, List.forall_mem_append]
      exact ⟨hsign, isWritten_writePositional _⟩

end DataQuality.Decimal

namespace DataQuality.Export.Exposition

/-- A sample as it is read. Its number stays a text. -/
structure Sample where
  name : String
  labels : List (String × String)
  value : String
  deriving DecidableEq

/-- The name and the labels of a sample, as far as they have been read. -/
structure Line where
  name : List Char
  labels : List (String × String)

def Line.withLabel (line : Line) (label value : List Char) : Line :=
  { line with labels := line.labels ++ [(.ofList label, .ofList value)] }

/-- Where a reader is, with what it has read of a name, of a value or of a number. -/
inductive Place
  | start
  | comment
  | name (read : List Char)
  | label (line : Line) (read : List Char)
  | opening (line : Line) (label : List Char)
  | quoted (line : Line) (label read : List Char)
  | escaped (line : Line) (label read : List Char)
  | closed (line : Line)
  | blank (line : Line)
  | number (line : Line) (read : List Char)

def unescape? : Char → Option Char
  | '\\' => some '\\'
  | 'n' => some '\n'
  | '"' => some '"'
  | _ => none

def readFrom : Place → List Char → Option (List Sample)
  | .start, [] => some []
  | _, [] => none
  | .start, c :: rest => if c = '#' then readFrom .comment rest else readFrom (.name [c]) rest
  | .comment, c :: rest => if c = '\n' then readFrom .start rest else readFrom .comment rest
  | .name read, c :: rest =>
    if c = '\x7b' then
      if Sql.hasNameForm read then readFrom (.label ⟨read, []⟩ []) rest else none
    else
      readFrom (.name (read ++ [c])) rest
  | .label line read, c :: rest =>
    if c = '=' then
      if Sql.hasNameForm read then readFrom (.opening line read) rest else none
    else
      readFrom (.label line (read ++ [c])) rest
  | .opening line label, c :: rest =>
    if c = '"' then readFrom (.quoted line label []) rest else none
  | .quoted line label read, c :: rest =>
    if c = '"' then readFrom (.closed (line.withLabel label read)) rest
    else if c = '\\' then readFrom (.escaped line label read) rest
    else if c = '\n' then none
    else readFrom (.quoted line label (read ++ [c])) rest
  | .escaped line label read, c :: rest =>
    match unescape? c with
    | some c => readFrom (.quoted line label (read ++ [c])) rest
    | none => none
  | .closed line, c :: rest =>
    if c = ',' then readFrom (.label line []) rest
    else if c = '\x7d' then readFrom (.blank line) rest
    else none
  | .blank line, c :: rest => if c = ' ' then readFrom (.number line []) rest else none
  | .number line read, c :: rest =>
    if c = '\n' then
      (readFrom .start rest).map (⟨.ofList line.name, line.labels, .ofList read⟩ :: ·)
    else if c = ' ' then
      none
    else
      readFrom (.number line (read ++ [c])) rest

/-- The samples in a text. -/
def read? (text : String) : Option (List Sample) := readFrom .start text.toList

section

variable {line : Line} {label read rest : List Char}

/-- A reader that only collects characters goes over all of them. -/
theorem readFrom_append {place : List Char → Place} {s : List Char}
    (h : ∀ c ∈ s, ∀ read rest,
      readFrom (place read) (c :: rest) = readFrom (place (read ++ [c])) rest) :
    readFrom (place read) (s ++ rest) = readFrom (place (read ++ s)) rest := by
  induction s generalizing read with
  | nil => rw [List.nil_append, List.append_nil]
  | cons c s ih =>
    rw [List.forall_mem_cons] at h
    rw [List.cons_append, h.1, ih h.2, List.append_assoc, List.singleton_append]

theorem readFrom_comment {s : List Char} (h : '\n' ∉ s) :
    readFrom .comment (s ++ '\n' :: rest) = readFrom .start rest := by
  induction s with
  | nil => rfl
  | cons c s ih =>
    rw [List.mem_cons, not_or] at h
    rw [List.cons_append, readFrom, if_neg (Ne.symm h.1), ih h.2]

theorem readFrom_name {s : List Char} (h : '\x7b' ∉ s)
    (hform : Sql.hasNameForm (read ++ s) = true) :
    readFrom (.name read) (s ++ '\x7b' :: rest) = readFrom (.label ⟨read ++ s, []⟩ []) rest := by
  rw [readFrom_append, readFrom, if_pos rfl, if_pos hform]
  intro c hc read rest
  rw [readFrom, if_neg (ne_of_mem_of_not_mem hc h)]

theorem readFrom_label {s : List Char} (h : '=' ∉ s) (hform : Sql.hasNameForm (read ++ s) = true) :
    readFrom (.label line read) (s ++ '=' :: rest) = readFrom (.opening line (read ++ s)) rest := by
  rw [readFrom_append, readFrom, if_pos rfl, if_pos hform]
  intro c hc read rest
  rw [readFrom, if_neg (ne_of_mem_of_not_mem hc h)]

theorem readFrom_escapeChar (c : Char) :
    readFrom (.quoted line label read) (escapeChar c ++ rest)
      =
    readFrom (.quoted line label (read ++ [c])) rest := by
  unfold escapeChar
  split
  . rfl
  . rfl
  . rfl
  . next hslash hfeed hquote =>
    rw [List.singleton_append, readFrom, if_neg hquote, if_neg hslash, if_neg hfeed]

theorem readFrom_escaped (s : List Char) :
    readFrom (.quoted line label read) (s.flatMap escapeChar ++ '"' :: rest)
      =
    readFrom (.closed (line.withLabel label (read ++ s))) rest := by
  induction s generalizing read with
  | nil =>
    rw [List.append_nil]
    rfl
  | cons c s ih =>
    rw [List.flatMap_cons, List.append_assoc, readFrom_escapeChar, ih, List.append_assoc,
      List.singleton_append]

theorem readFrom_number {s : List Char} (h : ∀ c ∈ s, Decimal.IsWritten c) :
    readFrom (.number line read) (s ++ '\n' :: rest)
      =
    (readFrom .start rest).map (⟨.ofList line.name, line.labels, .ofList (read ++ s)⟩ :: ·) := by
  rw [readFrom_append, readFrom, if_pos rfl]
  intro c hc read rest
  have hne (other : Char) (hother : ¬ Decimal.IsWritten other) : c ≠ other := by
    rintro rfl
    exact hother (h c hc)
  rw [readFrom, if_neg (hne '\n' (by decide)), if_neg (hne ' ' (by decide))]

end

/-- A name of a sample or of a label. -/
def IsName (name : String) : Prop := Sql.hasNameForm name.toList = true

instance (name : String) : Decidable (IsName name) := inferInstanceAs (Decidable (_ = true))

theorem IsName.not_mem {name : String} (h : IsName name) {c : Char}
    (hstart : Sql.isNameStart c = false) (hword : Text.isAsciiWord c = false) : c ∉ name.toList := by
  unfold IsName at h
  cases hs : name.toList with
  | nil => simp
  | cons d s =>
    rw [hs, Sql.hasNameForm, Bool.and_eq_true, List.all_eq_true] at h
    rw [List.mem_cons, not_or]
    constructor
    . rintro rfl
      rw [hstart] at h
      cases h.1
    . intro hc
      have := h.2 c hc
      rw [hword] at this
      cases this

section

variable {name : String} {labels : Dict String}

theorem readFrom_labelText {label : String} (hlabel : IsName label) (value : String) (line : Line)
    (rest : List Char) :
    readFrom (.label line []) ((labelText label value).toList ++ rest)
      =
    readFrom (.closed { line with labels := line.labels ++ [(label, value)] }) rest := by
  have htext : (labelText label value).toList ++ rest
      = label.toList ++ '=' :: '"' :: (value.toList.flatMap escapeChar ++ '"' :: rest) := by
    simp [labelText, escapeLabel]
  have hform : Sql.hasNameForm ([] ++ label.toList) = true := hlabel
  rw [htext, readFrom_label (hlabel.not_mem rfl rfl) hform, readFrom, if_pos rfl, readFrom_escaped]
  simp [Line.withLabel]

theorem readFrom_labels (h : ∀ e ∈ labels, IsName e.1) (hne : labels ≠ []) (line : Line)
    (rest : List Char) :
    readFrom (.label line [])
        ((Text.join "," (labels.map fun (label, value) => labelText label value)).toList
          ++ '\x7d' :: rest)
      =
    readFrom (.blank { line with labels := line.labels ++ labels }) rest := by
  induction labels generalizing line with
  | nil => exact absurd rfl hne
  | cons e labels ih =>
    obtain ⟨label, value⟩ := e
    rw [List.forall_mem_cons] at h
    cases labels with
    | nil =>
      rw [List.map_singleton, Text.join, readFrom_labelText h.1, readFrom, if_neg (by decide),
        if_pos rfl]
    | cons e' labels =>
      have hjoin : (Text.join "," (((label, value) :: e' :: labels).map fun (label, value) =>
            labelText label value)).toList ++ '\x7d' :: rest
          = (labelText label value).toList ++ ',' :: ((Text.join "," ((e' :: labels).map
            fun (label, value) => labelText label value)).toList ++ '\x7d' :: rest) := by
        simp [Text.join]
      rw [hjoin, readFrom_labelText h.1, readFrom, if_pos rfl, ih h.2 (List.cons_ne_nil _ _),
        List.append_assoc, List.singleton_append]

theorem readFrom_sampleText (hname : IsName name) (h : ∀ e ∈ labels, IsName e.1) (hne : labels ≠ [])
    (x : Float) (rest : List Char) :
    readFrom .start ((sampleText name labels x).toList ++ rest)
      =
    (readFrom .start rest).map (⟨name, labels, Decimal.plain x⟩ :: ·) := by
  have htext : (sampleText name labels x).toList ++ rest
      = name.toList ++ '\x7b' :: ((Text.join "," (labels.map fun (label, value) =>
          labelText label value)).toList ++ '\x7d' :: ' ' ::
          ((Decimal.plain x).toList ++ '\n' :: rest)) := by
    simp [sampleText]
  have hbrace := hname.not_mem (c := '\x7b') rfl rfl
  have hhash := hname.not_mem (c := '#') rfl rfl
  unfold IsName at hname
  rw [htext]
  cases hs : name.toList with
  | nil =>
    rw [hs] at hname
    cases hname
  | cons c s =>
    rw [hs] at hname hbrace hhash
    rw [List.mem_cons, not_or] at hbrace hhash
    rw [List.cons_append, readFrom, if_neg (Ne.symm hhash.1), readFrom_name hbrace.2 hname,
      readFrom_labels h hne, readFrom, if_pos rfl, readFrom_number (Decimal.isWritten_plain x)]
    simp [← hs]

theorem readFrom_samples {samples : List (Dict String × Float)} (hname : IsName name)
    (h : ∀ s ∈ samples, s.1 ≠ [] ∧ ∀ e ∈ s.1, IsName e.1) (rest : List Char) :
    readFrom .start
        ((Text.join "" (samples.map fun (labels, x) => sampleText name labels x)).toList ++ rest)
      =
    (readFrom .start rest).map
      ((samples.map fun (labels, x) => ⟨name, labels, Decimal.plain x⟩) ++ ·) := by
  rw [Text.join_empty_eq_join]
  induction samples with
  | nil => exact Option.map_id'.symm
  | cons s samples ih =>
    obtain ⟨labels, x⟩ := s
    rw [List.forall_mem_cons] at h
    rw [List.map_cons, String.join_cons, String.toList_append, List.append_assoc,
      readFrom_sampleText hname h.1.2 h.1.1, ih h.2, Option.map_map]
    rfl

theorem readFrom_description {help : String} (hname : IsName name) (hhelp : '\n' ∉ help.toList)
    (rest : List Char) :
    readFrom .start (("# HELP " ++ name ++ " " ++ help ++ "\n# TYPE " ++ name ++ " gauge\n").toList
        ++ rest)
      =
    readFrom .start rest := by
  have hfeed := hname.not_mem (c := '\n') rfl rfl
  have htext :
      ("# HELP " ++ name ++ " " ++ help ++ "\n# TYPE " ++ name ++ " gauge\n").toList ++ rest
      = '#' :: ((" HELP " ++ name ++ " " ++ help).toList ++ '\n' ::
          '#' :: ((" TYPE " ++ name ++ " gauge").toList ++ '\n' :: rest)) := by
    simp
  rw [htext, readFrom, if_pos rfl, readFrom_comment (by simp [hfeed, hhelp]), readFrom, if_pos rfl,
    readFrom_comment (by simp [hfeed])]

end

end DataQuality.Export.Exposition
