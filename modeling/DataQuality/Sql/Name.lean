import DataQuality.Error
import DataQuality.Text.Blank
import DataQuality.Text.Letter

/-!
Names that become part of SQL identifiers: suites, checks and rules. A name consists of ASCII
letters, digits and underscores, does not start with a digit, and has at most 128 bytes.
-/

namespace DataQuality.Sql

def nameLimit : Nat := 128

def isNameStart (c : Char) : Bool := c.isAlpha || c == '_'

/-- The form of a name, apart from its length. -/
def hasNameForm : List Char → Bool
  | [] => false
  | c :: r => isNameStart c && r.all Text.isAsciiWord

inductive NameFault
  | blank
  | tooLong
  | malformed (name : String)
  deriving DecidableEq

def NameFault.message : NameFault → String
  | .blank => "Name cannot be empty or whitespace-only"
  | .tooLong => "Name too long (max " ++ toString nameLimit ++ " characters)"
  | .malformed name =>
    "Invalid name '" ++ name ++ "'. Names must start with a letter or underscore and contain only letters, numbers and underscores"

def nameFault? (name : String) : Option NameFault :=
  if !Text.hasContent name then some .blank
  else if nameLimit < Text.byteLength name.toList then some .tooLong
  else if !hasNameForm name.toList then some (.malformed name)
  else none

def checkName (name : String) : Except Error Unit :=
  match nameFault? name with
  | some fault => throw (.security fault.message)
  | none => pure ()

theorem not_isBlank_of_isNameStart {c : Char} (h : isNameStart c) : Text.isBlank c = false := by
  have halpha : c.isAlpha = (decide (c.val ≥ 'A'.val ∧ c.val ≤ 'Z'.val)
    || (decide (c.val ≥ 'a'.val) && decide (c.val ≤ 'z'.val))) := rfl
  rw [isNameStart, halpha] at h
  simp only [Bool.or_eq_true, Bool.and_eq_true, decide_eq_true_eq, beq_iff_eq,
    UInt32.le_iff_toNat_le] at h
  simp only [Text.isBlank, Char.toNat, Bool.or_eq_false_iff, Bool.and_eq_false_iff,
    decide_eq_false_iff_not, beq_eq_false_iff_ne]
  have hval : c = '_' → c.val.toNat = 95 := fun h => by subst h; rfl
  have h65 : (65 : UInt32).toNat = 65 := rfl
  have h90 : (90 : UInt32).toNat = 90 := rfl
  have h97 : (97 : UInt32).toNat = 97 := rfl
  have h122 : (122 : UInt32).toNat = 122 := rfl
  rcases h with (⟨h1, h2⟩ | ⟨h1, h2⟩) | h
  . simp only [show 'A'.val = 65 from rfl, show 'Z'.val = 90 from rfl, h65, h90] at h1 h2
    omega
  . simp only [show 'a'.val = 97 from rfl, show 'z'.val = 122 from rfl, h97, h122] at h1 h2
    omega
  . have := hval h
    omega

/-- A name is accepted exactly if it has the form and the length of a name. -/
theorem nameFault?_eq_none_iff {name : String} :
    nameFault? name = none ↔
      hasNameForm name.toList = true ∧ Text.byteLength name.toList ≤ nameLimit := by
  have hcontent : hasNameForm name.toList = true → Text.hasContent name = true := by
    intro h
    unfold Text.hasContent
    cases hs : name.toList with
    | nil => simp [hs, hasNameForm] at h
    | cons c r =>
      simp only [hs, hasNameForm, Bool.and_eq_true] at h
      simp [not_isBlank_of_isNameStart h.1]
  unfold nameFault?
  constructor
  . intro h
    split at h
    . simp at h
    . split at h
      . simp at h
      . split at h
        . simp at h
        . simp_all
  . intro ⟨hform, hlength⟩
    simp [hform, hcontent hform, Nat.not_lt.2 hlength]

end DataQuality.Sql
