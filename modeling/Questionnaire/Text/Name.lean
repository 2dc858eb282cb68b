import Questionnaire.Text.Blank
import Questionnaire.Text.Letter

/-!
This module contains the alphabet of names: which characters may start a name, which may follow in
the name of a node, and which may follow in the name of a function.
-/

namespace Questionnaire.Text

def isNameStart (c : Char) : Bool :=
  isLetter c || c == '_'

def isNameChar (c : Char) : Bool :=
  isLetterOrNumber c || c == '_' || c == '-' || c == '.'

def isFunctionChar (c : Char) : Bool :=
  isLetterOrNumber c || c == '_' || c == '-' || c == ':'

def isName (s : String) : Bool :=
  match s.toList with
  | [] => false
  | c :: cs => isNameStart c && cs.all isNameChar

theorem isNameChar_of_isNameStart {c : Char} (h : isNameStart c = true) : isNameChar c = true := by
  simp only [isNameStart, Bool.or_eq_true] at h
  rcases h with h | h
  · simp [isNameChar, isLetterOrNumber_of_isLetter h]
  · simp [isNameChar, h]

theorem isNameChar_eq_false_of_isBlank {c : Char} (h : isBlank c = true) :
    isNameChar c = false := by
  have hall : ∀ code ∈ blanks.codes, (letters.containsCode code || numbers.containsCode code ||
      code == 0x5F || code == 0x2D || code == 0x2E) = false := by
    decide +kernel
  have := hall c.toNat (CharClass.mem_codes_of_containsCode h)
  simp only [Bool.or_eq_false_iff, beq_eq_false_iff_ne] at this
  obtain ⟨⟨⟨⟨hletter, hnumber⟩, hline⟩, hdash⟩, hdot⟩ := this
  have hne : ∀ d : Char, c.toNat ≠ d.toNat → (c == d) = false := fun d hd =>
    beq_eq_false_iff_ne.2 fun hcd => hd (congrArg Char.toNat hcd)
  simp [isNameChar, isLetterOrNumber, CharClass.contains, hletter, hnumber, hne '_' hline,
    hne '-' hdash, hne '.' hdot]

end Questionnaire.Text
