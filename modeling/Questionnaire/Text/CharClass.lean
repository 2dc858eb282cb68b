/-!
This module contains classes of characters, given as ascending ranges of code points.
-/

namespace Questionnaire

abbrev CharClass := List (Nat × Nat)

namespace CharClass

/--
Whether a code point lies in the class. The ranges ascend, so the first range that ends at or after
the code point decides.
-/
def containsCode : CharClass → Nat → Bool
  | [], _ => false
  | (first, last) :: ranges, code =>
    if code ≤ last then Nat.ble first code else containsCode ranges code

def contains (ranges : CharClass) (c : Char) : Bool :=
  ranges.containsCode c.toNat

def codes (ranges : CharClass) : List Nat :=
  ranges.flatMap fun (first, last) => List.range' first (last + 1 - first)

theorem mem_codes_of_containsCode {ranges : CharClass} {code : Nat}
    (h : ranges.containsCode code = true) : code ∈ ranges.codes := by
  induction ranges with
  | nil => simp [containsCode] at h
  | cons range ranges ih =>
    obtain ⟨first, last⟩ := range
    simp only [codes, List.flatMap_cons, List.mem_append]
    unfold containsCode at h
    split at h
    · left
      have : first ≤ code := Nat.le_of_ble_eq_true h
      simp only [List.mem_range'_1]
      omega
    · exact Or.inr (ih h)

end CharClass

end Questionnaire
