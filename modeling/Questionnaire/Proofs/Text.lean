import Questionnaire.Sheet
import Questionnaire.Text.Name
import Mathlib.Data.List.TakeWhile
import Mathlib.Tactic.MkIffOfInductiveProp

/-!
This module contains the theory of trimmed text and of the characters in names.
-/

namespace Questionnaire.Text

@[mk_iff]
structure IsTidy (s : String) : Prop where
  ne_empty : s ≠ ""
  trim_eq : trim s = s

instance (s : String) : Decidable (IsTidy s) :=
  decidable_of_iff _ (isTidy_iff s).symm

theorem trimStart_eq_self {cs : List Char} (h : ∀ c ∈ cs.head?, isBlank c = false) :
    trimStart cs = cs := by
  unfold trimStart
  cases cs with
  | nil => rfl
  | cons c cs =>
    rw [List.dropWhile_cons_of_neg]
    simp [h c rfl]

theorem trimEnd_eq_self {cs : List Char} (h : ∀ c ∈ cs.getLast?, isBlank c = false) :
    trimEnd cs = cs := by
  unfold trimEnd
  rw [trimStart_eq_self]
  · simp
  · simpa using h

theorem isBlank_head?_trimStart (cs : List Char) :
    ∀ c ∈ (trimStart cs).head?, isBlank c = false := by
  intro c hc
  have := List.head?_dropWhile_not isBlank cs
  rw [Option.mem_def] at hc
  unfold trimStart at hc
  rw [hc] at this
  simpa using this

theorem isBlank_getLast?_trimEnd (cs : List Char) :
    ∀ c ∈ (trimEnd cs).getLast?, isBlank c = false := by
  intro c hc
  apply isBlank_head?_trimStart cs.reverse
  simpa [trimEnd] using hc

theorem exists_eq_trimEnd_append (cs : List Char) :
    ∃ blanks, (∀ c ∈ blanks, isBlank c = true) ∧ cs = trimEnd cs ++ blanks := by
  refine ⟨(cs.reverse.takeWhile isBlank).reverse, ?_, ?_⟩
  · intro c hc
    exact List.mem_takeWhile_imp (List.mem_reverse.1 hc)
  · unfold trimEnd trimStart
    rw [← List.reverse_append, List.takeWhile_append_dropWhile, List.reverse_reverse]

theorem trimEnd_append_of_isBlank {cs blanks : List Char} (h : ∀ c ∈ blanks, isBlank c = true) :
    trimEnd (cs ++ blanks) = trimEnd cs := by
  unfold trimEnd trimStart
  rw [List.reverse_append, List.dropWhile_append_of_pos]
  intro c hc
  exact h c (List.mem_reverse.1 hc)

theorem trimEnd_cons {c : Char} (h : isBlank c = false) (cs : List Char) :
    trimEnd (c :: cs) = c :: trimEnd cs := by
  have hsingle : [c].dropWhile isBlank = [c] := by
    rw [List.dropWhile_cons_of_neg]
    simp [h]
  unfold trimEnd trimStart
  rw [List.reverse_cons, List.dropWhile_append, hsingle]
  split
  · next hempty =>
    rw [List.isEmpty_iff.1 hempty]
    rfl
  · rw [List.reverse_append, List.reverse_singleton, List.singleton_append]

theorem isBlank_head?_trimEnd {cs : List Char} (h : ∀ c ∈ cs.head?, isBlank c = false) :
    ∀ c ∈ (trimEnd cs).head?, isBlank c = false := by
  intro c hc
  obtain ⟨blanks, -, hcs⟩ := exists_eq_trimEnd_append cs
  apply h c
  rw [Option.mem_def] at hc ⊢
  rw [hcs, List.head?_append, hc]
  rfl

theorem trim_eq_self {s : String} (hhead : ∀ c ∈ s.toList.head?, isBlank c = false)
    (hlast : ∀ c ∈ s.toList.getLast?, isBlank c = false) : trim s = s := by
  unfold trim
  rw [trimStart_eq_self hhead, trimEnd_eq_self hlast, String.ofList_toList]

theorem isBlank_head?_trim (s : String) : ∀ c ∈ (trim s).toList.head?, isBlank c = false := by
  unfold trim
  rw [String.toList_ofList]
  apply isBlank_head?_trimEnd
  apply isBlank_head?_trimStart

theorem isBlank_getLast?_trim (s : String) :
    ∀ c ∈ (trim s).toList.getLast?, isBlank c = false := by
  unfold trim
  rw [String.toList_ofList]
  apply isBlank_getLast?_trimEnd

theorem trim_trim (s : String) : trim (trim s) = trim s := by
  apply trim_eq_self
  · apply isBlank_head?_trim
  · apply isBlank_getLast?_trim

theorem trim_ne_empty {s : String} (h : isBlankText s = false) : trim s ≠ "" := by
  intro hempty
  have htrim : trimStart (trimStart s.toList).reverse = [] := by
    have := congrArg String.toList hempty
    simpa [trim, trimEnd] using this
  have hreverse : ∀ c ∈ (trimStart s.toList).reverse, isBlank c := by
    apply List.dropWhile_eq_nil_iff.1
    exact htrim
  have hall : ∀ c ∈ s.toList, isBlank c := by
    intro c hc
    rw [← List.takeWhile_append_dropWhile (p := isBlank) (l := s.toList)] at hc
    rcases List.mem_append.1 hc with hc | hc
    · exact List.mem_takeWhile_imp hc
    · apply hreverse
      simpa [trimStart] using hc
  have : isBlankText s = true := by
    unfold isBlankText
    exact List.all_eq_true.2 hall
  rw [h] at this
  cases this

theorem isTidy_trim {s : String} (h : isBlankText s = false) : IsTidy (trim s) where
  ne_empty := trim_ne_empty h
  trim_eq := trim_trim s

namespace IsTidy

variable {s : String}

theorem isBlank_head? (h : IsTidy s) : ∀ c ∈ s.toList.head?, isBlank c = false := by
  rw [← h.trim_eq]
  apply isBlank_head?_trim

theorem isBlank_getLast? (h : IsTidy s) : ∀ c ∈ s.toList.getLast?, isBlank c = false := by
  rw [← h.trim_eq]
  apply isBlank_getLast?_trim

theorem isBlankText_eq_false (h : IsTidy s) : isBlankText s = false := by
  unfold isBlankText
  cases hs : s.toList with
  | nil => exact absurd (String.toList_eq_nil_iff.1 hs) h.ne_empty
  | cons c cs =>
    have : isBlank c = false := by
      apply h.isBlank_head?
      rw [hs]
      rfl
    simp [this]

end IsTidy

theorem isName_iff {s : String} :
    isName s = true ↔
      ∃ c cs, s.toList = c :: cs ∧ isNameStart c = true ∧ ∀ d ∈ cs, isNameChar d = true := by
  unfold isName
  cases hs : s.toList with
  | nil => simp
  | cons c cs =>
    simp only [Bool.and_eq_true, List.all_eq_true]
    constructor
    · intro h
      exact ⟨c, cs, rfl, h⟩
    · rintro ⟨d, ds, heq, h⟩
      cases heq
      exact h

theorem isNameChar_of_isName {s : String} (h : isName s = true) {c : Char} (hc : c ∈ s.toList) :
    isNameChar c = true := by
  obtain ⟨d, cs, hs, hstart, hcs⟩ := isName_iff.1 h
  rw [hs] at hc
  rcases List.mem_cons.1 hc with rfl | hc
  · exact isNameChar_of_isNameStart hstart
  · exact hcs c hc

theorem toList_ne_nil_of_isName {s : String} (h : isName s = true) : s.toList ≠ [] := by
  obtain ⟨c, cs, hs, -⟩ := isName_iff.1 h
  simp [hs]

theorem not_mem_of_isName {s : String} (h : isName s = true) {c : Char}
    (hc : isNameChar c = false) : c ∉ s.toList := by
  intro hmem
  rw [isNameChar_of_isName h hmem] at hc
  cases hc

theorem isBlank_eq_false_of_isNameChar {c : Char} (h : isNameChar c = true) :
    isBlank c = false := by
  rw [Bool.eq_false_iff]
  intro hblank
  rw [isNameChar_eq_false_of_isBlank hblank] at h
  cases h

theorem isTidy_of_isName {s : String} (h : isName s = true) : IsTidy s where
  ne_empty := by
    intro hs
    apply toList_ne_nil_of_isName h
    simp [hs]
  trim_eq := by
    apply trim_eq_self
    · intro c hc
      apply isBlank_eq_false_of_isNameChar
      exact isNameChar_of_isName h (List.mem_of_mem_head? hc)
    · intro c hc
      apply isBlank_eq_false_of_isNameChar
      exact isNameChar_of_isName h (List.mem_of_mem_getLast? hc)

section

variable {p : Char → Prop} [DecidablePred p]

-- The search for an instance must not end at one that goes through all characters there are.

instance (priority := 2000) decidableForallMemList (cs : List Char) : Decidable (∀ c ∈ cs, p c) :=
  List.decidableBAll p cs

instance (priority := 2000) decidableForallMemOption (c? : Option Char) :
    Decidable (∀ c ∈ c?, p c) :=
  Option.decidableForallMem c?

end

@[mk_iff]
structure IsWord (s : String) : Prop where
  ne_empty : s ≠ ""
  isBlank_eq_false : ∀ c ∈ s.toList, isBlank c = false

instance (s : String) : Decidable (IsWord s) :=
  decidable_of_iff _ (isWord_iff s).symm

section Pieces

variable {sep : Char → Bool}

theorem ne_nil_of_mem_pieces {cs piece : List Char} (h : piece ∈ pieces sep cs) : piece ≠ [] := by
  fun_induction pieces sep cs generalizing piece with
  | case1 => cases h
  | case2 c cs hc ih => exact ih h
  | case3 c cs hc hnext ih =>
    rcases List.mem_cons.1 h with rfl | h
    · simp
    · exact ih h
  | case4 c cs hc hnext ih =>
    cases hpieces : pieces sep cs with
    | nil =>
      rw [hpieces] at h
      cases h
    | cons first rest =>
      rw [hpieces] at h ih
      rcases List.mem_cons.1 h with rfl | h
      · simp
      · exact ih (List.mem_cons_of_mem _ h)

theorem sep_eq_false_of_mem_pieces {cs piece : List Char} (h : piece ∈ pieces sep cs) :
    ∀ c ∈ piece, sep c = false := by
  fun_induction pieces sep cs generalizing piece with
  | case1 => cases h
  | case2 c cs hc ih => exact ih h
  | case3 c cs hc hnext ih =>
    rcases List.mem_cons.1 h with rfl | h
    · simpa using hc
    · exact ih h
  | case4 c cs hc hnext ih =>
    cases hpieces : pieces sep cs with
    | nil =>
      rw [hpieces] at h
      cases h
    | cons first rest =>
      rw [hpieces] at h ih
      rcases List.mem_cons.1 h with rfl | h
      · intro d hd
        rcases List.mem_cons.1 hd with rfl | hd
        · simpa using hc
        · exact ih List.mem_cons_self d hd
      · exact ih (List.mem_cons_of_mem _ h)

theorem pieces_of_forall {piece : List Char} (hne : piece ≠ []) (h : ∀ c ∈ piece, sep c = false) :
    pieces sep piece = [piece] := by
  induction piece with
  | nil => exact absurd rfl hne
  | cons c cs ih =>
    have hc : sep c = false := h c List.mem_cons_self
    cases cs with
    | nil => simp [pieces, hc]
    | cons d cs =>
      have hd : sep d = false := h d (List.mem_cons_of_mem _ List.mem_cons_self)
      rw [pieces, if_neg (by simp [hc]), if_neg (by simp [hd]),
        ih (by simp) fun e he => h e (List.mem_cons_of_mem _ he)]
      rfl

theorem pieces_of_all {cs : List Char} (h : cs.all sep = true) : pieces sep cs = [] := by
  induction cs with
  | nil => rfl
  | cons c cs ih =>
    rw [List.all_cons, Bool.and_eq_true] at h
    rw [pieces, if_pos h.1, ih h.2]

theorem pieces_ne_nil {cs : List Char} (h : ¬ cs.head?.all sep = true) : pieces sep cs ≠ [] := by
  fun_induction pieces sep cs with
  | case1 => simp at h
  | case2 c cs hc ih => simp [hc] at h
  | case3 c cs hc hnext ih => simp
  | case4 c cs hc hnext ih => simpa using ih hnext

theorem pieces_append_of_all {blanks : List Char} (h : ∀ c ∈ blanks, sep c = true)
    (cs : List Char) : pieces sep (blanks ++ cs) = pieces sep cs := by
  induction blanks with
  | nil => rfl
  | cons c blanks ih =>
    rw [List.cons_append, pieces, if_pos (h c List.mem_cons_self)]
    exact ih fun d hd => h d (List.mem_cons_of_mem _ hd)

theorem pieces_append_cons {c : Char} (hc : sep c = true) (cs cs' : List Char) :
    pieces sep (cs ++ c :: cs') = pieces sep cs ++ pieces sep cs' := by
  fun_induction pieces sep cs with
  | case1 => simp [pieces, hc]
  | case2 d cs hd ih => rw [List.cons_append, pieces, if_pos hd, ih]
  | case3 d cs hd hnext ih =>
    have hnext' : (cs ++ c :: cs').head?.all sep = true := by
      cases cs with
      | nil => simpa using hc
      | cons e cs => exact hnext
    rw [List.cons_append, pieces, if_neg hd, if_pos hnext', ih, List.cons_append]
  | case4 d cs hd hnext ih =>
    have hnext' : ¬ (cs ++ c :: cs').head?.all sep = true := by
      cases cs with
      | nil => simp at hnext
      | cons e cs => exact hnext
    rw [List.cons_append, pieces, if_neg hd, if_neg hnext', ih]
    cases hpieces : pieces sep cs with
    | nil => exact absurd hpieces (pieces_ne_nil hnext)
    | cons first rest => rfl

theorem pieces_append_blanks {blanks : List Char} (h : ∀ c ∈ blanks, sep c = true)
    (cs : List Char) : pieces sep (cs ++ blanks) = pieces sep cs := by
  cases blanks with
  | nil => rw [List.append_nil]
  | cons c blanks =>
    have hblanks : pieces sep blanks = [] := by
      apply pieces_of_all
      exact List.all_eq_true.2 fun d hd => h d (List.mem_cons_of_mem _ hd)
    rw [pieces_append_cons (h c List.mem_cons_self), hblanks, List.append_nil]

end Pieces

theorem words_of_isBlankText {s : String} (h : isBlankText s = true) : words s = [] := by
  unfold words
  rw [pieces_of_all h, List.map_nil]

theorem isWord_of_mem_words {s word : String} (h : word ∈ words s) : IsWord word := by
  obtain ⟨piece, hpiece, rfl⟩ := List.mem_map.1 h
  constructor
  · intro hempty
    apply ne_nil_of_mem_pieces hpiece
    simpa using congrArg String.toList hempty
  · rw [String.toList_ofList]
    exact sep_eq_false_of_mem_pieces hpiece

theorem words_of_isWord {s : String} (h : IsWord s) : words s = [s] := by
  unfold words
  rw [pieces_of_forall _ h.isBlank_eq_false]
  · simp
  · intro hnil
    exact h.ne_empty (String.toList_eq_nil_iff.1 hnil)

def IsPadded (s padded : String) : Prop :=
  ∃ front back : List Char, (∀ c ∈ front, isBlank c = true) ∧ (∀ c ∈ back, isBlank c = true) ∧
    padded.toList = front ++ s.toList ++ back

theorem trim_of_isPadded {s padded : String} (h : IsPadded s padded) : trim padded = trim s := by
  obtain ⟨front, back, hfront, hback, hpadded⟩ := h
  have hdrop : trimStart padded.toList = trimStart (s.toList ++ back) := by
    unfold trimStart
    rw [hpadded, List.append_assoc, List.dropWhile_append_of_pos hfront]
  unfold trim
  rw [hdrop]
  unfold trimStart
  rw [List.dropWhile_append]
  split
  · next hempty =>
    rw [List.isEmpty_iff.1 hempty, List.dropWhile_eq_nil_iff.2 hback]
  · rw [trimEnd_append_of_isBlank hback]

theorem isPadded_trim (s : String) : IsPadded (trim s) s := by
  obtain ⟨back, hback, hcs⟩ := exists_eq_trimEnd_append (trimStart s.toList)
  refine ⟨s.toList.takeWhile isBlank, back, fun c hc => List.mem_takeWhile_imp hc, hback, ?_⟩
  unfold trim
  rw [String.toList_ofList, List.append_assoc, ← hcs]
  exact (List.takeWhile_append_dropWhile).symm

theorem isBlankText_iff {s : String} : isBlankText s = true ↔ trim s = "" := by
  constructor
  · intro h
    have hdrop : trimStart s.toList = [] :=
      List.dropWhile_eq_nil_iff.2 (List.all_eq_true.1 h)
    unfold trim
    rw [hdrop]
    rfl
  · intro h
    by_contra hblank
    exact trim_ne_empty (Bool.eq_false_iff.2 hblank) h

theorem words_trim (s : String) : words (trim s) = words s := by
  obtain ⟨front, back, hfront, hback, hs⟩ := isPadded_trim s
  unfold words
  rw [hs, pieces_append_blanks hback, pieces_append_of_all hfront]

end Questionnaire.Text
