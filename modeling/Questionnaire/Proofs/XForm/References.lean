import Questionnaire.Proofs.XForm.Reading

/-!
This module contains what the references in a form are read as: a reference to a text always gives
its id, and one to the items of a list gives a name that ends in front of a closing parenthesis.
-/

namespace Questionnaire.XForm

/--
Whether `name` is what stands in quotes in front of the first closing parenthesis of a reference to
the items of `list`, which is one inside the name of the list.
-/
def CutsTo (list name : String) : Prop :=
  ∃ blanks rest, (∀ c ∈ blanks, Text.isBlank c = true) ∧ ')' ∉ name.toList ∧
    list.toList = (name.toList ++ '\'' :: blanks) ++ ')' :: rest

theorem notMem_parenthesis_quote {name blanks : List Char}
    (hblanks : ∀ c ∈ blanks, Text.isBlank c = true) (hname : ')' ∉ name) :
    ')' ∉ name ++ '\'' :: blanks := by
  intro hmem
  rcases List.mem_append.1 hmem with hmem | hmem
  · exact hname hmem
  · rcases List.mem_cons.1 hmem with hquote | hmem
    · exact absurd hquote (by decide)
    · exact absurd (hblanks _ hmem) (by decide)

theorem takeWhile_itemsetReference {front rest : List Char} (h : ')' ∉ front) :
    (front ++ ')' :: rest ++ ['\'']).takeWhile (· != ')') = front := by
  rw [List.append_assoc, List.cons_append, takeWhile_append_cons rfl, List.takeWhile_eq_self_iff]
  intro c hc
  rw [bne_iff_ne]
  rintro rfl
  exact h hc

theorem itemsetList?_eq_some_iff_cutsTo {list name : String} (h : ')' ∈ list.toList) :
    itemsetList? (itemsetReference list) = some name ↔ CutsTo list name := by
  constructor
  · intro hread
    have hname := notMem_of_itemsetList? hread
    obtain ⟨front, rest, hlist, hfront⟩ := List.eq_append_cons_of_mem h
    rw [itemsetList?_itemsetReference_eq, hlist, takeWhile_itemsetReference hfront,
      unquoted?_cons_eq_some_iff] at hread
    obtain ⟨blanks, hblanks, heq⟩ := Text.exists_eq_trimEnd_append front
    refine ⟨blanks, rest, hblanks, hname, ?_⟩
    rw [hlist, heq, hread]
    simp
  · rintro ⟨blanks, rest, hblanks, hname, hlist⟩
    have hfront := notMem_parenthesis_quote hblanks hname
    rw [itemsetList?_itemsetReference_eq, hlist, takeWhile_itemsetReference hfront,
      unquoted?_cons_eq_some_iff, ← List.singleton_append, ← List.append_assoc,
      Text.trimEnd_append_of_isBlank hblanks, trimEnd_append_quote]

theorem itemsetList?_eq_some_iff {list name : String} :
    itemsetList? (itemsetReference list) = some name ↔
      (name = list ∧ ')' ∉ list.toList) ∨ CutsTo list name := by
  by_cases hlist : ')' ∈ list.toList
  · rw [itemsetList?_eq_some_iff_cutsTo hlist]
    simp [hlist]
  · have hcuts : ¬ CutsTo list name := by
      rintro ⟨blanks, rest, -, -, heq⟩
      apply hlist
      rw [heq]
      simp
    rw [itemsetList?_itemsetReference hlist, Option.some_inj, eq_comm]
    simp [hlist, hcuts]

theorem references_read_back (id list : String) :
    itextId? (itextReference id) = some id ∧
    (itemsetList? (itemsetReference list) = some list ↔ ')' ∉ list.toList) ∧
    ∀ name, itemsetList? (itemsetReference list) = some name ↔
      (name = list ∧ ')' ∉ list.toList) ∨ CutsTo list name :=
  ⟨itextId?_itextReference id, ⟨notMem_of_itemsetList?, itemsetList?_itemsetReference⟩,
    fun _ => itemsetList?_eq_some_iff⟩

theorem references_lose_parenthesis :
    TypeCell.parse "select_one a)b" = .ok (.question .selectOne (some "a)b")) ∧
      itemsetList? (itemsetReference "a)b") ≠ some "a)b" := by
  decide +kernel

end Questionnaire.XForm
