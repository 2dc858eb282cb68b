import Questionnaire.Proofs.Survey.Formed

/-!
This module contains what the two comparisons of surveys mean: identical surveys are equal up to the
order of lists and of further columns, and similar surveys are identical once everything is taken out
of them that does not count.
-/

namespace Questionnaire

structure Choice.IsSame (a b : Choice) : Prop where
  name_eq : a.name = b.name
  label_eq : a.label = b.label
  get?_eq : ∀ column, a.extras.get? column = b.extras.get? column

structure ChoiceList.IsSame (a b : ChoiceList) : Prop where
  name_eq : a.name = b.name
  choices : a.choices.Forall₂ Choice.IsSame b.choices

theorem Choice.same_iff_isSame {a b : Choice} : a.same b = true ↔ a.IsSame b := by
  rw [same_iff, OrderedMap.agrees_beq_iff]
  constructor
  · intro h
    exact ⟨h.1, h.2.1, h.2.2⟩
  · intro h
    exact ⟨h.name_eq, h.label_eq, h.get?_eq⟩

theorem ChoiceList.same_iff_isSame {a b : ChoiceList} : a.same b = true ↔ a.IsSame b := by
  rw [same_iff]
  simp only [Choice.same_iff_isSame]
  constructor
  · intro h
    exact ⟨h.1, h.2⟩
  · intro h
    exact ⟨h.name_eq, h.choices⟩

theorem Expression.sameOption_beq_iff {a b : Option Expression} :
    sameOption (· == ·) a b = true ↔ a = b := by
  cases a with
  | none => cases b <;> simp [sameOption]
  | some a => cases b <;> simp [sameOption]

theorem Question.same_beq_iff {a b : Question} : a.same (· == ·) b = true ↔ a = b := by
  obtain ⟨name, type, label, hint, required, relevant, constraint, constraintMessage, calculation,
    default, appearance, list⟩ := a
  obtain ⟨name', type', label', hint', required', relevant', constraint', constraintMessage',
    calculation', default', appearance', list'⟩ := b
  simp only [same, Bool.and_eq_true, beq_iff_eq, Expression.sameOption_beq_iff, Question.mk.injEq]
  tauto

theorem Header.same_beq_iff {a b : Header} : a.same (· == ·) b = true ↔ a = b := by
  obtain ⟨name, label, hint, relevant, appearance⟩ := a
  obtain ⟨name', label', hint', relevant', appearance'⟩ := b
  simp only [same, Bool.and_eq_true, beq_iff_eq, Expression.sameOption_beq_iff, Header.mk.injEq]
  tauto

namespace Node

mutual

theorem same_beq_iff (a b : Node) : a.same (· == ·) b = true ↔ a = b := by
  cases a with
  | question q =>
    cases b with
    | question q' => rw [same, Question.same_beq_iff, question.injEq]
    | container kind' header' children' => simp [same]
  | container kind header children =>
    cases b with
    | question q' => simp [same]
    | container kind' header' children' =>
      rw [same, Bool.and_eq_true, Bool.and_eq_true, beq_iff_eq, Header.same_beq_iff,
        sameAll_beq_iff children children', container.injEq, and_assoc]

theorem sameAll_beq_iff (as bs : List Node) : sameAll (· == ·) as bs = true ↔ as = bs := by
  cases as with
  | nil => cases bs <;> simp [sameAll]
  | cons a as =>
    cases bs with
    | nil => simp [sameAll]
    | cons b bs =>
      rw [sameAll, Bool.and_eq_true, same_beq_iff a b, sameAll_beq_iff as bs, List.cons.injEq]

end

end Node

namespace Survey

/--
Whether surveys are equal when only the look-ups in their lists and in the further columns of their
choices count, not the order of these. Nodes and choices count in order.
-/
structure IsSame (a b : Survey) : Prop where
  settings_eq : a.settings = b.settings
  root_eq : a.root = b.root
  lists : ∀ name, Option.Rel ChoiceList.IsSame (a.lists.get? name) (b.lists.get? name)

theorem isIdentical_iff {a b : Survey} : a.isIdentical b = true ↔ a.IsSame b := by
  unfold isIdentical
  rw [Bool.and_eq_true, Bool.and_eq_true, beq_iff_eq, Node.same_beq_iff, OrderedMap.agrees_iff]
  simp only [ChoiceList.same_iff_isSame]
  constructor
  · intro h
    exact ⟨h.1.1, h.1.2, h.2⟩
  · intro h
    exact ⟨⟨h.settings_eq, h.root_eq⟩, h.lists⟩

/--
What counts of a survey when it is compared for similarity: its expressions without their source and
their mentions, and of its lists those that a question names.
-/
def essence (survey : Survey) : Survey where
  header := survey.header.erased
  children := Node.erasedAll survey.children
  lists := survey.lists.filterKeys survey.namedLists.contains
  settings := survey.settings

variable {a b : Survey}

theorem root_essence_eq_iff : a.essence.root = b.essence.root ↔
    a.header.erased = b.header.erased ∧ Node.erasedAll a.children = Node.erasedAll b.children := by
  unfold root essence
  rw [Node.container.injEq]
  simp only [true_and]

theorem usedListsByName_eq {survey : Survey}
    (hkeys : ∀ entry ∈ survey.lists.entries, entry.1 = entry.2.name) :
    survey.usedListsByName = survey.essence.lists := by
  have hfilter : survey.lists.entries.filter
      ((fun list => survey.namedLists.contains list.name) ∘ Prod.snd) =
      survey.essence.lists.entries := by
    apply List.filter_congr
    intro entry hentry
    rw [Function.comp_apply, hkeys entry hentry]
  apply OrderedMap.eq_of_entries_eq
  rw [entries_usedListsByName hkeys]
  unfold usedLists
  rw [List.filter_map, List.map_map, hfilter]
  calc survey.essence.lists.entries.map ((fun list => (list.name, list)) ∘ Prod.snd)
      = survey.essence.lists.entries.map id := by
        apply List.map_congr_left
        intro entry hentry
        exact Prod.ext (hkeys entry (List.mem_of_mem_filter hentry)).symm rfl
    _ = survey.essence.lists.entries := List.map_id _

theorem isSimilar_iff_isIdentical_essence (ha : ∀ entry ∈ a.lists.entries, entry.1 = entry.2.name)
    (hb : ∀ entry ∈ b.lists.entries, entry.1 = entry.2.name) :
    (a.isSimilar b = true ↔ a.essence.isIdentical b.essence = true) ∧
      (a.essence.isIdentical b.essence = true ↔ a.essence.IsSame b.essence) := by
  refine ⟨?_, isIdentical_iff⟩
  rw [isSimilar_iff, usedListsByName_eq ha, usedListsByName_eq hb]
  unfold isIdentical
  rw [Bool.and_eq_true, Bool.and_eq_true, beq_iff_eq, Node.same_beq_iff, root_essence_eq_iff]
  simp only [and_assoc]
  rfl

def wells (source : String) (lists : ChoiceLists) : Survey where
  header := { name := "wells" }
  children := [
    .question { name := "depth", type := .integer },
    .question
      { name := "pump", type := .selectOne, list := some "pumps"
        relevant := some ⟨source, "../depth > 10", []⟩ },
    .question { name := "user", type := .selectMultiple, list := some "users" }]
  lists := lists
  settings := {}

theorem isSimilar_iff_isIdentical_essence_wells :
    let pumps (extras : List (String × String)) : String × ChoiceList :=
      ("pumps", ⟨"pumps", [⟨"hand", .plain "Hand pump", .ofList extras⟩]⟩)
    let users : String × ChoiceList := ("users", ⟨"users", [⟨"school", .plain "School", .empty⟩]⟩)
    let a := wells "$\x7bdepth\x7d > 10"
      (.ofList [pumps [("price", "90"), ("parts", "4")], users, ("spare", ⟨"spare", []⟩)])
    let b := wells "../depth>10" (.ofList [users, pumps [("parts", "4"), ("price", "90")]])
    (∀ entry ∈ a.lists.entries, entry.1 = entry.2.name) ∧
      (∀ entry ∈ b.lists.entries, entry.1 = entry.2.name) ∧
      a.isSimilar b = true ∧ a.essence.IsSame b.essence := by
  intro pumps users a b
  have ha : ∀ entry ∈ a.lists.entries, entry.1 = entry.2.name := by decide
  have hb : ∀ entry ∈ b.lists.entries, entry.1 = entry.2.name := by decide
  have hsimilar : a.isSimilar b = true := by decide +kernel
  obtain ⟨hessence, hsame⟩ := isSimilar_iff_isIdentical_essence ha hb
  exact ⟨ha, hb, hsimilar, hsame.1 (hessence.1 hsimilar)⟩

end Survey

end Questionnaire
