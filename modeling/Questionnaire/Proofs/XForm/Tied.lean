import Questionnaire.Proofs.Survey.Formed
import Questionnaire.Proofs.XForm.Vocabulary

/-!
This module contains what the form of a survey depends on: names that tie its parts together again,
and a place in it for everything that the survey has.
-/

namespace Questionnaire.XForm

def treeSpelling (table : SymbolTable) : Spelling := fun path expression text =>
  ∃ flat, Expression.compileTree table text path = .ok { expression with source := flat }

theorem isReadBy_treeSpelling (table : SymbolTable) :
    (treeSpelling table).IsReadBy (Expression.compileTree table) := by
  rintro path expression text ⟨flat, hcompile⟩
  exact ⟨_, hcompile, rfl⟩

section Absolutes

variable {survey : Survey} {table : SymbolTable}

theorem absolute_inj (hsymbols : survey.symbols = .ok table)
    (hplain : ∀ located ∈ survey.nodes, located.path.IsPlain) {located located' : LocatedNode}
    (hlocated : located ∈ survey.nodes) (hlocated' : located' ∈ survey.nodes) :
    NodePath.absolute survey.rootName located.path =
        NodePath.absolute survey.rootName located'.path ↔ located = located' := by
  constructor
  · intro heq
    apply Survey.eq_of_path_eq hsymbols hlocated hlocated'
    exact NodePath.absolute_injective (hplain located hlocated) (hplain located' hlocated') heq
  · rintro rfl
    rfl

theorem nodup_absolutes (hsymbols : survey.symbols = .ok table)
    (hplain : ∀ located ∈ survey.nodes, located.path.IsPlain) :
    (survey.nodes.map fun located => NodePath.absolute survey.rootName located.path).Nodup := by
  apply List.Nodup.map_on _ (List.Nodup.of_map _ (Survey.nodup_paths_of_symbols hsymbols))
  intro located hlocated located' hlocated' heq
  exact (absolute_inj hsymbols hplain hlocated hlocated').1 heq

end Absolutes

structure IsPlaced (survey : Survey) (table : SymbolTable) : Prop
    extends Survey.IsFormed survey table where
  isPlain : ∀ located ∈ survey.nodes, located.path.IsPlain

structure IsTied (survey : Survey) (table : SymbolTable) : Prop
    extends IsPlaced survey table where
  namedLists : ∀ list ∈ survey.namedLists, ')' ∉ list.toList
  extras : ∀ list ∈ survey.usedLists, ∀ choice ∈ list.choices, "itextId" ∉ choice.extras.keys
  spelled : ∀ located ∈ survey.nodes, ∀ expression ∈ located.node.expressions,
    treeSpelling table located.path expression expression.canonical

/--
Whether the items of a list refer to their own labels. The reader trims the id that an item gives, so
that it may be the id of another text.
-/
def NamesLabels (survey : Survey) (list : ChoiceList) : Prop :=
  isLocalized survey = true → ∀ pair ∈ list.choices.zipIdx, pair.1.label.isEmpty = false →
    (Text.trim (choiceId list.name pair.2), pair.1.label) ∈ surveyTexts survey

instance (survey : Survey) (list : ChoiceList) : Decidable (NamesLabels survey list) :=
  inferInstanceAs (Decidable (_ → ∀ pair ∈ list.choices.zipIdx, _))

/--
Whether a form has a place for everything in a survey: an appearance needs a control, and the choices
of a question an itemset. A message that looks like a reference to a text is taken for one.
-/
@[mk_iff]
structure ShowsAll (survey : Survey) : Prop where
  appearances : ∀ located ∈ survey.nodes, ∀ question ∈ located.node.question?,
    question.type.isHidden = true → question.appearance = none
  choices : ∀ located ∈ survey.nodes, ∀ question ∈ located.node.question?,
    question.type.isSelect = true → question.list.getD "" ∈ survey.namedLists
  labels : ∀ list ∈ survey.usedLists, NamesLabels survey list
  messages : isLocalized survey = false → ∀ located ∈ survey.nodes,
    ∀ question ∈ located.node.question?, ∀ message ∈ question.constraintMessage.defaultText?,
      itextId? message = none

theorem ShowsAll.list_mem_namedLists {survey : Survey} (h : ShowsAll survey) :
    ∀ located ∈ survey.nodes, ∀ question, located.node = .question question →
      question.type.isSelect = true → question.list.getD "" ∈ survey.namedLists := by
  intro located hlocated question hquestion
  exact h.choices located hlocated question (Node.question?_eq_some_iff.2 hquestion)

instance (survey : Survey) : Decidable (ShowsAll survey) :=
  decidable_of_iff _ (showsAll_iff survey).symm

end Questionnaire.XForm
