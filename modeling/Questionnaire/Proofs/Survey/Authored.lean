import Questionnaire.Proofs.Expression.Flat
import Questionnaire.Proofs.Localized
import Questionnaire.Proofs.Survey.Formed
import Questionnaire.Proofs.TypeCell
import Questionnaire.Sheet.ChoiceRow

/-!
This module contains what is known of every survey that was read from a workbook: its texts are
trimmed, its questions hold what their types allow, and its expressions are compiled.
-/

namespace Questionnaire

@[mk_iff]
structure Question.IsAuthored (question : Question) (texts : ExpressionTexts) : Prop where
  isName : Text.isName question.name = true
  label : question.label.IsTidy
  hint : question.hint.IsTidy
  constraintMessage : question.constraintMessage.IsTidy
  relevant : ∀ text ∈ texts.relevant, Text.IsTidy text
  constraint : ∀ text ∈ texts.constraint, Text.IsTidy text
  calculation : ∀ text ∈ texts.calculation, Text.IsTidy text
  default : ∀ text ∈ question.default, Text.IsTidy text
  appearance : ∀ text ∈ question.appearance, Text.IsTidy text
  isContainer_eq : question.type.isContainer = false
  calculation_ne : question.type = .calculate → texts.calculation ≠ none
  calculation_eq : question.type = .hidden → texts.calculation = none
  appearance_eq : question.type.isHidden = true → question.appearance = none
  list : ∀ list ∈ question.list,
    question.type.isSelect = true ∧ Text.IsWord list ∧ QuestionType.AddsWord list

instance (question : Question) (texts : ExpressionTexts) : Decidable (question.IsAuthored texts) :=
  decidable_of_iff _ (Question.isAuthored_iff question texts).symm

@[mk_iff]
structure Header.IsAuthored (header : Header) (text : Option String) : Prop where
  isName : Text.isName header.name = true
  label : header.label.IsTidy
  hint : header.hint.IsTidy
  relevant : ∀ text' ∈ text, Text.IsTidy text'
  appearance : ∀ text ∈ header.appearance, Text.IsTidy text

instance (header : Header) (text : Option String) : Decidable (header.IsAuthored text) :=
  decidable_of_iff _ (Header.isAuthored_iff header text).symm

def Question.texts (question : Question) : ExpressionTexts where
  relevant := question.relevant.map Expression.source
  constraint := question.constraint.map Expression.source
  calculation := question.calculation.map Expression.source

def Question.textsBy (question : Question) (spell : Expression → String) : ExpressionTexts where
  relevant := question.relevant.map spell
  constraint := question.constraint.map spell
  calculation := question.calculation.map spell

def Node.IsAuthored : Node → Prop
  | .question q => q.IsAuthored q.texts
  | .container kind header _ =>
    (∃ block, kind = .block block) ∧ header.IsAuthored (header.relevant.map Expression.source)

def LocatedNode.IsCompiled (table : SymbolTable) (located : LocatedNode) : Prop :=
  ∀ expression ∈ located.node.expressions,
    Expression.compile table expression.source located.path = .ok expression

def ChoiceRow.IsExtra (heading : String) : Prop :=
  (Column.ofHeading heading).base ≠ "label" ∧
    ((Column.ofHeading heading).language = none →
      (Column.ofHeading heading).base ≠ "list_name" ∧ (Column.ofHeading heading).base ≠ "name")

instance (heading : String) : Decidable (ChoiceRow.IsExtra heading) :=
  inferInstanceAs (Decidable (_ ∧ _))

@[mk_iff]
structure Choice.IsAuthored (choice : Choice) : Prop where
  name : Text.IsTidy choice.name
  label : choice.label.IsTidy
  extras : ∀ entry ∈ choice.extras.entries, ChoiceRow.IsExtra entry.1 ∧ Text.IsTidy entry.2

instance (choice : Choice) : Decidable choice.IsAuthored :=
  decidable_of_iff _ (Choice.isAuthored_iff choice).symm

@[mk_iff]
structure ChoiceList.IsAuthored (list : ChoiceList) : Prop where
  name : Text.IsTidy list.name
  choices_ne : list.choices ≠ []
  choices : ∀ choice ∈ list.choices, choice.IsAuthored

instance (list : ChoiceList) : Decidable list.IsAuthored :=
  decidable_of_iff _ (ChoiceList.isAuthored_iff list).symm

@[mk_iff]
structure Settings.IsAuthored (settings : Settings) : Prop where
  title : ∀ text ∈ settings.title, Text.IsTidy text
  formId : ∀ text ∈ settings.formId, Text.IsTidy text
  version : ∀ text ∈ settings.version, Text.IsTidy text
  defaultLanguage : ∀ text ∈ settings.defaultLanguage, Text.IsTidy text
  submissionUrl : ∀ text ∈ settings.submissionUrl, Text.IsTidy text

instance (settings : Settings) : Decidable settings.IsAuthored :=
  decidable_of_iff _ (Settings.isAuthored_iff settings).symm

structure Survey.IsAuthored (survey : Survey) (table : SymbolTable) : Prop where
  symbols_eq : survey.symbols = .ok table
  header_eq : survey.header = { name := survey.rootName }
  rootName : Text.isName survey.rootName = true
  settings : survey.settings.IsAuthored
  nodes : ∀ located ∈ survey.nodes, located.node.IsAuthored ∧ located.IsCompiled table
  keys : ∀ entry ∈ survey.lists.entries, entry.1 = entry.2.name
  lists : ∀ entry ∈ survey.lists.entries, entry.2.IsAuthored
  offers : survey.lists.Offers survey.nodes

def Survey.AvoidsContainers (survey : Survey) : Prop :=
  ∀ table, survey.symbols = .ok table → ∀ located ∈ survey.nodes,
    ∀ expression ∈ located.node.expressions, expression.AvoidsContainers table located.path

instance (survey : Survey) : Decidable survey.AvoidsContainers :=
  match h : survey.symbols with
  | .error failure => .isTrue fun table htable => by
    rw [h] at htable
    cases htable
  | .ok table =>
    decidable_of_iff
      (∀ located ∈ survey.nodes, ∀ expression ∈ located.node.expressions,
        expression.AvoidsContainers table located.path) (by
      unfold Survey.AvoidsContainers
      simp [h])

namespace Node

theorem isName_of_isAuthored {node : Node} (h : node.IsAuthored) : Text.isName node.name = true := by
  cases node with
  | question q => exact Question.IsAuthored.isName h
  | container kind header children => exact h.2.isName

theorem isTidy_of_question {q : Question} {spell : Expression → String}
    (h : q.IsAuthored (q.textsBy spell)) :
    ∀ expression ∈ (question q).expressions, Text.IsTidy (spell expression) := by
  rw [forall_expressions_question]
  refine ⟨?_, ?_, ?_⟩
  · exact fun expression he => h.relevant _ (Option.mem_map_of_mem spell he)
  · exact fun expression he => h.constraint _ (Option.mem_map_of_mem spell he)
  · exact fun expression he => h.calculation _ (Option.mem_map_of_mem spell he)

theorem isTidy_of_header {kind : ContainerKind} {header : Header} {children : List Node}
    {spell : Expression → String} (h : header.IsAuthored (header.relevant.map spell)) :
    ∀ expression ∈ (container kind header children).expressions,
      Text.IsTidy (spell expression) := by
  rw [forall_expressions_container]
  exact fun expression he => h.relevant _ (Option.mem_map_of_mem spell he)

theorem isTidy_source_of_isAuthored {node : Node} (h : node.IsAuthored) :
    ∀ expression ∈ node.expressions, Text.IsTidy expression.source := by
  cases node with
  | question q =>
    have hq : q.IsAuthored (q.textsBy Expression.source) := h
    exact isTidy_of_question hq
  | container kind header children => exact isTidy_of_header h.2

end Node

namespace Survey

variable {survey : Survey} {table : SymbolTable}

theorem IsAuthored.isNamed (h : survey.IsAuthored table) :
    ∀ located ∈ survey.nodes, located.path.IsNamed :=
  Survey.isNamed_of_isName fun located hlocated =>
    Node.isName_of_isAuthored (h.nodes located hlocated).1

theorem IsAuthored.declared (h : survey.IsAuthored table) : table.Declared :=
  declared_of_symbols h.symbols_eq h.isNamed

theorem list_mem_namedLists_of_ne_none
    (h : ∀ located ∈ survey.nodes, ∀ q, located.node = .question q → q.type.isSelect = true →
      q.list ≠ none) :
    ∀ located ∈ survey.nodes, ∀ q, located.node = .question q → q.type.isSelect = true →
      q.list.getD "" ∈ survey.namedLists := by
  intro located hlocated q hq hselect
  obtain ⟨list, hlist⟩ := Option.ne_none_iff_exists'.1 (h located hlocated q hq hselect)
  rw [hlist]
  exact List.mem_filterMap.2 ⟨located, hlocated, by rw [hq]; exact hlist⟩

theorem IsAuthored.list_ne_none (h : survey.IsAuthored table) :
    ∀ located ∈ survey.nodes, ∀ q, located.node = .question q → q.type.isSelect = true →
      q.list ≠ none := by
  intro located hlocated q hq hselect hlist
  have hoffers := h.offers located hlocated q hq hselect
  rw [hlist] at hoffers
  unfold ChoiceLists.requireChoices at hoffers
  dsimp only [Option.getD_none] at hoffers
  split at hoffers
  -- A question without a list is looked up under the empty name, which no list has.
  · next list hget =>
    have hmem := OrderedMap.get?_eq_some_iff.1 hget
    exact (h.lists _ hmem).name.ne_empty (h.keys _ hmem).symm
  · cases hoffers

theorem IsAuthored.list_mem_namedLists (h : survey.IsAuthored table) :
    ∀ located ∈ survey.nodes, ∀ q, located.node = .question q → q.type.isSelect = true →
      q.list.getD "" ∈ survey.namedLists :=
  list_mem_namedLists_of_ne_none h.list_ne_none

theorem IsAuthored.isAuthored_of_mem_usedLists (h : survey.IsAuthored table) :
    ∀ list ∈ survey.usedLists, list.IsAuthored := by
  intro list hlist
  exact h.lists _ (mem_entries_of_mem_usedLists h.keys hlist)

end Survey

section Formed

theorem Question.IsAuthored.isFormed {question : Question} (h : question.IsAuthored question.texts) :
    question.IsFormed where
  label := h.label.isTrimmed
  hint := h.hint.isTrimmed
  constraintMessage := h.constraintMessage.isTrimmed
  default := h.default
  isContainer_eq := h.isContainer_eq
  calculation_ne := by
    intro htype hnone
    apply h.calculation_ne htype
    rw [Question.texts, hnone]
    rfl
  calculation_eq := fun htype => Option.map_eq_none_iff.1 (h.calculation_eq htype)
  list := fun list hlist => (h.list list hlist).1

theorem Node.isFormed_of_isAuthored {node : Node} (h : node.IsAuthored) : node.IsFormed := by
  cases node with
  | question q => exact Question.IsAuthored.isFormed h
  | container kind header children =>
    exact ⟨h.1, h.2.label.isTrimmed, h.2.hint.isTrimmed⟩

theorem Choice.IsAuthored.isFormed {choice : Choice} (h : choice.IsAuthored) : choice.IsFormed where
  name := h.name.trim_eq
  label := h.label.isTrimmed
  extras := by
    rintro ⟨column, value⟩ hentry
    have hname : Column.ofHeading "name" = ⟨"name", none⟩ := by decide +kernel
    have hlabel : Column.ofHeading "label" = ⟨"label", none⟩ := by decide +kernel
    obtain ⟨⟨hne, hfields⟩, hvalue⟩ := h.extras _ hentry
    refine ⟨?_, ?_, hvalue.trim_eq⟩
    · rintro rfl
      rw [hname] at hfields
      exact (hfields rfl).2 rfl
    · rintro rfl
      rw [hlabel] at hne
      exact hne rfl

theorem Survey.IsAuthored.isFormed {survey : Survey} {table : SymbolTable}
    (h : survey.IsAuthored table) : survey.IsFormed table where
  symbols_eq := h.symbols_eq
  header_eq := h.header_eq
  title := h.settings.title
  nodes := fun located hlocated => Node.isFormed_of_isAuthored (h.nodes located hlocated).1
  lists :=
    { keys := h.keys
      lists := fun entry hentry =>
        { choices_ne := (h.lists entry hentry).choices_ne
          choices := fun choice hchoice => ((h.lists entry hentry).choices choice hchoice).isFormed } }
  offers := h.offers

end Formed

end Questionnaire
