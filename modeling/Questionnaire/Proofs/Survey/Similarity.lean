import Questionnaire.Proofs.OrderedMap
import Questionnaire.Proofs.Survey.Declaring
import Questionnaire.Survey.Similarity

/-!
This module contains the theory of similar surveys. Nodes are similar if they are equal once their
expressions are reduced to their text with relative paths.
-/

namespace Questionnaire

def Expression.erased (expression : Expression) : Expression :=
  ⟨"", expression.canonical, []⟩

def Question.erased (question : Question) : Question :=
  { question with
    relevant := question.relevant.map Expression.erased
    constraint := question.constraint.map Expression.erased
    calculation := question.calculation.map Expression.erased }

def Header.erased (header : Header) : Header :=
  { header with relevant := header.relevant.map Expression.erased }

namespace Node

mutual

def erased : Node → Node
  | question q => question q.erased
  | container kind header children => container kind header.erased (erasedAll children)

def erasedAll : List Node → List Node
  | [] => []
  | node :: nodes => erased node :: erasedAll nodes

end

end Node

namespace Expression

theorem sameOption_sameCanonical_iff {a b : Option Expression} :
    sameOption sameCanonical a b = true ↔ a.map erased = b.map erased := by
  cases a with
  | none => cases b <;> simp [sameOption]
  | some a =>
    cases b with
    | none => simp [sameOption]
    | some b => simp [sameOption, sameCanonical, erased]

theorem map_canonical_map_erased (expression : Option Expression) :
    (expression.map erased).map canonical = expression.map canonical := by
  cases expression <;> rfl

end Expression

theorem Question.same_sameCanonical_iff {a b : Question} :
    a.same Expression.sameCanonical b = true ↔ a.erased = b.erased := by
  obtain ⟨name, type, label, hint, required, relevant, constraint, constraintMessage, calculation,
    default, appearance, list⟩ := a
  obtain ⟨name', type', label', hint', required', relevant', constraint', constraintMessage',
    calculation', default', appearance', list'⟩ := b
  simp only [same, erased, Bool.and_eq_true, beq_iff_eq, Expression.sameOption_sameCanonical_iff,
    Question.mk.injEq]
  tauto

theorem Header.same_sameCanonical_iff {a b : Header} :
    a.same Expression.sameCanonical b = true ↔ a.erased = b.erased := by
  obtain ⟨name, label, hint, relevant, appearance⟩ := a
  obtain ⟨name', label', hint', relevant', appearance'⟩ := b
  simp only [same, erased, Bool.and_eq_true, beq_iff_eq, Expression.sameOption_sameCanonical_iff,
    Header.mk.injEq]
  tauto

namespace Node

mutual

theorem same_sameCanonical_iff (a b : Node) :
    a.same Expression.sameCanonical b = true ↔ a.erased = b.erased := by
  cases a with
  | question q =>
    cases b with
    | question q' =>
      rw [same, erased, erased, Question.same_sameCanonical_iff, question.injEq]
    | container kind' header' children' => simp [same, erased]
  | container kind header children =>
    cases b with
    | question q' => simp [same, erased]
    | container kind' header' children' =>
      rw [same, erased, erased, Bool.and_eq_true, Bool.and_eq_true, beq_iff_eq,
        Header.same_sameCanonical_iff, sameAll_sameCanonical_iff children children',
        container.injEq, and_assoc]

theorem sameAll_sameCanonical_iff (as bs : List Node) :
    sameAll Expression.sameCanonical as bs = true ↔ erasedAll as = erasedAll bs := by
  cases as with
  | nil => cases bs <;> simp [sameAll, erasedAll]
  | cons a as =>
    cases bs with
    | nil => simp [sameAll, erasedAll]
    | cons b bs =>
      rw [sameAll, erasedAll, erasedAll, Bool.and_eq_true, same_sameCanonical_iff a b,
        sameAll_sameCanonical_iff as bs, List.cons.injEq]

end

mutual

theorem located_erased (path : NodePath) (node : Node) :
    node.erased.located path =
      (node.located path).map fun inner => ⟨inner.path, inner.node.erased⟩ := by
  cases node with
  | question q => rfl
  | container kind header children =>
    rw [erased, located, located, List.map_cons,
      show header.erased.name = header.name from rfl,
      locatedAll_erasedAll (NodePath.child path header.name) children]
    rfl

theorem locatedAll_erasedAll (path : NodePath) (nodes : List Node) :
    locatedAll path (erasedAll nodes) =
      (locatedAll path nodes).map fun inner => ⟨inner.path, inner.node.erased⟩ := by
  cases nodes with
  | nil => rfl
  | cons node nodes =>
    rw [erasedAll, locatedAll, locatedAll, List.map_append, located_erased path node,
      locatedAll_erasedAll path nodes]

end

theorem exists_located_of_erasedAll {nodes nodes' : List Node}
    (h : erasedAll nodes = erasedAll nodes') {path : NodePath} {located : LocatedNode}
    (hlocated : located ∈ locatedAll path nodes) :
    ∃ located' ∈ locatedAll path nodes', located'.path = located.path ∧
      located'.node.erased = located.node.erased := by
  have herased : (⟨located.path, located.node.erased⟩ : LocatedNode) ∈
      locatedAll path (erasedAll nodes') := by
    rw [← h, locatedAll_erasedAll]
    exact List.mem_map_of_mem hlocated
  rw [locatedAll_erasedAll] at herased
  obtain ⟨located', hlocated', heq⟩ := List.mem_map.1 herased
  obtain ⟨hpath, hnode⟩ := LocatedNode.mk.inj heq
  exact ⟨located', hlocated', hpath, hnode⟩

theorem forall_question_of_erasedAll {p : Question → Prop} (hp : ∀ q : Question, p q.erased ↔ p q)
    {nodes nodes' : List Node} (h : erasedAll nodes = erasedAll nodes') {path : NodePath}
    (hall : ∀ located ∈ locatedAll path nodes', ∀ q, located.node = .question q → p q) :
    ∀ located ∈ locatedAll path nodes, ∀ q, located.node = .question q → p q := by
  intro located hlocated q hq
  obtain ⟨located', hlocated', -, hnode⟩ := exists_located_of_erasedAll h hlocated
  rw [hq] at hnode
  cases hquestion : located'.node with
  | container kind header children =>
    rw [hquestion] at hnode
    cases hnode
  | question q' =>
    rw [hquestion] at hnode
    have herased : q'.erased = q.erased := question.inj hnode
    rw [← hp, ← herased, hp]
    exact hall located' hlocated' q' hquestion

theorem map_locatedAll_eq {α : Type} {f : LocatedNode → α} {nodes nodes' : List Node}
    (h : erasedAll nodes = erasedAll nodes')
    (hf : ∀ path node, f ⟨path, node.erased⟩ = f ⟨path, node⟩) (path : NodePath) :
    (locatedAll path nodes).map f = (locatedAll path nodes').map f := by
  have herased (nodes : List Node) :
      (locatedAll path (erasedAll nodes)).map f = (locatedAll path nodes).map f := by
    rw [locatedAll_erasedAll, List.map_map]
    apply List.map_congr_left
    intro inner hinner
    exact hf inner.path inner.node
  rw [← herased, h, herased]

theorem symbolKind_erased (node : Node) : node.erased.symbolKind = node.symbolKind := by
  cases node with
  | question q => rfl
  | container kind header children => cases kind <;> rfl

theorem list_question?_erased (node : Node) :
    node.erased.question?.bind Question.list = node.question?.bind Question.list := by
  cases node <;> rfl

end Node

theorem Choice.same_self (choice : Choice) : choice.same choice = true := by
  unfold same
  rw [beq_self_eq_true, beq_self_eq_true, OrderedMap.agrees_self (fun value => beq_self_eq_true value)]
  rfl

theorem Choice.same_iff {a b : Choice} :
    a.same b = true ↔
      a.name = b.name ∧ a.label = b.label ∧ a.extras.agrees (· == ·) b.extras = true := by
  unfold same
  rw [Bool.and_eq_true, Bool.and_eq_true, beq_iff_eq, beq_iff_eq, and_assoc]

theorem ChoiceList.same_iff {a b : ChoiceList} :
    a.same b = true ↔
      a.name = b.name ∧ a.choices.Forall₂ (fun a b => a.same b = true) b.choices := by
  have hgo : ∀ as bs, ChoiceList.same.go as bs = true ↔
      as.Forall₂ (fun a b => Choice.same a b = true) bs := by
    intro as
    induction as with
    | nil => intro bs; cases bs <;> simp [ChoiceList.same.go]
    | cons a as ih => intro bs; cases bs <;> simp [ChoiceList.same.go, ih]
  unfold same
  rw [Bool.and_eq_true, beq_iff_eq, hgo]

theorem ChoiceList.same_self (list : ChoiceList) : list.same list = true := by
  have hgo : ∀ choices, ChoiceList.same.go choices choices = true := by
    intro choices
    induction choices with
    | nil => rfl
    | cons choice choices ih =>
      unfold ChoiceList.same.go
      rw [Choice.same_self, ih]
      rfl
  unfold same
  rw [beq_self_eq_true, hgo]
  rfl

namespace Survey

theorem isSimilar_iff {a b : Survey} :
    a.isSimilar b = true ↔
      a.settings = b.settings ∧ a.header.erased = b.header.erased ∧
        Node.erasedAll a.children = Node.erasedAll b.children ∧
        a.usedListsByName.agrees ChoiceList.same b.usedListsByName = true := by
  unfold isSimilar root
  rw [Bool.and_eq_true, Bool.and_eq_true, beq_iff_eq, Node.same_sameCanonical_iff, Node.erased,
    Node.erased, Node.container.injEq, and_assoc]
  simp only [true_and, and_assoc]

/--
Whether a survey asks the same as another one and has the same used lists, in the same order.
-/
structure Restores (restored survey : Survey) : Prop where
  header_eq : restored.header.erased = survey.header.erased
  children_eq : Node.erasedAll restored.children = Node.erasedAll survey.children
  settings_eq : restored.settings = survey.settings
  usedLists_eq : restored.usedLists = survey.usedLists

variable {restored survey : Survey}

theorem symbols_eq_of_erasedAll (hname : restored.rootName = survey.rootName)
    (hchildren : Node.erasedAll restored.children = Node.erasedAll survey.children)
    {table : SymbolTable} (h : survey.symbols = .ok table) : restored.symbols = .ok table := by
  have hsymbols : restored.nodes.map LocatedNode.symbol = survey.nodes.map LocatedNode.symbol := by
    apply Node.map_locatedAll_eq hchildren
    intro path node
    unfold LocatedNode.symbol
    rw [Node.symbolKind_erased]
  unfold symbols at *
  rw [declareAll_eq_ok_iff] at h ⊢
  rw [hname, hsymbols]
  exact h

theorem namedLists_eq_of_erasedAll
    (hchildren : Node.erasedAll restored.children = Node.erasedAll survey.children) :
    restored.namedLists = survey.namedLists := by
  have hlists : restored.nodes.map (fun located => located.node.question?.bind Question.list) =
      survey.nodes.map (fun located => located.node.question?.bind Question.list) := by
    apply Node.map_locatedAll_eq hchildren
    intro path node
    exact Node.list_question?_erased node
  have hmapped := congrArg (List.filterMap id) hlists
  rw [List.filterMap_map, List.filterMap_map] at hmapped
  exact hmapped

namespace Restores

theorem rootName_eq (h : restored.Restores survey) : restored.rootName = survey.rootName := by
  have hname := congrArg Header.name h.header_eq
  exact hname

theorem symbols_eq (h : restored.Restores survey) {table : SymbolTable}
    (htable : survey.symbols = .ok table) : restored.symbols = .ok table :=
  symbols_eq_of_erasedAll h.rootName_eq h.children_eq htable

theorem isSimilar (h : restored.Restores survey) : survey.isSimilar restored = true := by
  have hroot : survey.root.same Expression.sameCanonical restored.root = true := by
    rw [Node.same_sameCanonical_iff]
    unfold root
    rw [Node.erased, Node.erased, h.header_eq, h.children_eq]
  unfold Survey.isSimilar usedListsByName
  rw [h.settings_eq, h.usedLists_eq, hroot, beq_self_eq_true,
    OrderedMap.agrees_self ChoiceList.same_self]
  rfl

end Restores

end Survey

end Questionnaire
