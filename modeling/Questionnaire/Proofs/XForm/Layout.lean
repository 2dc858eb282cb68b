import Questionnaire.Proofs.Survey.Declaring
import Questionnaire.Proofs.XForm.Vocabulary
import Questionnaire.XForm.Form

/-!
This module contains where the walks of the writer leave the parts of a node: its bind, its control
and its `repeat` are found again under its absolute path, whatever container it lies in.
-/

namespace Questionnaire.XForm

variable {localized : Bool} {root : String}

def bindOf? (localized : Bool) (root : String) (located : LocatedNode) : Option Element :=
  let absolute := NodePath.absolute root located.path
  match located.node with
  | .question q => some (questionBind localized absolute q)
  | .container _ header _ => (containerBind absolute header).head?

def controlOf? (localized : Bool) (root : String) (located : LocatedNode) : Option Element :=
  let absolute := NodePath.absolute root located.path
  match located.node with
  | .question q => (questionControl localized absolute q).head?
  | .container kind header children =>
    some (containerControl localized absolute kind header
      (nodesControls localized root located.path children))

def repeatOf? (localized : Bool) (root : String) (located : LocatedNode) : Option Element :=
  let absolute := NodePath.absolute root located.path
  match located.node with
  | .question _ => none
  | .container kind header children =>
    if kind = .block .repeating then
      some
        { tag := "repeat"
          attributes := [("nodeset", absolute)] ++ optionAttribute "appearance" header.appearance
          children := nodesControls localized root located.path children }
    else none

mutual

theorem nodeBinds_eq (localized : Bool) (root : String) (path : NodePath) (node : Node) :
    nodeBinds localized root path node =
      (node.located path).filterMap (bindOf? localized root) := by
  cases node with
  | question q => rfl
  | container kind header children =>
    rw [nodeBinds, Node.located, List.filterMap_cons,
      nodesBinds_eq localized root (NodePath.child path header.name) children]
    cases hrelevant : header.relevant <;> simp [bindOf?, containerBind, hrelevant]

theorem nodesBinds_eq (localized : Bool) (root : String) (path : NodePath) (nodes : List Node) :
    nodesBinds localized root path nodes =
      (Node.locatedAll path nodes).filterMap (bindOf? localized root) := by
  cases nodes with
  | nil => rfl
  | cons node nodes =>
    rw [nodesBinds, Node.locatedAll, List.filterMap_append, nodeBinds_eq localized root path node,
      nodesBinds_eq localized root path nodes]

end

theorem nodeset_bindOf? {located : LocatedNode} {bind : Element}
    (h : bindOf? localized root located = some bind) :
    bind.attribute? "nodeset" = some (NodePath.absolute root located.path) := by
  obtain ⟨path, node⟩ := located
  cases node with
  | question q =>
    cases h
    rfl
  | container kind header children =>
    unfold bindOf? containerBind at h
    dsimp only at h
    split at h
    · cases h
    · cases h
      rfl

theorem tag_bindOf? {located : LocatedNode} {bind : Element}
    (h : bindOf? localized root located = some bind) : bind.tag = "bind" := by
  obtain ⟨path, node⟩ := located
  cases node with
  | question q =>
    cases h
    rfl
  | container kind header children =>
    unfold bindOf? containerBind at h
    dsimp only at h
    split at h
    · cases h
    · cases h
      rfl

theorem bodyEntriesAll_append (path? : Element → Option String) (elements elements' : List Element) :
    bodyEntriesAll path? (elements ++ elements') =
      bodyEntriesAll path? elements ++ bodyEntriesAll path? elements' := by
  induction elements with
  | nil => rfl
  | cons element elements ih =>
    rw [List.cons_append, bodyEntriesAll, bodyEntriesAll, ih, List.append_assoc]

def IgnoresTexts (path? : Element → Option String) : Prop :=
  ∀ element : Element, element.tag = "label" ∨ element.tag = "hint" → path? element = none

theorem localName_text {element : Element} (h : element.tag = "label" ∨ element.tag = "hint") :
    element.localName = "label" ∨ element.localName = "hint" := by
  rcases h with h | h
  · exact Or.inl (Element.localName_eq h (by decide))
  · exact Or.inr (Element.localName_eq h (by decide))

theorem ignoresTexts_controlPath? : IgnoresTexts controlPath? := by
  intro element h
  rcases localName_text h with hname | hname <;> simp [controlPath?, isControlPart, hname]

theorem ignoresTexts_repeatPath? : IgnoresTexts repeatPath? := by
  intro element h
  rcases localName_text h with hname | hname <;> simp [repeatPath?, hname]

theorem mem_shownText {tag id : String} {text : Localized} {element : Element}
    (h : element ∈ shownText localized tag id text) : element.tag = tag := by
  unfold shownText at h
  split at h
  · cases h
  · split at h
    · cases List.mem_singleton.1 h
      rfl
    · cases List.mem_singleton.1 h
      rfl

theorem mem_shownTexts {absolute : String} {label hint : Localized} {element : Element}
    (h : element ∈ shownTexts localized absolute label hint) :
    element.tag = "label" ∨ element.tag = "hint" := by
  rcases List.mem_append.1 h with h | h
  · exact Or.inl (mem_shownText h)
  · exact Or.inr (mem_shownText h)

theorem bodyEntriesAll_texts {path? : Element → Option String} (hpath : IgnoresTexts path?)
    {elements : List Element}
    (h : ∀ element ∈ elements, element.tag = "label" ∨ element.tag = "hint") :
    bodyEntriesAll path? elements = [] := by
  induction elements with
  | nil => rfl
  | cons element elements ih =>
    have htag := h element List.mem_cons_self
    have hnone := hpath element htag
    have hcontainer : isBodyContainer element = false := by
      rcases localName_text htag with hname | hname <;> simp [isBodyContainer, hname]
    obtain ⟨tag, attributes, text, children⟩ := element
    rw [bodyEntriesAll, bodyEntries, ih fun element helement => h element
      (List.mem_cons_of_mem _ helement)]
    simp [hnone, hcontainer]

theorem bodyEntriesAll_shownTexts {path? : Element → Option String} (hpath : IgnoresTexts path?)
    (localized : Bool) (absolute : String) (label hint : Localized) :
    bodyEntriesAll path? (shownTexts localized absolute label hint) = [] :=
  bodyEntriesAll_texts hpath fun _ helement => mem_shownTexts helement

theorem bodyEntries_eq (path? : Element → Option String) (element : Element) :
    bodyEntries path? element = (path? element).toList.map (·, element) ++
      if isBodyContainer element then bodyEntriesAll path? element.children else [] := by
  obtain ⟨tag, attributes, text, children⟩ := element
  rw [bodyEntries]

def partAt? (root : String) (part? : LocatedNode → Option Element) (located : LocatedNode) :
    Option (String × Element) :=
  (part? located).map (NodePath.absolute root located.path, ·)

structure CollectsByNode {α : Type} (localized : Bool) (root : String)
    (collect : List Element → List α) (part : LocatedNode → List α) : Prop where
  nil : collect [] = []
  append : ∀ elements elements',
    collect (elements ++ elements') = collect elements ++ collect elements'
  question : ∀ own q,
    collect (questionControl localized (NodePath.absolute root own) q) = part ⟨own, .question q⟩
  container : ∀ own kind header children,
    collect [containerControl localized (NodePath.absolute root own) kind header
        (nodesControls localized root own children)] =
      part ⟨own, .container kind header children⟩ ++
        collect (nodesControls localized root own children)

section ByNode

variable {α : Type} {collect : List Element → List α} {part : LocatedNode → List α}

mutual

theorem CollectsByNode.node (h : CollectsByNode localized root collect part) (path : NodePath)
    (node : Node) :
    collect (nodeControls localized root path node) = (node.located path).flatMap part := by
  cases node with
  | question q => rw [nodeControls, Node.located, h.question, List.flatMap_singleton]
  | container kind header children =>
    rw [nodeControls, Node.located, h.container, List.flatMap_cons,
      h.nodes (NodePath.child path header.name) children]

theorem CollectsByNode.nodes (h : CollectsByNode localized root collect part) (path : NodePath)
    (nodes : List Node) :
    collect (nodesControls localized root path nodes) =
      (Node.locatedAll path nodes).flatMap part := by
  cases nodes with
  | nil => exact h.nil
  | cons node nodes =>
    rw [nodesControls, h.append, Node.locatedAll, List.flatMap_append, h.node path node,
      h.nodes path nodes]

end

end ByNode

structure Collects (localized : Bool) (root : String) (path? : Element → Option String)
    (part? : LocatedNode → Option Element) : Prop where
  question : ∀ own q,
    bodyEntriesAll path? (questionControl localized (NodePath.absolute root own) q) =
      (partAt? root part? ⟨own, .question q⟩).toList
  container : ∀ own kind header children,
    bodyEntries path? (containerControl localized (NodePath.absolute root own) kind header
        (nodesControls localized root own children)) =
      (partAt? root part? ⟨own, .container kind header children⟩).toList ++
        bodyEntriesAll path? (nodesControls localized root own children)

section Entries

variable {path? : Element → Option String} {part? : LocatedNode → Option Element}

theorem Collects.collectsByNode (h : Collects localized root path? part?) :
    CollectsByNode localized root (bodyEntriesAll path?)
      fun located => (partAt? root part? located).toList where
  nil := rfl
  append := bodyEntriesAll_append path?
  question := h.question
  container := by
    intro own kind header children
    rw [bodyEntriesAll, bodyEntriesAll, List.append_nil, h.container]

theorem Collects.nodes (h : Collects localized root path? part?) (path : NodePath)
    (nodes : List Node) :
    bodyEntriesAll path? (nodesControls localized root path nodes) =
      (Node.locatedAll path nodes).filterMap (partAt? root part?) := by
  rw [h.collectsByNode.nodes, List.filterMap_eq_flatMap_toList]

end Entries

theorem itemsets_of_forall {P : List Element → Prop} (hnil : P [])
    (hitemset : ∀ list, P [itemset localized list]) (q : Question) :
    P (if q.type.isSelect then (q.list.map (itemset localized)).toList else []) := by
  split
  · cases q.list with
    | none => exact hnil
    | some list => exact hitemset list
  · exact hnil

theorem controlTag?_eq_some {type : QuestionType} {tag : String} (h : controlTag? type = some tag) :
    tag ∈ ["select1", "select", "trigger", "upload", "input"] := by
  cases type <;> cases h <;> decide

theorem controlTag?_eq_none_iff {type : QuestionType} :
    controlTag? type = none ↔ type.isHidden = true := by
  cases type <;> decide

theorem controlTag_ne {type : QuestionType} {tag : String} (h : controlTag? type = some tag) :
    Element.localPart tag = tag ∧
      tag ∉ ["group", "repeat", "label", "hint", "value", "itemset", "item"] := by
  have hall : ∀ tag ∈ ["select1", "select", "trigger", "upload", "input"],
      ':' ∉ tag.toList ∧ tag ∉ ["group", "repeat", "label", "hint", "value", "itemset", "item"] := by
    decide
  obtain ⟨hcolon, hne⟩ := hall tag (controlTag?_eq_some h)
  exact ⟨Element.localPart_eq_self hcolon, hne⟩

theorem localPart_group : Element.localPart "group" = "group" :=
  Element.localPart_eq_self (by decide)

theorem localPart_repeat : Element.localPart "repeat" = "repeat" :=
  Element.localPart_eq_self (by decide)

theorem collects_controls (localized : Bool) (root : String) :
    Collects localized root controlPath? (controlOf? localized root) where
  question := by
    intro own q
    unfold questionControl partAt? controlOf? questionControl
    dsimp only
    cases htag : controlTag? q.type with
    | none => rfl
    | some tag =>
      obtain ⟨hlocal, hne⟩ := controlTag_ne htag
      simp only [List.mem_cons, not_or] at hne
      simp [bodyEntriesAll, bodyEntries, controlPath?, isControlPart, isBodyContainer,
        Element.localName, Element.attribute?, hlocal, hne]
  container := by
    intro own kind header children
    have htexts := bodyEntriesAll_shownTexts ignoresTexts_controlPath? localized
      (NodePath.absolute root own) header.label header.hint
    rw [bodyEntries_eq]
    unfold partAt? controlOf? containerControl
    dsimp only
    split
    · simp [controlPath?, isControlPart, isBodyContainer, Element.localName, Element.attribute?,
        localPart_group, localPart_repeat, bodyEntriesAll_append, htexts, bodyEntriesAll,
        bodyEntries]
    · simp [controlPath?, isControlPart, isBodyContainer, Element.localName, Element.attribute?,
        localPart_group, bodyEntriesAll_append, htexts]

theorem collects_repeats (localized : Bool) (root : String) :
    Collects localized root repeatPath? (repeatOf? localized root) where
  question := by
    intro own q
    unfold questionControl partAt? repeatOf?
    dsimp only
    cases htag : controlTag? q.type with
    | none => rfl
    | some tag =>
      obtain ⟨hlocal, hne⟩ := controlTag_ne htag
      simp only [List.mem_cons, not_or] at hne
      simp [bodyEntriesAll, bodyEntries, repeatPath?, isBodyContainer, Element.localName, hlocal,
        hne]
  container := by
    intro own kind header children
    have htexts := bodyEntriesAll_shownTexts ignoresTexts_repeatPath? localized
      (NodePath.absolute root own) header.label header.hint
    rw [bodyEntries_eq]
    unfold partAt? repeatOf? containerControl
    dsimp only
    split
    · simp [repeatPath?, isBodyContainer, Element.localName, Element.attribute?,
        localPart_group, localPart_repeat, bodyEntriesAll_append, htexts, bodyEntriesAll,
        bodyEntries]
    · simp [repeatPath?, isBodyContainer, Element.localName, localPart_group,
        bodyEntriesAll_append, htexts]

end Questionnaire.XForm
