import Questionnaire.Proofs.XForm.Sections

/-!
This module contains how the three structures of a written form agree: its primary instance, its binds
and the controls of its body all follow the nodes of the survey.
-/

namespace Questionnaire

namespace Element

mutual

def elements : Element → List Element
  | ⟨tag, attributes, text, children⟩ => ⟨tag, attributes, text, children⟩ :: elementsAll children

def elementsAll : List Element → List Element
  | [] => []
  | element :: elements' => elements element ++ elementsAll elements'

end

mutual

def paths (path : NodePath) : Element → List NodePath
  | ⟨tag, _, _, children⟩ => NodePath.child path tag :: pathsAll (NodePath.child path tag) children

def pathsAll (path : NodePath) : List Element → List NodePath
  | [] => []
  | element :: elements => paths path element ++ pathsAll path elements

end

theorem elements_eq (element : Element) :
    element.elements = element :: elementsAll element.children := by
  cases element
  rfl

theorem elementsAll_append (elements elements' : List Element) :
    elementsAll (elements ++ elements') = elementsAll elements ++ elementsAll elements' := by
  induction elements with
  | nil => rfl
  | cons element elements ih =>
    rw [List.cons_append, elementsAll, elementsAll, ih, List.append_assoc]

theorem elementsAll_of_leaves {elements : List Element}
    (h : ∀ element ∈ elements, element.children = []) : elementsAll elements = elements := by
  induction elements with
  | nil => rfl
  | cons element elements ih =>
    rw [elementsAll, elements_eq, h element List.mem_cons_self,
      ih fun element helement => h element (List.mem_cons_of_mem _ helement)]
    rfl

theorem filter_elements (p : Element → Bool) (element : Element) :
    element.elements.filter p = [element].filter p ++ (elementsAll element.children).filter p := by
  rw [elements_eq, ← List.singleton_append, List.filter_append]

def pointsTo (name path : String) (element : Element) : Bool :=
  element.attribute? name == some path

end Element

namespace XForm

open Element

inductive ControlTree where
  | node (tag path : String) (inner : List ControlTree)
deriving Inhabited

mutual

def controlTrees : Element → List ControlTree
  | ⟨tag, attributes, text, children⟩ =>
    let element : Element := ⟨tag, attributes, text, children⟩
    match (controlPath? element).or (repeatPath? element) with
    | some path => [.node tag path (controlTreesAll children)]
    | none => controlTreesAll children

def controlTreesAll : List Element → List ControlTree
  | [] => []
  | element :: elements => controlTrees element ++ controlTreesAll elements

end

mutual

/--
The tree of the controls that a node in the container at `path` needs. A hidden question needs none,
and a repeat needs a group around a `repeat`.
-/
def neededControls (root : String) (path : NodePath) : Node → List ControlTree
  | .question q =>
    (controlTag? q.type).toList.map fun tag =>
      .node tag (NodePath.absolute root (NodePath.child path q.name)) []
  | .container kind header children =>
    let own := NodePath.child path header.name
    let absolute := NodePath.absolute root own
    let inner := neededControlsAll root own children
    [.node "group" absolute
      (if kind = .block .repeating then [.node "repeat" absolute inner] else inner)]

def neededControlsAll (root : String) (path : NodePath) : List Node → List ControlTree
  | [] => []
  | node :: nodes => neededControls root path node ++ neededControlsAll root path nodes

end

variable {localized : Bool} {root : String}

mutual

theorem paths_instanceElement (path : NodePath) (node : Node) :
    (instanceElement node).paths path = (node.located path).map LocatedNode.path := by
  cases node with
  | question q => rfl
  | container kind header children =>
    rw [instanceElement, paths, Node.located, List.map_cons,
      pathsAll_instanceElements (NodePath.child path header.name) children]

theorem pathsAll_instanceElements (path : NodePath) (nodes : List Node) :
    pathsAll path (instanceElements nodes) = (Node.locatedAll path nodes).map LocatedNode.path := by
  cases nodes with
  | nil => rfl
  | cons node nodes =>
    rw [instanceElements, pathsAll, Node.locatedAll, List.map_append,
      paths_instanceElement path node, pathsAll_instanceElements path nodes]

end

theorem leaf_of_mem_shownText {tag id : String} {text : Localized} {element : Element}
    (h : element ∈ shownText localized tag id text) :
    element.children = [] ∧ ∀ entry ∈ element.attributes, entry.2 = itextReference id := by
  unfold shownText at h
  split at h
  · cases h
  · split at h
    · cases List.mem_singleton.1 h
      simp
    · cases List.mem_singleton.1 h
      simp [textElement]

theorem leaf_of_mem_shownTexts {absolute : String} {label hint : Localized} {element : Element}
    (h : element ∈ shownTexts localized absolute label hint) :
    element.children = [] ∧ ∀ entry ∈ element.attributes, ∃ id, entry.2 = itextReference id := by
  have hleaf {tag id : String} {text : Localized} (h : element ∈ shownText localized tag id text) :
      element.children = [] ∧ ∀ entry ∈ element.attributes, ∃ id, entry.2 = itextReference id := by
    obtain ⟨hchildren, hattributes⟩ := leaf_of_mem_shownText h
    exact ⟨hchildren, fun entry hentry => ⟨id, hattributes entry hentry⟩⟩
  exact (List.mem_append.1 h).elim hleaf hleaf

section Trees

theorem controlTrees_eq (element : Element) :
    controlTrees element =
      match (controlPath? element).or (repeatPath? element) with
      | some path => [.node element.tag path (controlTreesAll element.children)]
      | none => controlTreesAll element.children := by
  cases element
  rfl

theorem controlTreesAll_append (elements elements' : List Element) :
    controlTreesAll (elements ++ elements') =
      controlTreesAll elements ++ controlTreesAll elements' := by
  induction elements with
  | nil => rfl
  | cons element elements ih =>
    rw [List.cons_append, controlTreesAll, controlTreesAll, ih, List.append_assoc]

theorem controlTreesAll_eq_nil {elements : List Element}
    (h : ∀ element ∈ elements, controlTrees element = []) : controlTreesAll elements = [] := by
  induction elements with
  | nil => rfl
  | cons element elements ih =>
    rw [controlTreesAll, h element List.mem_cons_self,
      ih fun element helement => h element (List.mem_cons_of_mem _ helement), List.append_nil]

theorem controlTreesAll_shownTexts (localized : Bool) (absolute : String) (label hint : Localized) :
    controlTreesAll (shownTexts localized absolute label hint) = [] := by
  apply controlTreesAll_eq_nil
  intro element helement
  have htag := mem_shownTexts helement
  rw [controlTrees_eq, ignoresTexts_controlPath? element htag,
    ignoresTexts_repeatPath? element htag, (leaf_of_mem_shownTexts helement).1]
  rfl

theorem controlTreesAll_itemset (localized : Bool) (list : String) :
    controlTreesAll [itemset localized list] = [] := by
  have hitemset : localPart "itemset" = "itemset" := localPart_eq_self (by decide)
  have hvalue : localPart "value" = "value" := localPart_eq_self (by decide)
  have hlabel : localPart "label" = "label" := localPart_eq_self (by decide)
  simp [itemset, controlTrees, controlTreesAll, controlPath?, repeatPath?, isControlPart, localName,
    attribute?, hitemset, hvalue, hlabel]

theorem controlTreesAll_questionControl (absolute : String) (q : Question) :
    controlTreesAll (questionControl localized absolute q) =
      (controlTag? q.type).toList.map fun tag => .node tag absolute [] := by
  unfold questionControl
  cases htag : controlTag? q.type with
  | none => rfl
  | some tag =>
    obtain ⟨hlocal, hne⟩ := controlTag_ne htag
    simp only [List.mem_cons, not_or] at hne
    have hitemsets : controlTreesAll
        (if q.type.isSelect then (q.list.map (itemset localized)).toList else []) = [] :=
      @itemsets_of_forall localized (controlTreesAll · = []) rfl
        (controlTreesAll_itemset localized) q
    rw [controlTreesAll, controlTrees_eq, controlTreesAll_append, controlTreesAll_shownTexts,
      hitemsets]
    simp [controlPath?, isControlPart, localName, attribute?, hlocal, hne, controlTreesAll]

theorem controlTrees_containerControl (absolute : String) (kind : ContainerKind) (header : Header)
    (inner : List Element) :
    controlTrees (containerControl localized absolute kind header inner) =
      [.node "group" absolute
        (if kind = .block .repeating then [.node "repeat" absolute (controlTreesAll inner)]
          else controlTreesAll inner)] := by
  unfold containerControl
  dsimp only
  split
  · rw [controlTrees_eq, controlTreesAll_append, controlTreesAll_shownTexts]
    simp [controlPath?, repeatPath?, isControlPart, localName, attribute?, localPart_group,
      localPart_repeat, controlTreesAll, controlTrees]
  · rw [controlTrees_eq, controlTreesAll_append, controlTreesAll_shownTexts]
    simp [controlPath?, isControlPart, localName, attribute?, localPart_group]

mutual

theorem controlTreesAll_nodeControls (path : NodePath) (node : Node) :
    controlTreesAll (nodeControls localized root path node) = neededControls root path node := by
  cases node with
  | question q => exact controlTreesAll_questionControl _ q
  | container kind header children =>
    rw [nodeControls, neededControls, controlTreesAll, controlTrees_containerControl,
      controlTreesAll_nodesControls (NodePath.child path header.name) children]
    rfl

theorem controlTreesAll_nodesControls (path : NodePath) (nodes : List Node) :
    controlTreesAll (nodesControls localized root path nodes) = neededControlsAll root path nodes := by
  cases nodes with
  | nil => rfl
  | cons node nodes =>
    rw [nodesControls, controlTreesAll_append, neededControlsAll,
      controlTreesAll_nodeControls path node, controlTreesAll_nodesControls path nodes]

end

end Trees

section Pointers

def NamesNoNode (element : Element) : Prop :=
  ∀ entry ∈ element.attributes, entry.2.toList.head? ≠ some '/'

theorem NamesNoNode.pointsTo_eq {element : Element} (h : NamesNoNode element) (name : String)
    (path : NodePath) : element.pointsTo name (NodePath.absolute root path) = false := by
  unfold pointsTo
  rw [beq_eq_false_iff_ne]
  intro hpath
  apply h _ (OrderedMap.mem_of_lookup_eq_some hpath)
  rw [NodePath.toList_absolute]
  rfl

variable {name : String} {target : NodePath}

theorem filter_eq_nil_of_namesNoNode {elements : List Element}
    (h : ∀ element ∈ elements, NamesNoNode element) :
    elements.filter (pointsTo name (NodePath.absolute root target)) = [] := by
  rw [List.filter_eq_nil_iff]
  intro element helement
  rw [(h element helement).pointsTo_eq]
  exact Bool.false_ne_true

theorem filter_shownTexts (localized : Bool) (absolute : String) (label hint : Localized) :
    (elementsAll (shownTexts localized absolute label hint)).filter
      (pointsTo name (NodePath.absolute root target)) = [] := by
  rw [elementsAll_of_leaves fun element helement => (leaf_of_mem_shownTexts helement).1]
  apply filter_eq_nil_of_namesNoNode
  intro element helement entry hentry
  obtain ⟨id, hid⟩ := (leaf_of_mem_shownTexts helement).2 entry hentry
  rw [hid, toList_itextReference]
  simp

theorem filter_itemset (localized : Bool) (list : String) :
    (elementsAll [itemset localized list]).filter
      (pointsTo name (NodePath.absolute root target)) = [] := by
  have hreference : (itemsetReference list).toList.head? ≠ some '/' := by
    rw [toList_itemsetReference]
    simp
  apply filter_eq_nil_of_namesNoNode
  cases localized with
  | false => simp [itemset, elements, elementsAll, NamesNoNode, hreference]
  | true => simp [itemset, elements, elementsAll, NamesNoNode, hreference]

def pointersOf (localized : Bool) (root : String) (located : LocatedNode) : List Element :=
  (controlOf? localized root located).toList ++ (repeatOf? localized root located).toList

theorem filter_questionControl (own : NodePath) (q : Question) :
    (elementsAll (questionControl localized (NodePath.absolute root own) q)).filter
        (pointsTo name (NodePath.absolute root target)) =
      (pointersOf localized root ⟨own, .question q⟩).filter
        (pointsTo name (NodePath.absolute root target)) := by
  have hitemsets : (elementsAll
      (if q.type.isSelect then (q.list.map (itemset localized)).toList else [])).filter
        (pointsTo name (NodePath.absolute root target)) = [] :=
    @itemsets_of_forall localized (fun itemsets => (elementsAll itemsets).filter
      (pointsTo name (NodePath.absolute root target)) = []) rfl (filter_itemset localized) q
  unfold pointersOf controlOf? repeatOf? questionControl
  dsimp only
  cases htag : controlTag? q.type with
  | none => rfl
  | some tag =>
    dsimp only
    rw [elementsAll, elementsAll, List.append_nil, filter_elements, elementsAll_append,
      List.filter_append, filter_shownTexts, hitemsets]
    simp only [List.append_nil, List.head?_cons, Option.toList_some, Option.toList_none]

theorem filter_containerControl (own : NodePath) (kind : ContainerKind) (header : Header)
    (children : List Node) :
    (elementsAll [containerControl localized (NodePath.absolute root own) kind header
          (nodesControls localized root own children)]).filter
        (pointsTo name (NodePath.absolute root target)) =
      (pointersOf localized root ⟨own, .container kind header children⟩).filter
          (pointsTo name (NodePath.absolute root target)) ++
        (elementsAll (nodesControls localized root own children)).filter
          (pointsTo name (NodePath.absolute root target)) := by
  rw [elementsAll, elementsAll, List.append_nil]
  unfold pointersOf controlOf? repeatOf? containerControl
  dsimp only
  split
  · rw [filter_elements, elementsAll_append, List.filter_append, filter_shownTexts, elementsAll,
      elementsAll, List.append_nil, filter_elements, List.nil_append, List.filter_append,
      List.append_assoc]
    rfl
  · rw [filter_elements, elementsAll_append, List.filter_append, filter_shownTexts, List.nil_append]
    rfl

theorem collectsByNode_pointsTo (localized : Bool) (root name : String) (target : NodePath) :
    CollectsByNode localized root
      (fun elements => (elementsAll elements).filter (pointsTo name (NodePath.absolute root target)))
      fun located => (pointersOf localized root located).filter
        (pointsTo name (NodePath.absolute root target)) where
  nil := rfl
  append := by
    intro elements elements'
    rw [elementsAll_append, List.filter_append]
  question := filter_questionControl
  container := filter_containerControl

theorem attributes_controlOf? {located : LocatedNode} {control : Element}
    (h : controlOf? localized root located = some control) :
    control.attribute? "ref" = some (NodePath.absolute root located.path) ∧
      control.attribute? "nodeset" = none := by
  obtain ⟨path, node⟩ := located
  cases node with
  | question q =>
    unfold controlOf? questionControl at h
    dsimp only at h
    split at h
    · cases h
    · cases h
      simp [attribute?, List.lookup_cons, List.lookup_append, lookup_optionAttribute,
        -List.lookup_eq_none_iff]
  | container kind header children =>
    unfold controlOf? containerControl at h
    dsimp only at h
    split at h
    · cases h
      simp [attribute?]
    · cases h
      simp [attribute?, List.lookup_cons, lookup_optionAttribute, -List.lookup_eq_none_iff]

theorem attributes_repeatOf? {located : LocatedNode} {element : Element}
    (h : repeatOf? localized root located = some element) :
    element.attribute? "ref" = none ∧
      element.attribute? "nodeset" = some (NodePath.absolute root located.path) := by
  obtain ⟨path, node⟩ := located
  cases node with
  | question q => cases h
  | container kind header children =>
    unfold repeatOf? at h
    dsimp only at h
    split at h
    · cases h
      simp [attribute?, List.lookup_cons, lookup_optionAttribute, -List.lookup_eq_none_iff]
    · cases h

theorem map_tag_controlOf?_question (path : NodePath) (q : Question) :
    (controlOf? localized root ⟨path, .question q⟩).toList.map Element.tag =
      (controlTag? q.type).toList := by
  unfold controlOf? questionControl
  dsimp only
  cases controlTag? q.type <;> rfl

theorem map_tag_controlOf?_container (path : NodePath) (kind : ContainerKind) (header : Header)
    (children : List Node) :
    (controlOf? localized root ⟨path, .container kind header children⟩).toList.map Element.tag =
      ["group"] := by
  unfold controlOf? containerControl
  dsimp only
  split <;> rfl

theorem filter_pointsTo {part? : Option Element} {name path : String} {value? : Option String}
    (h : ∀ part, part? = some part → part.attribute? name = value?) :
    part?.toList.filter (pointsTo name path) =
      if value? = some path then part?.toList else [] := by
  cases part? with
  | none => simp
  | some part =>
    have hvalue := h part rfl
    unfold pointsTo
    by_cases hpath : value? = some path <;> simp [hvalue, hpath]

theorem filter_ref_pointersOf (located : LocatedNode) (path : String) :
    (pointersOf localized root located).filter (pointsTo "ref" path) =
      if NodePath.absolute root located.path = path then (controlOf? localized root located).toList
      else [] := by
  unfold pointersOf
  rw [List.filter_append, filter_pointsTo fun part hpart => (attributes_controlOf? hpart).1,
    filter_pointsTo fun part hpart => (attributes_repeatOf? hpart).1]
  simp

theorem filter_nodeset_pointersOf (located : LocatedNode) (path : String) :
    (pointersOf localized root located).filter (pointsTo "nodeset" path) =
      if NodePath.absolute root located.path = path then (repeatOf? localized root located).toList
      else [] := by
  unfold pointersOf
  rw [List.filter_append, filter_pointsTo fun part hpart => (attributes_controlOf? hpart).2,
    filter_pointsTo fun part hpart => (attributes_repeatOf? hpart).2]
  simp

end Pointers

theorem flatMap_eq_of_nodup {α β : Type} {f : α → List β} {items : List α} {item : α}
    (hnodup : items.Nodup) (hitem : item ∈ items)
    (h : ∀ other ∈ items, other ≠ item → f other = []) : items.flatMap f = f item := by
  induction items with
  | nil => cases hitem
  | cons first rest ih =>
    obtain ⟨hfirst, hrest⟩ := List.nodup_cons.1 hnodup
    rw [List.flatMap_cons]
    rcases List.mem_cons.1 hitem with rfl | hmem
    · have hnil : rest.flatMap f = [] := by
        rw [List.flatMap_eq_nil_iff]
        intro other hother
        apply h other (List.mem_cons_of_mem _ hother)
        rintro rfl
        exact hfirst hother
      rw [hnil, List.append_nil]
    · have hne : first ≠ item := by
        rintro rfl
        exact hfirst hmem
      rw [h first List.mem_cons_self hne, List.nil_append]
      exact ih hrest hmem fun other hother => h other (List.mem_cons_of_mem _ hother)

def pointing (tree : Element) (name path : String) : List Element :=
  ((bodies tree).flatMap fun body => elementsAll body.children).filter (pointsTo name path)

def hasBind : Node → Bool
  | .question _ => true
  | .container _ header _ => header.relevant.isSome

/--
Whether the three structures of a form follow the nodes of a survey: each node has its element in the
primary instance, questions and conditional containers have their bind, and whatever is shown has its
control, all in the order of the nodes and all under the absolute path of the node.
-/
structure IsAligned (tree : Element) (survey : Survey) : Prop where
  paths : ∃ root, (primaries tree).map Element.children = [[root]] ∧ root.tag = survey.rootName ∧
    (pathsAll [] root.children).map (NodePath.absolute root.tag) =
      survey.nodes.map fun located => NodePath.absolute survey.rootName located.path
  nodesets : (binds tree).map (·.attribute? "nodeset") =
    (survey.nodes.filter fun located => hasBind located.node).map fun located =>
      some (NodePath.absolute survey.rootName located.path)
  nodup_nodesets : ((binds tree).map (·.attribute? "nodeset")).Nodup
  shown : ∀ path q, ⟨path, .question q⟩ ∈ survey.nodes → q.type.isHidden = false →
    ∃ tag, controlTag? q.type = some tag ∧
      (pointing tree "ref" (NodePath.absolute survey.rootName path)).map Element.tag = [tag]
  hidden : ∀ path q, ⟨path, .question q⟩ ∈ survey.nodes → q.type.isHidden = true →
    pointing tree "ref" (NodePath.absolute survey.rootName path) = []
  groups : ∀ path kind header children, ⟨path, .container kind header children⟩ ∈ survey.nodes →
    (pointing tree "ref" (NodePath.absolute survey.rootName path)).map Element.tag = ["group"]
  repeats : ∀ path kind header children, ⟨path, .container kind header children⟩ ∈ survey.nodes →
    (pointing tree "nodeset" (NodePath.absolute survey.rootName path)).map Element.tag =
      if kind = .block .repeating then ["repeat"] else []
  controls : (bodies tree).flatMap (fun body => controlTreesAll body.children) =
    neededControlsAll survey.rootName [] survey.children

section Alignment

variable {survey : Survey} {table : SymbolTable}

theorem pointing_ofSurvey (hsymbols : survey.symbols = .ok table)
    (hplain : ∀ located ∈ survey.nodes, located.path.IsPlain) {name : String}
    {part : LocatedNode → List Element}
    (hpart : ∀ located path,
      (pointersOf (isLocalized survey) survey.rootName located).filter (pointsTo name path) =
        if NodePath.absolute survey.rootName located.path = path then part located else [])
    {located : LocatedNode} (hlocated : located ∈ survey.nodes) :
    pointing (ofSurvey survey) name (NodePath.absolute survey.rootName located.path) =
      part located := by
  have hnodup : survey.nodes.Nodup := List.Nodup.of_map _ (Survey.nodup_paths_of_symbols hsymbols)
  have hcollect := (collectsByNode_pointsTo (isLocalized survey) survey.rootName name
    located.path).nodes [] survey.children
  unfold pointing
  rw [bodies_ofSurvey, List.flatMap_singleton]
  apply hcollect.trans
  simp only [hpart]
  apply (flatMap_eq_of_nodup hnodup hlocated _).trans (if_pos rfl)
  intro other hother hne
  rw [if_neg]
  intro heq
  exact hne ((absolute_inj hsymbols hplain hother hlocated).1 heq)

theorem nodesets_ofSurvey : (binds (ofSurvey survey)).map (·.attribute? "nodeset") =
    (survey.nodes.filter fun located => hasBind located.node).map fun located =>
      some (NodePath.absolute survey.rootName located.path) := by
  rw [binds_ofSurvey, nodesBinds_eq, List.map_filterMap, ← List.filterMap_eq_map,
    List.filterMap_filter]
  apply List.filterMap_congr
  rintro ⟨path, node⟩ hlocated
  cases node with
  | question q => rfl
  | container kind header children =>
    cases hrelevant : header.relevant <;>
      simp [bindOf?, containerBind, hasBind, hrelevant, attribute?]

theorem ofSurvey_isAligned {draft : Survey} (hvalid : draft.validate = .ok survey)
    (hnames : ∀ located ∈ survey.nodes, Text.isName located.node.name = true) :
    IsAligned (ofSurvey survey) survey := by
  obtain ⟨rfl, ⟨table, hsymbols⟩, -⟩ := Survey.validate_eq_ok_iff.1 hvalid
  have hplain : ∀ located ∈ survey.nodes, located.path.IsPlain := fun located hlocated =>
    (Survey.isNamed_of_isName hnames located hlocated).isPlain
  have href {located : LocatedNode} (hlocated : located ∈ survey.nodes) :
      pointing (ofSurvey survey) "ref" (NodePath.absolute survey.rootName located.path) =
        (controlOf? (isLocalized survey) survey.rootName located).toList :=
    pointing_ofSurvey hsymbols hplain filter_ref_pointersOf hlocated
  have hnodeset {located : LocatedNode} (hlocated : located ∈ survey.nodes) :
      pointing (ofSurvey survey) "nodeset" (NodePath.absolute survey.rootName located.path) =
        (repeatOf? (isLocalized survey) survey.rootName located).toList :=
    pointing_ofSurvey hsymbols hplain filter_nodeset_pointersOf hlocated
  constructor
  case paths =>
    refine ⟨instanceRoot survey, ?_, rfl, ?_⟩
    · rw [primaries_ofSurvey]
      rfl
    · have hpaths := pathsAll_instanceElements [] survey.children
      unfold instanceRoot
      rw [hpaths, List.map_map]
      rfl
  case nodesets => exact nodesets_ofSurvey
  case nodup_nodesets =>
    rw [nodesets_ofSurvey]
    apply List.Nodup.sublist ((List.filter_sublist).map _)
    have hnodup := (nodup_absolutes hsymbols hplain).map fun _ _ => Option.some.inj
    rw [List.map_map] at hnodup
    exact hnodup
  case shown =>
    intro path q hlocated hshown
    rw [href hlocated, map_tag_controlOf?_question]
    cases htag : controlTag? q.type with
    | none =>
      rw [controlTag?_eq_none_iff.1 htag] at hshown
      cases hshown
    | some tag => exact ⟨tag, rfl, rfl⟩
  case hidden =>
    intro path q hlocated hhidden
    rw [href hlocated, ← List.map_eq_nil_iff (f := Element.tag), map_tag_controlOf?_question,
      controlTag?_eq_none_iff.2 hhidden]
    rfl
  case groups =>
    intro path kind header children hlocated
    rw [href hlocated]
    exact map_tag_controlOf?_container path kind header children
  case repeats =>
    intro path kind header children hlocated
    rw [hnodeset hlocated]
    unfold repeatOf?
    dsimp only
    split <;> rfl
  case controls =>
    rw [bodies_ofSurvey, List.flatMap_singleton]
    exact controlTreesAll_nodesControls [] survey.children

end Alignment

def farm : Survey where
  header := { name := "farm" }
  children := [
    .question { name := "area", type := .decimal, label := .plain "Area" },
    .container (.block .group) { name := "land", relevant := some ⟨"", "../area > 0", []⟩ } [
      .container (.block .repeating) { name := "field", label := .plain "Field" } [
        .question { name := "crop", type := .selectOne, list := some "crops" },
        .question { name := "share", type := .calculate, calculation := some ⟨"", "1", []⟩ }],
      .question { name := "start", type := .startTime }]]
  lists := .ofList [("crops", ⟨"crops", [⟨"maize", .plain "Maize", .empty⟩]⟩)]
  settings := {}

theorem ofSurvey_isAligned_farm : farm.validate = .ok farm ∧
    (∀ located ∈ farm.nodes, Text.isName located.node.name = true) ∧
    IsAligned (ofSurvey farm) farm := by
  have hvalid : farm.validate = .ok farm := rfl
  have hnames : ∀ located ∈ farm.nodes, Text.isName located.node.name = true := by decide +kernel
  exact ⟨hvalid, hnames, ofSurvey_isAligned hvalid hnames⟩

end XForm

end Questionnaire
