import Questionnaire.Proofs.XForm.Questions

/-!
This module contains the reading of the primary instance: every node is taken for what it is, and
the drafts of all nodes come out in their order and nesting.
-/

namespace Questionnaire.XForm

variable {survey : Survey} {table : SymbolTable} {path : NodePath} {header : Header}
  {children : List Node}

theorem localName_of_mem_nodeControls {localized : Bool} {root : String} {path : NodePath}
    {node : Node} {element : Element} (h : element ∈ nodeControls localized root path node) :
    element.localName ≠ "label" ∧ element.localName ≠ "hint" := by
  cases node with
  | question q =>
    rw [nodeControls] at h
    unfold questionControl at h
    split at h
    · cases h
    · next tag htag =>
      obtain ⟨hlocal, hne⟩ := controlTag_ne htag
      cases List.mem_singleton.1 h
      simp only [List.mem_cons, not_or] at hne
      unfold Element.localName
      rw [hlocal]
      exact ⟨hne.2.2.1, hne.2.2.2.1⟩
  | container kind header children =>
    rw [nodeControls] at h
    cases List.mem_singleton.1 h
    unfold containerControl Element.localName
    dsimp only
    split <;> exact ⟨by rw [localPart_group]; decide, by rw [localPart_group]; decide⟩

theorem localName_of_mem_nodesControls {localized : Bool} {root : String} {path : NodePath}
    {nodes : List Node} {element : Element} (h : element ∈ nodesControls localized root path nodes) :
    element.localName ≠ "label" ∧ element.localName ≠ "hint" := by
  induction nodes with
  | nil => cases h
  | cons node nodes ih =>
    rw [nodesControls] at h
    rcases List.mem_append.1 h with h | h
    · exact localName_of_mem_nodeControls h
    · exact ih h

theorem localName_containerControl (localized : Bool) (absolute : String) (kind : ContainerKind)
    (header : Header) (inner : List Element) :
    (containerControl localized absolute kind header inner).localName = "group" := by
  unfold containerControl Element.localName
  dsimp only
  split <;> exact localPart_group

theorem kindOf_written (h : IsPlaced survey table) {node : Node}
    (hlocated : ⟨path, node⟩ ∈ survey.nodes) :
    (partsOf survey).kindOf (instanceElement node) (NodePath.absolute survey.rootName path) =
      node.symbolKind := by
  have hcontrol := get?_controls h hlocated
  have hrepeat := get?_repeats h hlocated
  dsimp only at hcontrol hrepeat
  unfold Form.kindOf OrderedMap.contains
  rw [hcontrol, hrepeat]
  cases node with
  | question q =>
    -- A question is not taken for a group, since its control is none.
    have hgroup : (controlOf? (isLocalized survey) survey.rootName ⟨path, .question q⟩).any
        (·.localName == "group") = false := by
      unfold controlOf?
      dsimp only
      rw [head?_questionControl]
      cases htag : controlTag? q.type with
      | none => rfl
      | some tag =>
        obtain ⟨hlocal, hne⟩ := controlTag_ne htag
        simp only [List.mem_cons, not_or] at hne
        simpa [controlElement, Element.localName, hlocal] using hne.1
    rw [hgroup]
    simp [instanceElement, Element.attribute?, repeatOf?, Node.symbolKind]
  | container kind header children =>
    obtain ⟨⟨block, rfl⟩, -⟩ := h.nodes _ hlocated
    cases block with
    | repeating => simp [instanceElement, Element.attribute?, Node.symbolKind]
    | group =>
      simp [instanceElement, Element.attribute?, repeatOf?, controlOf?, localName_containerControl,
        Node.symbolKind]

theorem findAll_containerControl (localized : Bool) (root : String) (path : NodePath)
    (kind : ContainerKind) (header : Header) (children : List Node) :
    let absolute := NodePath.absolute root path
    let control := containerControl localized absolute kind header
      (nodesControls localized root path children)
    findAll control "label" = shownText localized "label" (labelId absolute) header.label ∧
      findAll control "hint" = shownText localized "hint" (hintId absolute) header.hint := by
  intro absolute control
  -- A repeat has its controls inside an element of its own, a group among its texts.
  by_cases hkind : kind = .block .repeating
  · apply findAll_shownTexts control
      (show control.children = shownTexts localized absolute header.label header.hint ++ _ by
        simp only [control, containerControl, if_pos hkind]
        rfl)
    intro other hother
    cases List.mem_singleton.1 hother
    unfold Element.localName
    rw [localPart_repeat]
    decide
  · apply findAll_shownTexts control
      (show control.children = shownTexts localized absolute header.label header.hint ++ _ by
        simp only [control, containerControl, if_neg hkind]
        rfl)
    intro other hother
    exact localName_of_mem_nodesControls hother

theorem find?_containerControl (localized : Bool) (root : String) (path : NodePath)
    (kind : ContainerKind) (header : Header) (children : List Node) :
    let absolute := NodePath.absolute root path
    let control := containerControl localized absolute kind header
      (nodesControls localized root path children)
    find? control "label" =
        (shownText localized "label" (labelId absolute) header.label).head? ∧
      find? control "hint" = (shownText localized "hint" (hintId absolute) header.hint).head? := by
  intro absolute control
  obtain ⟨hlabel, hhint⟩ := findAll_containerControl localized root path kind header children
  rw [find?_eq_head?_findAll, find?_eq_head?_findAll, hlabel, hhint]
  exact ⟨rfl, rfl⟩

theorem readHeader_written (h : IsPlaced survey table) {kind : BlockKind}
    (hlocated : ⟨path, .container (.block kind) header children⟩ ∈ survey.nodes) :
    (partsOf survey).readHeader kind header.name (NodePath.absolute survey.rootName path) =
      .ok header.bare := by
  have hlabel := shows_nodeText h hlocated
    (show ("label", header.label) ∈ textsOf (.container (.block kind) header children) by
      simp [textsOf])
  have hhint := shows_nodeText h hlocated
    (show ("hint", header.hint) ∈ textsOf (.container (.block kind) header children) by
      simp [textsOf])
  have hcontrol := get?_controls h hlocated
  have hrepeat := get?_repeats h hlocated
  dsimp only at hlabel hhint hcontrol hrepeat
  obtain ⟨hfindLabel, hfindHint⟩ := find?_containerControl (isLocalized survey) survey.rootName path
    (.block kind) header children
  have happearance : (if kind = .repeating then
        (partsOf survey).repeats.get? (NodePath.absolute survey.rootName path)
      else (partsOf survey).controls.get? (NodePath.absolute survey.rootName path)).bind
        (·.attribute? "appearance") = header.appearance := by
    rw [hcontrol, hrepeat]
    cases kind <;>
      simp [repeatOf?, controlOf?, containerControl, Element.attribute?, List.lookup_cons,
        lookup_optionAttribute]
  unfold Form.readHeader
  dsimp only
  rw [happearance, hcontrol]
  unfold controlOf?
  dsimp only [Option.bind_some]
  rw [hfindLabel, hfindHint, labelId_eq, hintId_eq, elementText_shownText hlabel, ok_bind,
    elementText_shownText hhint, ok_bind]
  rfl

theorem rel_treeSpelling (h : IsTied survey table)
    {located : LocatedNode} (hlocated : located ∈ survey.nodes) {expression : Option Expression}
    (hexpression : ∀ expression' ∈ expression, expression' ∈ located.node.expressions) :
    Option.Rel (treeSpelling table located.path) expression
      (expression.map Expression.canonical) := by
  cases expression with
  | none => exact .none
  | some expression =>
    apply Option.Rel.some
    exact h.spelled located hlocated expression (hexpression expression rfl)

section Spec

variable {form : Form} {name : String} {findings next : Findings} {symbols : SymbolTable}
  {element : Element}

theorem readNode_question {question : Question} {expressions : ExpressionTexts}
    {groups : ChoiceGroups}
    (hkind : form.kindOf element (NodePath.absolute form.rootName path) = .question)
    (hdeclare : findings.symbols.declare path .question = .ok symbols)
    (hquestion : form.readQuestion name (NodePath.absolute form.rootName path) element
      findings.groups = .ok (question, expressions, groups)) :
    form.readNode path name findings element =
      .ok (.question path (.ofNode name) question expressions, ⟨symbols, groups⟩) := by
  obtain ⟨tag, attributes, text, children⟩ := element
  rw [Form.readNode]
  dsimp only
  rw [hkind, placing_eq_ok_iff.2 hdeclare, ok_bind]
  dsimp only
  rw [placing_eq_ok_iff.2 hquestion, ok_bind]

theorem readNode_block {kind : BlockKind} {header : Header} {drafts : List Draft}
    (hkind : form.kindOf element (NodePath.absolute form.rootName path) = .block kind)
    (hdeclare : findings.symbols.declare path (.block kind) = .ok symbols)
    (hheader : form.readHeader kind name (NodePath.absolute form.rootName path) = .ok header)
    (hchildren : form.readNodes path [] { findings with symbols } element.children =
      .ok (drafts, next)) :
    form.readNode path name findings element =
      .ok (.block kind path (.ofNode name) header
        ((form.binds.get? (NodePath.absolute form.rootName path)).bind (·.attribute? "relevant"))
        drafts, next) := by
  obtain ⟨tag, attributes, text, children⟩ := element
  rw [Form.readNode]
  dsimp only
  rw [hkind, placing_eq_ok_iff.2 hdeclare, ok_bind]
  dsimp only
  rw [placing_eq_ok_iff.2 hheader, ok_bind]
  dsimp only at hchildren
  rw [hchildren, ok_bind]

end Spec

theorem localName_instanceElement {node : Node} (h : ':' ∉ node.name.toList) :
    (instanceElement node).localName = node.name := by
  cases node <;>
  · rw [instanceElement]
    exact Element.localPart_eq_self h

theorem relevant_written (h : IsPlaced survey table) {kind : ContainerKind}
    (hlocated : ⟨path, .container kind header children⟩ ∈ survey.nodes) :
    ((partsOf survey).binds.get? (NodePath.absolute survey.rootName path)).bind
        (·.attribute? "relevant") = header.relevant.map Expression.canonical := by
  have hbind := get?_binds h hlocated
  dsimp only at hbind
  rw [hbind]
  unfold bindOf? containerBind
  dsimp only
  cases header.relevant <;> rfl

theorem name_notMem_repeated {node : Node} {nodes : List Node} {repeated : List String}
    (hother : ∀ other ∈ nodes, other.name ≠ node.name)
    (hrepeated : ∀ node' ∈ node :: nodes, node'.name ∉ repeated) (isRepeat : Prop)
    [Decidable isRepeat] :
    ∀ node' ∈ nodes, node'.name ∉ if isRepeat then node.name :: repeated else repeated := by
  intro node' hnode'
  have hnot := hrepeated node' (List.mem_cons_of_mem _ hnode')
  split
  · rw [List.mem_cons, not_or]
    exact ⟨hother node' hnode', hnot⟩
  · exact hnot

mutual

theorem readNode_written (h : IsTied survey table) (hshows : ShowsAll survey)
    (path : NodePath) (node : Node) (findings : Findings)
    {symbols : SymbolTable} (hmem : ∀ inner ∈ node.located path, inner ∈ survey.nodes)
    (hdeclares : findings.symbols.DeclaresAll ((node.located path).map LocatedNode.symbol)
      symbols) :
    ∃ draft, (partsOf survey).readNode (NodePath.child path node.name) node.name findings
        (instanceElement node) = .ok (draft, ⟨symbols, findings.groups⟩) ∧
      Draft.Asks (treeSpelling table) path node draft := by
  have hlocated := hmem _ (Node.mem_located path node)
  have hkind := kindOf_written h.toIsPlaced hlocated
  cases node with
  | question q =>
    obtain ⟨next, hdeclare, rfl⟩ := hdeclares
    refine ⟨_, readNode_question hkind hdeclare (readQuestion_written h hshows hlocated _), ?_⟩
    refine ⟨rfl, rfl, ?_, ?_, ?_⟩
    · apply rel_treeSpelling h hlocated
      simp +contextual [Node.expressions]
    · apply rel_treeSpelling h hlocated
      simp +contextual [Node.expressions]
    · apply rel_treeSpelling h hlocated
      simp +contextual [Node.expressions]
  | container kind header children =>
    dsimp only [Node.name] at hlocated hkind ⊢
    obtain ⟨⟨block, rfl⟩, -⟩ := h.nodes _ hlocated
    -- The container is declared in front of its children, as in the survey.
    obtain ⟨next, hdeclare, hinner⟩ := hdeclares
    obtain ⟨drafts, hdrafts, hasks⟩ := readNodes_written h hshows
      (NodePath.child path header.name) children { findings with symbols := next } []
      (fun inner hinner => hmem inner (List.mem_cons_of_mem _ hinner)) hinner (by simp)
    have hchildren : (instanceElement (.container (.block block) header children)).children =
        instanceElements children := by rw [instanceElement]
    have hrelevant := relevant_written h.toIsPlaced hlocated
    rw [← hchildren] at hdrafts
    refine ⟨_, readNode_block hkind hdeclare (readHeader_written h.toIsPlaced hlocated) hdrafts, ?_⟩
    refine ⟨rfl, rfl, rfl, ?_, hasks⟩
    rw [rootName_partsOf, hrelevant]
    apply rel_treeSpelling h hlocated
    simp [Node.expressions]

theorem readNodes_written (h : IsTied survey table) (hshows : ShowsAll survey)
    (path : NodePath) (nodes : List Node) (findings : Findings)
    (repeated : List String) {symbols : SymbolTable}
    (hmem : ∀ inner ∈ Node.locatedAll path nodes, inner ∈ survey.nodes)
    (hdeclares : findings.symbols.DeclaresAll ((Node.locatedAll path nodes).map LocatedNode.symbol)
      symbols)
    (hrepeated : ∀ node ∈ nodes, node.name ∉ repeated) :
    ∃ drafts, (partsOf survey).readNodes path repeated findings (instanceElements nodes) =
        .ok (drafts, ⟨symbols, findings.groups⟩) ∧
      Draft.AsksAll (treeSpelling table) path nodes drafts := by
  cases nodes with
  | nil =>
    cases hdeclares
    exact ⟨[], rfl, trivial⟩
  | cons node nodes =>
    have hname : (instanceElement node).localName = node.name :=
      localName_instanceElement (h.isPlain _ (hmem _ (Node.mem_locatedAll List.mem_cons_self path))
        node.name (by simp [NodePath.child])).2
    have hother := Node.name_ne_of_declaresAll hdeclares
    rw [Node.locatedAll, List.map_append] at hdeclares
    obtain ⟨next, hnode, hnodes⟩ := SymbolTable.declaresAll_append.1 hdeclares
    obtain ⟨draft, hdraft, hasks⟩ := readNode_written h hshows path node findings
      (fun inner hinner => hmem inner (List.mem_append_left _ hinner)) hnode
    rw [instanceElements, Form.readNodes]
    dsimp only
    rw [hname, if_neg (by simpa using hrepeated node List.mem_cons_self), hdraft, ok_bind]
    dsimp only
    obtain ⟨drafts, hdrafts, hasks'⟩ := readNodes_written h hshows path nodes
      ⟨next, findings.groups⟩ _ (fun inner hinner => hmem inner (List.mem_append_right _ hinner))
      hnodes (name_notMem_repeated hother hrepeated ((partsOf survey).kindOf (instanceElement node)
        (NodePath.absolute (partsOf survey).rootName (NodePath.child path node.name)) =
          .block .repeating))
    rw [hdrafts, ok_bind]
    exact ⟨_, rfl, hasks, hasks'⟩

end

end Questionnaire.XForm
