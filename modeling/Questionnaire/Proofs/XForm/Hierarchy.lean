import Questionnaire.Proofs.Earlier
import Questionnaire.Proofs.XForm.Layout
import Questionnaire.Proofs.XForm.Reading

/-!
This module contains how the nodes of a survey follow the primary instance of the form that it was
read from. Every element of the instance is a node, apart from those that hold data of a repeat, and
the body of the form decides with the element what kind of node it is.
-/

namespace Questionnaire.XForm

section Body

mutual

def bodyParts : Element → List Element
  | ⟨tag, attributes, text, children⟩ =>
    let element : Element := ⟨tag, attributes, text, children⟩
    element :: if isBodyContainer element then bodyPartsAll children else []

def bodyPartsAll : List Element → List Element
  | [] => []
  | element :: elements => bodyParts element ++ bodyPartsAll elements

end

theorem bodyParts_eq (element : Element) : bodyParts element =
    element :: if isBodyContainer element then bodyPartsAll element.children else [] := by
  cases element
  rfl

theorem bodyPartsAll_eq (elements : List Element) :
    bodyPartsAll elements = elements.flatMap bodyParts := by
  induction elements with
  | nil => rfl
  | cons element elements ih => rw [bodyPartsAll, List.flatMap_cons, ih]

variable {path? : Element → Option String}

mutual

theorem bodyEntries_eq_filterMap (element : Element) :
    bodyEntries path? element =
      (bodyParts element).filterMap fun part => (path? part).map (·, part) := by
  obtain ⟨tag, attributes, text, children⟩ := element
  rw [bodyEntries_eq, bodyParts]
  dsimp only
  have hinner : (if isBodyContainer ⟨tag, attributes, text, children⟩ then
        bodyEntriesAll path? children else []) =
      (if isBodyContainer ⟨tag, attributes, text, children⟩ then bodyPartsAll children
        else []).filterMap fun part => (path? part).map (·, part) := by
    split
    · exact bodyEntriesAll_eq_filterMap children
    · rfl
  rw [hinner, List.filterMap_cons]
  cases path? ⟨tag, attributes, text, children⟩ <;> rfl

theorem bodyEntriesAll_eq_filterMap (elements : List Element) :
    bodyEntriesAll path? elements =
      (bodyPartsAll elements).filterMap fun part => (path? part).map (·, part) := by
  cases elements with
  | nil => rfl
  | cons element elements =>
    rw [bodyEntriesAll, bodyPartsAll, List.filterMap_append, bodyEntries_eq_filterMap element,
      bodyEntriesAll_eq_filterMap elements]

end

variable (body : Element) (absolute : String)

def isRepeated : Bool :=
  (bodyPartsAll body.children).any fun part =>
    part.localName == "repeat" && part.attribute? "nodeset" == some absolute

def bodyControl? : Option Element :=
  ((bodyPartsAll body.children).filter fun part =>
    part.localName != "repeat" && !isControlPart part &&
      part.attribute? "ref" == some absolute).getLast?

theorem repeatPath?_eq_some_iff {part : Element} : repeatPath? part = some absolute ↔
    part.localName = "repeat" ∧ part.attribute? "nodeset" = some absolute := by
  unfold repeatPath?
  split <;> simp_all

theorem controlPath?_eq_some_iff {part : Element} : controlPath? part = some absolute ↔
    (part.localName ≠ "repeat" ∧ isControlPart part = false) ∧
      part.attribute? "ref" = some absolute := by
  unfold controlPath?
  split
  · simp_all
  · split <;> simp_all

theorem contains_bodyRepeats :
    (OrderedMap.ofList (bodyEntriesAll repeatPath? body.children)).contains absolute =
      isRepeated body absolute := by
  unfold OrderedMap.contains isRepeated
  rw [bodyEntriesAll_eq_filterMap, OrderedMap.get?_ofList_items, Bool.eq_iff_iff,
    List.getLast?_isSome, List.any_eq_true]
  simp [List.filter_eq_nil_iff, repeatPath?_eq_some_iff]

theorem get?_bodyControls :
    (OrderedMap.ofList (bodyEntriesAll controlPath? body.children)).get? absolute =
      bodyControl? body absolute := by
  unfold bodyControl?
  rw [bodyEntriesAll_eq_filterMap, OrderedMap.get?_ofList_items]
  congr 2
  funext part
  rw [Bool.eq_iff_iff]
  simp [controlPath?_eq_some_iff]

end Body

section Kinds

variable (body : Element)

def isReadAsRepeat (absolute : String) (element : Element) : Bool :=
  (element.attribute? templateAttribute).isSome || isRepeated body absolute

def isReadAsGroup (absolute : String) (element : Element) : Bool :=
  !element.children.isEmpty || (bodyControl? body absolute).any (·.localName == "group")

variable (root : String) (path : NodePath)

/--
Whether an element in the container at `path` is a node, with the elements in `front` in front of
it. An element that has the name of a repeat in front of it holds data of that repeat.
-/
def isNode (front : List Element) (element : Element) : Bool :=
  !front.any fun earlier => earlier.localName == element.localName &&
    isReadAsRepeat body (NodePath.absolute root (NodePath.child path earlier.localName)) earlier

theorem isNode_concat (front : List Element) (earlier element : Element) :
    isNode body root path (front ++ [earlier]) element =
      (isNode body root path front element && !(earlier.localName == element.localName &&
        isReadAsRepeat body (NodePath.absolute root (NodePath.child path earlier.localName))
          earlier)) := by
  unfold isNode
  rw [List.any_append, Bool.not_or, List.any_cons, List.any_nil, Bool.or_false]

def nodeElements (elements : List Element) : List Element :=
  filterBehind (isNode body root path) [] elements

end Kinds

inductive Mirrors (body : Element) (root : String) :
    (path : NodePath) → List Element → List Node → Prop
  | nil {path : NodePath} : Mirrors body root path [] []
  | repeating {path : NodePath} {element : Element} {header : Header} {children : List Node}
      {elements : List Element} {nodes : List Node} (hname : header.name = element.localName)
      (hrepeat : isReadAsRepeat body
        (NodePath.absolute root (NodePath.child path element.localName)) element = true)
      (hchildren : Mirrors body root (NodePath.child path element.localName)
        (nodeElements body root (NodePath.child path element.localName) element.children) children)
      (h : Mirrors body root path elements nodes) :
      Mirrors body root path (element :: elements)
        (.container (.block .repeating) header children :: nodes)
  | group {path : NodePath} {element : Element} {header : Header} {children : List Node}
      {elements : List Element} {nodes : List Node} (hname : header.name = element.localName)
      (hrepeat : isReadAsRepeat body
        (NodePath.absolute root (NodePath.child path element.localName)) element = false)
      (hgroup : isReadAsGroup body
        (NodePath.absolute root (NodePath.child path element.localName)) element = true)
      (hchildren : Mirrors body root (NodePath.child path element.localName)
        (nodeElements body root (NodePath.child path element.localName) element.children) children)
      (h : Mirrors body root path elements nodes) :
      Mirrors body root path (element :: elements)
        (.container (.block .group) header children :: nodes)
  | question {path : NodePath} {element : Element} {q : Question} {elements : List Element}
      {nodes : List Node} (hname : q.name = element.localName)
      (hrepeat : isReadAsRepeat body
        (NodePath.absolute root (NodePath.child path element.localName)) element = false)
      (hgroup : isReadAsGroup body
        (NodePath.absolute root (NodePath.child path element.localName)) element = false)
      (h : Mirrors body root path elements nodes) :
      Mirrors body root path (element :: elements) (.question q :: nodes)

section Reading

variable {form : Form} {body : Element}

structure Form.IsShownBy (form : Form) (body : Element) : Prop where
  controls_eq : form.controls = .ofList (bodyEntriesAll controlPath? body.children)
  repeats_eq : form.repeats = .ofList (bodyEntriesAll repeatPath? body.children)

theorem Form.IsShownBy.kindOf_eq (h : form.IsShownBy body) (element : Element) (absolute : String) :
    form.kindOf element absolute =
      if isReadAsRepeat body absolute element then .block .repeating
      else if isReadAsGroup body absolute element then .block .group
      else .question := by
  unfold Form.kindOf isReadAsRepeat isReadAsGroup
  rw [h.repeats_eq, contains_bodyRepeats, h.controls_eq, get?_bodyControls]

theorem Form.IsShownBy.kindOf_eq_repeating_iff (h : form.IsShownBy body) {element : Element}
    {absolute : String} : form.kindOf element absolute = .block .repeating ↔
      isReadAsRepeat body absolute element = true := by
  rw [h.kindOf_eq]
  split
  · next hrepeat => simp [hrepeat]
  · next hrepeat => split <;> simp [hrepeat]

variable {compiler : Compiler} {lists : ChoiceLists} {path : NodePath} {name : String}
  {findings next : Findings} {draft : Draft} {node : Node} {element : Element}

theorem exists_of_readNode_compile_question
    (hkind : form.kindOf element (NodePath.absolute form.rootName path) = .question)
    (hread : form.readNode path name findings element = .ok (draft, next))
    (hcompile : draft.compile compiler lists = .ok node) :
    ∃ q : Question, q.name = name ∧ node = .question q := by
  obtain ⟨symbols, -, asked, texts, groups, hasked, rfl, -⟩ := exists_of_readNode_question hkind hread
  obtain ⟨type, -, list, -, shown, -, message, -, heq⟩ := readQuestion_eq_ok_iff.1 hasked
  cases heq
  rw [Draft.compile] at hcompile
  obtain ⟨q, hq, hcompile⟩ := bind_eq_ok_iff.1 hcompile
  cases hcompile
  obtain ⟨relevant, -, constraint, -, calculation, -, rfl⟩ :=
    Draft.exists_of_compileQuestion (orPlacing_eq_ok_iff.1 hq)
  exact ⟨_, rfl, rfl⟩

theorem exists_of_readNode_compile_block {kind : BlockKind}
    (hkind : form.kindOf element (NodePath.absolute form.rootName path) = .block kind)
    (hread : form.readNode path name findings element = .ok (draft, next))
    (hcompile : draft.compile compiler lists = .ok node) :
    ∃ header children, header.name = name ∧ node = .container (.block kind) header children ∧
    ∃ inner drafts, form.readNodes path [] inner element.children = .ok (drafts, next) ∧
      Draft.compileAll compiler lists drafts = .ok children := by
  obtain ⟨symbols, -, header, hheader, drafts, hdrafts, rfl⟩ := exists_of_readNode_block hkind hread
  unfold Form.readHeader at hheader
  obtain ⟨label, -, hheader⟩ := bind_eq_ok_iff.1 hheader
  obtain ⟨hint, -, hheader⟩ := bind_eq_ok_iff.1 hheader
  cases hheader
  rw [Draft.compile] at hcompile
  obtain ⟨relevant, -, hcompile⟩ := bind_eq_ok_iff.1 hcompile
  obtain ⟨children, hchildren, hcompile⟩ := bind_eq_ok_iff.1 hcompile
  cases hcompile
  exact ⟨_, children, rfl, rfl, _, drafts, hdrafts, hchildren⟩

mutual

theorem mirrors_readNode (hbody : form.IsShownBy body) {path : NodePath} {findings next : Findings}
    {draft : Draft} {node : Node} {elements : List Element} {nodes : List Node} (element : Element)
    (hread : form.readNode (NodePath.child path element.localName) element.localName findings
      element = .ok (draft, next))
    (hcompile : draft.compile compiler lists = .ok node)
    (h : Mirrors body form.rootName path elements nodes) :
    Mirrors body form.rootName path (element :: elements) (node :: nodes) := by
  have hkind := hbody.kindOf_eq element
    (NodePath.absolute form.rootName (NodePath.child path element.localName))
  obtain ⟨tag, attributes, text, inner⟩ := element
  split at hkind
  · next hrepeat =>
    obtain ⟨header, children, hname, rfl, _, drafts, hdrafts, hchildren⟩ :=
      exists_of_readNode_compile_block hkind hread hcompile
    exact .repeating hname hrepeat (mirrors_readNodes hbody inner (fun _ => rfl) hdrafts hchildren) h
  · next hrepeat =>
    rw [Bool.not_eq_true] at hrepeat
    split at hkind
    · next hgroup =>
      obtain ⟨header, children, hname, rfl, _, drafts, hdrafts, hchildren⟩ :=
        exists_of_readNode_compile_block hkind hread hcompile
      exact .group hname hrepeat hgroup
        (mirrors_readNodes hbody inner (fun _ => rfl) hdrafts hchildren) h
    · next hgroup =>
      rw [Bool.not_eq_true] at hgroup
      obtain ⟨q, hname, rfl⟩ := exists_of_readNode_compile_question hkind hread hcompile
      exact .question hname hrepeat hgroup h

theorem mirrors_readNodes (hbody : form.IsShownBy body) {path : NodePath} {findings next : Findings}
    {front : List Element} {repeated : List String} {drafts : List Draft} {nodes : List Node}
    (elements : List Element)
    (hrepeated : ∀ element, isNode body form.rootName path front element =
      !repeated.contains element.localName)
    (hread : form.readNodes path repeated findings elements = .ok (drafts, next))
    (hcompile : Draft.compileAll compiler lists drafts = .ok nodes) :
    Mirrors body form.rootName path
      (filterBehind (isNode body form.rootName path) front elements) nodes := by
  -- By `hrepeated` the names in `repeated` are those of the repeats in `front`.
  cases elements with
  | nil =>
    cases hread
    cases hcompile
    exact .nil
  | cons element elements =>
    rw [Form.readNodes] at hread
    dsimp only at hread
    rw [filterBehind, hrepeated]
    split at hread
    · next hskipped =>
      rw [hskipped, if_neg (by simp)]
      refine mirrors_readNodes hbody elements ?_ hread hcompile
      intro later
      rw [isNode_concat, hrepeated]
      by_cases hname : element.localName = later.localName
      · rw [← hname, hskipped]
        rfl
      · rw [beq_eq_false_iff_ne.2 hname]
        simp
    · next hkept =>
      rw [Bool.not_eq_true] at hkept
      obtain ⟨⟨draft, findings'⟩, hdraft, hread⟩ := bind_eq_ok_iff.1 hread
      obtain ⟨⟨drafts, next'⟩, hdrafts, hread⟩ := bind_eq_ok_iff.1 hread
      cases hread
      rw [Draft.compileAll] at hcompile
      obtain ⟨node, hnode, hcompile⟩ := bind_eq_ok_iff.1 hcompile
      obtain ⟨nodes, hnodes, hcompile⟩ := bind_eq_ok_iff.1 hcompile
      cases hcompile
      rw [hkept, if_pos (by simp)]
      refine mirrors_readNode hbody element hdraft hnode
        (mirrors_readNodes hbody elements ?_ hdrafts hnodes)
      intro later
      rw [isNode_concat, hrepeated]
      simp only [hbody.kindOf_eq_repeating_iff]
      split
      · next hrepeat =>
        rw [hrepeat, Bool.and_true, List.contains_cons, Bool.not_or, Bool.and_comm,
          BEq.comm (a := later.localName)]
      · next hrepeat => simp [hrepeat]

end

end Reading

def primaryRoot? (tree : Element) : Option Element := do
  let head ← find? tree "head"
  let model ← find? head "model"
  let primary ← (findAll model "instance").find? (·.attribute? "id" == none)
  primary.children.head?

theorem require_eq_ok_iff {parent child : Element} {name : String} :
    require parent name = .ok child ↔ find? parent name = some child := by
  unfold require
  cases find? parent name <;> simp

theorem exists_of_ofElement {tree : Element} {form : Form} (h : Form.ofElement tree = .ok form) :
    primaryRoot? tree = some form.instanceRoot ∧
      ∃ body, find? tree "body" = some body ∧ form.IsShownBy body := by
  unfold Form.ofElement at h
  split at h
  · cases h
  · obtain ⟨head, hhead, h⟩ := bind_eq_ok_iff.1 h
    obtain ⟨body, hbody, h⟩ := bind_eq_ok_iff.1 h
    obtain ⟨model, hmodel, h⟩ := bind_eq_ok_iff.1 h
    dsimp only at h
    split at h
    · cases h
    · next root hroot =>
      cases h
      refine ⟨?_, body, require_eq_ok_iff.1 hbody, rfl, rfl⟩
      unfold primaryRoot?
      rw [require_eq_ok_iff.1 hhead, Option.bind_eq_bind, Option.bind_some,
        require_eq_ok_iff.1 hmodel]
      exact hroot

theorem read_mirrors_instance {tree : Element} {options : Options} {reading : Reading}
    (hread : read tree options = .ok reading) :
    ∃ body root, find? tree "body" = some body ∧ primaryRoot? tree = some root ∧
      reading.survey.rootName = root.tag ∧
      Mirrors body root.tag [] (nodeElements body root.tag [] root.children)
        reading.survey.children := by
  obtain ⟨drafting, hdrafting, hfinish⟩ := read_eq_ok hread
  obtain ⟨form, hform, hdrafting⟩ := bind_eq_ok_iff.1 hdrafting
  obtain ⟨groups, -, hdrafting⟩ := bind_eq_ok_iff.1 hdrafting
  obtain ⟨⟨drafts, findings⟩, hdrafts, hdrafting⟩ := bind_eq_ok_iff.1 hdrafting
  cases hdrafting
  obtain ⟨hroot, body, hbody, hshown⟩ := exists_of_ofElement hform
  have hassemble := Drafting.finish_eq_ok hfinish
  unfold Drafting.assemble at hassemble
  obtain ⟨relevant, -, hassemble⟩ := bind_eq_ok_iff.1 hassemble
  obtain ⟨children, hchildren, hassemble⟩ := bind_eq_ok_iff.1 hassemble
  have heq := Except.ok.inj hassemble
  rw [← heq]
  exact ⟨body, form.instanceRoot, hbody, hroot, rfl,
    mirrors_readNodes hshown form.instanceRoot.children (fun _ => rfl) hdrafts hchildren⟩

def households : Element where
  tag := "html"
  children := [
    { tag := "head"
      children := [
        { tag := "model"
          children := [
            { tag := "instance"
              children := [
                { tag := "data"
                  children := [
                    { tag := "house"
                      children := [
                        { tag := "room", attributes := [("jr:template", "")]
                          children := [{ tag := "area" }] },
                        { tag := "room", children := [{ tag := "area", text := some "12" }] },
                        { tag := "street" }] },
                    { tag := "house", children := [{ tag := "cellar" }] },
                    { tag := "remarks" }] }] }] }] },
    { tag := "body"
      children := [
        { tag := "group", attributes := [("ref", "/data/house")]
          children := [
            { tag := "repeat", attributes := [("nodeset", "/data/house")]
              children := [{ tag := "input", attributes := [("ref", "/data/house/street")] }] }] },
        { tag := "group", attributes := [("ref", "/data/remarks")] }] }]

theorem read_households_mirrors_instance :
    ∃ reading, read households {} = .ok reading ∧
      reading.survey.nodes.map LocatedNode.path =
        [["house"], ["house", "room"], ["house", "room", "area"], ["house", "street"],
          ["remarks"]] ∧
      ∃ body root, find? households "body" = some body ∧ primaryRoot? households = some root ∧
      reading.survey.rootName = root.tag ∧
      Mirrors body root.tag [] (nodeElements body root.tag [] root.children)
        reading.survey.children := by
  have hread : (read households {}).toOption.any fun reading =>
      reading.survey.nodes.map LocatedNode.path ==
        [["house"], ["house", "room"], ["house", "room", "area"], ["house", "street"],
          ["remarks"]] := by
    decide +kernel
  obtain ⟨reading, hread, hpaths⟩ := exists_eq_ok_of_any hread
  exact ⟨reading, hread, by simpa using hpaths, read_mirrors_instance hread⟩

end Questionnaire.XForm
