import Questionnaire.XForm.Form

/-!
This module contains the building of a survey from an element tree. The primary instance alone
decides which nodes there are and how they nest; binds, controls and texts are looked up by the
paths of its elements.
-/

namespace Questionnaire.XForm

structure Findings where
  symbols : SymbolTable
  groups : ChoiceGroups := {}
deriving Inhabited

def Form.kindOf (form : Form) (element : Element) (absolute : String) : SymbolKind :=
  if (element.attribute? templateAttribute).isSome || form.repeats.contains absolute then
    .block .repeating
  else if !element.children.isEmpty ||
      (form.controls.get? absolute).any (·.localName == "group") then
    .block .group
  else .question

def questionType (bind control : Option Element) : Except Failure QuestionType :=
  let attribute? := fun name => bind.bind (·.attribute? name)
  match attribute? preloadAttribute with
  | some source =>
    let value := (attribute? preloadParamsAttribute).getD ""
    match ofPreload? source value with
    | some type => .ok type
    | none => .error (Cause.unknownType (source ++ " " ++ value)).failure
  | none =>
    match control with
    | none => .ok (if (attribute? "calculate").isSome then .calculate else .hidden)
    | some control =>
      match control.localName with
      | "select1" => .ok .selectOne
      | "select" => .ok .selectMultiple
      | "upload" => .ok (ofMediaType ((control.attribute? "mediatype").getD ""))
      | "trigger" => .ok .acknowledge
      | "input" =>
        if attribute? "readonly" == some alwaysTrue then .ok .note
        else
          let type := (attribute? "type").getD "string"
          match inputType? type with
          | some type => .ok type
          | none => .error (Cause.unknownType type).failure
      | other => .error (FormFault.unsupportedControl other).failure

def Form.setField (form : Form) (name : Option String) (choice : Choice) (field : Element) :
    Except Failure (Option String × Choice) :=
  let value := field.content?.getD ""
  match field.tag with
  | "name" => .ok (some value, choice)
  | "label" => .ok (name, { choice with label := .plain value })
  | "itextId" => do
    let label ← form.attributeText (itextReference value)
    .ok (name, { choice with label })
  | tag => .ok (name, { choice with extras := choice.extras.insert tag value })

def Form.readItem (form : Form) (list : String) (item : Element) : Except Failure Choice := do
  let (name, choice) ← item.children.foldlM
    (fun (name, choice) field => form.setField name choice field) (none, ⟨"", .empty, .empty⟩)
  match name with
  | some name => .ok { choice with name }
  | none => .error (FormFault.unnamedItem list).failure

def itemsOf (element : Element) : List Element :=
  (element.children.head?.map (findAll · "item")).getD []

def Form.takeItem (form : Form) (list : String) (groups : ChoiceGroups) (item : Element) :
    Except Failure ChoiceGroups := do
  let choice ← form.readItem list item
  .ok (groups.add list choice)

def Form.readSecondary (form : Form) (groups : ChoiceGroups) (element : Element) :
    Except Failure ChoiceGroups :=
  (itemsOf element).foldlM (form.takeItem ((element.attribute? "id").getD "")) groups

def Form.readSecondaries (form : Form) : Except Failure ChoiceGroups :=
  form.secondaries.foldlM form.readSecondary {}

def Form.readInlineItem (form : Form) (item : Element) : Except Failure Choice :=
  match (find? item "value").bind Element.content? with
  | none => .error FormFault.itemWithoutValue.failure
  | some value => do
    let label ← form.elementText (find? item "label")
    .ok ⟨value, label, .empty⟩

def Form.readList (form : Form) (question : String) (control : Option Element)
    (groups : ChoiceGroups) : Except Failure (Option String × ChoiceGroups) :=
  match control with
  | none => .ok (none, groups)
  | some control =>
    match find? control "itemset" with
    | some itemset =>
      let reference := (itemset.attribute? "nodeset").getD ""
      match itemsetList? reference with
      | some list => .ok (some list, groups)
      | none => .error (FormFault.unreadableItemset reference).failure
    | none =>
      match findAll control "item" with
      | [] => .ok (none, groups)
      | items =>
        if groups.lists.contains question then
          .error (FormFault.collidingChoices question).failure
        else do
          let groups ← items.foldlM (fun groups item => do
            let choice ← form.readInlineItem item
            .ok (groups.add question choice)) groups
          .ok (some question, groups)

def Form.readTexts (form : Form) (control : Option Element) (absolute : String) :
    Except Failure (Localized × Localized) :=
  match control with
  | some control => do
    let label ← form.elementText (find? control "label")
    let hint ← form.elementText (find? control "hint")
    .ok (label, hint)
  | none => .ok (form.idText (labelId absolute), form.idText (hintId absolute))

def Form.readMessage (form : Form) (bind : Option Element) : Except Failure Localized :=
  match bind.bind (·.attribute? constraintMessageAttribute) with
  | some message => form.attributeText message
  | none => .ok .empty

def Form.readQuestion (form : Form) (name absolute : String) (element : Element)
    (groups : ChoiceGroups) : Except Failure (Question × ExpressionTexts × ChoiceGroups) := do
  let bind := form.binds.get? absolute
  let control := form.controls.get? absolute
  let attribute? := fun name => bind.bind (·.attribute? name)
  let type ← questionType bind control
  let (list, groups) ←
    if type.isSelect then form.readList name control groups else .ok (none, groups)
  let (label, hint) ← form.readTexts control absolute
  let constraintMessage ← form.readMessage bind
  let question : Question :=
    { name, type, label, hint, required := attribute? "required" == some alwaysTrue
      constraintMessage, default := element.content?
      appearance := control.bind (·.attribute? "appearance"), list }
  .ok (question, ⟨attribute? "relevant", attribute? "constraint", attribute? "calculate"⟩, groups)

def Form.readHeader (form : Form) (kind : BlockKind) (name absolute : String) :
    Except Failure Header := do
  let group := form.controls.get? absolute
  let shown := if kind = .repeating then form.repeats.get? absolute else group
  let label ← form.elementText (group.bind (find? · "label"))
  let hint ← form.elementText (group.bind (find? · "hint"))
  .ok { name, label, hint, appearance := shown.bind (·.attribute? "appearance") }

mutual

def Form.readNode (form : Form) (path : NodePath) (name : String) (findings : Findings) :
    Element → Except Failure (Draft × Findings)
  | ⟨tag, attributes, text, children⟩ => do
    let element : Element := ⟨tag, attributes, text, children⟩
    let place := Place.ofNode name
    let absolute := NodePath.absolute form.rootName path
    let kind := form.kindOf element absolute
    let symbols ← placing place (findings.symbols.declare path kind)
    match kind with
    | .question =>
      let (question, expressions, groups) ←
        placing place (form.readQuestion name absolute element findings.groups)
      .ok (.question path place question expressions, ⟨symbols, groups⟩)
    | .block kind =>
      let header ← placing place (form.readHeader kind name absolute)
      let relevant := (form.binds.get? absolute).bind (·.attribute? "relevant")
      let (drafts, findings) ← form.readNodes path [] { findings with symbols } children
      .ok (.block kind path place header relevant drafts, findings)

/--
Read the elements inside the container at `path`. Elements that have the name of a repeat in front
of them hold data of that repeat, and are no nodes; `repeated` are the names of those repeats.
-/
def Form.readNodes (form : Form) (path : NodePath) (repeated : List String) (findings : Findings) :
    List Element → Except Failure (List Draft × Findings)
  | [] => .ok ([], findings)
  | element :: elements =>
    let name := element.localName
    if repeated.contains name then form.readNodes path repeated findings elements
    else do
      let own := NodePath.child path name
      let repeats :=
        form.kindOf element (NodePath.absolute form.rootName own) = .block .repeating
      let (draft, findings) ← form.readNode own name findings element
      let repeated := if repeats then name :: repeated else repeated
      let (drafts, findings) ← form.readNodes path repeated findings elements
      .ok (draft :: drafts, findings)

end

def Form.read (form : Form) (options : Options) : Except Failure Reading := do
  let groups ← form.readSecondaries
  let (drafts, findings) ← form.readNodes [] [] ⟨.empty form.rootName, groups⟩
    form.instanceRoot.children
  let header : Header := { name := form.rootName }
  let draft : SurveyDraft := { place := {}, header, children := drafts }
  draft.compile (Expression.compileTree findings.symbols) findings.groups.lists form.settings
    findings.groups.warnings options

def formCause : Cause → Cause
  | .unknownType token => .unknownType token
  | .malformedForm message => .malformedForm message
  | cause => .malformedForm cause.message

def read (tree : Element) (options : Options) : Except Failure Reading :=
  match Form.ofElement tree >>= (·.read options) with
  | .ok reading => .ok reading
  | .error failure => .error { failure with cause := formCause failure.cause }

end Questionnaire.XForm
