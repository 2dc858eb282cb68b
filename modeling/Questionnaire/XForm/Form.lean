import Questionnaire.Survey.Draft
import Questionnaire.XForm.Vocabulary

/-!
This module contains the parts of a form as found in its element tree: the primary instance, and by
absolute path or id what the rest of the tree says of its elements.
-/

namespace Questionnaire.XForm

inductive FormFault where
  | notHtml (tag : String)
  | missingChild (parent child : String)
  | noPrimaryInstance
  | missingText (id : String)
  | unnamedItem (list : String)
  | unreadableItemset (reference : String)
  | collidingChoices (question : String)
  | itemWithoutValue
  | unsupportedControl (name : String)
deriving DecidableEq, Inhabited

namespace FormFault

def message : FormFault → String
  | notHtml tag => "expected <h:html>, found <" ++ tag ++ ">"
  | missingChild parent child => "<" ++ parent ++ "> has no <" ++ child ++ ">"
  | noPrimaryInstance => "model has no primary instance"
  | missingText id => "no itext entry `" ++ id ++ "`"
  | unnamedItem list => "item in instance `" ++ list ++ "` has no <name>"
  | unreadableItemset reference => "unreadable itemset `" ++ reference ++ "`"
  | collidingChoices question =>
    "inline choices of `" ++ question ++ "` collide with list `" ++ question ++ "`"
  | itemWithoutValue => "inline item has no <value>"
  | unsupportedControl name => "unsupported control <" ++ name ++ ">"

def failure (fault : FormFault) : Failure :=
  (Cause.malformedForm fault.message).failure

end FormFault

def find? (parent : Element) (name : String) : Option Element :=
  parent.children.find? (·.localName == name)

def findAll (parent : Element) (name : String) : List Element :=
  parent.children.filter (·.localName == name)

def require (parent : Element) (name : String) : Except Failure Element :=
  match find? parent name with
  | some child => .ok child
  | none => .error (FormFault.missingChild parent.tag name).failure

def isBodyContainer (element : Element) : Bool :=
  element.localName == "group" || element.localName == "repeat"

def isControlPart (element : Element) : Bool :=
  element.localName == "label" || element.localName == "hint" || element.localName == "value"

def controlPath? (element : Element) : Option String :=
  if element.localName == "repeat" then none
  else if isControlPart element then none
  else element.attribute? "ref"

def repeatPath? (element : Element) : Option String :=
  if element.localName == "repeat" then element.attribute? "nodeset" else none

mutual

def bodyEntries (path? : Element → Option String) : Element → List (String × Element)
  | ⟨tag, attributes, text, children⟩ =>
    let element : Element := ⟨tag, attributes, text, children⟩
    (path? element).toList.map (·, element) ++
      if isBodyContainer element then bodyEntriesAll path? children else []

def bodyEntriesAll (path? : Element → Option String) : List Element → List (String × Element)
  | [] => []
  | element :: elements => bodyEntries path? element ++ bodyEntriesAll path? elements

end

def textValue? (text : Element) : Option String := do
  let value ← (findAll text "value").find? (·.attribute? "form" == none)
  value.content?

def languageOf (translation : Element) : String :=
  (translation.attribute? "lang").getD defaultLanguage

def textEntries (itext : Element) : List (String × String × String) :=
  (findAll itext "translation").flatMap fun translation =>
    (findAll translation "text").filterMap fun text => do
      let id ← text.attribute? "id"
      let value ← textValue? text
      some (id, languageOf translation, value)

def addText (texts : OrderedMap Localized) (id language value : String) : OrderedMap Localized :=
  texts.insert id (((texts.get? id).getD .empty).insert language value)

def markedLanguage? (itext : Element) : Option String :=
  ((findAll itext "translation").filter (·.attribute? "default" == some alwaysTrue)).getLast?.map
    languageOf

/--
The parts of a form. Where two binds, controls or repeats have one path, the later one counts.
-/
structure Form where
  head : Element
  model : Element
  instanceRoot : Element
  secondaries : List Element
  binds : OrderedMap Element
  controls : OrderedMap Element
  repeats : OrderedMap Element
  texts : OrderedMap Localized
  defaultLanguage : Option String
deriving Inhabited

namespace Form

def ofElement (tree : Element) : Except Failure Form :=
  if tree.localName != "html" then .error (FormFault.notHtml tree.tag).failure
  else do
    let head ← require tree "head"
    let body ← require tree "body"
    let model ← require head "model"
    let instances := findAll model "instance"
    let primary? := instances.find? (·.attribute? "id" == none)
    match primary?.bind (·.children.head?) with
    | none => .error FormFault.noPrimaryInstance.failure
    | some instanceRoot =>
      let itext? := find? model "itext"
      .ok
        { head, model, instanceRoot
          secondaries := instances.filter (·.attribute? "id" != none)
          binds := .ofList ((findAll model "bind").filterMap fun bind =>
            (bind.attribute? "nodeset").map (·, bind))
          controls := .ofList (bodyEntriesAll controlPath? body.children)
          repeats := .ofList (bodyEntriesAll repeatPath? body.children)
          texts := (itext?.toList.flatMap textEntries).foldl
            (fun texts (id, language, value) => addText texts id language value) .empty
          defaultLanguage := itext?.bind markedLanguage? }

def rootName (form : Form) : String :=
  form.instanceRoot.tag

def settings (form : Form) : Settings :=
  { title := (find? form.head "title").bind Element.content?
    formId := form.instanceRoot.attribute? "id"
    version := form.instanceRoot.attribute? "version"
    defaultLanguage := form.defaultLanguage
    submissionUrl := (find? form.model "submission").bind (·.attribute? "action") }

def attributeText (form : Form) (value : String) : Except Failure Localized :=
  match itextId? value with
  | none => .ok (.plain (Text.trim value))
  | some id =>
    match form.texts.get? id with
    | some text => .ok text
    | none => .error (FormFault.missingText id).failure

def elementText (form : Form) : Option Element → Except Failure Localized
  | none => .ok .empty
  | some element =>
    match element.attribute? "ref" with
    | some reference => form.attributeText reference
    | none => .ok ((element.content?.map Localized.plain).getD .empty)

def idText (form : Form) (id : String) : Localized :=
  (form.texts.get? id).getD .empty

end Form

end Questionnaire.XForm
