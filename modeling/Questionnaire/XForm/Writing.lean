import Questionnaire.Survey.Basic
import Questionnaire.XForm.Vocabulary

/-!
This module contains the writing of a survey as a form. The primary instance, the binds, the
controls of the body and the texts are each made by a walk of their own through the nodes, and tied
together by the absolute paths of the nodes.
-/

namespace Questionnaire.XForm

abbrev TextEntries := List (String × Localized)

def optionAttribute (name : String) (value : Option String) : List (String × String) :=
  (value.map (name, ·)).toList

def textElement (tag text : String) : Element :=
  { tag, text := some text }

def choiceId (list : String) (index : Nat) : String :=
  list ++ "-" ++ toString index

mutual

def instanceElement : Node → Element
  | .question q => { tag := q.name, text := q.default }
  | .container kind header children =>
    { tag := header.name
      attributes := if kind = .block .repeating then [(templateAttribute, "")] else []
      children := instanceElements children }

def instanceElements : List Node → List Element
  | [] => []
  | node :: nodes => instanceElement node :: instanceElements nodes

end

def textAttribute (localized : Bool) (id : String) (text : Localized) : Option String :=
  if text.isEmpty then none
  else if localized then some (itextReference id)
  else text.defaultText?

def questionBind (localized : Bool) (absolute : String) (q : Question) : Element :=
  let message := textAttribute localized (constraintMessageId absolute) q.constraintMessage
  { tag := "bind"
    attributes :=
      [("nodeset", absolute), ("type", bindType q.type)] ++
        optionAttribute "relevant" (q.relevant.map Expression.canonical) ++
        optionAttribute "constraint" (q.constraint.map Expression.canonical) ++
        optionAttribute "calculate" (q.calculation.map Expression.canonical) ++
        optionAttribute constraintMessageAttribute message ++
        (if q.required then [("required", alwaysTrue)] else []) ++
        (if q.type = .note then [("readonly", alwaysTrue)] else []) ++
        match preload? q.type with
        | some (source, value) => [(preloadAttribute, source), (preloadParamsAttribute, value)]
        | none => [] }

def containerBind (absolute : String) (header : Header) : List Element :=
  match header.relevant with
  | none => []
  | some relevant =>
    [{ tag := "bind", attributes := [("nodeset", absolute), ("relevant", relevant.canonical)] }]

mutual

def nodeBinds (localized : Bool) (root : String) (path : NodePath) : Node → List Element
  | .question q =>
    [questionBind localized (NodePath.absolute root (NodePath.child path q.name)) q]
  | .container _ header children =>
    let own := NodePath.child path header.name
    containerBind (NodePath.absolute root own) header ++ nodesBinds localized root own children

def nodesBinds (localized : Bool) (root : String) (path : NodePath) : List Node → List Element
  | [] => []
  | node :: nodes => nodeBinds localized root path node ++ nodesBinds localized root path nodes

end

def shownText (localized : Bool) (tag id : String) (text : Localized) : List Element :=
  if text.isEmpty then []
  else if localized then [{ tag, attributes := [("ref", itextReference id)] }]
  else [textElement tag (text.defaultText?.getD "")]

def shownTexts (localized : Bool) (absolute : String) (label hint : Localized) : List Element :=
  shownText localized "label" (labelId absolute) label ++
    shownText localized "hint" (hintId absolute) hint

def itemset (localized : Bool) (list : String) : Element :=
  let label := if localized then "jr:itext(itextId)" else "label"
  { tag := "itemset"
    attributes := [("nodeset", itemsetReference list)]
    children :=
      [{ tag := "value", attributes := [("ref", "name")] },
        { tag := "label", attributes := [("ref", label)] }] }

def controlTag? (type : QuestionType) : Option String :=
  match type with
  | .selectOne => some "select1"
  | .selectMultiple => some "select"
  | .acknowledge => some "trigger"
  | type => if type.isMedia then some "upload" else if type.isHidden then none else some "input"

def questionControl (localized : Bool) (absolute : String) (q : Question) : List Element :=
  match controlTag? q.type with
  | none => []
  | some tag =>
    [{ tag
       attributes :=
        [("ref", absolute)] ++ optionAttribute "mediatype" (mediaType? q.type) ++
          optionAttribute "appearance" q.appearance
       children :=
        shownTexts localized absolute q.label q.hint ++
          if q.type.isSelect then (q.list.map (itemset localized)).toList else [] }]

def containerControl (localized : Bool) (absolute : String) (kind : ContainerKind) (header : Header)
    (inner : List Element) : Element :=
  let shown := shownTexts localized absolute header.label header.hint
  let appearance := optionAttribute "appearance" header.appearance
  if kind = .block .repeating then
    { tag := "group"
      attributes := [("ref", absolute)]
      children :=
        shown ++
          [{ tag := "repeat", attributes := [("nodeset", absolute)] ++ appearance
             children := inner }] }
  else
    { tag := "group"
      attributes := [("ref", absolute)] ++ appearance
      children := shown ++ inner }

mutual

def nodeControls (localized : Bool) (root : String) (path : NodePath) : Node → List Element
  | .question q =>
    questionControl localized (NodePath.absolute root (NodePath.child path q.name)) q
  | .container kind header children =>
    let own := NodePath.child path header.name
    let inner := nodesControls localized root own children
    [containerControl localized (NodePath.absolute root own) kind header inner]

def nodesControls (localized : Bool) (root : String) (path : NodePath) : List Node → List Element
  | [] => []
  | node :: nodes =>
    nodeControls localized root path node ++ nodesControls localized root path nodes

end

def textEntry (id : String) (text : Localized) : TextEntries :=
  if text.isEmpty then [] else [(id, text)]

mutual

def nodeTexts (root : String) (path : NodePath) : Node → TextEntries
  | .question q =>
    let absolute := NodePath.absolute root (NodePath.child path q.name)
    textEntry (constraintMessageId absolute) q.constraintMessage ++
      textEntry (labelId absolute) q.label ++ textEntry (hintId absolute) q.hint
  | .container _ header children =>
    let own := NodePath.child path header.name
    let absolute := NodePath.absolute root own
    nodesTexts root own children ++ textEntry (labelId absolute) header.label ++
      textEntry (hintId absolute) header.hint

def nodesTexts (root : String) (path : NodePath) : List Node → TextEntries
  | [] => []
  | node :: nodes => nodeTexts root path node ++ nodesTexts root path nodes

end

def itemLabel (localized : Bool) (list : String) (index : Nat) (choice : Choice) : List Element :=
  if choice.label.isEmpty then []
  else if localized then [textElement "itextId" (choiceId list index)]
  else (choice.label.defaultText?.map (textElement "label")).toList

def item (localized : Bool) (list : String) (index : Nat) (choice : Choice) : Element :=
  { tag := "item"
    children :=
      textElement "name" choice.name :: itemLabel localized list index choice ++
        choice.extras.entries.map fun (column, value) => textElement column value }

def secondaryInstance (localized : Bool) (list : ChoiceList) : Element :=
  let items := list.choices.zipIdx.map fun (choice, index) => item localized list.name index choice
  { tag := "instance"
    attributes := [("id", list.name)]
    children := [{ tag := "root", children := items }] }

def listTexts (list : ChoiceList) : TextEntries :=
  list.choices.zipIdx.flatMap fun (choice, index) =>
    textEntry (choiceId list.name index) choice.label

def translation (entries : TextEntries) (defaultLanguage : Option String) (language : String) :
    Element :=
  { tag := "translation"
    attributes :=
      [("lang", language)] ++
        if defaultLanguage = some language then [("default", alwaysTrue)] else []
    children := entries.filterMap fun (id, text) =>
      (text.get? language).map fun value =>
        { tag := "text", attributes := [("id", id)], children := [textElement "value" value] } }

def itext (entries : TextEntries) (defaultLanguage : Option String) : Element :=
  let languages :=
    ascending (entries.flatMap (fun (_, text) => text.languages) ++ defaultLanguage.toList)
  { tag := "itext", children := languages.map (translation entries defaultLanguage) }

def hasHiddenText : Node → Bool
  | .question q => q.type.isHidden && !(q.label.isEmpty && q.hint.isEmpty)
  | .container _ _ _ => false

def isLocalized (survey : Survey) : Bool :=
  survey.isMultilingual || survey.settings.defaultLanguage.isSome ||
    survey.nodes.any (hasHiddenText ·.node)

def instanceRoot (survey : Survey) : Element :=
  { tag := survey.rootName
    attributes :=
      optionAttribute "id" survey.settings.formId ++
        optionAttribute "version" survey.settings.version
    children := instanceElements survey.children }

def surveyTexts (survey : Survey) : TextEntries :=
  nodesTexts survey.rootName [] survey.children ++ survey.usedLists.flatMap listTexts

def submission (survey : Survey) : List Element :=
  survey.settings.submissionUrl.toList.map fun url =>
    { tag := "submission", attributes := [("action", url), ("method", "post")] }

def model (survey : Survey) : Element :=
  let localized := isLocalized survey
  let texts :=
    if localized then [itext (surveyTexts survey) survey.settings.defaultLanguage] else []
  { tag := "model"
    children :=
      texts ++ [{ tag := "instance", children := [instanceRoot survey] }] ++
        survey.usedLists.map (secondaryInstance localized) ++
        nodesBinds localized survey.rootName [] survey.children ++ submission survey }

def ofSurvey (survey : Survey) : Element :=
  let title := survey.settings.title.toList.map (textElement "h:title")
  let controls := nodesControls (isLocalized survey) survey.rootName [] survey.children
  { tag := "h:html"
    attributes :=
      [("xmlns", formNamespace), ("xmlns:h", htmlNamespace), ("xmlns:jr", javaRosaNamespace),
        ("xmlns:odk", odkNamespace)]
    children :=
      [{ tag := "h:head", children := title ++ [model survey] },
        { tag := "h:body", children := controls }] }

end Questionnaire.XForm
