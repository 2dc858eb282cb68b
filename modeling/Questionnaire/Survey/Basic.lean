import Questionnaire.Survey.ChoiceList
import Questionnaire.Survey.Node
import Questionnaire.Survey.Settings

/-!
This module contains surveys, the rules that every survey has to follow, and the names, lists and
languages that a survey uses.
-/

namespace Questionnaire

structure Survey where
  header : Header
  children : List Node
  lists : ChoiceLists
  settings : Settings
deriving Inhabited

namespace Survey

def rootName (survey : Survey) : String :=
  survey.header.name

def root (survey : Survey) : Node :=
  .container .survey survey.header survey.children

def nodes (survey : Survey) : List LocatedNode :=
  Node.locatedAll [] survey.children

def declareAll (table : SymbolTable) : List LocatedNode → Except Failure SymbolTable
  | [] => .ok table
  | ⟨path, node⟩ :: nodes => do
    let table ← orPlacing (.ofNode node.name) (table.declare path node.symbolKind)
    declareAll table nodes

def symbols (survey : Survey) : Except Failure SymbolTable :=
  declareAll (.empty survey.rootName) survey.nodes

def requireAllChoices (lists : ChoiceLists) : List LocatedNode → Except Failure Unit
  | [] => .ok ()
  | located :: nodes =>
    match located.node with
    | .question q =>
      if q.type.isSelect then do
        placing (.ofNode q.name) (lists.requireChoices q.name q.list)
        requireAllChoices lists nodes
      else requireAllChoices lists nodes
    | .container _ _ _ => requireAllChoices lists nodes

def validate (survey : Survey) : Except Failure Survey := do
  let _ ← survey.symbols
  requireAllChoices survey.lists survey.nodes
  .ok survey

def namedLists (survey : Survey) : List String :=
  survey.nodes.filterMap fun located => located.node.question?.bind Question.list

def usedLists (survey : Survey) : List ChoiceList :=
  (survey.lists.entries.map Prod.snd).filter fun list => survey.namedLists.contains list.name

def unusedLists (survey : Survey) : List String :=
  survey.lists.keys.filter fun name => !survey.namedLists.contains name

def languages (survey : Survey) : List String :=
  ascending
    ((survey.nodes.flatMap fun located => located.node.texts.flatMap Localized.languages) ++
      survey.usedLists.flatMap fun list =>
        list.choices.flatMap fun choice => choice.label.languages)

def isMultilingual (survey : Survey) : Bool :=
  survey.languages.any (· != defaultLanguage)

end Survey

end Questionnaire
