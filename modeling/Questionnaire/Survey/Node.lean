import Questionnaire.Expression.Compilation

/-!
This module contains the nodes of a survey: questions, and the containers that hold nodes in the
author's order.
-/

namespace Questionnaire

structure Question where
  name : String
  type : QuestionType
  label : Localized := .empty
  hint : Localized := .empty
  required : Bool := false
  relevant : Option Expression := none
  constraint : Option Expression := none
  constraintMessage : Localized := .empty
  calculation : Option Expression := none
  default : Option String := none
  appearance : Option String := none
  list : Option String := none
deriving DecidableEq, Inhabited

structure Header where
  name : String
  label : Localized := .empty
  hint : Localized := .empty
  relevant : Option Expression := none
  appearance : Option String := none
deriving DecidableEq, Inhabited

inductive ContainerKind where
  | survey
  | block (kind : BlockKind)
deriving DecidableEq, Inhabited

def ContainerKind.name : ContainerKind → String
  | survey => "survey"
  | block kind => kind.name

inductive Node where
  | question (question : Question)
  | container (kind : ContainerKind) (header : Header) (children : List Node)
deriving Inhabited

structure LocatedNode where
  path : NodePath
  node : Node
deriving Inhabited

namespace Node

def name : Node → String
  | question q => q.name
  | container _ header _ => header.name

def label : Node → Localized
  | question q => q.label
  | container _ header _ => header.label

def children : Node → List Node
  | question _ => []
  | container _ _ children => children

def question? : Node → Option Question
  | question q => some q
  | container _ _ _ => none

def expressions : Node → List Expression
  | question q => q.relevant.toList ++ q.constraint.toList ++ q.calculation.toList
  | container _ header _ => header.relevant.toList

def texts : Node → List Localized
  | question q => [q.label, q.hint, q.constraintMessage]
  | container _ header _ => [header.label, header.hint]

def symbolKind : Node → SymbolKind
  | container (.block kind) _ _ => .block kind
  | _ => .question

mutual

def located (path : NodePath) : Node → List LocatedNode
  | question q => [⟨NodePath.child path q.name, question q⟩]
  | container kind header children =>
    let own := NodePath.child path header.name
    ⟨own, container kind header children⟩ :: locatedAll own children

def locatedAll (path : NodePath) : List Node → List LocatedNode
  | [] => []
  | node :: nodes => located path node ++ locatedAll path nodes

end

end Node

end Questionnaire
