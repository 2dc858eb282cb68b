import Questionnaire.Failure
import Questionnaire.Localized
import Questionnaire.OrderedMap

/-!
This module contains the lists of choices that select questions offer, and the grouping of single
choices into lists.
-/

namespace Questionnaire

structure Choice where
  name : String
  label : Localized
  extras : OrderedMap String
deriving DecidableEq, Inhabited

def Choice.same (a b : Choice) : Bool :=
  a.name == b.name && a.label == b.label && a.extras.agrees (· == ·) b.extras

structure ChoiceList where
  name : String
  choices : List Choice
deriving DecidableEq, Inhabited

namespace ChoiceList

def choice? (list : ChoiceList) (name : String) : Option Choice :=
  list.choices.find? (·.name == name)

def isMultilingual (list : ChoiceList) : Bool :=
  list.choices.any (·.label.isMultilingual)

def same (a b : ChoiceList) : Bool :=
  a.name == b.name && go a.choices b.choices
where
  go : List Choice → List Choice → Bool
    | [], [] => true
    | a :: as, b :: bs => a.same b && go as bs
    | _, _ => false

end ChoiceList

abbrev ChoiceLists := OrderedMap ChoiceList

namespace ChoiceLists

/--
Check that the list of a select question is there and has a choice. A question that names no list
looks for the list of the empty name.
-/
def requireChoices (lists : ChoiceLists) (question : String) (list : Option String) :
    Except Failure Unit :=
  let name := list.getD ""
  match lists.get? name with
  | some ⟨_, _ :: _⟩ => .ok ()
  | _ => .error (Cause.danglingChoiceList question name).failure

end ChoiceLists

structure ChoiceGroups where
  lists : ChoiceLists := OrderedMap.empty
  warnings : List Warning := []
deriving Inhabited

namespace ChoiceGroups

def add (groups : ChoiceGroups) (name : String) (choice : Choice) : ChoiceGroups :=
  let list := (groups.lists.get? name).getD ⟨name, []⟩
  { lists := groups.lists.insert name { list with choices := list.choices ++ [choice] }
    warnings :=
      if (list.choice? choice.name).isSome then
        groups.warnings ++ [.duplicateChoice name choice.name]
      else groups.warnings }

end ChoiceGroups

end Questionnaire
