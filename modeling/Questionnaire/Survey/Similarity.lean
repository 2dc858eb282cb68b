import Questionnaire.Survey.Basic

/-!
This module contains two comparisons of surveys. Similar surveys ask the same: the spelling of
expressions and the lists that no question uses do not matter. Identical surveys are equal
throughout. In both the order of lists and of the further columns of a choice does not matter.
-/

namespace Questionnaire

def Expression.sameOption (same : Expression → Expression → Bool) :
    Option Expression → Option Expression → Bool
  | none, none => true
  | some a, some b => same a b
  | _, _ => false

def Expression.sameCanonical (a b : Expression) : Bool :=
  a.canonical == b.canonical

def Question.same (same : Expression → Expression → Bool) (a b : Question) : Bool :=
  a.name == b.name && a.type == b.type && a.label == b.label && a.hint == b.hint &&
    a.required == b.required && a.default == b.default && a.appearance == b.appearance &&
    a.constraintMessage == b.constraintMessage && a.list == b.list &&
    Expression.sameOption same a.relevant b.relevant &&
    Expression.sameOption same a.constraint b.constraint &&
    Expression.sameOption same a.calculation b.calculation

def Header.same (same : Expression → Expression → Bool) (a b : Header) : Bool :=
  a.name == b.name && a.label == b.label && a.hint == b.hint && a.appearance == b.appearance &&
    Expression.sameOption same a.relevant b.relevant

namespace Node

mutual

def same (sameExpression : Expression → Expression → Bool) : Node → Node → Bool
  | question a, question b => a.same sameExpression b
  | container kind header children, container kind' header' children' =>
    kind == kind' && header.same sameExpression header' &&
      sameAll sameExpression children children'
  | _, _ => false

def sameAll (sameExpression : Expression → Expression → Bool) : List Node → List Node → Bool
  | [], [] => true
  | a :: as, b :: bs => same sameExpression a b && sameAll sameExpression as bs
  | _, _ => false

end

end Node

namespace Survey

def usedListsByName (survey : Survey) : ChoiceLists :=
  OrderedMap.ofList (survey.usedLists.map fun list => (list.name, list))

def isSimilar (a b : Survey) : Bool :=
  a.settings == b.settings && a.root.same Expression.sameCanonical b.root &&
    a.usedListsByName.agrees ChoiceList.same b.usedListsByName

def isIdentical (a b : Survey) : Bool :=
  a.settings == b.settings && a.root.same (· == ·) b.root &&
    a.lists.agrees ChoiceList.same b.lists

end Survey

end Questionnaire
