import Questionnaire.Text.Blank

/-!
This module contains trees of elements with attributes and text.
-/

namespace Questionnaire

structure Element where
  tag : String
  attributes : List (String × String) := []
  text : Option String := none
  children : List Element := []
deriving Inhabited

namespace Element

mutual

def same : Element → Element → Bool
  | ⟨tag, attributes, text, children⟩, ⟨tag', attributes', text', children'⟩ =>
    tag == tag' && attributes == attributes' && text == text' && sameAll children children'

def sameAll : List Element → List Element → Bool
  | [], [] => true
  | e :: es, e' :: es' => same e e' && sameAll es es'
  | _, _ => false

end

def localPart (name : String) : String :=
  String.ofList (name.toList.reverse.takeWhile (· != ':')).reverse

def localName (element : Element) : String :=
  localPart element.tag

def putAttribute (name value : String) : List (String × String) → List (String × String)
  | [] => [(name, value)]
  | (n, v) :: attributes =>
    if n = name then (name, value) :: attributes else (n, v) :: putAttribute name value attributes

def setAttribute (element : Element) (name value : String) : Element :=
  { element with attributes := putAttribute name value element.attributes }

def attribute? (element : Element) (name : String) : Option String :=
  element.attributes.lookup name

def append (element child : Element) : Element :=
  { element with children := element.children ++ [child] }

def child? (element : Element) (tag : String) : Option Element :=
  element.children.find? (·.tag == tag)

def childrenTagged (element : Element) (tag : String) : List Element :=
  element.children.filter (·.tag == tag)

def content? (element : Element) : Option String :=
  (element.text.map Text.trim).filter (· != "")

end Element

end Questionnaire
