import Questionnaire.Expression.Token

/-!
This module contains the structure of expressions.
-/

namespace Questionnaire

inductive Operator where
  | or
  | and
  | equal
  | notEqual
  | less
  | lessEqual
  | greater
  | greaterEqual
  | add
  | subtract
  | multiply
  | divide
  | modulo
  | union
deriving DecidableEq, Inhabited

namespace Operator

def symbol : Operator → String
  | or => "or"
  | and => "and"
  | equal => "="
  | notEqual => "!="
  | less => "<"
  | lessEqual => "<="
  | greater => ">"
  | greaterEqual => ">="
  | add => "+"
  | subtract => "-"
  | multiply => "*"
  | divide => "div"
  | modulo => "mod"
  | union => "|"

end Operator

inductive Formula where
  | number (text : String) (span : Span)
  | string (text : String) (span : Span)
  | reference (name : String) (span : Span)
  | path (text : String) (span : Span)
  | call (name : String) (arguments : List Formula) (span : Span)
  | binary (operator : Operator) (left right : Formula) (span : Span)
  | negate (operand : Formula) (span : Span)
  | group (inner : Formula) (span : Span)
deriving Inhabited

inductive NodeMention where
  | name (name : String) (span : Span)
  | path (text : String) (span : Span)
deriving DecidableEq, Inhabited

namespace Formula

def span : Formula → Span
  | number _ span | string _ span | reference _ span | path _ span | call _ _ span
  | binary _ _ _ span | negate _ span | group _ span => span

mutual

def mentions : Formula → List NodeMention
  | number _ _ | string _ _ => []
  | reference name span => [.name name span]
  | path text span => [.path text span]
  | call _ arguments _ => mentionsAll arguments
  | binary _ left right _ => mentions left ++ mentions right
  | negate operand _ => mentions operand
  | group inner _ => mentions inner

def mentionsAll : List Formula → List NodeMention
  | [] => []
  | formula :: formulas => mentions formula ++ mentionsAll formulas

end

mutual

def calls : Formula → List String
  | number _ _ | string _ _ | reference _ _ | path _ _ => []
  | call name arguments _ => name :: callsAll arguments
  | binary _ left right _ => calls left ++ calls right
  | negate operand _ => calls operand
  | group inner _ => calls inner

def callsAll : List Formula → List String
  | [] => []
  | formula :: formulas => calls formula ++ callsAll formulas

end

end Formula

end Questionnaire
