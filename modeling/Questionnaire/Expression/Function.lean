/-!
This module contains the functions that expressions may call, and how many arguments each takes.
-/

namespace Questionnaire

inductive Arity where
  | exactly (count : Nat)
  | between (least most : Nat)
  | atLeast (least : Nat)
deriving DecidableEq, Inhabited

namespace Arity

def accepts : Arity → Nat → Bool
  | exactly n, count => count == n
  | between least most, count => decide (least ≤ count) && decide (count ≤ most)
  | atLeast least, count => decide (least ≤ count)

def describe : Arity → String
  | exactly n => toString n
  | between least most => toString least ++ "-" ++ toString most
  | atLeast least => toString least ++ "+"

end Arity

def functions : List (String × Arity) := [
  ("selected", .exactly 2),
  ("selected-at", .exactly 2),
  ("count-selected", .exactly 1),
  ("jr:choice-name", .exactly 2),
  ("count", .exactly 1),
  ("sum", .exactly 1),
  ("position", .between 0 1),
  ("string", .between 0 1),
  ("number", .between 0 1),
  ("int", .exactly 1),
  ("boolean", .exactly 1),
  ("round", .between 1 2),
  ("not", .exactly 1),
  ("true", .exactly 0),
  ("false", .exactly 0),
  ("if", .exactly 3),
  ("coalesce", .exactly 2),
  ("concat", .atLeast 1),
  ("string-length", .between 0 1),
  ("substr", .between 2 3),
  ("contains", .exactly 2),
  ("starts-with", .exactly 2),
  ("regex", .exactly 2),
  ("uuid", .between 0 1),
  ("today", .exactly 0),
  ("now", .exactly 0)]

def arity? (name : String) : Option Arity :=
  functions.lookup name

end Questionnaire
