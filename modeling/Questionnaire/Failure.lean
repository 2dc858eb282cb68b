/-!
This module contains the reasons for which a form is refused, the places they point at, and the
warnings that come with a form that is accepted.
-/

namespace Questionnaire

inductive Cause where
  | nesting (message : String)
  | unterminated (name container : String)
  | unknownType (token : String)
  | unresolvedReference (name expression : String)
  | danglingChoiceList (question list : String)
  | duplicateName (name : String)
  | malformedForm (message : String)
  | malformedRow (message : String)
  | expressionSyntax (message expression : String) (column : Nat)
deriving DecidableEq, Inhabited

def Cause.message : Cause → String
  | nesting message => "structure error: " ++ message
  | unterminated name container => "unterminated " ++ container ++ " \"" ++ name ++ "\""
  | unknownType token => "unknown type: \"" ++ token ++ "\""
  | unresolvedReference name expression =>
    "unresolved reference to \"" ++ name ++ "\" in expression `" ++ expression ++ "`"
  | danglingChoiceList question list =>
    "question \"" ++ question ++ "\" references missing or empty choice list \"" ++ list ++ "\""
  | duplicateName name => "duplicate name: \"" ++ name ++ "\""
  | malformedForm message => "malformed xform: " ++ message
  | malformedRow message => "malformed row: " ++ message
  | expressionSyntax message expression column =>
    "expression syntax error at column " ++ toString column ++ ": " ++ message ++ " in `" ++
      expression ++ "`"

structure Place where
  sheet : Option String := none
  row : Option Nat := none
  node : Option String := none
deriving DecidableEq, Inhabited

namespace Place

def ofNode (name : String) : Place :=
  { node := some name }

def ofRow (sheet : String) (row : Nat) (node : Option String) : Place :=
  { sheet := some sheet, row := some row, node }

def describe (place : Place) : String :=
  let position :=
    match place.sheet, place.row with
    | some sheet, some row => "at " ++ sheet ++ ":" ++ toString row
    | some sheet, none => "in " ++ sheet
    | none, some row => "at row " ++ toString row
    | none, none => ""
  match place.node with
  | none => position
  | some node =>
    let gap := if place.sheet.isSome || place.row.isSome then " " else ""
    position ++ gap ++ "(node \"" ++ node ++ "\")"

end Place

structure Failure where
  cause : Cause
  place : Option Place := none
deriving DecidableEq, Inhabited

namespace Failure

def placed (failure : Failure) (place : Place) : Failure :=
  { failure with place := some place }

def orPlaced (failure : Failure) (place : Place) : Failure :=
  { failure with place := some (failure.place.getD place) }

def message (failure : Failure) : String :=
  match failure.place with
  | none => failure.cause.message
  | some place => failure.cause.message ++ " " ++ place.describe

end Failure

def Cause.failure (cause : Cause) : Failure :=
  { cause }

def orPlacing {α : Type} (place : Place) : Except Failure α → Except Failure α
  | .ok value => .ok value
  | .error failure => .error (failure.orPlaced place)

def placing {α : Type} (place : Place) : Except Failure α → Except Failure α
  | .ok value => .ok value
  | .error failure => .error (failure.placed place)

inductive Warning where
  | duplicateChoice (list choice : String)
  | unreferencedChoiceList (list : String)
deriving DecidableEq, Inhabited

def Warning.message : Warning → String
  | duplicateChoice list choice =>
    "duplicate choice \"" ++ choice ++ "\" in list \"" ++ list ++ "\""
  | unreferencedChoiceList list => "choice list \"" ++ list ++ "\" is never referenced"

end Questionnaire
