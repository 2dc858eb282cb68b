import Questionnaire.Localized
import Questionnaire.Options
import Questionnaire.QuestionType.Spelling
import Questionnaire.Sheet
import Questionnaire.Sheet.RowFault
import Questionnaire.Text.Name

/-!
This module contains the columns of the survey sheet, and the reading of its rows as typed values.
-/

namespace Questionnaire

inductive SurveyColumn where
  | type
  | name
  | label
  | hint
  | required
  | relevant
  | constraint
  | constraintMessage
  | calculation
  | default
  | appearance
deriving DecidableEq, Inhabited

namespace SurveyColumn

def headings : List (String × SurveyColumn) := [
  ("type", type),
  ("name", name),
  ("label", label),
  ("hint", hint),
  ("required", required),
  ("relevant", relevant),
  ("constraint", constraint),
  ("constraint_message", constraintMessage),
  ("calculation", calculation),
  ("default", default),
  ("appearance", appearance)]

def isTranslatable : SurveyColumn → Bool
  | label | hint | constraintMessage => true
  | _ => false

end SurveyColumn

structure SurveyRow where
  type : TypeCell
  name : Option String := none
  label : Localized := .empty
  hint : Localized := .empty
  required : Bool := false
  relevant : Option String := none
  constraint : Option String := none
  constraintMessage : Localized := .empty
  calculation : Option String := none
  default : Option String := none
  appearance : Option String := none
deriving DecidableEq, Inhabited

namespace SurveyRow

def truth? (value : String) : Option Bool :=
  match Text.lower (Text.trim value) with
  | "yes" | "true" | "1" | "true()" => some true
  | "no" | "false" | "0" | "false()" => some false
  | _ => none

def setCell (row : SurveyRow) (column : SurveyColumn) (language value : String) :
    Except RowFault SurveyRow :=
  let text := Text.trim value
  match column with
  | .type => .ok row
  | .name =>
    if Text.isName text then .ok { row with name := some text } else .error (.invalidName text)
  | .label => .ok { row with label := row.label.insert language text }
  | .hint => .ok { row with hint := row.hint.insert language text }
  | .required =>
    match truth? value with
    | some required => .ok { row with required }
    | none => .error (.invalidRequired value)
  | .relevant => .ok { row with relevant := some text }
  | .constraint => .ok { row with constraint := some text }
  | .constraintMessage =>
    .ok { row with constraintMessage := row.constraintMessage.insert language text }
  | .calculation => .ok { row with calculation := some text }
  | .default => .ok { row with default := some text }
  | .appearance => .ok { row with appearance := some text }

def setCells (options : Options) (row : SurveyRow) :
    List (String × String) → Except RowFault SurveyRow
  | [] => .ok row
  | (heading, value) :: cells =>
    let column := Column.ofHeading heading
    match SurveyColumn.headings.lookup column.base with
    | none =>
      if options.strictColumns then .error (.unknownColumn heading) else setCells options row cells
    | some kind =>
      if column.language.isSome && !kind.isTranslatable then .error (.notTranslatable column.base)
      else do
        let row ← setCell row kind (column.language.getD defaultLanguage) value
        setCells options row cells

def parse (options : Options) (line : Nat) (row : Row) : Except Failure SurveyRow :=
  let place := Place.ofRow "survey" line ((Row.cell? row "name").map Text.trim)
  match Row.cell? row "type" with
  | none => .error (RowFault.missingType.failure place)
  | some cell => do
    let type ← placing place (TypeCell.parse cell)
    match setCells options { type } (Row.cells row) with
    | .ok parsed => .ok parsed
    | .error fault => .error (fault.failure place)

end SurveyRow

end Questionnaire
