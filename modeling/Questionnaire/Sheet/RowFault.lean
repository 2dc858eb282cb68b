import Questionnaire.Failure
import Questionnaire.QuestionType

/-!
This module contains the reasons for which a row of a sheet is refused, and the numbers of rows.
Rows are counted as a spreadsheet shows them: the header is row 1 and the first data row is row 2.
-/

namespace Questionnaire

inductive RowFault where
  | missingType
  | unknownColumn (column : String)
  | notTranslatable (column : String)
  | invalidName (name : String)
  | invalidRequired (value : String)
  | missingChoiceField (column : String)
  | invalidRootName (name : String)
  | missingName
  | missingCalculation
  | needlessCalculation
  | needlessAppearance (type : QuestionType)
deriving DecidableEq, Inhabited

namespace RowFault

def message : RowFault → String
  | missingType => "row has no type"
  | unknownColumn column => "unknown column `" ++ column ++ "`"
  | notTranslatable column => "column `" ++ column ++ "` cannot be translated"
  | invalidName name => "invalid name `" ++ name ++ "`"
  | invalidRequired value => "invalid boolean `" ++ value ++ "` in `required`"
  | missingChoiceField column => "choice has no `" ++ column ++ "`"
  | invalidRootName name => "invalid root name `" ++ name ++ "`"
  | missingName => "row has no name"
  | missingCalculation => "calculate row has no calculation"
  | needlessCalculation => "hidden row has a calculation; use calculate"
  | needlessAppearance type => "`" ++ type.name ++ "` has no control to take an appearance"

def failure (fault : RowFault) (place : Place) : Failure :=
  ⟨.malformedRow fault.message, some place⟩

end RowFault

def lineOf (index : Nat) : Nat :=
  index + 2

end Questionnaire
