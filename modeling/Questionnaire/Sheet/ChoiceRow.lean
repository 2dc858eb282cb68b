import Questionnaire.Sheet
import Questionnaire.Sheet.RowFault
import Questionnaire.Survey.ChoiceList

/-!
This module contains the reading of the rows of the choices sheet. Columns that mean nothing else
are further columns of the choice.
-/

namespace Questionnaire

structure ChoiceRow where
  list : String
  choice : Choice
deriving DecidableEq, Inhabited

namespace ChoiceRow

def setCell (choice : Choice) (heading value : String) : Choice :=
  match Column.ofHeading heading with
  | ⟨"list_name", none⟩ | ⟨"name", none⟩ => choice
  | ⟨"label", language⟩ =>
    let label := choice.label.insert (language.getD defaultLanguage) (Text.trim value)
    { choice with label }
  | _ => { choice with extras := choice.extras.insert heading (Text.trim value) }

def requiredCell (line : Nat) (row : Row) (column : String) : Except Failure String :=
  match Row.cell? row column with
  | some value => .ok (Text.trim value)
  | none => .error ((RowFault.missingChoiceField column).failure (.ofRow "choices" line none))

def parse (line : Nat) (row : Row) : Except Failure ChoiceRow := do
  let list ← requiredCell line row "list_name"
  let name ← requiredCell line row "name"
  let choice : Choice := ⟨name, .empty, .empty⟩
  .ok
    { list
      choice := (Row.cells row).foldl
        (fun choice (heading, value) => setCell choice heading value) choice }

end ChoiceRow

end Questionnaire
