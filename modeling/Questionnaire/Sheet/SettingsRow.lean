import Questionnaire.Options
import Questionnaire.Sheet
import Questionnaire.Sheet.RowFault
import Questionnaire.Survey.Settings
import Questionnaire.Text.Name

/-!
This module contains the reading of the row of the settings sheet.
-/

namespace Questionnaire

structure SettingsRow where
  settings : Settings := {}
  rootName : Option String := none
deriving DecidableEq, Inhabited

namespace SettingsRow

def setCell (options : Options) (row : SettingsRow) (column value : String) :
    Except RowFault SettingsRow :=
  let text := Text.trim value
  match column with
  | "form_title" => .ok { row with settings := { row.settings with title := some text } }
  | "form_id" => .ok { row with settings := { row.settings with formId := some text } }
  | "version" => .ok { row with settings := { row.settings with version := some text } }
  | "default_language" =>
    .ok { row with settings := { row.settings with defaultLanguage := some text } }
  | "submission_url" =>
    .ok { row with settings := { row.settings with submissionUrl := some text } }
  | "name" =>
    if Text.isName text then .ok { row with rootName := some text }
    else .error (.invalidRootName text)
  | _ => if options.strictColumns then .error (.unknownColumn column) else .ok row

def parse (options : Options) : Option Row → Except Failure SettingsRow
  | none => .ok {}
  | some row =>
    let step := fun row (column, value) => setCell options row column value
    match (Row.cells row).foldlM step {} with
    | .ok parsed => .ok parsed
    | .error fault => .error (fault.failure (.ofRow "settings" (lineOf 0) none))

end SettingsRow

end Questionnaire
