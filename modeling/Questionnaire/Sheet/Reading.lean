import Questionnaire.Sheet.ChoiceRow
import Questionnaire.Sheet.Outline
import Questionnaire.Sheet.SettingsRow

/-!
This module contains the building of a survey from the rows of a workbook. Blank rows do not count,
and the first fault refuses the whole workbook.
-/

namespace Questionnaire

namespace Workbook

def numbered (rows : List Row) : List (Nat × Row) :=
  (rows.zipIdx.map fun (row, index) => (lineOf index, row)).filter fun (_, row) => !Row.isBlank row

def groupChoices (rows : List (Nat × Row)) : Except Failure ChoiceGroups :=
  rows.foldlM (fun groups (line, row) => do
    let parsed ← ChoiceRow.parse line row
    .ok (groups.add parsed.list parsed.choice)) {}

def outlineRows (options : Options) (rootName : String) (rows : List (Nat × Row)) :
    Except Failure Outline :=
  rows.foldlM (fun outline (line, row) => do
    let parsed ← SurveyRow.parse options line row
    outline.addRow line parsed) (Outline.empty rootName)

def read (workbook : Workbook) (options : Options) : Except Failure Reading := do
  let settings ← SettingsRow.parse options workbook.settings
  let groups ← groupChoices (numbered workbook.choices)
  let outline ← outlineRows options (settings.rootName.getD options.rootName)
    (numbered workbook.survey)
  let draft ← outline.complete
  draft.compile (Expression.compile outline.symbols) groups.lists settings.settings
    groups.warnings options

end Workbook

end Questionnaire
