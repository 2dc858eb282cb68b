import Questionnaire.Sheet
import Questionnaire.Survey.Basic

/-!
This module contains the writing of a survey as a workbook: one row for each question, a pair of
rows around the nodes of each container, and a row for each choice of a used list.
-/

namespace Questionnaire

inductive MarkerStyle where
  | spaced
  | underscored
deriving DecidableEq, Inhabited

def MarkerStyle.separator : MarkerStyle → String
  | spaced => " "
  | underscored => "_"

namespace Survey

def textColumn (base language : String) : Column :=
  ⟨base, if language = defaultLanguage then none else some language⟩

def textCells (base : String) (text : Localized) : List (String × String) :=
  text.entries.map fun (language, value) => ((textColumn base language).heading, value)

def optionCell (column : String) (value : Option String) : List (String × String) :=
  (value.map (column, ·)).toList

def expressionCell (table : SymbolTable) (path : NodePath) (column : String) :
    Option Expression → Except Failure (List (String × String))
  | none => .ok []
  | some expression => do
    let text ← Expression.flatten table expression.canonical path
    .ok [(column, text)]

def typeCell (question : Question) : String :=
  match question.list with
  | some list =>
    if question.type.isSelect then question.type.name ++ " " ++ list else question.type.name
  | none => question.type.name

def questionRow (table : SymbolTable) (path : NodePath) (question : Question) :
    Except Failure Row := do
  let relevant ← expressionCell table path "relevant" question.relevant
  let constraint ← expressionCell table path "constraint" question.constraint
  let calculation ← expressionCell table path "calculation" question.calculation
  .ok (.ofList
    ([("type", typeCell question), ("name", question.name)] ++ textCells "label" question.label ++
      textCells "hint" question.hint ++
      (if question.required then [("required", "yes")] else []) ++ relevant ++ constraint ++
      textCells "constraint_message" question.constraintMessage ++ calculation ++
      optionCell "default" question.default ++ optionCell "appearance" question.appearance))

def openingRow (style : MarkerStyle) (table : SymbolTable) (path : NodePath) (kind : ContainerKind)
    (header : Header) : Except Failure Row := do
  let relevant ← expressionCell table path "relevant" header.relevant
  .ok (.ofList
    ([("type", "begin" ++ style.separator ++ kind.name), ("name", header.name)] ++
      textCells "label" header.label ++ textCells "hint" header.hint ++ relevant ++
      optionCell "appearance" header.appearance))

def closingRow (style : MarkerStyle) (kind : ContainerKind) : Row :=
  .ofList [("type", "end" ++ style.separator ++ kind.name)]

mutual

def nodeRows (style : MarkerStyle) (table : SymbolTable) (path : NodePath) :
    Node → Except Failure (List Row)
  | .question q => do
    let row ← questionRow table (NodePath.child path q.name) q
    .ok [row]
  | .container kind header children => do
    let own := NodePath.child path header.name
    let first ← openingRow style table own kind header
    let rows ← nodesRows style table own children
    .ok (first :: rows ++ [closingRow style kind])

def nodesRows (style : MarkerStyle) (table : SymbolTable) (path : NodePath) :
    List Node → Except Failure (List Row)
  | [] => .ok []
  | node :: nodes => do
    let rows ← nodeRows style table path node
    let more ← nodesRows style table path nodes
    .ok (rows ++ more)

end

def choiceRow (list : String) (choice : Choice) : Row :=
  .ofList
    ([("list_name", list), ("name", choice.name)] ++ textCells "label" choice.label ++
      choice.extras.entries)

def settingsRow (survey : Survey) : Row :=
  let settings := survey.settings
  .ofList
    (optionCell "form_title" settings.title ++ optionCell "form_id" settings.formId ++
      optionCell "version" settings.version ++
      optionCell "default_language" settings.defaultLanguage ++
      optionCell "submission_url" settings.submissionUrl ++ [("name", survey.rootName)])

def toWorkbook (survey : Survey) (style : MarkerStyle) : Except Failure Workbook := do
  let table ← survey.symbols
  let rows ← nodesRows style table [] survey.children
  .ok
    { survey := rows
      choices := survey.usedLists.flatMap fun list => list.choices.map (choiceRow list.name)
      settings := some survey.settingsRow }

end Survey

end Questionnaire
