import Questionnaire.Sheet.SurveyRow
import Questionnaire.Survey.Draft

/-!
This module contains the outline of a survey sheet: the hierarchy that the rows read so far have
built, with the containers that are still open.
-/

namespace Questionnaire

structure Frame where
  kind : BlockKind
  path : NodePath
  place : Place
  header : Header
  relevant : Option String
  children : List Draft := []
deriving Inhabited

def Frame.toDraft (frame : Frame) : Draft :=
  .block frame.kind frame.path frame.place frame.header frame.relevant frame.children

/--
The rows read so far: the finished nodes at the top, the open containers from the inside out, and
the names of all nodes.
-/
structure Outline where
  children : List Draft := []
  frames : List Frame := []
  symbols : SymbolTable
deriving Inhabited

inductive Nesting where
  | top
  | inside (kind : BlockKind) (depth : Nat)
deriving DecidableEq, Inhabited

namespace Outline

def empty (rootName : String) : Outline :=
  { symbols := .empty rootName }

def nesting (outline : Outline) : Nesting :=
  match outline.frames with
  | [] => .top
  | frame :: _ => .inside frame.kind outline.frames.length

def path (outline : Outline) : NodePath :=
  match outline.frames with
  | [] => []
  | frame :: _ => frame.path

def push (outline : Outline) (draft : Draft) : Outline :=
  match outline.frames with
  | [] => { outline with children := outline.children ++ [draft] }
  | frame :: frames =>
    { outline with frames := { frame with children := frame.children ++ [draft] } :: frames }

/--
A step that changes an outline in place. It keeps its changes when it fails.
-/
abbrev Step := EStateM Failure Outline

def declareNode (path : NodePath) (kind : SymbolKind) (place : Place) : Step Unit := do
  let outline ← get
  match placing place (outline.symbols.declare path kind) with
  | .error failure => throw failure
  | .ok symbols => set { outline with symbols }

def openBlock (kind : BlockKind) (row : SurveyRow) (place : Place) : Step Unit := do
  match row.name with
  | none => throw (RowFault.missingName.failure place)
  | some name =>
    let path := NodePath.child (← get).path name
    declareNode path (.block kind) place
    let header : Header :=
      { name, label := row.label, hint := row.hint, appearance := row.appearance }
    let frame : Frame := { kind, path, place, header, relevant := row.relevant }
    modify fun outline => { outline with frames := frame :: outline.frames }

def closeBlock (kind : BlockKind) (place : Place) : Step Unit := do
  match (← get).frames with
  | [] =>
    let message := "`end " ++ kind.name ++ "` with no open " ++ kind.name
    throw ⟨.nesting message, some place⟩
  | frame :: frames =>
    -- The container is taken off before its kind is known to be the right one.
    modify fun outline => { outline with frames }
    if frame.kind = kind then modify fun outline => outline.push frame.toDraft
    else
      let message :=
        "`end " ++ kind.name ++ "` closes " ++ frame.kind.name ++ " \"" ++ frame.header.name ++ "\""
      throw ⟨.nesting message, some place⟩

def checkQuestion (type : QuestionType) (row : SurveyRow) : Except RowFault Unit :=
  if type = .calculate ∧ row.calculation = none then .error .missingCalculation
  else if type = .hidden ∧ row.calculation ≠ none then .error .needlessCalculation
  else if type.isHidden ∧ row.appearance ≠ none then .error (.needlessAppearance type)
  else .ok ()

def addQuestion (type : QuestionType) (list : Option String) (row : SurveyRow) (place : Place) :
    Step Unit := do
  if type.isContainer then
    let message := "`" ++ type.name ++ "` must be written as `begin " ++ type.name ++ "`"
    throw ⟨.nesting message, some place⟩
  else
    match row.name with
    | none => throw (RowFault.missingName.failure place)
    | some name =>
      match checkQuestion type row with
      | .error fault => throw (fault.failure place)
      | .ok () =>
        let path := NodePath.child (← get).path name
        declareNode path .question place
        let question : Question :=
          { name, type, label := row.label, hint := row.hint, required := row.required
            constraintMessage := row.constraintMessage, default := row.default
            appearance := row.appearance, list }
        let expressions : ExpressionTexts := ⟨row.relevant, row.constraint, row.calculation⟩
        modify fun outline => outline.push (.question path place question expressions)

def take (line : Nat) (row : SurveyRow) : Step Unit :=
  let place := Place.ofRow "survey" line row.name
  match row.type with
  | .opening kind => openBlock kind row place
  | .closing kind => closeBlock kind place
  | .question type list => addQuestion type list row place

def addRow (outline : Outline) (line : Nat) (row : SurveyRow) : Except Failure Outline :=
  match (take line row).run outline with
  | .ok _ outline => .ok outline
  | .error failure _ => .error failure

def given (outline : Outline) (line : Nat) (row : SurveyRow) : Outline :=
  match (take line row).run outline with
  | .ok _ left | .error _ left => left

def afterRefusal (outline : Outline) (row : SurveyRow) : Outline :=
  outline.given 0 row

def complete (outline : Outline) : Except Failure SurveyDraft :=
  match outline.frames with
  | frame :: _ => .error ⟨.unterminated frame.header.name frame.kind.name, some frame.place⟩
  | [] =>
    .ok
      { place := { sheet := some "survey" }
        header := { name := outline.symbols.root }
        children := outline.children }

end Outline

end Questionnaire
