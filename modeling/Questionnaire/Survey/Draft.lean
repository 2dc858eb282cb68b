import Questionnaire.Options
import Questionnaire.Survey.Basic

/-!
This module contains drafts of surveys. A draft holds the whole hierarchy while its expressions are
still plain text. They are compiled once all names are known, so that an expression may reference a
later node.
-/

namespace Questionnaire

structure ExpressionTexts where
  relevant : Option String := none
  constraint : Option String := none
  calculation : Option String := none
deriving DecidableEq, Inhabited

inductive Draft where
  | question (path : NodePath) (place : Place) (question : Question)
      (expressions : ExpressionTexts)
  | block (kind : BlockKind) (path : NodePath) (place : Place) (header : Header)
      (relevant : Option String) (children : List Draft)
deriving Inhabited

structure SurveyDraft where
  place : Place
  header : Header
  relevant : Option String := none
  children : List Draft
deriving Inhabited

structure Reading where
  survey : Survey
  warnings : List Warning
deriving Inhabited

abbrev Compiler := String → NodePath → Except Failure Expression

namespace Draft

def compile? (compiler : Compiler) (path : NodePath) :
    Option String → Except Failure (Option Expression)
  | none => .ok none
  | some text => do
    let expression ← compiler text path
    .ok (some expression)

def compileQuestion (compiler : Compiler) (lists : ChoiceLists) (path : NodePath)
    (question : Question)
      (expressions : ExpressionTexts) : Except Failure Question := do
  if question.type.isSelect then
    lists.requireChoices question.name question.list
  let relevant ← compile? compiler path expressions.relevant
  let constraint ← compile? compiler path expressions.constraint
  let calculation ← compile? compiler path expressions.calculation
  .ok { question with relevant, constraint, calculation }

mutual

def compile (compiler : Compiler) (lists : ChoiceLists) : Draft → Except Failure Node
  | question path place asked expressions => do
    let compiled ← orPlacing place (compileQuestion compiler lists path asked expressions)
    .ok (.question compiled)
  | block kind path place header relevant children => do
    let relevant ← orPlacing place (compile? compiler path relevant)
    let children ← compileAll compiler lists children
    .ok (.container (.block kind) { header with relevant } children)

def compileAll (compiler : Compiler) (lists : ChoiceLists) : List Draft → Except Failure (List Node)
  | [] => .ok []
  | draft :: drafts => do
    let node ← compile compiler lists draft
    let nodes ← compileAll compiler lists drafts
    .ok (node :: nodes)

end

end Draft

namespace SurveyDraft

def compile (draft : SurveyDraft) (compiler : Compiler) (lists : ChoiceLists)
    (settings : Settings) (warnings : List Warning) (options : Options) :
    Except Failure Reading := do
  let relevant ← orPlacing draft.place (Draft.compile? compiler [] draft.relevant)
  let children ← Draft.compileAll compiler lists draft.children
  let survey ← Survey.validate ⟨{ draft.header with relevant }, children, lists, settings⟩
  let unused :=
    if options.warnUnused then survey.unusedLists.map Warning.unreferencedChoiceList else []
  .ok ⟨survey, warnings ++ unused⟩

end SurveyDraft

end Questionnaire
