import Questionnaire.Proofs.Sheet.Rows
import Questionnaire.Proofs.Sheet.Steps
import Questionnaire.Proofs.Survey.Reading

/-!
This module contains the invariant of the outline that the rows of a survey sheet build: its nodes
lie where their containers put them, and its symbols are those of its nodes in the author's order.
-/

namespace Questionnaire

def DraftRules.authored : DraftRules where
  question := Question.IsAuthored
  header := Header.IsAuthored

section Compile

variable {table : SymbolTable}

theorem Draft.map_source_of_compile? {path : NodePath} {text : Option String}
    {expression : Option Expression}
    (h : compile? (Expression.compile table) path text = .ok expression) :
    expression.map Expression.source = text := by
  cases compile?_eq_ok h with
  | none => rfl
  | some hcompiled =>
    obtain ⟨formula, linked, -, -, -, rfl⟩ := Expression.compile_eq_ok_iff.1 hcompiled
    rfl

theorem Draft.texts_of_compile? {path : NodePath} {asked : Question} {texts : ExpressionTexts}
    {relevant constraint calculation : Option Expression}
    (hrelevant : compile? (Expression.compile table) path texts.relevant = .ok relevant)
    (hconstraint : compile? (Expression.compile table) path texts.constraint = .ok constraint)
    (hcalculation : compile? (Expression.compile table) path texts.calculation = .ok calculation) :
    Question.texts { asked with relevant, constraint, calculation } = texts := by
  unfold Question.texts
  dsimp only
  rw [map_source_of_compile? hrelevant, map_source_of_compile? hconstraint,
    map_source_of_compile? hcalculation]

theorem LocatedNode.isAuthored_of_isCompiledFrom {located : LocatedNode}
    (h : located.IsCompiledFrom .authored (Expression.compile table)) :
    located.node.IsAuthored ∧ located.IsCompiled table := by
  constructor
  · cases h with
    | @question path asked texts relevant constraint calculation hasked hrelevant hconstraint
        hcalculation =>
      have hauthored : asked.IsAuthored texts := hasked
      dsimp only [Node.IsAuthored]
      rw [Draft.texts_of_compile? hrelevant hconstraint hcalculation]
      exact { hauthored with }
    | @block path kind header text relevant children hheader hrelevant =>
      have hauthored : header.IsAuthored text := hheader
      refine ⟨⟨kind, rfl⟩, ?_⟩
      dsimp only
      rw [Draft.map_source_of_compile? hrelevant]
      exact { hauthored with }
  · intro expression hexpression
    obtain ⟨text, htext⟩ := Draft.exists_text_of_isCompiledFrom h expression hexpression
    obtain ⟨formula, linked, -, -, -, heq⟩ := Expression.compile_eq_ok_iff.1 htext
    have hsource : expression.source = text := by rw [heq]
    rw [hsource]
    exact htext

end Compile

def Frame.pathOf : List Frame → NodePath
  | [] => []
  | frame :: _ => frame.path

def Frame.AllAuthored : List Frame → Prop
  | [] => True
  | frame :: frames =>
    frame.path = NodePath.child (pathOf frames) frame.header.name ∧
      frame.header.IsAuthored frame.relevant ∧ Draft.AllFollow .authored frame.path frame.children ∧
      AllAuthored frames

def Frame.symbolsAll : List Frame → List Symbol
  | [] => []
  | frame :: frames =>
    symbolsAll frames ++ ⟨frame.path, .block frame.kind⟩ :: Draft.symbolsAll frame.children

namespace Outline

def nodeSymbols (outline : Outline) : List Symbol :=
  Draft.symbolsAll outline.children ++ Frame.symbolsAll outline.frames

structure IsAuthored (root : String) (outline : Outline) : Prop where
  declares : (SymbolTable.empty root).DeclaresAll outline.nodeSymbols outline.symbols
  children : Draft.AllFollow .authored [] outline.children
  frames : Frame.AllAuthored outline.frames

variable {root : String} {outline outline' : Outline}

theorem isAuthored_empty (root : String) : (empty root).IsAuthored root where
  declares := rfl
  children := trivial
  frames := trivial

theorem path_eq (outline : Outline) : outline.path = Frame.pathOf outline.frames := by
  unfold path Frame.pathOf
  cases outline.frames <;> rfl

theorem nodeSymbols_push (outline : Outline) (draft : Draft) :
    (outline.push draft).nodeSymbols =
      outline.nodeSymbols ++ draft.symbols := by
  obtain ⟨children, frames, symbols⟩ := outline
  cases frames with
  | nil =>
    simp [nodeSymbols, push, Frame.symbolsAll, Draft.symbolsAll_append,
      Draft.symbolsAll_singleton]
  | cons frame frames =>
    simp [nodeSymbols, push, Frame.symbolsAll, Draft.symbolsAll_append,
      Draft.symbolsAll_singleton]

theorem isAuthored_push {draft : Draft} (hdraft : draft.Follows .authored outline.path)
    (hdeclares : (SymbolTable.empty root).DeclaresAll (outline.nodeSymbols ++ draft.symbols)
      outline.symbols)
    (hchildren : Draft.AllFollow .authored [] outline.children)
    (hframes : Frame.AllAuthored outline.frames) :
    (outline.push draft).IsAuthored root := by
  refine ⟨?_, ?_, ?_⟩
  · rw [nodeSymbols_push, symbols_push]
    exact hdeclares
  -- Only one of the two takes the draft: the survey itself, or its innermost open block.
  · unfold push
    split
    · next hframes =>
      unfold path at hdraft
      rw [hframes] at hdraft
      exact Draft.allFollow_append.2 ⟨hchildren, hdraft, trivial⟩
    · exact hchildren
  · unfold push
    split
    · next hframes' =>
      dsimp only
      rw [hframes']
      trivial
    · next frame frames hframes' =>
      unfold path at hdraft
      rw [hframes'] at hdraft hframes
      obtain ⟨hpath, hheader, hinner, hframes⟩ := hframes
      exact ⟨hpath, hheader, Draft.allFollow_append.2 ⟨hinner, hdraft, trivial⟩, hframes⟩

theorem isAuthored_addRow {row : SurveyRow} {line : Nat} (houtline : outline.IsAuthored root)
    (hrow : row.IsTidy) (h : outline.addRow line row = .ok outline') : outline'.IsAuthored root := by
  obtain ⟨hdeclares, hchildren, hframes⟩ := houtline
  cases takes_of_addRow h with
  | opening htype hname hdeclare =>
    refine ⟨?_, hchildren, ?_⟩
    -- The symbol of the block comes behind those of all open blocks, in front of its children's.
    · have hsnoc := SymbolTable.declaresAll_snoc hdeclares hdeclare
      rw [nodeSymbols] at hsnoc
      rw [nodeSymbols, Frame.symbolsAll, ← List.append_assoc]
      exact hsnoc
    · refine ⟨by rw [path_eq], ?_, trivial, hframes⟩
      exact ⟨hrow.name _ hname, hrow.label, hrow.hint, hrow.relevant, hrow.appearance⟩
  | @closing frame frames htype hframes' =>
    rw [hframes'] at hframes
    obtain ⟨hpath, hheader, hinner, hframes⟩ := hframes
    have hdraft : frame.toDraft.Follows .authored (path { outline with frames }) := by
      refine ⟨?_, hheader, hinner⟩
      rw [hpath, path_eq]
    -- Closing a block moves its symbols from the frame to the draft, and keeps their order.
    have hclosed : (SymbolTable.empty root).DeclaresAll
        (nodeSymbols { outline with frames } ++ frame.toDraft.symbols) outline.symbols := by
      rw [nodeSymbols, hframes', Frame.symbolsAll, ← List.append_assoc] at hdeclares
      exact hdeclares
    exact isAuthored_push hdraft hclosed hchildren hframes
  | @question type list name symbols htype hname hsuits hdeclare =>
    have hlist := hrow.type
    rw [htype] at hlist
    refine isAuthored_push ⟨rfl, ?_⟩ ?_ hchildren hframes
    · exact
        { isName := hrow.name name hname
          label := hrow.label
          hint := hrow.hint
          constraintMessage := hrow.constraintMessage
          relevant := hrow.relevant
          constraint := hrow.constraint
          calculation := hrow.calculation
          default := hrow.default
          appearance := hrow.appearance
          isContainer_eq := hsuits.isContainer_eq
          calculation_ne := hsuits.calculation_ne
          calculation_eq := hsuits.calculation_eq
          appearance_eq := hsuits.appearance_eq
          list := hlist }
    · exact SymbolTable.declaresAll_snoc hdeclares hdeclare

end Outline

end Questionnaire
