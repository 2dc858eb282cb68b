import Questionnaire.Sheet.Outline

/-!
This module contains which sequences of rows make a survey sheet: the rows that open and close
containers are nested, and every row is sound by itself.
-/

namespace Questionnaire

namespace SurveyRow

def declaredName? (row : SurveyRow) : Option String :=
  match row.type with
  | .closing _ => none
  | .opening _ | .question _ _ => row.name

structure Suits (row : SurveyRow) (type : QuestionType) : Prop where
  isContainer_eq : type.isContainer = false
  calculation_ne : type = .calculate → row.calculation ≠ none
  calculation_eq : type = .hidden → row.calculation = none
  appearance_eq : type.isHidden = true → row.appearance = none

structure IsSound (row : SurveyRow) : Prop where
  named : (∀ kind, row.type ≠ .closing kind) → row.name ≠ none
  suits : ∀ type list, row.type = .question type list → row.Suits type

section IsSound

variable {row : SurveyRow}

theorem isSound_opening {kind : BlockKind} (htype : row.type = .opening kind) :
    row.IsSound ↔ row.name ≠ none := by
  constructor
  · intro h
    exact h.named (by simp [htype])
  · intro hname
    exact ⟨fun _ => hname, by simp [htype]⟩

theorem isSound_closing {kind : BlockKind} (htype : row.type = .closing kind) : row.IsSound :=
  ⟨fun h => absurd htype (h kind), by simp [htype]⟩

theorem isSound_question {type : QuestionType} {list : Option String}
    (htype : row.type = .question type list) :
    row.IsSound ↔ row.name ≠ none ∧ row.Suits type := by
  constructor
  · intro h
    exact ⟨h.named (by simp [htype]), h.suits type list htype⟩
  · rintro ⟨hname, hsuits⟩
    refine ⟨fun _ => hname, ?_⟩
    intro type' list' htype'
    rw [htype] at htype'
    cases htype'
    exact hsuits

end IsSound

end SurveyRow

/--
Rows in which each row that opens a container has a row of its kind that closes it.
-/
inductive WellNested : List SurveyRow → Prop
  | nil : WellNested []
  | question {row : SurveyRow} {rows : List SurveyRow} {type : QuestionType} {list : Option String}
      (htype : row.type = .question type list) (h : WellNested rows) : WellNested (row :: rows)
  | block {start close : SurveyRow} {inside rows : List SurveyRow} {kind : BlockKind}
      (hstart : start.type = .opening kind) (hclose : close.type = .closing kind)
      (hinside : WellNested inside) (h : WellNested rows) :
      WellNested (start :: inside ++ close :: rows)

structure IsWellFormed (rows : List SurveyRow) : Prop where
  nested : WellNested rows
  isSound : ∀ row ∈ rows, row.IsSound
  nodup : (rows.filterMap SurveyRow.declaredName?).Nodup

structure OpenBlock where
  kind : BlockKind
  name : Option String
deriving DecidableEq

namespace OpenBlock

def pathOf (opened : List OpenBlock) : NodePath :=
  opened.reverse.filterMap OpenBlock.name

def nestingOf : List OpenBlock → Nesting
  | [] => .top
  | block :: opened => .inside block.kind (opened.length + 1)

end OpenBlock

namespace SurveyRow

def openedBehind (row : SurveyRow) (opened : List OpenBlock) : List OpenBlock :=
  match row.type with
  | .opening kind => ⟨kind, row.name⟩ :: opened
  | .closing _ => opened.tail
  | .question _ _ => opened

def symbol? (row : SurveyRow) (path : NodePath) : Option Symbol :=
  match row.type with
  | .opening kind => row.name.map fun name => ⟨NodePath.child path name, .block kind⟩
  | .closing _ => none
  | .question _ _ => row.name.map fun name => ⟨NodePath.child path name, .question⟩

end SurveyRow

def openAfter (rows : List SurveyRow) : List OpenBlock :=
  rows.foldl (fun opened row => row.openedBehind opened) []

def symbolsFrom (opened : List OpenBlock) : List SurveyRow → List Symbol
  | [] => []
  | row :: rows =>
    (row.symbol? (OpenBlock.pathOf opened)).toList ++ symbolsFrom (row.openedBehind opened) rows

/--
Whether rows close all containers: those of the given kinds, from the inside out, and those that
they open themselves.
-/
def ClosesAll : List BlockKind → List SurveyRow → Prop
  | kinds, [] => kinds = []
  | kinds, row :: rows =>
    match row.type with
    | .opening kind => ClosesAll (kind :: kinds) rows
    | .closing kind => kinds.head? = some kind ∧ ClosesAll kinds.tail rows
    | .question _ _ => ClosesAll kinds rows

section ClosesAll

variable {kinds : List BlockKind} {row : SurveyRow} {rows : List SurveyRow}

theorem closesAll_opening {kind : BlockKind} (htype : row.type = .opening kind) :
    ClosesAll kinds (row :: rows) ↔ ClosesAll (kind :: kinds) rows := by
  rw [ClosesAll, htype]

theorem closesAll_closing {kind : BlockKind} (htype : row.type = .closing kind) :
    ClosesAll kinds (row :: rows) ↔ kinds.head? = some kind ∧ ClosesAll kinds.tail rows := by
  rw [ClosesAll, htype]

theorem closesAll_question {type : QuestionType} {list : Option String}
    (htype : row.type = .question type list) :
    ClosesAll kinds (row :: rows) ↔ ClosesAll kinds rows := by
  rw [ClosesAll, htype]

theorem closesAll_append {front : List SurveyRow} (hfront : WellNested front)
    (h : ClosesAll kinds rows) : ClosesAll kinds (front ++ rows) := by
  induction hfront generalizing kinds rows with
  | nil => exact h
  | question htype _ ih => exact (closesAll_question htype).2 (ih h)
  | block hstart hclose _ _ ihinside ih =>
    rw [List.append_assoc, List.cons_append]
    refine (closesAll_opening hstart).2 (ihinside ?_)
    exact (closesAll_closing hclose).2 ⟨rfl, ih h⟩

inductive Closings : List BlockKind → List SurveyRow → Prop
  | nil {rows : List SurveyRow} (h : WellNested rows) : Closings [] rows
  | cons {kind : BlockKind} {kinds : List BlockKind} {inside rows : List SurveyRow}
      {close : SurveyRow} (hinside : WellNested inside) (hclose : close.type = .closing kind)
      (h : Closings kinds rows) : Closings (kind :: kinds) (inside ++ close :: rows)

theorem closings_append {front : List SurveyRow}
    (hfront : ∀ back, WellNested back → WellNested (front ++ back)) (h : Closings kinds rows) :
    Closings kinds (front ++ rows) := by
  cases h with
  | nil h => exact .nil (hfront _ h)
  | cons hinside hclose h =>
    rw [← List.append_assoc]
    exact .cons (hfront _ hinside) hclose h

theorem closings_of_closesAll (h : ClosesAll kinds rows) : Closings kinds rows := by
  induction rows generalizing kinds with
  | nil =>
    rw [show kinds = [] from h]
    exact .nil .nil
  | cons row rows ih =>
    cases htype : row.type with
    -- The first container that is closed behind the row is the one that the row opens.
    | opening kind =>
      cases ih ((closesAll_opening htype).1 h) with
      | @cons _ _ inside rest close hinside hclose hrest =>
        have hblock : ∀ back, WellNested back →
            WellNested (row :: inside ++ [close] ++ back) := by
          intro back hback
          rw [List.append_assoc]
          exact .block htype hclose hinside hback
        simpa using closings_append hblock hrest
    | closing kind =>
      obtain ⟨hhead, hrest⟩ := (closesAll_closing htype).1 h
      obtain ⟨outer, rfl⟩ := List.head?_eq_some_iff.1 hhead
      exact .cons .nil htype (ih hrest)
    | question type list =>
      have hrow : ∀ back, WellNested back → WellNested ([row] ++ back) :=
        fun _ hback => .question htype hback
      exact closings_append hrow (ih ((closesAll_question htype).1 h))

theorem closesAll_nil_iff : ClosesAll [] rows ↔ WellNested rows := by
  constructor
  · intro h
    cases closings_of_closesAll h with
    | nil h => exact h
  · intro h
    have := closesAll_append h (show ClosesAll [] [] from rfl)
    rwa [List.append_nil] at this

end ClosesAll

end Questionnaire
