import Questionnaire.Proofs.Expression.Linking
import Questionnaire.Proofs.Sheet.Nesting

/-!
This module contains what a row can do to an outline: it opens a container, closes one or adds a
question, and there is nothing else that it changes. A row that is refused changes nothing, unless
it closes a container of the wrong kind.
-/

namespace Questionnaire

namespace Outline

variable {outline outline' left left' : Outline} {row : SurveyRow} {line : Nat}
variable {failure : Failure}

theorem path_push (outline : Outline) (draft : Draft) :
    (outline.push draft).path = outline.path := by
  unfold push path
  cases outline.frames <;> rfl

theorem symbols_push (outline : Outline) (draft : Draft) :
    (outline.push draft).symbols = outline.symbols := by
  unfold push
  split <;> rfl

theorem declareNode_eq_ok_iff {path : NodePath} {kind : SymbolKind} {place : Place} :
    (declareNode path kind place).run outline = .ok () outline' ↔
      ∃ symbols, outline.symbols.declare path kind = .ok symbols ∧
        outline' = { outline with symbols } := by
  unfold declareNode
  rw [EStateM.run_bind, EStateM.run_get]
  dsimp only
  cases outline.symbols.declare path kind with
  | error failure => simp [placing]
  | ok symbols => simp [placing, eq_comm]

theorem checkQuestion_eq_ok_iff {type : QuestionType} (htype : type.isContainer = false) :
    checkQuestion type row = .ok () ↔ row.Suits type := by
  unfold checkQuestion
  constructor
  · intro h
    split at h
    · cases h
    · next hcalculate =>
      split at h
      · cases h
      · next hhidden =>
        split at h
        · cases h
        · next happearance =>
          refine ⟨htype, ?_, ?_, ?_⟩
          · intro htype hnone
            exact hcalculate ⟨htype, hnone⟩
          · intro htype
            by_contra hsome
            exact hhidden ⟨htype, hsome⟩
          · intro htype
            by_contra hsome
            exact happearance ⟨htype, hsome⟩
  · rintro ⟨-, hcalculate, hhidden, happearance⟩
    rw [if_neg fun h => hcalculate h.1 h.2, if_neg fun h => h.2 (hhidden h.1),
      if_neg fun h => h.2 (happearance h.1)]

inductive Takes (outline : Outline) (line : Nat) (row : SurveyRow) : Outline → Prop
  | opening {kind : BlockKind} {name : String} {symbols : SymbolTable}
      (htype : row.type = .opening kind) (hname : row.name = some name)
      (hdeclare : outline.symbols.declare (NodePath.child outline.path name) (.block kind) =
        .ok symbols) :
      Takes outline line row
        { outline with
          frames := {
            kind
            path := NodePath.child outline.path name
            place := .ofRow "survey" line (some name)
            header := { name, label := row.label, hint := row.hint, appearance := row.appearance }
            relevant := row.relevant } :: outline.frames
          symbols }
  | closing {frame : Frame} {frames : List Frame} (htype : row.type = .closing frame.kind)
      (hframes : outline.frames = frame :: frames) :
      Takes outline line row (push { outline with frames } frame.toDraft)
  | question {type : QuestionType} {list : Option String} {name : String} {symbols : SymbolTable}
      (htype : row.type = .question type list) (hname : row.name = some name)
      (hsuits : row.Suits type)
      (hdeclare : outline.symbols.declare (NodePath.child outline.path name) .question =
        .ok symbols) :
      Takes outline line row (push { outline with symbols }
        (.question (NodePath.child outline.path name) (.ofRow "survey" line (some name))
          { name, type, label := row.label, hint := row.hint, required := row.required
            constraintMessage := row.constraintMessage, default := row.default
            appearance := row.appearance, list }
          ⟨row.relevant, row.constraint, row.calculation⟩))

theorem addRow_eq_ok_iff_run :
    outline.addRow line row = .ok outline' ↔ (take line row).run outline = .ok () outline' := by
  unfold addRow
  cases (take line row).run outline <;> simp

theorem takes_of_addRow (h : outline.addRow line row = .ok outline') :
    outline.Takes line row outline' := by
  rw [addRow_eq_ok_iff_run] at h
  unfold take at h
  dsimp only at h
  split at h
  · next kind htype =>
    unfold openBlock at h
    split at h
    · cases h
    · next name hname =>
      obtain ⟨_, _, hget, h⟩ := run_bind_eq_ok_iff.1 h
      cases hget
      obtain ⟨_, _, hdeclare, h⟩ := run_bind_eq_ok_iff.1 h
      obtain ⟨symbols, hsymbols, rfl⟩ := declareNode_eq_ok_iff.1 hdeclare
      rw [hname] at h
      cases h
      exact .opening htype hname hsymbols
  · next kind htype =>
    unfold closeBlock at h
    obtain ⟨_, _, hget, h⟩ := run_bind_eq_ok_iff.1 h
    cases hget
    split at h
    · cases h
    · next frame frames hframes =>
      obtain ⟨_, _, hmodify, h⟩ := run_bind_eq_ok_iff.1 h
      cases hmodify
      split at h
      · next hkind =>
        cases h
        exact .closing (by rw [htype, hkind]) hframes
      · cases h
  · next type list htype =>
    unfold addQuestion at h
    split at h
    · cases h
    · next hcontainer =>
      rw [Bool.not_eq_true] at hcontainer
      split at h
      · cases h
      · next name hname =>
        split at h
        · cases h
        · next hcheck =>
          obtain ⟨_, _, hget, h⟩ := run_bind_eq_ok_iff.1 h
          cases hget
          obtain ⟨_, _, hdeclare, h⟩ := run_bind_eq_ok_iff.1 h
          obtain ⟨symbols, hsymbols, rfl⟩ := declareNode_eq_ok_iff.1 hdeclare
          rw [hname] at h
          cases h
          exact .question htype hname ((checkQuestion_eq_ok_iff hcontainer).1 hcheck) hsymbols

theorem addRow_of_takes (h : outline.Takes line row outline') :
    outline.addRow line row = .ok outline' := by
  rw [addRow_eq_ok_iff_run]
  unfold take
  cases h with
  | @opening kind name symbols htype hname hdeclare =>
    rw [htype, hname]
    dsimp only
    unfold openBlock
    rw [hname]
    refine run_bind_eq_ok_iff.2 ⟨outline, outline, rfl, ?_⟩
    exact run_bind_eq_ok_iff.2 ⟨(), _, declareNode_eq_ok_iff.2 ⟨symbols, hdeclare, rfl⟩, rfl⟩
  | @closing frame frames htype hframes =>
    rw [htype]
    dsimp only
    unfold closeBlock
    refine run_bind_eq_ok_iff.2 ⟨outline, outline, rfl, ?_⟩
    rw [hframes]
    refine run_bind_eq_ok_iff.2 ⟨(), _, rfl, ?_⟩
    rw [if_pos rfl]
    rfl
  | @question type list name symbols htype hname hsuits hdeclare =>
    rw [htype, hname]
    dsimp only
    unfold addQuestion
    rw [if_neg (by simp [hsuits.isContainer_eq]), hname]
    dsimp only
    rw [(checkQuestion_eq_ok_iff hsuits.isContainer_eq).2 hsuits]
    refine run_bind_eq_ok_iff.2 ⟨outline, outline, rfl, ?_⟩
    exact run_bind_eq_ok_iff.2 ⟨(), _, declareNode_eq_ok_iff.2 ⟨symbols, hdeclare, rfl⟩, rfl⟩

theorem addRow_eq_ok_iff :
    outline.addRow line row = .ok outline' ↔ outline.Takes line row outline' :=
  ⟨takes_of_addRow, addRow_of_takes⟩

theorem addRow_eq_error_iff :
    outline.addRow line row = .error failure ↔
      ∃ left, (take line row).run outline = .error failure left := by
  unfold addRow
  cases (take line row).run outline <;> simp

def ClosesOther (outline : Outline) (row : SurveyRow) : Prop :=
  ∃ kind, row.type = .closing kind ∧ ∃ frame ∈ outline.frames.head?, frame.kind ≠ kind

theorem not_closesOther_of_type (h : ∀ kind, row.type ≠ .closing kind) :
    ¬ outline.ClosesOther row := by
  rintro ⟨kind, htype, -⟩
  exact h kind htype

inductive Refuses (outline : Outline) (row : SurveyRow) : Outline → Prop
  | kept (hcloses : ¬ outline.ClosesOther row) : Refuses outline row outline
  | dropped {frame : Frame} {frames : List Frame} (hcloses : outline.ClosesOther row)
      (hframes : outline.frames = frame :: frames) : Refuses outline row { outline with frames }

theorem Refuses.unique (h : outline.Refuses row left) (h' : outline.Refuses row left') :
    left = left' := by
  cases h with
  | kept hcloses =>
    cases h' with
    | kept _ => rfl
    | dropped hcloses' _ => exact absurd hcloses' hcloses
  | dropped hcloses hframes =>
    cases h' with
    | kept hcloses' => exact absurd hcloses hcloses'
    | dropped _ hframes' =>
      rw [hframes] at hframes'
      cases hframes'
      rfl

theorem declareNode_eq_error {path : NodePath} {kind : SymbolKind} {place : Place}
    (h : (declareNode path kind place).run outline = .error failure left) :
    failure.place = some place ∧ left = outline := by
  unfold declareNode at h
  rw [EStateM.run_bind, EStateM.run_get] at h
  dsimp only at h
  cases hdeclare : outline.symbols.declare path kind with
  | error cause =>
    rw [hdeclare] at h
    cases h
    exact ⟨rfl, rfl⟩
  | ok symbols =>
    rw [hdeclare] at h
    cases h

theorem openBlock_eq_error {kind : BlockKind} {place : Place}
    (h : (openBlock kind row place).run outline = .error failure left) :
    failure.place = some place ∧ left = outline := by
  unfold openBlock at h
  split at h
  · cases h
    exact ⟨rfl, rfl⟩
  · rcases run_bind_eq_error_iff.1 h with hget | ⟨_, _, hget, h⟩
    · cases hget
    · cases hget
      rcases run_bind_eq_error_iff.1 h with hdeclare | ⟨_, _, -, h⟩
      · exact declareNode_eq_error hdeclare
      · cases h

theorem closeBlock_eq_error {kind : BlockKind} {place : Place}
    (h : (closeBlock kind place).run outline = .error failure left) :
    failure.place = some place ∧
      (left = outline ∧ outline.frames = [] ∨
        ∃ frame frames, outline.frames = frame :: frames ∧ frame.kind ≠ kind ∧
          left = { outline with frames }) := by
  unfold closeBlock at h
  rcases run_bind_eq_error_iff.1 h with hget | ⟨_, _, hget, h⟩
  · cases hget
  · cases hget
    split at h
    · next hframes =>
      cases h
      exact ⟨rfl, Or.inl ⟨rfl, hframes⟩⟩
    · next frame frames hframes =>
      rcases run_bind_eq_error_iff.1 h with hmodify | ⟨_, _, hmodify, h⟩
      · cases hmodify
      · cases hmodify
        split at h
        · cases h
        · next hkind =>
          cases h
          exact ⟨rfl, Or.inr ⟨frame, frames, hframes, hkind, rfl⟩⟩

theorem addQuestion_eq_error {type : QuestionType} {list : Option String} {place : Place}
    (h : (addQuestion type list row place).run outline = .error failure left) :
    failure.place = some place ∧ left = outline := by
  unfold addQuestion at h
  split at h
  · cases h
    exact ⟨rfl, rfl⟩
  · split at h
    · cases h
      exact ⟨rfl, rfl⟩
    · split at h
      · cases h
        exact ⟨rfl, rfl⟩
      · rcases run_bind_eq_error_iff.1 h with hget | ⟨_, _, hget, h⟩
        · cases hget
        · cases hget
          rcases run_bind_eq_error_iff.1 h with hdeclare | ⟨_, _, -, h⟩
          · exact declareNode_eq_error hdeclare
          · cases h

theorem refuses_of_run (h : (take line row).run outline = .error failure left) :
    failure.place = some (.ofRow "survey" line row.name) ∧ outline.Refuses row left := by
  unfold take at h
  dsimp only at h
  split at h
  · next kind htype =>
    obtain ⟨hplace, rfl⟩ := openBlock_eq_error h
    exact ⟨hplace, .kept (not_closesOther_of_type (by simp [htype]))⟩
  · next kind htype =>
    obtain ⟨hplace, ⟨rfl, hnil⟩ | ⟨frame, frames, hframes, hkind, rfl⟩⟩ := closeBlock_eq_error h
    · refine ⟨hplace, .kept ?_⟩
      rintro ⟨_, -, frame, hframe, -⟩
      rw [hnil] at hframe
      cases hframe
    · exact ⟨hplace, .dropped ⟨kind, htype, frame, by rw [hframes]; rfl, hkind⟩ hframes⟩
  · next type list htype =>
    obtain ⟨hplace, rfl⟩ := addQuestion_eq_error h
    exact ⟨hplace, .kept (not_closesOther_of_type (by simp [htype]))⟩

end Outline

def Workbook.takeRow (options : Options) (outline : Outline) (line : Nat × Row) :
    Except Failure Outline := do
  let parsed ← SurveyRow.parse options line.1 line.2
  outline.addRow line.1 parsed

end Questionnaire
