import Questionnaire.Proofs.Sheet.Rebuilding

/-!
This module contains what is left of an outline that refuses a row. The outline is built in place,
so what a step has changed before it fails stays changed. Only a row that closes a container of the
wrong kind fails behind a change.
-/

namespace Questionnaire

namespace Outline

def givenAll (outline : Outline) : List (Nat × SurveyRow) → Outline
  | [] => outline
  | (line, row) :: rows => givenAll (outline.given line row) rows

def taken (outline : Outline) : List (Nat × SurveyRow) → List (Nat × SurveyRow)
  | [] => []
  | (line, row) :: rows =>
    let rest := taken (outline.given line row) rows
    match outline.addRow line row with
    | .ok _ => (line, row) :: rest
    | .error _ => rest

def NeverCrosses (outline : Outline) : List (Nat × SurveyRow) → Prop
  | [] => True
  | (line, row) :: rows => ¬ outline.ClosesOther row ∧ NeverCrosses (outline.given line row) rows

variable {outline outline' left : Outline} {row : SurveyRow} {rows : List (Nat × SurveyRow)}
  {line : Nat} {failure : Failure}

theorem given_of_ok (h : outline.addRow line row = .ok outline') :
    outline.given line row = outline' := by
  unfold given
  rw [addRow_eq_ok_iff_run.1 h]

theorem refuses_given (h : outline.addRow line row = .error failure) :
    outline.Refuses row (outline.given line row) := by
  obtain ⟨left, h⟩ := addRow_eq_error_iff.1 h
  unfold given
  rw [h]
  exact (refuses_of_run h).2

theorem given_eq_self (h : outline.addRow line row = .error failure)
    (hcloses : ¬ outline.ClosesOther row) : outline.given line row = outline :=
  (refuses_given h).unique (.kept hcloses)

theorem exists_takes (h : outline.Takes line row outline') (line' : Nat) :
    ∃ outline'', outline.Takes line' row outline'' := by
  cases h with
  | opening htype hname hdeclare => exact ⟨_, .opening htype hname hdeclare⟩
  | closing htype hframes => exact ⟨_, .closing htype hframes⟩
  | question htype hname hsuits hdeclare => exact ⟨_, .question htype hname hsuits hdeclare⟩

theorem afterRefusal_eq_given (h : outline.addRow line row = .error failure) :
    outline.afterRefusal row = outline.given line row := by
  unfold afterRefusal
  cases hzero : outline.addRow 0 row with
  | error failure' => exact (refuses_given hzero).unique (refuses_given h)
  | ok outline' =>
    obtain ⟨outline'', htakes⟩ := exists_takes (addRow_eq_ok_iff.1 hzero) line
    rw [addRow_of_takes htakes] at h
    cases h

theorem addRows_taken (h : outline.NeverCrosses rows) :
    outline.addRows (outline.taken rows) = .ok (outline.givenAll rows) := by
  induction rows generalizing outline with
  | nil => rfl
  | cons head rows ih =>
    obtain ⟨line, row⟩ := head
    obtain ⟨hcloses, hrest⟩ := h
    rw [taken, givenAll]
    cases hrow : outline.addRow line row with
    | ok outline' =>
      rw [given_of_ok hrow] at hrest ⊢
      dsimp only
      exact bind_eq_ok_iff.2 ⟨outline', hrow, ih hrest⟩
    | error failure =>
      rw [given_eq_self hrow hcloses] at hrest ⊢
      exact ih hrest

theorem refused_row_leaves_outline (h : (take line row).run outline = .error failure left) :
    left.children = outline.children ∧ left.symbols = outline.symbols ∧
      (left.frames = outline.frames ↔ ¬ outline.ClosesOther row) ∧
      (outline.ClosesOther row → ∃ frame, outline.frames = frame :: left.frames) := by
  cases (refuses_of_run h).2 with
  | kept hcloses =>
    refine ⟨rfl, rfl, iff_of_true rfl hcloses, ?_⟩
    intro h
    exact absurd h hcloses
  | dropped hcloses hframes =>
    refine ⟨rfl, rfl, ?_, fun _ => ⟨_, hframes⟩⟩
    rw [hframes]
    simp [hcloses]

theorem refused_row_leaves_outline_nested :
    ∃ outline failure left, (empty "data").addRows (nestedRows.take 3) = .ok outline ∧
      (take 5 { type := .question .text none, name := some "age" }).run outline =
        .error failure left ∧
      failure.cause = .duplicateName "age" ∧ left.nesting = .inside .group 1 ∧
      left.children = outline.children ∧ left.symbols = outline.symbols ∧
      left.frames = outline.frames := by
  refine ⟨_, _, _, rfl, rfl, rfl, rfl, ?_⟩
  have hleaves := @refused_row_leaves_outline ((empty "data").givenAll (nestedRows.take 3)) _
    { type := .question .text none, name := some "age" } 5 _ rfl
  obtain ⟨hchildren, hsymbols, hframes, -⟩ := hleaves
  refine ⟨hchildren, hsymbols, hframes.2 ?_⟩
  rintro ⟨kind, htype, -⟩
  cases htype

theorem refused_row_drops_container :
    ¬ ∀ rows line row failure left,
      (take line row).run ((empty "data").givenAll rows) = .error failure left →
        left.frames = ((empty "data").givenAll rows).frames := by
  intro h
  have hframes := h (nestedRows.take 3) 5 { type := .closing .repeating } _ _ rfl
  cases hframes

end Outline

end Questionnaire
