import Questionnaire.Proofs.Sheet.Reading
import Questionnaire.Proofs.Survey.Alike
import Questionnaire.Proofs.Survey.Identity

/-!
This module contains the comparison of the readings of two workbooks. Rows that say the same, at
whatever lines, keep two outlines alike.
-/

namespace Questionnaire

structure Frame.Alike (moves : Prop) (frame frame' : Frame) : Prop where
  kind_eq : frame.kind = frame'.kind
  path_eq : frame.path = frame'.path
  header_eq : frame.header = frame'.header
  relevant_eq : frame.relevant = frame'.relevant
  children : Draft.AllAlike moves frame.children frame'.children

structure Outline.Alike (moves : Prop) (outline outline' : Outline) : Prop where
  children : Draft.AllAlike moves outline.children outline'.children
  frames : outline.frames.Forall₂ (Frame.Alike moves) outline'.frames
  symbols : outline.symbols.Agrees outline'.symbols

namespace Outline

variable {moves : Prop} {outline outline' outline'' next : Outline} {line line' : Nat}
  {row : SurveyRow}

theorem alike_self (moves : Prop) (outline : Outline) : outline.Alike moves outline where
  children := Draft.allAlike_self moves _
  frames := List.forall₂_same.2 fun _ _ => ⟨rfl, rfl, rfl, rfl, Draft.allAlike_self moves _⟩
  symbols := ⟨rfl, fun _ => rfl⟩

namespace Alike

theorem trans (h : outline.Alike moves outline') (h' : outline'.Alike moves outline'') :
    outline.Alike moves outline'' where
  children := h.children.trans h'.children
  frames := by
    apply (forall₂_comp h.frames h'.frames).imp
    rintro frame frame'' ⟨frame', hframe, hframe'⟩
    exact
      { kind_eq := hframe.kind_eq.trans hframe'.kind_eq
        path_eq := hframe.path_eq.trans hframe'.path_eq
        header_eq := hframe.header_eq.trans hframe'.header_eq
        relevant_eq := hframe.relevant_eq.trans hframe'.relevant_eq
        children := hframe.children.trans hframe'.children }
  symbols := h.symbols.trans h'.symbols

theorem path_eq (h : outline.Alike moves outline') : outline.path = outline'.path := by
  obtain ⟨children, frames, symbols⟩ := outline
  obtain ⟨children', frames', symbols'⟩ := outline'
  obtain ⟨hchildren, hframes, hsymbols⟩ := h
  dsimp only at hframes
  cases hframes with
  | nil => rfl
  | cons hframe hframes => exact hframe.path_eq

theorem push {draft draft' : Draft} (h : outline.Alike moves outline')
    (hdraft : Draft.AllAlike moves [draft] [draft']) :
    (outline.push draft).Alike moves (outline'.push draft') := by
  obtain ⟨children, frames, symbols⟩ := outline
  obtain ⟨children', frames', symbols'⟩ := outline'
  obtain ⟨hchildren, hframes, hsymbols⟩ := h
  dsimp only at hframes
  cases hframes with
  | nil => exact ⟨hchildren.append hdraft, .nil, hsymbols⟩
  | cons hframe hframes =>
    exact ⟨hchildren, .cons { hframe with children := hframe.children.append hdraft } hframes,
      hsymbols⟩

theorem with_symbols {symbols symbols' : SymbolTable} (h : outline.Alike moves outline')
    (hsymbols : symbols.Agrees symbols') :
    Alike moves { outline with symbols } { outline' with symbols := symbols' } :=
  ⟨h.children, h.frames, hsymbols⟩

theorem exists_takes (h : outline.Alike moves outline') (htakes : outline.Takes line row next)
    (line' : Nat) : ∃ next', outline'.Takes line' row next' ∧ next.Alike moves next' := by
  cases htakes with
  | @opening kind name symbols htype hname hdeclare =>
    rw [h.path_eq] at hdeclare
    obtain ⟨symbols', hdeclare', hsymbols⟩ := h.symbols.exists_declare hdeclare
    refine ⟨_, .opening htype hname hdeclare', ⟨h.children, .cons ?_ h.frames, hsymbols⟩⟩
    exact ⟨rfl, by rw [h.path_eq], rfl, rfl, .nil⟩
  | @closing frame frames htype hframes =>
    have hboth := h.frames
    rw [hframes] at hboth
    obtain ⟨frame', frames', hframe, hrest, hframes'⟩ := List.forall₂_cons_left_iff.1 hboth
    rw [hframe.kind_eq] at htype
    refine ⟨_, .closing htype hframes', push ⟨h.children, hrest, h.symbols⟩ ?_⟩
    unfold Frame.toDraft
    rw [hframe.kind_eq, hframe.path_eq, hframe.header_eq, hframe.relevant_eq]
    exact .block hframe.children .nil
  | @question type list name symbols htype hname hsuits hdeclare =>
    rw [h.path_eq] at hdeclare
    obtain ⟨symbols', hdeclare', hsymbols⟩ := h.symbols.exists_declare hdeclare
    refine ⟨_, .question htype hname hsuits hdeclare', push (h.with_symbols hsymbols) ?_⟩
    rw [h.path_eq]
    exact .question .nil

theorem exists_complete {draft : SurveyDraft} (h : outline.Alike moves outline')
    (hcomplete : outline.complete = .ok draft) :
    ∃ draft', outline'.complete = .ok draft' ∧
      Draft.AllAlike moves draft.children draft'.children := by
  obtain ⟨children, frames, symbols⟩ := outline
  obtain ⟨children', frames', symbols'⟩ := outline'
  obtain ⟨hchildren, hframes, hsymbols⟩ := h
  dsimp only at hframes
  cases hframes with
  | nil =>
    cases hcomplete
    exact ⟨_, rfl, hchildren⟩
  | cons hframe hframes => cases hcomplete

end Alike

end Outline

namespace Workbook

variable {options : Options} {moves : Prop} {workbook workbook' : Workbook}

def ReadsAs (options : Options) (line line' : Nat × Row) : Prop :=
  ∀ parsed, SurveyRow.parse options line.1 line.2 = .ok parsed →
    SurveyRow.parse options line'.1 line'.2 = .ok parsed

theorem exists_takeRow (outline outline' : Outline) (line line' : Nat × Row) (next : Outline)
    (hline : ReadsAs options line line') (h : outline.Alike moves outline')
    (htake : takeRow options outline line = .ok next) :
    ∃ next', takeRow options outline' line' = .ok next' ∧ next.Alike moves next' := by
  obtain ⟨parsed, hparse, hadd⟩ := bind_eq_ok_iff.1 htake
  obtain ⟨next', htakes, halike⟩ := h.exists_takes (Outline.takes_of_addRow hadd) line'.1
  refine ⟨next', ?_, halike⟩
  unfold takeRow
  rw [hline parsed hparse, ok_bind, Outline.addRow_of_takes htakes]

theorem exists_takeRows {outline outline' last : Outline} {lines lines' : List (Nat × Row)}
    (h : outline.Alike moves outline') (hlines : lines.Forall₂ (ReadsAs options) lines')
    (htake : lines.foldlM (takeRow options) outline = .ok last) :
    ∃ last', lines'.foldlM (takeRow options) outline' = .ok last' ∧ last.Alike moves last' :=
  exists_foldlM_of_forall₂ exists_takeRow hlines h htake

end Workbook

structure ChoiceGroups.IsSame (groups groups' : ChoiceGroups) : Prop where
  keys_eq : groups.lists.keys = groups'.lists.keys
  lists : ∀ name,
    Option.Rel ChoiceList.IsSame (groups.lists.get? name) (groups'.lists.get? name)
  warnings_eq : groups.warnings = groups'.warnings

namespace ChoiceGroups

theorem isSame_self (groups : ChoiceGroups) : groups.IsSame groups where
  keys_eq := rfl
  lists := by
    intro name
    cases groups.lists.get? name with
    | none => exact .none
    | some list =>
      exact .some ⟨rfl, List.forall₂_same.2 fun _ _ => ⟨rfl, rfl, fun _ => rfl⟩⟩
  warnings_eq := rfl

theorem IsSame.coveredBy {groups groups' : ChoiceGroups} (h : groups.IsSame groups') :
    groups.lists.CoveredBy groups'.lists := by
  intro question list hchoices
  rw [ChoiceLists.requireChoices_eq_ok_iff] at hchoices ⊢
  obtain ⟨offered, hget, hne⟩ := hchoices
  have hlists := h.lists (list.getD "")
  rw [hget] at hlists
  generalize groups'.lists.get? (list.getD "") = offered' at hlists ⊢
  cases hlists with
  | @some _ offered' hsame =>
    refine ⟨offered', rfl, ?_⟩
    intro hnil
    have hlength := hsame.choices.length_eq
    rw [hnil, List.length_nil, List.length_eq_zero_iff] at hlength
    exact hne hlength

end ChoiceGroups

namespace Workbook

variable {options : Options} {moves : Prop} {workbook workbook' : Workbook}

structure ReadsAlike (moves : Prop) (options : Options) (workbook workbook' : Workbook) : Prop where
  settings : ∀ parsed, SettingsRow.parse options workbook.settings = .ok parsed →
    SettingsRow.parse options workbook'.settings = .ok parsed
  choices : ∀ groups, groupChoices (numbered workbook.choices) = .ok groups →
    ∃ groups', groupChoices (numbered workbook'.choices) = .ok groups' ∧ groups.IsSame groups'
  survey : ∀ root outline, outlineRows options root (numbered workbook.survey) = .ok outline →
    ∃ outline', outlineRows options root (numbered workbook'.survey) = .ok outline' ∧
      outline.Alike moves outline'

theorem ReadsAlike.exists_drafting {drafting : Drafting}
    (h : ReadsAlike moves options workbook workbook')
    (hdrafting : workbook.drafting options = .ok drafting) :
    ∃ drafting', workbook'.drafting options = .ok drafting' ∧ drafting.Alike moves drafting' := by
  obtain ⟨settings, groups, outline, draft, hsettings, hgroups, houtline, hdraft, rfl⟩ :=
    drafting_eq_ok_iff.1 hdrafting
  obtain ⟨groups', hgroups', hsame⟩ := h.choices groups hgroups
  obtain ⟨outline', houtline', halike⟩ := h.survey _ outline houtline
  obtain ⟨draft', hdraft', hchildren⟩ := halike.exists_complete hdraft
  have hdrafting' := drafting_eq_ok_iff.2 ⟨settings, groups', outline', draft',
    h.settings settings hsettings, hgroups', houtline', hdraft', rfl⟩
  exact ⟨_, hdrafting', hchildren, halike.symbols, hsame.keys_eq, hsame.coveredBy, rfl,
    hsame.warnings_eq⟩

theorem lists_of_drafting {drafting : Drafting} (h : workbook.drafting options = .ok drafting) :
    ∃ groups, groupChoices (numbered workbook.choices) = .ok groups ∧
      drafting.lists = groups.lists := by
  obtain ⟨settings, groups, outline, draft, -, hgroups, -, -, rfl⟩ := drafting_eq_ok_iff.1 h
  exact ⟨groups, hgroups, rfl⟩

theorem ReadsAlike.exists_read {reading : Reading} (h : ReadsAlike moves options workbook workbook')
    (hread : workbook.read options = .ok reading) :
    ∃ reading', workbook'.read options = .ok reading' ∧
      reading.survey.Alike moves reading'.survey ∧ reading'.warnings = reading.warnings ∧
      (∃ groups, groupChoices (numbered workbook.choices) = .ok groups ∧
        reading.survey.lists = groups.lists) ∧
      ∃ groups', groupChoices (numbered workbook'.choices) = .ok groups' ∧
        reading'.survey.lists = groups'.lists := by
  obtain ⟨drafting, hdrafting, hfinish⟩ := read_eq_ok hread
  obtain ⟨drafting', hdrafting', halike⟩ := h.exists_drafting hdrafting
  obtain ⟨reading', hfinish', hsurvey, hwarnings, hlists, hlists'⟩ :=
    halike.exists_finish (isSound_drafting hdrafting).1 (isSound_drafting hdrafting').1 hfinish
  refine ⟨reading', ?_, hsurvey, hwarnings, ?_, ?_⟩
  · rw [read_eq, hdrafting', ok_bind, hfinish']
  · rw [hlists]
    exact lists_of_drafting hdrafting
  · rw [hlists']
    exact lists_of_drafting hdrafting'

end Workbook

end Questionnaire
