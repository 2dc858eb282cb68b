import Questionnaire.Proofs.Sheet.Outline
import Questionnaire.Proofs.Survey.Assembly
import Questionnaire.Sheet.Reading

/-!
This module contains what is known of every survey that a workbook is read as.
-/

namespace Questionnaire

namespace Workbook

def IsAuthoredIn (list : String) (choice : Choice) : Prop :=
  Text.IsTidy list ∧ choice.IsAuthored

theorem gather_groupChoices {rows : List (Nat × Row)} {groups : ChoiceGroups}
    (h : groupChoices rows = .ok groups) : groups.lists.Gather IsAuthoredIn := by
  unfold groupChoices at h
  refine foldlM_invariant (p := fun groups => groups.lists.Gather IsAuthoredIn) ?_
    ChoiceGroups.gather_empty h
  rintro state ⟨line, row⟩ state' hstate hstep
  obtain ⟨parsed, hparsed, hstep⟩ := bind_eq_ok_iff.1 hstep
  cases hstep
  exact ChoiceGroups.gather_add hstate (ChoiceRow.isAuthored_parse hparsed)

theorem isAuthored_of_gather {lists : ChoiceLists} (h : lists.Gather IsAuthoredIn) :
    ∀ entry ∈ lists.entries, entry.2.IsAuthored := by
  intro entry hentry
  have hchoices := h.choices entry hentry
  have hne := h.choices_ne entry hentry
  refine ⟨?_, hne, fun choice hchoice => (hchoices choice hchoice).2⟩
  obtain ⟨choice, hchoice⟩ := List.exists_mem_of_ne_nil _ hne
  rw [← h.keys entry hentry]
  exact (hchoices choice hchoice).1

theorem isAuthored_outlineRows {options : Options} {root : String} {rows : List (Nat × Row)}
    {outline : Outline} (h : outlineRows options root rows = .ok outline) :
    outline.IsAuthored root := by
  unfold outlineRows at h
  apply foldlM_invariant (p := fun outline => outline.IsAuthored root) _ _ h
  · rintro state ⟨line, row⟩ state' hstate hstep
    obtain ⟨parsed, hparsed, hstep⟩ := bind_eq_ok_iff.1 hstep
    exact Outline.isAuthored_addRow hstate (SurveyRow.isTidy_parse hparsed) hstep
  · exact Outline.isAuthored_empty root

def drafting (workbook : Workbook) (options : Options) : Except Failure Drafting := do
  let settings ← SettingsRow.parse options workbook.settings
  let groups ← groupChoices (numbered workbook.choices)
  let outline ← outlineRows options (settings.rootName.getD options.rootName)
    (numbered workbook.survey)
  let draft ← outline.complete
  .ok ⟨draft, outline.symbols, groups.lists, settings.settings, groups.warnings⟩

variable {workbook : Workbook} {options : Options} {drafting : Drafting} {reading : Reading}

theorem read_eq (workbook : Workbook) (options : Options) :
    workbook.read options =
      workbook.drafting options >>= fun drafting =>
        drafting.finish (Expression.compile drafting.symbols) options := by
  unfold read Workbook.drafting
  simp only [bind_assoc]
  rfl

theorem read_eq_ok (h : workbook.read options = .ok reading) :
    ∃ drafting, workbook.drafting options = .ok drafting ∧
      drafting.finish (Expression.compile drafting.symbols) options = .ok reading := by
  rw [read_eq] at h
  exact bind_eq_ok_iff.1 h

theorem drafting_eq_ok_iff :
    workbook.drafting options = .ok drafting ↔
      ∃ settings groups outline draft,
        SettingsRow.parse options workbook.settings = .ok settings ∧
          groupChoices (numbered workbook.choices) = .ok groups ∧
          outlineRows options (settings.rootName.getD options.rootName)
            (numbered workbook.survey) = .ok outline ∧
          outline.complete = .ok draft ∧
          drafting =
            ⟨draft, outline.symbols, groups.lists, settings.settings, groups.warnings⟩ := by
  unfold Workbook.drafting
  constructor
  · intro h
    obtain ⟨settings, hsettings, h⟩ := bind_eq_ok_iff.1 h
    obtain ⟨groups, hgroups, h⟩ := bind_eq_ok_iff.1 h
    obtain ⟨outline, houtline, h⟩ := bind_eq_ok_iff.1 h
    obtain ⟨draft, hdraft, h⟩ := bind_eq_ok_iff.1 h
    cases h
    exact ⟨settings, groups, outline, draft, hsettings, hgroups, houtline, hdraft, rfl⟩
  · rintro ⟨settings, groups, outline, draft, hsettings, hgroups, houtline, hdraft, rfl⟩
    rw [hsettings, ok_bind, hgroups, ok_bind, houtline, ok_bind, hdraft, ok_bind]

theorem isSound_drafting (h : workbook.drafting options = .ok drafting) :
    drafting.IsSound .authored IsAuthoredIn ∧ drafting.settings.IsAuthored ∧
      (Text.isName options.rootName = true → Text.isName drafting.symbols.root = true) := by
  obtain ⟨settings, groups, outline, draft, hsettings, hgroups, houtline, hdraft, rfl⟩ :=
    drafting_eq_ok_iff.1 h
  have hsettings := SettingsRow.isTidy_parse hsettings
  obtain ⟨hdeclares, hchildren, -⟩ := isAuthored_outlineRows houtline
  have hroot : outline.symbols.root = settings.rootName.getD options.rootName := by
    rw [SymbolTable.eq_of_declaresAll hdeclares]
    rfl
  unfold Outline.complete at hdraft
  split at hdraft
  · cases hdraft
  · next hframes =>
    cases hdraft
    -- No block is open, so that all names are those of the finished drafts.
    have hsymbols : outline.nodeSymbols = Draft.symbolsAll outline.children := by
      unfold Outline.nodeSymbols
      rw [hframes, Frame.symbolsAll, List.append_nil]
    rw [hsymbols, ← hroot] at hdeclares
    refine ⟨⟨rfl, rfl, hchildren, hdeclares, gather_groupChoices hgroups⟩, hsettings.settings, ?_⟩
    intro hoption
    dsimp only
    rw [hroot]
    cases hname : settings.rootName with
    | none => exact hoption
    | some name => exact hsettings.rootName name hname

theorem isAuthored_read (hroot : Text.isName options.rootName = true)
    (h : workbook.read options = .ok reading) : ∃ table, reading.survey.IsAuthored table := by
  obtain ⟨drafting, hdrafting, hfinish⟩ := read_eq_ok h
  obtain ⟨hsound, hsettings, hname⟩ := isSound_drafting hdrafting
  have hassemble := Drafting.finish_eq_ok hfinish
  have hcompiled := hsound.isCompiledFrom hassemble
  obtain ⟨children, -, heq⟩ := hsound.survey_eq hassemble
  refine ⟨drafting.symbols, ?_⟩
  rw [heq] at hcompiled ⊢
  exact
    { symbols_eq := hcompiled.symbols_eq
      header_eq := rfl
      rootName := hname hroot
      settings := hsettings
      nodes := fun located hlocated =>
        LocatedNode.isAuthored_of_isCompiledFrom (hcompiled.nodes located hlocated)
      keys := hsound.lists.keys
      lists := isAuthored_of_gather hsound.lists
      offers := hcompiled.offers }

end Workbook

end Questionnaire
