import Questionnaire.Proofs.Fallible
import Questionnaire.Proofs.Survey.Authored
import Questionnaire.Sheet.SettingsRow
import Questionnaire.Sheet.SurveyRow

/-!
This module contains what the reading of single rows guarantees: whatever a row holds, its fields
are trimmed texts and valid names.
-/

namespace Questionnaire

theorem Column.trim_language (heading : String) :
    ∀ language ∈ (Column.ofHeading heading).language, Text.trim language = language := by
  intro language hlanguage
  unfold ofHeading at hlanguage
  split at hlanguage
  · cases hlanguage
    exact Text.trim_trim _
  · cases hlanguage

theorem trim_defaultLanguage : Text.trim defaultLanguage = defaultLanguage := by
  decide +kernel

theorem Column.trim_getD_language (heading : String) :
    Text.trim ((Column.ofHeading heading).language.getD defaultLanguage) =
      (Column.ofHeading heading).language.getD defaultLanguage := by
  cases hlanguage : (Column.ofHeading heading).language with
  | none => exact trim_defaultLanguage
  | some language => exact Column.trim_language heading language hlanguage

theorem Row.isBlankText_of_mem_cells {row : Row} {cell : String × String} (h : cell ∈ Row.cells row) :
    Text.isBlankText cell.2 = false := by
  have := (List.mem_filter.1 h).2
  simpa using this

theorem Row.isBlankText_of_cell? {row : Row} {column value : String}
    (h : Row.cell? row column = some value) : Text.isBlankText value = false := by
  have := (Option.filter_eq_some_iff.1 h).2
  simpa using this

namespace SurveyRow

structure IsTidy (row : SurveyRow) : Prop where
  type : row.type.IsSound
  name : ∀ name ∈ row.name, Text.isName name = true
  label : row.label.IsTidy
  hint : row.hint.IsTidy
  relevant : ∀ text ∈ row.relevant, Text.IsTidy text
  constraint : ∀ text ∈ row.constraint, Text.IsTidy text
  constraintMessage : row.constraintMessage.IsTidy
  calculation : ∀ text ∈ row.calculation, Text.IsTidy text
  default : ∀ text ∈ row.default, Text.IsTidy text
  appearance : ∀ text ∈ row.appearance, Text.IsTidy text

theorem isTidy_ofType {type : TypeCell} (h : type.IsSound) : IsTidy { type } where
  type := h
  name := by simp
  label := Localized.isTidy_empty
  hint := Localized.isTidy_empty
  relevant := by simp
  constraint := by simp
  constraintMessage := Localized.isTidy_empty
  calculation := by simp
  default := by simp
  appearance := by simp

theorem isTidy_setCell {row row' : SurveyRow} {column : SurveyColumn} {language value : String}
    (hrow : row.IsTidy) (hlanguage : Text.trim language = language)
    (hvalue : Text.isBlankText value = false)
    (h : setCell row column language value = .ok row') : row'.IsTidy := by
  have htidy := Text.isTidy_trim hvalue
  have hsome : ∀ text ∈ some (Text.trim value), Text.IsTidy text := by
    intro text htext
    cases htext
    exact htidy
  unfold setCell at h
  dsimp only at h
  cases column with
  | type =>
    cases h
    exact hrow
  | name =>
    dsimp only at h
    split at h
    · next hname =>
      cases h
      refine { hrow with name := ?_ }
      intro name hname'
      cases hname'
      exact hname
    · cases h
  | label =>
    cases h
    have htext := hrow.label.insert hlanguage htidy
    generalize row.label.insert language (Text.trim value) = text at htext ⊢
    exact { hrow with label := htext }
  | hint =>
    cases h
    have htext := hrow.hint.insert hlanguage htidy
    generalize row.hint.insert language (Text.trim value) = text at htext ⊢
    exact { hrow with hint := htext }
  | required =>
    dsimp only at h
    split at h
    · cases h
      exact { hrow with }
    · cases h
  | relevant =>
    cases h
    exact { hrow with relevant := hsome }
  | constraint =>
    cases h
    exact { hrow with constraint := hsome }
  | constraintMessage =>
    cases h
    have htext := hrow.constraintMessage.insert hlanguage htidy
    generalize row.constraintMessage.insert language (Text.trim value) = text at htext ⊢
    exact { hrow with constraintMessage := htext }
  | calculation =>
    cases h
    exact { hrow with calculation := hsome }
  | default =>
    cases h
    exact { hrow with default := hsome }
  | appearance =>
    cases h
    exact { hrow with appearance := hsome }

theorem isTidy_setCells {options : Options} {row row' : SurveyRow} {cells : List (String × String)}
    (hrow : row.IsTidy) (hcells : ∀ cell ∈ cells, Text.isBlankText cell.2 = false)
    (h : setCells options row cells = .ok row') : row'.IsTidy := by
  induction cells generalizing row with
  | nil =>
    cases h
    exact hrow
  | cons cell cells ih =>
    obtain ⟨heading, value⟩ := cell
    have htail := fun cell hcell => hcells cell (List.mem_cons_of_mem _ hcell)
    unfold setCells at h
    dsimp only at h
    split at h
    · split at h
      · cases h
      · exact ih hrow htail h
    · split at h
      · cases h
      · obtain ⟨next, hnext, h⟩ := bind_eq_ok_iff.1 h
        apply ih _ htail h
        apply isTidy_setCell hrow _ (hcells _ List.mem_cons_self) hnext
        apply Column.trim_getD_language

theorem parse_eq_ok_iff {options : Options} {line : Nat} {row : Row} {parsed : SurveyRow} :
    parse options line row = .ok parsed ↔
      ∃ cell type, Row.cell? row "type" = some cell ∧ TypeCell.parse cell = .ok type ∧
        setCells options { type } (Row.cells row) = .ok parsed := by
  unfold parse
  dsimp only
  constructor
  · intro h
    split at h
    · cases h
    · next cell hcell =>
      obtain ⟨type, htype, h⟩ := bind_eq_ok_iff.1 h
      split at h
      · next hcells =>
        cases h
        exact ⟨cell, type, hcell, placing_eq_ok_iff.1 htype, hcells⟩
      · cases h
  · rintro ⟨cell, type, hcell, htype, hcells⟩
    rw [hcell]
    dsimp only
    rw [htype, placing, ok_bind, hcells]

theorem isTidy_parse {options : Options} {line : Nat} {row : Row} {parsed : SurveyRow}
    (h : parse options line row = .ok parsed) : parsed.IsTidy := by
  obtain ⟨cell, type, -, htype, hcells⟩ := parse_eq_ok_iff.1 h
  apply isTidy_setCells _ _ hcells
  · exact isTidy_ofType (TypeCell.isSound_parse htype)
  · intro cell hcell
    exact Row.isBlankText_of_mem_cells hcell

theorem type_setCell {row row' : SurveyRow} {column : SurveyColumn} {language value : String}
    (h : setCell row column language value = .ok row') : row'.type = row.type := by
  unfold setCell at h
  dsimp only at h
  cases column with
  | name | required =>
    dsimp only at h
    split at h
    · cases h
      rfl
    · cases h
  | _ =>
    cases h
    rfl

theorem type_setCells {options : Options} {row row' : SurveyRow} {cells : List (String × String)}
    (h : setCells options row cells = .ok row') : row'.type = row.type := by
  induction cells generalizing row with
  | nil =>
    cases h
    rfl
  | cons cell cells ih =>
    unfold setCells at h
    dsimp only at h
    split at h
    · split at h
      · cases h
      · exact ih h
    · split at h
      · cases h
      · obtain ⟨next, hnext, h⟩ := bind_eq_ok_iff.1 h
        rw [ih h, type_setCell hnext]

theorem exists_typeCell_of_parse {options : Options} {line : Nat} {row : Row} {parsed : SurveyRow}
    (h : parse options line row = .ok parsed) :
    ∃ cell, Row.cell? row "type" = some cell ∧ TypeCell.parse cell = .ok parsed.type := by
  obtain ⟨cell, type, hcell, htype, hcells⟩ := parse_eq_ok_iff.1 h
  exact ⟨cell, hcell, htype.trans (congrArg Except.ok (type_setCells hcells).symm)⟩

end SurveyRow

namespace ChoiceRow

theorem setCell_cases (choice : Choice) (heading value : String) :
    setCell choice heading value = choice ∨
      setCell choice heading value =
        { choice with
          label := choice.label.insert
            ((Column.ofHeading heading).language.getD defaultLanguage) (Text.trim value) } ∨
      IsExtra heading ∧ setCell choice heading value =
        { choice with extras := choice.extras.insert heading (Text.trim value) } := by
  unfold setCell
  split
  · exact Or.inl rfl
  · exact Or.inl rfl
  · next language hcolumn =>
    right
    left
    rw [hcolumn]
  · next column hlist hname hlabel =>
    right
    right
    refine ⟨⟨?_, ?_⟩, rfl⟩
    · intro hbase
      apply hlabel (Column.ofHeading heading).language
      rw [← hbase]
    · intro hlanguage
      constructor
      · intro hbase
        apply hlist
        rw [← hbase, ← hlanguage]
      · intro hbase
        apply hname
        rw [← hbase, ← hlanguage]

theorem isAuthored_setCell {choice : Choice} {heading value : String} (h : choice.IsAuthored)
    (hvalue : Text.isBlankText value = false) : (setCell choice heading value).IsAuthored := by
  have htidy := Text.isTidy_trim hvalue
  rcases setCell_cases choice heading value with heq | heq | ⟨hextra, heq⟩
  · rw [heq]
    exact h
  · rw [heq]
    have htext := h.label.insert (Column.trim_getD_language heading) htidy
    generalize choice.label.insert _ _ = text at htext ⊢
    exact { h with label := htext }
  · rw [heq]
    refine { h with extras := ?_ }
    intro entry hentry
    rcases OrderedMap.mem_entries_insert hentry with rfl | hentry
    · exact ⟨hextra, htidy⟩
    · exact h.extras entry hentry

theorem isTidy_of_requiredCell {line : Nat} {row : Row} {column value : String}
    (h : requiredCell line row column = .ok value) : Text.IsTidy value := by
  unfold requiredCell at h
  split at h
  · next value' hvalue =>
    cases h
    exact Text.isTidy_trim (Row.isBlankText_of_cell? hvalue)
  · cases h

theorem isAuthored_parse {line : Nat} {row : Row} {parsed : ChoiceRow}
    (h : parse line row = .ok parsed) : Text.IsTidy parsed.list ∧ parsed.choice.IsAuthored := by
  unfold parse at h
  obtain ⟨list, hlist, h⟩ := bind_eq_ok_iff.1 h
  obtain ⟨name, hname, h⟩ := bind_eq_ok_iff.1 h
  cases h
  refine ⟨isTidy_of_requiredCell hlist, ?_⟩
  have hcells : ∀ cell ∈ Row.cells row, Text.isBlankText cell.2 = false := fun cell hcell =>
    Row.isBlankText_of_mem_cells hcell
  have hchoice : Choice.IsAuthored ⟨name, .empty, .empty⟩ :=
    ⟨isTidy_of_requiredCell hname, Localized.isTidy_empty, by simp [OrderedMap.empty]⟩
  generalize Row.cells row = cells at hcells ⊢
  dsimp only
  -- The fields of a choice stay trimmed from cell to cell.
  generalize (⟨name, .empty, .empty⟩ : Choice) = choice at hchoice ⊢
  induction cells generalizing choice with
  | nil => exact hchoice
  | cons cell cells ih =>
    rw [List.foldl_cons]
    apply ih fun cell hcell => hcells cell (List.mem_cons_of_mem _ hcell)
    exact isAuthored_setCell hchoice (hcells cell List.mem_cons_self)

end ChoiceRow

namespace SettingsRow

structure IsTidy (row : SettingsRow) : Prop where
  settings : row.settings.IsAuthored
  rootName : ∀ name ∈ row.rootName, Text.isName name = true

theorem isTidy_empty : IsTidy {} where
  settings := ⟨by simp, by simp, by simp, by simp, by simp⟩
  rootName := by simp

theorem isTidy_setCell {options : Options} {row row' : SettingsRow} {column value : String}
    (hrow : row.IsTidy) (hvalue : Text.isBlankText value = false)
    (h : setCell options row column value = .ok row') : row'.IsTidy := by
  have hsome : ∀ text ∈ some (Text.trim value), Text.IsTidy text := by
    intro text htext
    cases htext
    exact Text.isTidy_trim hvalue
  obtain ⟨hsettings, hname⟩ := hrow
  unfold setCell at h
  dsimp only at h
  split at h
  · cases h
    exact { settings := { hsettings with title := hsome }, rootName := hname }
  · cases h
    exact { settings := { hsettings with formId := hsome }, rootName := hname }
  · cases h
    exact { settings := { hsettings with version := hsome }, rootName := hname }
  · cases h
    exact { settings := { hsettings with defaultLanguage := hsome }, rootName := hname }
  · cases h
    exact { settings := { hsettings with submissionUrl := hsome }, rootName := hname }
  · split at h
    · next hvalid =>
      cases h
      refine ⟨hsettings, ?_⟩
      intro name hname'
      cases hname'
      exact hvalid
    · cases h
  · split at h
    · cases h
    · cases h
      exact ⟨hsettings, hname⟩

theorem isTidy_parse {options : Options} {row : Option Row} {parsed : SettingsRow}
    (h : parse options row = .ok parsed) : parsed.IsTidy := by
  unfold parse at h
  split at h
  · cases h
    exact isTidy_empty
  · next row =>
    dsimp only at h
    split at h
    · next hcells =>
      cases h
      have hblank : ∀ cell ∈ Row.cells row, Text.isBlankText cell.2 = false := fun cell hcell =>
        Row.isBlankText_of_mem_cells hcell
      generalize Row.cells row = cells at hblank hcells
      have hstart := isTidy_empty
      generalize ({} : SettingsRow) = start at hstart hcells
      induction cells generalizing start with
      | nil =>
        cases hcells
        exact hstart
      | cons cell cells ih =>
        rw [List.foldlM_cons] at hcells
        obtain ⟨next, hnext, hcells⟩ := bind_eq_ok_iff.1 hcells
        apply ih (fun cell hcell => hblank cell (List.mem_cons_of_mem _ hcell)) next _ hcells
        exact isTidy_setCell hstart (hblank cell List.mem_cons_self) hnext
    · cases h

end SettingsRow

end Questionnaire
