import Questionnaire.Proofs.Sheet.Cells
import Questionnaire.Proofs.Survey.Identity

/-!
This module contains what the cells of a row add up to. Each cell is admitted by itself, blanks
around its value do not matter, and cells of different columns can come in any order.
-/

namespace Questionnaire

structure SameCell (cell cell' : String × String) : Prop where
  heading_eq : cell'.1 = cell.1
  trim_eq : Text.trim cell'.2 = Text.trim cell.2

def columnKey (cell : String × String) : String × String :=
  let column := Column.ofHeading cell.1
  (column.base, column.language.getD defaultLanguage)

theorem heading_ne_of_columnKey_ne {cell cell' : String × String}
    (h : columnKey cell ≠ columnKey cell') : cell.1 ≠ cell'.1 := by
  intro heq
  apply h
  unfold columnKey
  rw [heq]

theorem foldl_eq_of_perm {α β κ : Type} {key : α → κ} {put : β → α → β} {items items' : List α}
    (hput : ∀ a ∈ items, ∀ b ∈ items, key a ≠ key b → ∀ state,
      put (put state a) b = put (put state b) a)
    (hnodup : (items.map key).Nodup) (h : items.Perm items') (start : β) :
    items.foldl put start = items'.foldl put start := by
  apply h.foldl_eq'
  intro a ha b hb state
  by_cases hkey : key a = key b
  · rw [List.inj_on_of_nodup_map hnodup ha hb hkey]
  · exact hput a ha b hb hkey state

theorem foldl_eq_of_forall₂ {α β : Type} {r : α → α → Prop} {put : β → α → β}
    {items items' : List α} (hput : ∀ item item', r item item' → ∀ state,
      put state item' = put state item)
    (h : items.Forall₂ r items') (start : β) : items'.foldl put start = items.foldl put start := by
  induction h generalizing start with
  | nil => rfl
  | cons hitem hitems ih => rw [List.foldl_cons, List.foldl_cons, hput _ _ hitem, ih]

theorem Localized.insert_comm (t : Localized) {language language' : String}
    (h : language ≠ language') (value value' : String) :
    (t.insert language value).insert language' value' =
      (t.insert language' value').insert language value := by
  by_cases hvalue : value = ""
  · simp [insert, hvalue]
  · by_cases hvalue' : value' = ""
    · simp [insert, hvalue']
    · apply ext_get?
      intro other
      rw [get?_insert _ _ _ hvalue', get?_insert _ _ _ hvalue, get?_insert _ _ _ hvalue,
        get?_insert _ _ _ hvalue']
      by_cases hother : other = language
      · rw [if_neg (by rw [hother]; exact h), if_pos hother, if_pos hother]
      · rw [if_neg hother, if_neg hother]

def SurveyColumn.Admits (column : SurveyColumn) (value : String) : Prop :=
  match column with
  | .name => Text.isName (Text.trim value) = true
  | .required => (SurveyRow.truth? value).isSome = true
  | _ => True

namespace SurveyRow

variable {options : Options} {row row' : SurveyRow}

def put (row : SurveyRow) (column : SurveyColumn) (language value : String) : SurveyRow :=
  let text := Text.trim value
  match column with
  | .type => row
  | .name => { row with name := some text }
  | .label => { row with label := row.label.insert language text }
  | .hint => { row with hint := row.hint.insert language text }
  | .required => { row with required := (truth? value).getD false }
  | .relevant => { row with relevant := some text }
  | .constraint => { row with constraint := some text }
  | .constraintMessage =>
    { row with constraintMessage := row.constraintMessage.insert language text }
  | .calculation => { row with calculation := some text }
  | .default => { row with default := some text }
  | .appearance => { row with appearance := some text }

theorem setCell_eq_ok_iff {column : SurveyColumn} {language value : String} :
    setCell row column language value = .ok row' ↔
      column.Admits value ∧ row' = row.put column language value := by
  unfold setCell SurveyColumn.Admits put
  dsimp only
  cases column with
  | name =>
    dsimp only
    split
    · next hname =>
      rw [Except.ok.injEq, eq_comm]
      exact (and_iff_right hname).symm
    · next hname => simp [hname]
  | required =>
    dsimp only
    split
    · next required hrequired =>
      rw [hrequired, Except.ok.injEq, eq_comm]
      exact (and_iff_right rfl).symm
    · next hrequired => simp [hrequired]
  | _ =>
    dsimp only
    rw [Except.ok.injEq, eq_comm, true_and]

theorem put_comm {column column' : SurveyColumn} {language language' : String}
    (h : column ≠ column' ∨ language ≠ language') (row : SurveyRow) (value value' : String)
    (hcolumn : column = column' → column.isTranslatable = true) :
    (row.put column language value).put column' language' value' =
      (row.put column' language' value').put column language value := by
  by_cases heq : column = column'
  · subst heq
    have hlanguage := h.resolve_left fun hne => hne rfl
    cases column with
    | label | hint | constraintMessage => simp only [put, Localized.insert_comm _ hlanguage]
    | _ => cases hcolumn rfl
  -- Different columns set different fields.
  · cases column <;> cases column' <;> first | exact (heq rfl).elim | simp only [put]

def AdmitsCell (options : Options) (cell : String × String) : Prop :=
  let column := Column.ofHeading cell.1
  match SurveyColumn.headings.lookup column.base with
  | none => options.strictColumns = false
  | some kind =>
    (column.language = none ∨ kind.isTranslatable = true) ∧ kind.Admits cell.2

def putCell (row : SurveyRow) (cell : String × String) : SurveyRow :=
  let column := Column.ofHeading cell.1
  match SurveyColumn.headings.lookup column.base with
  | none => row
  | some kind => row.put kind (column.language.getD defaultLanguage) cell.2

theorem setCells_singleton_eq_ok_iff {cell : String × String} :
    setCells options row [cell] = .ok row' ↔ AdmitsCell options cell ∧ row' = row.putCell cell := by
  obtain ⟨heading, value⟩ := cell
  unfold setCells AdmitsCell putCell
  dsimp only
  generalize Column.ofHeading heading = column
  cases SurveyColumn.headings.lookup column.base with
  | none =>
    dsimp only
    cases options.strictColumns <;> simp [setCells, eq_comm]
  | some kind =>
    dsimp only
    by_cases hlanguage : column.language = none ∨ kind.isTranslatable = true
    · rw [if_neg (by rcases hlanguage with h | h <;> simp [h]), bind_eq_ok_iff]
      simp only [setCell_eq_ok_iff, setCells, Except.ok.injEq]
      constructor
      · rintro ⟨next, ⟨hadmits, rfl⟩, rfl⟩
        exact ⟨⟨hlanguage, hadmits⟩, rfl⟩
      · rintro ⟨⟨-, hadmits⟩, rfl⟩
        exact ⟨_, ⟨hadmits, rfl⟩, rfl⟩
    · rw [if_pos]
      · simp [hlanguage]
      · rw [not_or] at hlanguage
        simpa [Option.isSome_iff_ne_none] using hlanguage

theorem setCells_eq_foldlM (cells : List (String × String)) :
    setCells options row cells =
      cells.foldlM (fun row cell => setCells options row [cell]) row := by
  induction cells generalizing row with
  | nil => rfl
  | cons cell cells ih =>
    rw [← List.singleton_append, setCells_append, List.singleton_append, List.foldlM_cons]
    congr 1
    funext next
    exact ih

theorem setCells_eq_ok_iff {cells : List (String × String)} :
    setCells options row cells = .ok row' ↔
      (∀ cell ∈ cells, AdmitsCell options cell) ∧ row' = cells.foldl putCell row := by
  rw [setCells_eq_foldlM]
  exact foldlM_eq_ok_iff fun _ _ _ => setCells_singleton_eq_ok_iff

theorem admits_of_trim_eq {column : SurveyColumn} {value value' : String}
    (htrim : Text.trim value' = Text.trim value) (h : column.Admits value) :
    column.Admits value' := by
  unfold SurveyColumn.Admits truth? at h ⊢
  rw [htrim]
  exact h

theorem put_of_trim_eq {value value' : String} (htrim : Text.trim value' = Text.trim value)
    (row : SurveyRow) (column : SurveyColumn) (language : String) :
    row.put column language value' = row.put column language value := by
  unfold put truth?
  rw [htrim]

theorem admitsCell_of_sameCell {cell cell' : String × String} (hcell : SameCell cell cell')
    (h : AdmitsCell options cell) : AdmitsCell options cell' := by
  unfold AdmitsCell at h ⊢
  rw [hcell.heading_eq]
  dsimp only at h ⊢
  cases hkind : SurveyColumn.headings.lookup (Column.ofHeading cell.1).base with
  | none =>
    rw [hkind] at h
    exact h
  | some kind =>
    rw [hkind] at h
    exact ⟨h.1, admits_of_trim_eq hcell.trim_eq h.2⟩

theorem putCell_of_sameCell (cell cell' : String × String) (h : SameCell cell cell')
    (row : SurveyRow) : row.putCell cell' = row.putCell cell := by
  unfold putCell
  simp only [h.heading_eq, put_of_trim_eq h.trim_eq]

theorem base_eq_of_lookup {base base' : String} {kind : SurveyColumn}
    (h : SurveyColumn.headings.lookup base = some kind)
    (h' : SurveyColumn.headings.lookup base' = some kind) : base = base' := by
  have hkinds : ∀ entry ∈ SurveyColumn.headings, ∀ entry' ∈ SurveyColumn.headings,
      entry.2 = entry'.2 → entry.1 = entry'.1 := by
    decide
  exact hkinds _ (OrderedMap.mem_of_lookup_eq_some h) _ (OrderedMap.mem_of_lookup_eq_some h') rfl

theorem putCell_comm {cell cell' : String × String} (h : AdmitsCell options cell)
    (h' : AdmitsCell options cell') (hkey : columnKey cell ≠ columnKey cell') (row : SurveyRow) :
    (row.putCell cell).putCell cell' = (row.putCell cell').putCell cell := by
  unfold AdmitsCell at h h'
  unfold columnKey at hkey
  unfold putCell
  dsimp only at h h' hkey ⊢
  generalize Column.ofHeading cell.1 = column at h hkey ⊢
  generalize Column.ofHeading cell'.1 = column' at h' hkey ⊢
  cases hkind : SurveyColumn.headings.lookup column.base with
  | none => rfl
  | some kind =>
    cases hkind' : SurveyColumn.headings.lookup column'.base with
    | none => rfl
    | some kind' =>
      rw [hkind] at h
      rw [hkind'] at h'
      have hlanguage : kind = kind' →
          column.language.getD defaultLanguage ≠ column'.language.getD defaultLanguage := by
        rintro rfl heq
        exact hkey (by rw [base_eq_of_lookup hkind hkind', heq])
      apply put_comm
      · by_cases heq : kind = kind'
        · exact Or.inr (hlanguage heq)
        · exact Or.inl heq
      · rintro rfl
        rcases h.1 with hnone | htranslatable
        · rcases h'.1 with hnone' | htranslatable
          · exact (hlanguage rfl (by rw [hnone, hnone'])).elim
          · exact htranslatable
        · exact htranslatable

theorem setCells_of_forall₂ {cells cells' : List (String × String)}
    (hcells : cells.Forall₂ SameCell cells') (h : setCells options row cells = .ok row') :
    setCells options row cells' = .ok row' := by
  rw [setCells_eq_ok_iff] at h ⊢
  obtain ⟨hadmits, rfl⟩ := h
  refine ⟨?_, (foldl_eq_of_forall₂ putCell_of_sameCell hcells row).symm⟩
  intro cell' hcell'
  obtain ⟨cell, hcell, hsame⟩ := exists_mem_of_forall₂ hcells.flip cell' hcell'
  exact admitsCell_of_sameCell hsame (hadmits cell hcell)

theorem setCells_of_perm {cells cells' : List (String × String)}
    (hnodup : (cells.map columnKey).Nodup) (hperm : cells.Perm cells')
    (h : setCells options row cells = .ok row') : setCells options row cells' = .ok row' := by
  rw [setCells_eq_ok_iff] at h ⊢
  obtain ⟨hadmits, rfl⟩ := h
  refine ⟨fun cell hcell => hadmits cell (hperm.mem_iff.2 hcell), ?_⟩
  apply foldl_eq_of_perm _ hnodup hperm
  intro cell hcell cell' hcell' hkey state
  exact putCell_comm (hadmits cell hcell) (hadmits cell' hcell') hkey state

end SurveyRow

theorem TypeCell.parse_of_trim_eq {cell cell' : String} {type : TypeCell}
    (htrim : Text.trim cell' = Text.trim cell) (h : parse cell = .ok type) :
    parse cell' = .ok type := by
  have hwords : Text.words cell' = Text.words cell := by
    rw [← Text.words_trim, htrim, Text.words_trim]
  unfold parse at h ⊢
  rw [hwords, htrim]
  dsimp only at h ⊢
  split at h
  · cases h
  · next hne =>
    rw [if_neg hne]
    exact h

namespace SettingsRow

variable {options : Options} {row row' : SettingsRow}

def AdmitsCell (options : Options) (cell : String × String) : Prop :=
  match cell.1 with
  | "form_title" | "form_id" | "version" | "default_language" | "submission_url" => True
  | "name" => Text.isName (Text.trim cell.2) = true
  | _ => options.strictColumns = false

def putCell (row : SettingsRow) (cell : String × String) : SettingsRow :=
  let text := Text.trim cell.2
  match cell.1 with
  | "form_title" => { row with settings := { row.settings with title := some text } }
  | "form_id" => { row with settings := { row.settings with formId := some text } }
  | "version" => { row with settings := { row.settings with version := some text } }
  | "default_language" =>
    { row with settings := { row.settings with defaultLanguage := some text } }
  | "submission_url" => { row with settings := { row.settings with submissionUrl := some text } }
  | "name" => { row with rootName := some text }
  | _ => row

theorem setCell_eq_ok_iff {cell : String × String} :
    setCell options row cell.1 cell.2 = .ok row' ↔
      AdmitsCell options cell ∧ row' = row.putCell cell := by
  obtain ⟨column, value⟩ := cell
  unfold setCell AdmitsCell putCell
  dsimp only
  split
  · simp [eq_comm]
  · simp [eq_comm]
  · simp [eq_comm]
  · simp [eq_comm]
  · simp [eq_comm]
  · by_cases hname : Text.isName (Text.trim value) = true
    · simp [hname, eq_comm]
    · simp [hname]
  · cases hstrict : options.strictColumns <;> simp [*, eq_comm]

theorem admitsCell_of_sameCell {cell cell' : String × String} (hcell : SameCell cell cell')
    (h : AdmitsCell options cell) : AdmitsCell options cell' := by
  unfold AdmitsCell at h ⊢
  rw [hcell.heading_eq, hcell.trim_eq]
  exact h

theorem putCell_of_sameCell (cell cell' : String × String) (h : SameCell cell cell')
    (row : SettingsRow) : row.putCell cell' = row.putCell cell := by
  unfold putCell
  rw [h.heading_eq, h.trim_eq]

theorem putCell_comm {cell cell' : String × String} (h : cell.1 ≠ cell'.1) (row : SettingsRow) :
    (row.putCell cell).putCell cell' = (row.putCell cell').putCell cell := by
  obtain ⟨column, value⟩ := cell
  obtain ⟨column', value'⟩ := cell'
  dsimp only at h
  unfold putCell
  dsimp only
  split <;> split <;> first | exact (h rfl).elim | rfl

theorem setCells_eq_ok_iff {cells : List (String × String)} :
    cells.foldlM (fun row (column, value) => setCell options row column value) row = .ok row' ↔
      (∀ cell ∈ cells, AdmitsCell options cell) ∧ row' = cells.foldl putCell row :=
  foldlM_eq_ok_iff fun row cell next =>
    (setCell_eq_ok_iff : setCell options row cell.1 cell.2 = .ok next ↔ _)

theorem parse_eq_ok_iff {row : Row} {parsed : SettingsRow} :
    parse options (some row) = .ok parsed ↔
      (∀ cell ∈ row.cells, AdmitsCell options cell) ∧ parsed = row.cells.foldl putCell {} := by
  unfold parse
  dsimp only
  rw [← setCells_eq_ok_iff]
  split
  · next settings hsettings => simp [hsettings]
  · next fault hfault => simp [hfault]

end SettingsRow

structure ChoiceView where
  name : String
  label : Localized
  extra? : String → Option String

def Choice.view (choice : Choice) : ChoiceView :=
  ⟨choice.name, choice.label, choice.extras.get?⟩

theorem Choice.isSame_iff_view_eq {a b : Choice} : a.IsSame b ↔ a.view = b.view := by
  unfold view
  rw [ChoiceView.mk.injEq, funext_iff]
  constructor
  · intro h
    exact ⟨h.name_eq, h.label_eq, h.get?_eq⟩
  · intro h
    exact ⟨h.1, h.2.1, h.2.2⟩

namespace ChoiceRow

theorem setCell_of_sameCell (cell cell' : String × String) (h : SameCell cell cell')
    (choice : Choice) : setCell choice cell'.1 cell'.2 = setCell choice cell.1 cell.2 := by
  unfold setCell
  rw [h.heading_eq, h.trim_eq]

inductive Field where
  | key
  | label (language : String)
  | extra

def fieldOf (heading : String) : Field :=
  match Column.ofHeading heading with
  | ⟨"list_name", none⟩ | ⟨"name", none⟩ => .key
  | ⟨"label", language⟩ => .label (language.getD defaultLanguage)
  | _ => .extra

def putCell (view : ChoiceView) (cell : String × String) : ChoiceView :=
  match fieldOf cell.1 with
  | .key => view
  | .label language => { view with label := view.label.insert language (Text.trim cell.2) }
  | .extra =>
    { view with
      extra? := fun column =>
        if column = cell.1 then some (Text.trim cell.2) else view.extra? column }

theorem view_setCell (choice : Choice) (cell : String × String) :
    (setCell choice cell.1 cell.2).view = putCell choice.view cell := by
  have hextra : ({ choice with
      extras := choice.extras.insert cell.1 (Text.trim cell.2) } : Choice).view =
      { choice.view with
        extra? := fun column =>
          if column = cell.1 then some (Text.trim cell.2) else choice.view.extra? column } := by
    unfold Choice.view
    rw [ChoiceView.mk.injEq]
    exact ⟨rfl, rfl, funext fun column => OrderedMap.get?_insert ..⟩
  unfold setCell putCell fieldOf
  generalize Column.ofHeading cell.1 = column
  split
  · rfl
  · rfl
  · simp only [Choice.view]
  · simp only [hextra]

theorem language_of_fieldOf {cell : String × String} {language : String}
    (h : fieldOf cell.1 = .label language) : columnKey cell = ("label", language) := by
  unfold fieldOf at h
  unfold columnKey
  generalize Column.ofHeading cell.1 = column at h ⊢
  split at h
  · cases h
  · cases h
  · cases h
    rfl
  · cases h

theorem putCell_comm {cell cell' : String × String} (h : columnKey cell ≠ columnKey cell')
    (view : ChoiceView) :
    putCell (putCell view cell) cell' = putCell (putCell view cell') cell := by
  unfold putCell
  cases hfield : fieldOf cell.1 with
  | key => dsimp only
  | label language =>
    cases hfield' : fieldOf cell'.1 with
    | label language' =>
      have hlanguage : language ≠ language' := by
        rintro rfl
        exact h ((language_of_fieldOf hfield).trans (language_of_fieldOf hfield').symm)
      dsimp only
      rw [Localized.insert_comm _ hlanguage]
    | _ => dsimp only
  | extra =>
    cases hfield' : fieldOf cell'.1 with
    | extra =>
      have hheading := heading_ne_of_columnKey_ne h
      dsimp only
      congr 1
      funext column
      by_cases hcolumn : column = cell.1
      · rw [if_neg (by rw [hcolumn]; exact hheading), if_pos hcolumn, if_pos hcolumn]
      · rw [if_neg hcolumn, if_neg hcolumn]
    | _ => dsimp only

theorem isSame_of_perm {cells cells' : List (String × String)}
    (hnodup : (cells.map columnKey).Nodup) (hperm : cells.Perm cells') (choice : Choice) :
    (cells.foldl (fun choice cell => setCell choice cell.1 cell.2) choice).IsSame
      (cells'.foldl (fun choice cell => setCell choice cell.1 cell.2) choice) := by
  rw [Choice.isSame_iff_view_eq]
  have hview (cells : List (String × String)) :
      (cells.foldl (fun choice cell => setCell choice cell.1 cell.2) choice).view =
        cells.foldl putCell choice.view :=
    (List.foldl_hom Choice.view fun choice cell => (view_setCell choice cell).symm).symm
  rw [hview, hview]
  apply foldl_eq_of_perm _ hnodup hperm
  intro cell _ cell' _ hkey view
  exact putCell_comm hkey view

end ChoiceRow

end Questionnaire
