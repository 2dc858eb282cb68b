import Questionnaire.Proofs.Sheet.Alike
import Questionnaire.Proofs.Sheet.CellOrder
import Questionnaire.Proofs.Sheet.RoundTrip

/-!
This module contains what of a workbook is mere presentation: blank rows, blanks around values, and
the order of the cells in a row whose columns are all different.
-/

namespace Questionnaire

theorem Text.isBlankText_of_trim_eq {s s' : String} (h : trim s' = trim s) :
    isBlankText s' = isBlankText s := by
  rw [Bool.eq_iff_iff, isBlankText_iff, isBlankText_iff, h]

namespace Row

def HasDistinctColumns (row : Row) : Prop :=
  (row.cells.map columnKey).Nodup

instance (row : Row) : Decidable row.HasDistinctColumns :=
  inferInstanceAs (Decidable (row.cells.map columnKey).Nodup)

/--
Whether a row is another one with blanks added around its values and, if its columns are distinct,
with its cells in any order.
-/
def LooksLike (row row' : Row) : Prop :=
  ∃ padded : List (String × String),
    row.entries.Forall₂ (fun cell cell' => cell'.1 = cell.1 ∧ Text.IsPadded cell.2 cell'.2) padded ∧
      (row'.entries = padded ∨ row.HasDistinctColumns ∧ row'.entries.Perm padded)

structure SaysSame (row row' : Row) : Prop where
  cells : ∃ cells, row.cells.Forall₂ SameCell cells ∧
    (row'.cells = cells ∨ (cells.map columnKey).Nodup ∧ cells.Perm row'.cells)
  cell? : ∀ column, Option.Rel (fun value value' => Text.trim value' = Text.trim value)
    (row.cell? column) (row'.cell? column)

theorem forall₂_filter {cells cells' : List (String × String)} (h : cells.Forall₂ SameCell cells') :
    (cells.filter fun cell => !Text.isBlankText cell.2).Forall₂ SameCell
      (cells'.filter fun cell => !Text.isBlankText cell.2) := by
  apply List.rel_filter _ h
  intro cell cell' hcell
  dsimp only
  rw [Text.isBlankText_of_trim_eq hcell.trim_eq]

theorem map_columnKey_eq {cells cells' : List (String × String)}
    (h : cells.Forall₂ SameCell cells') : cells'.map columnKey = cells.map columnKey := by
  induction h with
  | nil => rfl
  | cons hcell hcells ih =>
    rw [List.map_cons, List.map_cons, ih]
    unfold columnKey
    rw [hcell.heading_eq]

theorem rel_lookup {entries entries' : List (String × String)}
    (h : entries.Forall₂ SameCell entries') (column : String) :
    Option.Rel (fun value value' => Text.trim value' = Text.trim value) (entries.lookup column)
      (entries'.lookup column) := by
  induction h with
  | nil => exact .none
  | @cons cell cell' entries entries' hcell hentries ih =>
    obtain ⟨heading, value⟩ := cell
    obtain ⟨heading', value'⟩ := cell'
    obtain ⟨rfl, htrim⟩ := hcell
    rw [List.lookup_cons, List.lookup_cons]
    cases column == heading' with
    | true => exact .some htrim
    | false => exact ih

theorem LooksLike.saysSame {row row' : Row} (h : row.LooksLike row') : row.SaysSame row' := by
  obtain ⟨padded, hpadded, horder⟩ := h
  have hsame : row.entries.Forall₂ SameCell padded :=
    hpadded.imp fun cell cell' hcell => ⟨hcell.1, Text.trim_of_isPadded hcell.2⟩
  constructor
  · refine ⟨_, forall₂_filter hsame, ?_⟩
    rcases horder with heq | ⟨hdistinct, hperm⟩
    · left
      unfold cells
      rw [heq]
    · refine Or.inr ⟨?_, (hperm.filter _).symm⟩
      rw [map_columnKey_eq (forall₂_filter hsame)]
      exact hdistinct
  · intro column
    have hget : row'.get? column = padded.lookup column := by
      unfold OrderedMap.get?
      rcases horder with heq | ⟨-, hperm⟩
      · rw [heq]
      · exact OrderedMap.lookup_eq_of_perm row'.nodup hperm column
    have hrel := rel_lookup hsame column
    unfold cell?
    rw [hget]
    unfold OrderedMap.get?
    generalize row.entries.lookup column = value? at hrel ⊢
    generalize padded.lookup column = value?' at hrel ⊢
    cases hrel with
    | none => exact .none
    | some htrim =>
      rw [Option.filter_some, Option.filter_some, Text.isBlankText_of_trim_eq htrim]
      split
      · exact .some htrim
      · exact .none

theorem SaysSame.isBlank_eq {row row' : Row} (h : row.SaysSame row') :
    row'.isBlank = row.isBlank := by
  obtain ⟨cells, hcells, horder⟩ := h.cells
  have hlength : row'.cells.length = row.cells.length := by
    rw [hcells.length_eq]
    rcases horder with heq | ⟨-, hperm⟩
    · rw [heq]
    · exact hperm.length_eq.symm
  unfold isBlank
  rw [Bool.eq_iff_iff, List.isEmpty_iff_length_eq_zero, List.isEmpty_iff_length_eq_zero, hlength]

end Row

section Rows

variable {options : Options} {line line' : Nat} {row row' : Row}

theorem SurveyRow.parse_of_saysSame {parsed : SurveyRow} (h : row.SaysSame row')
    (hparse : parse options line row = .ok parsed) : parse options line' row' = .ok parsed := by
  rw [parse_eq_ok_iff] at hparse ⊢
  obtain ⟨cell, type, hcell, htype, hcells⟩ := hparse
  have hrel := h.cell? "type"
  rw [hcell] at hrel
  generalize hcell' : row'.cell? "type" = cell? at hrel
  cases hrel with
  | @some _ cell' htrim =>
    refine ⟨cell', type, rfl, TypeCell.parse_of_trim_eq htrim htype, ?_⟩
    obtain ⟨middle, hsame, horder⟩ := h.cells
    have hmiddle := setCells_of_forall₂ hsame hcells
    rcases horder with heq | ⟨hdistinct, hperm⟩
    · rw [heq]
      exact hmiddle
    · exact setCells_of_perm hdistinct hperm hmiddle

theorem ChoiceRow.exists_requiredCell {column text : String} (h : row.SaysSame row')
    (hcell : requiredCell line row column = .ok text) :
    requiredCell line' row' column = .ok text := by
  have hrel := h.cell? column
  unfold requiredCell at hcell ⊢
  generalize row.cell? column = cell? at hcell hrel
  generalize row'.cell? column = cell?' at hrel ⊢
  cases hrel with
  | none => cases hcell
  | some htrim =>
    dsimp only at hcell ⊢
    rw [htrim]
    exact hcell

theorem ChoiceRow.exists_parse_of_saysSame {parsed : ChoiceRow} (h : row.SaysSame row')
    (hparse : parse line row = .ok parsed) :
    ∃ parsed', parse line' row' = .ok parsed' ∧ parsed'.list = parsed.list ∧
      parsed.choice.IsSame parsed'.choice := by
  unfold parse at hparse ⊢
  obtain ⟨list, hlist, hparse⟩ := bind_eq_ok_iff.1 hparse
  obtain ⟨name, hname, hparse⟩ := bind_eq_ok_iff.1 hparse
  cases hparse
  rw [exists_requiredCell h hlist, exists_requiredCell h hname]
  refine ⟨_, rfl, rfl, ?_⟩
  obtain ⟨middle, hsame, horder⟩ := h.cells
  have hmiddle := foldl_eq_of_forall₂ setCell_of_sameCell hsame (⟨name, .empty, .empty⟩ : Choice)
  dsimp only at hmiddle ⊢
  rw [← hmiddle]
  rcases horder with heq | ⟨hdistinct, hperm⟩
  · rw [heq]
    exact ⟨rfl, rfl, fun _ => rfl⟩
  · exact isSame_of_perm hdistinct hperm _

theorem SettingsRow.parse_of_saysSame {parsed : SettingsRow} (h : row.SaysSame row')
    (hparse : parse options (some row) = .ok parsed) : parse options (some row') = .ok parsed := by
  rw [parse_eq_ok_iff] at hparse ⊢
  obtain ⟨hadmits, rfl⟩ := hparse
  obtain ⟨middle, hsame, horder⟩ := h.cells
  have hmiddle := foldl_eq_of_forall₂ putCell_of_sameCell hsame {}
  have hadmits' : ∀ cell ∈ middle, AdmitsCell options cell := by
    intro cell' hcell'
    obtain ⟨cell, hcell, hboth⟩ := exists_mem_of_forall₂ hsame.flip cell' hcell'
    exact admitsCell_of_sameCell hboth (hadmits cell hcell)
  rw [← hmiddle]
  rcases horder with heq | ⟨hdistinct, hperm⟩
  · rw [heq]
    exact ⟨hadmits', rfl⟩
  · refine ⟨fun cell hcell => hadmits' cell (hperm.mem_iff.2 hcell), ?_⟩
    apply foldl_eq_of_perm _ hdistinct hperm
    intro cell _ cell' _ hkey state
    exact putCell_comm (heading_ne_of_columnKey_ne hkey) state

end Rows

namespace ChoiceGroups

variable {groups groups' : ChoiceGroups}

theorem isSome_choice?_eq {list list' : ChoiceList} (h : list.IsSame list') (name : String) :
    (list.choice? name).isSome = (list'.choice? name).isSome := by
  have hnames : list.choices.map Choice.name = list'.choices.map Choice.name := by
    rw [← List.forall₂_eq_eq_eq, List.forall₂_map_left_iff, List.forall₂_map_right_iff]
    exact h.choices.imp fun choice choice' hchoice => hchoice.name_eq
  have hany (list : ChoiceList) :
      (list.choice? name).isSome = (list.choices.map Choice.name).any (· == name) := by
    unfold ChoiceList.choice?
    rw [List.isSome_find?, List.any_map]
    rfl
  rw [hany, hany, hnames]

theorem IsSame.add {choice choice' : Choice} (h : groups.IsSame groups')
    (hchoice : choice.IsSame choice') (name : String) :
    (groups.add name choice).IsSame (groups'.add name choice') := by
  obtain ⟨list, hlist⟩ : ∃ list, list = (groups.lists.get? name).getD ⟨name, []⟩ := ⟨_, rfl⟩
  obtain ⟨list', hlist'⟩ : ∃ list, list = (groups'.lists.get? name).getD ⟨name, []⟩ := ⟨_, rfl⟩
  have hlists : list.IsSame list' := by
    have hrel := h.lists name
    rw [hlist, hlist']
    generalize groups.lists.get? name = list? at hrel ⊢
    generalize groups'.lists.get? name = list?' at hrel ⊢
    cases hrel with
    | none => exact ⟨rfl, .nil⟩
    | some hsame => exact hsame
  have hlonger : ChoiceList.IsSame { list with choices := list.choices ++ [choice] }
      { list' with choices := list'.choices ++ [choice'] } :=
    ⟨hlists.name_eq, List.rel_append hlists.choices (.cons hchoice .nil)⟩
  unfold ChoiceGroups.add
  rw [← hlist, ← hlist']
  dsimp only
  refine ⟨?_, ?_, ?_⟩
  · rw [OrderedMap.keys_insert, OrderedMap.keys_insert, h.keys_eq]
  · intro other
    rw [OrderedMap.get?_insert, OrderedMap.get?_insert]
    split
    · exact .some hlonger
    · exact h.lists other
  · rw [isSome_choice?_eq hlists, hchoice.name_eq, h.warnings_eq]

end ChoiceGroups

inductive Row.AllLookLike : List Row → List Row → Prop
  | nil : AllLookLike [] []
  | blank {row : Row} {rows rows' : List Row} (hblank : row.isBlank = true)
      (h : AllLookLike rows rows') : AllLookLike rows (row :: rows')
  | cons {row row' : Row} {rows rows' : List Row} (hrow : row.LooksLike row')
      (h : AllLookLike rows rows') : AllLookLike (row :: rows) (row' :: rows')

theorem Row.looksLike_self (row : Row) : row.LooksLike row := by
  refine ⟨row.entries, List.forall₂_same.2 fun cell _ => ⟨rfl, [], [], ?_⟩, Or.inl rfl⟩
  simp

theorem Row.allLookLike_append (rows : List Row) {rows' rows'' : List Row}
    (h : AllLookLike rows' rows'') : AllLookLike (rows ++ rows') (rows ++ rows'') := by
  induction rows with
  | nil => exact h
  | cons row rows ih => exact .cons row.looksLike_self ih

theorem Row.allLookLike_self (rows : List Row) : AllLookLike rows rows := by
  have h := allLookLike_append rows .nil
  rwa [List.append_nil] at h

theorem Row.AllLookLike.forall₂ {rows rows' : List Row} (h : AllLookLike rows rows') :
    (rows.filter fun row => !row.isBlank).Forall₂ SaysSame
      (rows'.filter fun row => !row.isBlank) := by
  induction h with
  | nil => exact .nil
  | blank hblank h ih =>
    rw [List.filter_cons, if_neg (by simp [hblank])]
    exact ih
  | cons hrow h ih =>
    have hsame := hrow.saysSame
    rw [List.filter_cons, List.filter_cons, hsame.isBlank_eq]
    split
    · exact .cons hsame ih
    · exact ih

namespace Workbook

variable {workbook workbook' : Workbook} {options : Options} {reading : Reading}

theorem forall₂_numbered {rows rows' : List Row} (h : Row.AllLookLike rows rows') :
    (numbered rows).Forall₂ (fun line line' => line.2.SaysSame line'.2) (numbered rows') := by
  have hrows := h.forall₂
  rw [← map_snd_numbered_eq, ← map_snd_numbered_eq, List.forall₂_map_left_iff,
    List.forall₂_map_right_iff] at hrows
  exact hrows

/--
Whether a workbook is another one with blank rows put in between the rows of its survey and its
choices sheet, blanks added around values, and the cells of rows put into another order, in rows
whose columns are distinct.
-/
structure LooksLike (workbook workbook' : Workbook) : Prop where
  survey : Row.AllLookLike workbook.survey workbook'.survey
  choices : Row.AllLookLike workbook.choices workbook'.choices
  settings : Option.Rel Row.LooksLike workbook.settings workbook'.settings

theorem exists_groupChoices {lines lines' : List (Nat × Row)} {groups : ChoiceGroups}
    (hlines : lines.Forall₂ (fun line line' => line.2.SaysSame line'.2) lines')
    (h : groupChoices lines = .ok groups) :
    ∃ groups', groupChoices lines' = .ok groups' ∧ groups.IsSame groups' := by
  refine exists_foldlM_of_forall₂ ?_ hlines (ChoiceGroups.isSame_self {}) h
  rintro groups groups' ⟨line, row⟩ ⟨line', row'⟩ next hrow hgroups hstep
  obtain ⟨parsed, hparse, hstep⟩ := bind_eq_ok_iff.1 hstep
  cases hstep
  obtain ⟨parsed', hparse', hlist, hchoice⟩ := ChoiceRow.exists_parse_of_saysSame hrow hparse
  refine ⟨groups'.add parsed'.list parsed'.choice, ?_, ?_⟩
  · dsimp only
    rw [hparse', ok_bind]
  · rw [hlist]
    exact hgroups.add hchoice parsed.list

theorem LooksLike.readsAlike (h : workbook.LooksLike workbook') (options : Options) :
    ReadsAlike False options workbook workbook' where
  settings := by
    intro parsed hparse
    have hsettings := h.settings
    generalize workbook.settings = row? at hsettings hparse
    generalize workbook'.settings = row?' at hsettings ⊢
    cases hsettings with
    | none => exact hparse
    | some hrow => exact SettingsRow.parse_of_saysSame hrow.saysSame hparse
  choices := fun groups hgroups => exists_groupChoices (forall₂_numbered h.choices) hgroups
  survey := fun root outline houtline => by
    refine exists_takeRows (Outline.alike_self False (.empty root)) ?_ houtline
    apply (forall₂_numbered h.survey).imp
    exact fun line line' hrow parsed hparse => SurveyRow.parse_of_saysSame hrow hparse

theorem read_looksLike (hread : workbook.read options = .ok reading)
    (h : workbook.LooksLike workbook') :
    ∃ reading', workbook'.read options = .ok reading' ∧
      reading.survey.isIdentical reading'.survey = true ∧ reading'.warnings = reading.warnings := by
  obtain ⟨reading', hread', halike, hwarnings, ⟨groups, hgroups, hlists⟩, groups', hgroups',
    hlists'⟩ := (h.readsAlike options).exists_read hread
  obtain ⟨twin, htwin, hsame⟩ := exists_groupChoices (forall₂_numbered h.choices) hgroups
  rw [hgroups'] at htwin
  cases htwin
  refine ⟨reading', hread', Survey.isIdentical_iff.2 ?_, hwarnings⟩
  constructor
  · exact halike.settings_eq
  · unfold Survey.root
    rw [halike.header_eq, halike.children.eq]
  · rw [hlists, hlists']
    exact hsame.lists

def retypedHousehold : Workbook where
  survey :=
    .ofList [] ::
      .ofList
        [("label::French", "Chef "), ("type", " text"), ("name", "head"), ("label", "\tHead")] ::
      household.survey.tail
  choices := household.choices ++ [.ofList [("list_name", " ")]]
  settings := some (.ofList [("form_title", " Household  ")])

theorem looksLike_household : household.LooksLike retypedHousehold where
  survey := by
    refine .blank (by decide) (.cons ?_ (Row.allLookLike_self household.survey.tail))
    refine ⟨[("type", " text"), ("name", "head"), ("label", "\tHead"), ("label::French", "Chef ")],
      ?_, Or.inr ⟨by decide +kernel, by decide +kernel⟩⟩
    exact .cons ⟨rfl, [' '], [], by decide, by decide, rfl⟩
      (.cons ⟨rfl, [], [], by decide, by decide, rfl⟩
        (.cons ⟨rfl, ['\t'], [], by decide, by decide, rfl⟩
          (.cons ⟨rfl, [], [' '], by decide, by decide, rfl⟩ .nil)))
  choices := by
    have hblank : Row.isBlank (.ofList [("list_name", " ")]) = true := by decide
    have h := Row.allLookLike_append household.choices (.blank hblank .nil)
    rwa [List.append_nil] at h
  settings := by
    refine .some ⟨[("form_title", " Household  ")], ?_, Or.inl rfl⟩
    exact .cons ⟨rfl, [' '], [' ', ' '], by decide, by decide, rfl⟩ .nil

theorem read_looksLike_household :
    ∃ reading, household.read {} = .ok reading ∧ household.LooksLike retypedHousehold ∧
      ∃ reading', retypedHousehold.read {} = .ok reading' ∧
        reading.survey.isIdentical reading'.survey = true ∧
        reading'.warnings = reading.warnings := by
  obtain ⟨reading, hread⟩ := exists_read_household
  exact ⟨reading, hread, looksLike_household, read_looksLike hread looksLike_household⟩

end Workbook

end Questionnaire
