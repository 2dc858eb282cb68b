import Questionnaire.Proofs.Sheet.Cells
import Questionnaire.Sheet.Reading

/-!
This module contains the reading of written choices and settings: the rows of the used lists are
grouped into these lists again, and the row of the settings is read back.
-/

namespace Questionnaire

theorem IsRow.append {cells cells' : List (String × String)} (h : IsRow cells) (h' : IsRow cells')
    (hdisjoint : ∀ cell ∈ cells, ∀ cell' ∈ cells', cell.1 ≠ cell'.1) : IsRow (cells ++ cells') where
  nodup := by
    rw [List.map_append, List.nodup_append]
    refine ⟨h.nodup, h'.nodup, ?_⟩
    intro heading hheading heading' hheading'
    obtain ⟨cell, hcell, rfl⟩ := List.mem_map.1 hheading
    obtain ⟨cell', hcell', rfl⟩ := List.mem_map.1 hheading'
    exact hdisjoint cell hcell cell' hcell'
  isBlankText_eq := by
    intro cell hcell
    rcases List.mem_append.1 hcell with hcell | hcell
    · exact h.isBlankText_eq cell hcell
    · exact h'.isBlankText_eq cell hcell

namespace Survey

theorem isBase_choiceFields :
    ∀ base ∈ ["list_name", "name", "label"], Column.IsBase base := by
  have hall : ∀ base ∈ ["list_name", "name", "label"],
      ':' ∉ base.toList ∧ Text.trim base = base := by
    decide +kernel
  intro base hbase
  exact ⟨(hall base hbase).1, (hall base hbase).2⟩

def choiceCells (list : String) (choice : Choice) : List (String × String) :=
  [("list_name", list), ("name", choice.name)] ++ textCells "label" choice.label

theorem not_isExtra_of_mem_choiceCells {list : String} {choice : Choice} (h : choice.IsAuthored)
    {cell : String × String} (hcell : cell ∈ choiceCells list choice) :
    ¬ ChoiceRow.IsExtra cell.1 := by
  rintro ⟨hlabel, hfields⟩
  rcases List.mem_append.1 hcell with hcell | hcell
  · simp only [List.mem_cons, List.not_mem_nil, or_false] at hcell
    rcases hcell with rfl | rfl
    · rw [(isBase_choiceFields "list_name" (by simp)).ofHeading_eq] at hfields
      exact (hfields rfl).1 rfl
    · rw [(isBase_choiceFields "name" (by simp)).ofHeading_eq] at hfields
      exact (hfields rfl).2 rfl
  · exact hlabel ((isSegment_textCells (isBase_choiceFields "label" (by simp)) h.label).base_eq
      cell hcell)

theorem isRow_choiceCells {list : String} {choice : Choice} (hlist : Text.IsTidy list)
    (h : choice.IsAuthored) : IsRow (choiceCells list choice ++ choice.extras.entries) := by
  apply IsRow.append
  · have hrow : IsRow ([("list_name", [("list_name", list)]), ("name", [("name", choice.name)]),
        ("label", textCells "label" choice.label)].flatMap Prod.snd) := by
      apply isRow_flatMap (by simp)
      rw [List.forall_mem_cons, List.forall_mem_cons, List.forall_mem_cons]
      refine ⟨?_, ?_, ?_, by simp⟩
      · exact isSegment_singleton (isBase_choiceFields _ (by simp)) hlist.isBlankText_eq_false
      · exact isSegment_singleton (isBase_choiceFields _ (by simp)) h.name.isBlankText_eq_false
      · exact isSegment_textCells (isBase_choiceFields _ (by simp)) h.label
    simpa [choiceCells] using hrow
  · constructor
    · exact choice.extras.nodup
    · intro cell hcell
      exact (h.extras cell hcell).2.isBlankText_eq_false
  · intro cell hcell cell' hcell' heq
    apply not_isExtra_of_mem_choiceCells h hcell
    rw [heq]
    exact (h.extras cell' hcell').1

end Survey

namespace ChoiceRow

theorem setCell_of_isExtra {heading : String} (h : IsExtra heading) (choice : Choice)
    (value : String) : setCell choice heading value =
      { choice with extras := choice.extras.insert heading (Text.trim value) } := by
  unfold setCell
  split
  · next hcolumn => exact absurd (by rw [hcolumn]) (h.2 (by rw [hcolumn])).1
  · next hcolumn => exact absurd (by rw [hcolumn]) (h.2 (by rw [hcolumn])).2
  · next hcolumn => exact absurd (by rw [hcolumn]) h.1
  · rfl

theorem setCell_label {heading : String} (h : (Column.ofHeading heading).base = "label")
    (choice : Choice) (value : String) :
    setCell choice heading value =
      { choice with
        label := choice.label.insert
          ((Column.ofHeading heading).language.getD defaultLanguage) (Text.trim value) } := by
  unfold setCell
  split
  · next hcolumn =>
    rw [hcolumn] at h
    simp at h
  · next hcolumn =>
    rw [hcolumn] at h
    simp at h
  · next hcolumn => rw [hcolumn]
  · next hlabel =>
    apply absurd _ (hlabel (Column.ofHeading heading).language)
    rw [← h]

def setCells (choice : Choice) (cells : List (String × String)) : Choice :=
  cells.foldl (fun choice (heading, value) => setCell choice heading value) choice

theorem setCells_append (choice : Choice) (cells cells' : List (String × String)) :
    setCells choice (cells ++ cells') = setCells (setCells choice cells) cells' :=
  List.foldl_append

theorem setCells_cons (choice : Choice) (heading value : String) (cells : List (String × String)) :
    setCells choice ((heading, value) :: cells) =
      setCells (setCell choice heading value) cells :=
  rfl

theorem setCells_textCells {text : Localized} (htext : text.IsTidy) (name : String)
    (extras : OrderedMap String) :
    setCells ⟨name, .empty, extras⟩ (Survey.textCells "label" text) = ⟨name, text, extras⟩ := by
  apply Survey.puts_textCells (fun start cells text =>
    setCells ⟨name, start, extras⟩ cells = ⟨name, text, extras⟩)
      (Survey.isBase_choiceFields "label" (by simp)) htext
  · exact fun _ => rfl
  · intro heading language value cells start text hcolumn hcells
    rw [setCells_cons, setCell_label (by rw [hcolumn]; rfl), hcolumn,
      Survey.getD_language_textColumn]
    exact hcells

theorem setCells_extras {entries : List (String × String)}
    (h : ∀ entry ∈ entries, IsExtra entry.1 ∧ Text.IsTidy entry.2) (name : String)
    (label : Localized) (start : OrderedMap String) :
    setCells ⟨name, label, start⟩ entries = ⟨name, label, start.insertAll entries⟩ := by
  induction entries generalizing start with
  | nil => rfl
  | cons entry entries ih =>
    obtain ⟨heading, value⟩ := entry
    obtain ⟨hextra, hvalue⟩ := h _ List.mem_cons_self
    rw [setCells_cons, setCell_of_isExtra hextra, hvalue.trim_eq]
    exact ih (fun entry hentry => h entry (List.mem_cons_of_mem _ hentry)) _

theorem parse_choiceRow (line : Nat) {list : String} {choice : Choice} (hlist : Text.IsTidy list)
    (h : choice.IsAuthored) : parse line (Survey.choiceRow list choice) = .ok ⟨list, choice⟩ := by
  have hrow := Survey.isRow_choiceCells hlist h
  have hlistCell : requiredCell line (Survey.choiceRow list choice) "list_name" = .ok list := by
    have hcell : Row.cell? (Survey.choiceRow list choice) "list_name" = some list :=
      Row.cell?_ofList hrow (by simp [Survey.choiceCells])
    unfold requiredCell
    rw [hcell]
    dsimp only
    rw [hlist.trim_eq]
  have hnameCell : requiredCell line (Survey.choiceRow list choice) "name" = .ok choice.name := by
    have hcell : Row.cell? (Survey.choiceRow list choice) "name" = some choice.name :=
      Row.cell?_ofList hrow (by simp [Survey.choiceCells])
    unfold requiredCell
    rw [hcell]
    dsimp only
    rw [h.name.trim_eq]
  have hcells : setCells ⟨choice.name, .empty, .empty⟩
      (Survey.choiceCells list choice ++ choice.extras.entries) = choice := by
    have hlistColumn := (Survey.isBase_choiceFields "list_name" (by simp)).ofHeading_eq
    have hnameColumn := (Survey.isBase_choiceFields "name" (by simp)).ofHeading_eq
    -- The columns of the list and of the name are no fields of the choice, and set nothing.
    have hfields (start : Choice) :
        setCells start [("list_name", list), ("name", choice.name)] = start := by
      rw [setCells_cons, setCells_cons]
      unfold setCell
      rw [hlistColumn, hnameColumn]
      rfl
    rw [setCells_append, Survey.choiceCells, setCells_append, hfields, setCells_textCells h.label,
      setCells_extras h.extras]
    rw [show OrderedMap.empty.insertAll choice.extras.entries = choice.extras from
      OrderedMap.ofList_entries choice.extras]
  unfold parse
  rw [hlistCell, ok_bind, hnameCell, ok_bind]
  have hrowCells : Row.cells (Survey.choiceRow list choice) =
      Survey.choiceCells list choice ++ choice.extras.entries := Row.cells_ofList hrow
  rw [hrowCells]
  exact congrArg (fun choice => Except.ok (⟨list, choice⟩ : ChoiceRow)) hcells

end ChoiceRow

namespace ChoiceGroups

theorem entries_add_of_notMem {groups : ChoiceGroups} {name : String}
    (h : name ∉ groups.lists.keys) (choice : Choice) :
    (groups.add name choice).lists.entries = groups.lists.entries ++ [(name, ⟨name, [choice]⟩)] := by
  have hnone : groups.lists.get? name = none := OrderedMap.get?_eq_none_iff.2 h
  unfold add
  dsimp only
  rw [hnone]
  exact OrderedMap.insertEntry_of_notMem h

theorem entries_add_of_last {groups : ChoiceGroups} {name : String} {choices : List Choice}
    {entries : List (String × ChoiceList)} (h : name ∉ entries.map Prod.fst)
    (hgroups : groups.lists.entries = entries ++ [(name, ⟨name, choices⟩)]) (choice : Choice) :
    (groups.add name choice).lists.entries = entries ++ [(name, ⟨name, choices ++ [choice]⟩)] := by
  have hsome : groups.lists.get? name = some ⟨name, choices⟩ := by
    rw [OrderedMap.get?_eq_some_iff, hgroups]
    simp
  unfold add
  dsimp only
  rw [hsome]
  unfold OrderedMap.insert
  dsimp only
  rw [hgroups]
  exact OrderedMap.insertEntry_append_of_notMem h

def addAll (groups : ChoiceGroups) (rows : List ChoiceRow) : ChoiceGroups :=
  rows.foldl (fun groups row => groups.add row.list row.choice) groups

theorem addAll_append (groups : ChoiceGroups) (rows rows' : List ChoiceRow) :
    groups.addAll (rows ++ rows') = (groups.addAll rows).addAll rows' :=
  List.foldl_append

theorem entries_addAll_of_last {groups : ChoiceGroups} {name : String}
    {entries : List (String × ChoiceList)} (h : name ∉ entries.map Prod.fst)
    (choices : List Choice) {start : List Choice}
    (hgroups : groups.lists.entries = entries ++ [(name, ⟨name, start⟩)]) :
    (groups.addAll (choices.map (ChoiceRow.mk name))).lists.entries =
      entries ++ [(name, ⟨name, start ++ choices⟩)] := by
  induction choices generalizing groups start with
  | nil =>
    rw [List.append_nil]
    exact hgroups
  | cons choice choices ih =>
    have hnext := ih (entries_add_of_last h hgroups choice)
    rw [List.append_assoc] at hnext
    exact hnext

def rowsOf (list : ChoiceList) : List ChoiceRow :=
  list.choices.map (ChoiceRow.mk list.name)

theorem entries_addAll_rowsOf {groups : ChoiceGroups} {list : ChoiceList}
    (h : list.name ∉ groups.lists.keys) (hchoices : list.choices ≠ []) :
    (groups.addAll (rowsOf list)).lists.entries = groups.lists.entries ++ [(list.name, list)] := by
  obtain ⟨name, choices⟩ := list
  cases choices with
  | nil => exact absurd rfl hchoices
  | cons choice choices =>
    exact entries_addAll_of_last h choices (entries_add_of_notMem h choice)

theorem entries_addAll_flatMap {groups : ChoiceGroups} {lists : List ChoiceList}
    (hnodup : (groups.lists.keys ++ lists.map ChoiceList.name).Nodup)
    (hchoices : ∀ list ∈ lists, list.choices ≠ []) :
    (groups.addAll (lists.flatMap rowsOf)).lists.entries =
      groups.lists.entries ++ lists.map fun list => (list.name, list) := by
  induction lists generalizing groups with
  | nil => simp [addAll]
  | cons list lists ih =>
    -- The choices of one list stand together, so each list is opened once and never again.
    have hnew : list.name ∉ groups.lists.keys := by
      intro hmem
      rw [List.map_cons, List.nodup_append] at hnodup
      exact hnodup.2.2 _ hmem _ List.mem_cons_self rfl
    have hentries := entries_addAll_rowsOf hnew (hchoices list List.mem_cons_self)
    have hkeys : (groups.addAll (rowsOf list)).lists.keys = groups.lists.keys ++ [list.name] := by
      unfold OrderedMap.keys
      rw [hentries, List.map_append]
      rfl
    have hrest : ((groups.addAll (rowsOf list)).lists.keys ++ lists.map ChoiceList.name).Nodup := by
      rw [hkeys]
      simpa using hnodup
    rw [List.flatMap_cons, addAll_append, ih hrest, hentries]
    · simp
    · exact fun list hlist => hchoices list (List.mem_cons_of_mem _ hlist)

end ChoiceGroups

namespace Workbook

theorem groupChoices_eq {lines : List (Nat × Row)} {rows : List ChoiceRow}
    (hlines : lines.map Prod.snd = rows.map fun row => Survey.choiceRow row.list row.choice)
    (hrows : ∀ row ∈ rows, Text.IsTidy row.list ∧ row.choice.IsAuthored) :
    groupChoices lines = .ok (ChoiceGroups.addAll {} rows) := by
  unfold groupChoices
  generalize ({} : ChoiceGroups) = groups
  induction rows generalizing lines groups with
  | nil =>
    cases List.map_eq_nil_iff.1 hlines
    rfl
  | cons row rows ih =>
    obtain ⟨⟨line, cells⟩, lines, rfl, rfl, htail⟩ := List.map_eq_cons_iff.1 hlines
    obtain ⟨hlist, hchoice⟩ := hrows row List.mem_cons_self
    rw [List.foldlM_cons]
    dsimp only
    rw [ChoiceRow.parse_choiceRow line hlist hchoice, ok_bind, ok_bind]
    exact ih htail (fun row hrow => hrows row (List.mem_cons_of_mem _ hrow)) _

end Workbook

namespace SettingsRow

variable {options : Options}

def setCells (options : Options) (row : SettingsRow) (cells : List (String × String)) :
    Except RowFault SettingsRow :=
  cells.foldlM (fun row (column, value) => setCell options row column value) row

theorem setCells_append_of_ok {row row' : SettingsRow} {cells cells' : List (String × String)}
    (h : setCells options row cells = .ok row') :
    setCells options row (cells ++ cells') = setCells options row' cells' := by
  unfold setCells at *
  rw [List.foldlM_append, h, ok_bind]

theorem setCells_optionCell {column : String} (put : Option String → SettingsRow)
    {value : Option String} (hvalue : ∀ text ∈ value, Text.IsTidy text)
    (hput : ∀ text, setCell options (put none) column text = .ok (put (some (Text.trim text)))) :
    setCells options (put none) (Survey.optionCell column value) = .ok (put value) := by
  cases value with
  | none => rfl
  | some text =>
    have htrim := (hvalue text rfl).trim_eq
    have hset := hput text
    rw [htrim] at hset
    exact (bind_pure _).trans hset

def segments (settings : Settings) (rootName : String) :
    List (String × List (String × String)) := [
  ("form_title", Survey.optionCell "form_title" settings.title),
  ("form_id", Survey.optionCell "form_id" settings.formId),
  ("version", Survey.optionCell "version" settings.version),
  ("default_language", Survey.optionCell "default_language" settings.defaultLanguage),
  ("submission_url", Survey.optionCell "submission_url" settings.submissionUrl),
  ("name", [("name", rootName)])]

theorem isBase_columns (base : String) (h : base ∈ ["form_title", "form_id", "version",
    "default_language", "submission_url", "name"]) : Column.IsBase base := by
  have hall : ∀ base ∈ ["form_title", "form_id", "version", "default_language", "submission_url",
      "name"], ':' ∉ base.toList ∧ Text.trim base = base := by
    decide +kernel
  exact ⟨(hall base h).1, (hall base h).2⟩

theorem isRow_segments {settings : Settings} (h : settings.IsAuthored) {rootName : String}
    (hroot : Text.isName rootName = true) :
    IsRow ((segments settings rootName).flatMap Prod.snd) := by
  obtain ⟨htitle, hformId, hversion, hlanguage, hurl⟩ := h
  have hname := Text.isTidy_of_isName hroot
  apply isRow_flatMap (by simp [segments])
  simp only [segments, List.forall_mem_cons]
  refine ⟨?_, ?_, ?_, ?_, ?_, ?_, by simp⟩
  · exact Survey.isSegment_optionCell (isBase_columns _ (by simp)) htitle
  · exact Survey.isSegment_optionCell (isBase_columns _ (by simp)) hformId
  · exact Survey.isSegment_optionCell (isBase_columns _ (by simp)) hversion
  · exact Survey.isSegment_optionCell (isBase_columns _ (by simp)) hlanguage
  · exact Survey.isSegment_optionCell (isBase_columns _ (by simp)) hurl
  · exact Survey.isSegment_singleton (isBase_columns _ (by simp)) hname.isBlankText_eq_false

theorem setCells_segments (options : Options) {settings : Settings} (h : settings.IsAuthored)
    {rootName : String} (hroot : Text.isName rootName = true) :
    setCells options {} ((segments settings rootName).flatMap Prod.snd) =
      .ok ⟨settings, some rootName⟩ := by
  obtain ⟨title, formId, version, defaultLanguage, submissionUrl⟩ := settings
  obtain ⟨htitle, hformId, hversion, hlanguage, hurl⟩ := h
  have htitleCells : setCells options {} (Survey.optionCell "form_title" title) =
      .ok ⟨{ title }, none⟩ :=
    setCells_optionCell (fun title => ⟨{ title }, none⟩) htitle fun _ => rfl
  have hformIdCells : setCells options ⟨{ title }, none⟩ (Survey.optionCell "form_id" formId) =
      .ok ⟨{ title, formId }, none⟩ :=
    setCells_optionCell (fun formId => ⟨{ title, formId }, none⟩) hformId fun _ => rfl
  have hversionCells : setCells options ⟨{ title, formId }, none⟩
      (Survey.optionCell "version" version) = .ok ⟨{ title, formId, version }, none⟩ :=
    setCells_optionCell (fun version => ⟨{ title, formId, version }, none⟩) hversion fun _ => rfl
  have hlanguageCells : setCells options ⟨{ title, formId, version }, none⟩
      (Survey.optionCell "default_language" defaultLanguage) =
        .ok ⟨{ title, formId, version, defaultLanguage }, none⟩ :=
    setCells_optionCell (fun defaultLanguage => ⟨{ title, formId, version, defaultLanguage }, none⟩)
      hlanguage fun _ => rfl
  have hurlCells : setCells options ⟨{ title, formId, version, defaultLanguage }, none⟩
      (Survey.optionCell "submission_url" submissionUrl) =
        .ok ⟨⟨title, formId, version, defaultLanguage, submissionUrl⟩, none⟩ :=
    setCells_optionCell
      (fun submissionUrl => ⟨⟨title, formId, version, defaultLanguage, submissionUrl⟩, none⟩)
      hurl fun _ => rfl
  have hnameCells (settings : Settings) : setCells options ⟨settings, none⟩ [("name", rootName)] =
      .ok ⟨settings, some rootName⟩ := by
    have hset : setCell options ⟨settings, none⟩ "name" rootName = .ok ⟨settings, some rootName⟩ := by
      have htrim := (Text.isTidy_of_isName hroot).trim_eq
      have hvalid : Text.isName (Text.trim rootName) = true := by rw [htrim, hroot]
      exact (if_pos hvalid).trans (by rw [htrim])
    exact (bind_pure _).trans hset
  unfold segments
  simp only [List.flatMap_cons, List.flatMap_nil, List.append_nil]
  rw [setCells_append_of_ok htitleCells, setCells_append_of_ok hformIdCells,
    setCells_append_of_ok hversionCells, setCells_append_of_ok hlanguageCells,
    setCells_append_of_ok hurlCells, hnameCells]

theorem parse_settingsRow (options : Options) {survey : Survey} (h : survey.settings.IsAuthored)
    (hroot : Text.isName survey.rootName = true) :
    parse options (some survey.settingsRow) = .ok ⟨survey.settings, some survey.rootName⟩ := by
  have hrow : survey.settingsRow =
      .ofList ((segments survey.settings survey.rootName).flatMap Prod.snd) := by
    simp [Survey.settingsRow, segments]
  have hset := setCells_segments options h hroot
  unfold setCells at hset
  unfold parse
  dsimp only
  rw [hrow, Row.cells_ofList (isRow_segments h hroot), hset]

end SettingsRow

end Questionnaire
