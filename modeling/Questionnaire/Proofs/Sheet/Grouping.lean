import Questionnaire.Proofs.Earlier
import Questionnaire.Proofs.Sheet.RoundTrip
import Questionnaire.Proofs.Survey.Alike

/-!
This module contains what the rows of a choices sheet are grouped into: which lists there are, what
each of them holds, and which warnings come with them.
-/

namespace Questionnaire

namespace ChoiceRow

theorem name_setCell (choice : Choice) (heading value : String) :
    (setCell choice heading value).name = choice.name := by
  rcases setCell_cases choice heading value with h | h | ⟨-, h⟩ <;> rw [h]

theorem name_setCells (choice : Choice) (cells : List (String × String)) :
    (setCells choice cells).name = choice.name := by
  induction cells generalizing choice with
  | nil => rfl
  | cons cell cells ih =>
    obtain ⟨heading, value⟩ := cell
    rw [setCells_cons, ih, name_setCell]

theorem exists_cell_of_requiredCell {line : Nat} {row : Row} {column value : String}
    (h : requiredCell line row column = .ok value) :
    ∃ cell, row.cell? column = some cell ∧ value = Text.trim cell := by
  unfold requiredCell at h
  split at h
  · next cell hcell =>
    cases h
    exact ⟨cell, hcell, rfl⟩
  · cases h

structure IsReadFrom (parsed : ChoiceRow) (row : Row) : Prop where
  parse_eq : ∃ line, parse line row = .ok parsed
  list_eq : ∃ cell, row.cell? "list_name" = some cell ∧ parsed.list = Text.trim cell
  name_eq : ∃ cell, row.cell? "name" = some cell ∧ parsed.choice.name = Text.trim cell

theorem isReadFrom_of_parse {line : Nat} {row : Row} {parsed : ChoiceRow}
    (h : parse line row = .ok parsed) : parsed.IsReadFrom row := by
  have hparse := h
  obtain ⟨list, hlist, h⟩ := bind_eq_ok_iff.1 h
  obtain ⟨name, hname, h⟩ := bind_eq_ok_iff.1 h
  cases h
  refine ⟨⟨line, hparse⟩, exists_cell_of_requiredCell hlist, ?_⟩
  obtain ⟨cell, hcell, rfl⟩ := exists_cell_of_requiredCell hname
  exact ⟨cell, hcell, name_setCells ⟨Text.trim cell, .empty, .empty⟩ row.cells⟩

def isNamedAs (row other : ChoiceRow) : Bool :=
  row.list == other.list && row.choice.name == other.choice.name

def repeated (rows : List ChoiceRow) : List ChoiceRow :=
  filterBehind (fun front row => front.any row.isNamedAs) [] rows

theorem repeated_concat (rows : List ChoiceRow) (row : ChoiceRow) :
    repeated (rows ++ [row]) = repeated rows ++ if rows.any row.isNamedAs then [row] else [] :=
  filterBehind_concat _ [] rows row

def choicesOf (rows : List ChoiceRow) (list : String) : List Choice :=
  (rows.filter (·.list == list)).map choice

theorem choicesOf_concat (rows : List ChoiceRow) (row : ChoiceRow) (list : String) :
    choicesOf (rows ++ [row]) list =
      choicesOf rows list ++ if row.list = list then [row.choice] else [] := by
  unfold choicesOf
  rw [List.filter_append, List.map_append]
  by_cases h : row.list = list <;> simp [h]

theorem choicesOf_eq_nil {rows : List ChoiceRow} {list : String} (h : list ∉ rows.map ChoiceRow.list) :
    choicesOf rows list = [] := by
  unfold choicesOf
  rw [List.map_eq_nil_iff, List.filter_eq_nil_iff]
  intro row hrow heq
  exact h (List.mem_map.2 ⟨row, hrow, beq_iff_eq.1 heq⟩)

end ChoiceRow

namespace ChoiceGroups

/--
Whether choices are grouped as rows say: the lists stand in the order in which they are first named,
each has the choices of its rows, and each choice of a name that its list has already is warned about.
-/
structure Holds (groups : ChoiceGroups) (rows : List ChoiceRow) : Prop where
  keys_eq : groups.lists.keys = (rows.map ChoiceRow.list).eraseDups
  get?_eq : ∀ list, groups.lists.get? list =
    if list ∈ rows.map ChoiceRow.list then some ⟨list, ChoiceRow.choicesOf rows list⟩ else none
  warnings_eq : groups.warnings =
    (ChoiceRow.repeated rows).map fun row => .duplicateChoice row.list row.choice.name

theorem holds_empty : ({} : ChoiceGroups).Holds [] :=
  ⟨rfl, fun _ => rfl, rfl⟩

variable {groups : ChoiceGroups} {rows : List ChoiceRow}

theorem Holds.getD_eq (h : groups.Holds rows) (list : String) :
    (groups.lists.get? list).getD ⟨list, []⟩ = ⟨list, ChoiceRow.choicesOf rows list⟩ := by
  rw [h.get?_eq]
  split
  · rfl
  · next hnew => rw [ChoiceRow.choicesOf_eq_nil hnew]; rfl

theorem isSome_choice?_choicesOf (rows : List ChoiceRow) (row : ChoiceRow) :
    ((ChoiceList.mk row.list (ChoiceRow.choicesOf rows row.list)).choice? row.choice.name).isSome =
      rows.any row.isNamedAs := by
  unfold ChoiceList.choice? ChoiceRow.choicesOf
  dsimp only
  rw [List.isSome_find?, List.any_map, List.any_filter]
  congr 1
  funext other
  unfold ChoiceRow.isNamedAs
  rw [Function.comp_apply, BEq.comm, BEq.comm (a := other.choice.name)]

theorem Holds.add (h : groups.Holds rows) (row : ChoiceRow) :
    (groups.add row.list row.choice).Holds (rows ++ [row]) := by
  unfold ChoiceGroups.add
  rw [h.getD_eq]
  dsimp only
  rw [isSome_choice?_choicesOf]
  refine ⟨?_, ?_, ?_⟩
  · dsimp only
    rw [OrderedMap.keys_insert, h.keys_eq, List.map_append, List.map_singleton, eraseDups_concat]
    simp only [List.mem_eraseDups]
  · intro list
    dsimp only
    rw [OrderedMap.get?_insert, h.get?_eq, ChoiceRow.choicesOf_concat, List.map_append,
      List.map_singleton]
    by_cases hlist : list = row.list
    · simp [hlist]
    · simp [hlist, Ne.symm hlist]
  · dsimp only
    rw [h.warnings_eq, ChoiceRow.repeated_concat, List.map_append]
    split <;> simp

theorem Holds.addAll (h : groups.Holds rows) (rows' : List ChoiceRow) :
    (groups.addAll rows').Holds (rows ++ rows') := by
  induction rows' generalizing groups rows with
  | nil =>
    rw [List.append_nil]
    exact h
  | cons row rows' ih =>
    have hrest := ih (h.add row)
    rw [List.append_assoc] at hrest
    exact hrest

theorem Holds.entries_eq (h : groups.Holds rows) :
    groups.lists.entries = (rows.map ChoiceRow.list).eraseDups.map fun list =>
      (list, ⟨list, ChoiceRow.choicesOf rows list⟩) := by
  have hentry : ∀ list ∈ (rows.map ChoiceRow.list).eraseDups,
      (groups.lists.get? list).map (list, ·) =
        some (list, ChoiceList.mk list (ChoiceRow.choicesOf rows list)) := by
    intro list hlist
    rw [h.get?_eq, if_pos (List.mem_eraseDups.1 hlist)]
    rfl
  rw [← OrderedMap.entriesBy_keys, h.keys_eq]
  unfold OrderedMap.entriesBy
  rw [List.filterMap_congr hentry]
  exact congrFun List.filterMap_eq_map _

end ChoiceGroups

namespace Workbook

theorem exists_of_groupChoices {lines : List (Nat × Row)} {groups : ChoiceGroups}
    (h : groupChoices lines = .ok groups) :
    ∃ rows, (lines.map Prod.snd).Forall₂ (fun row parsed => parsed.IsReadFrom row) rows ∧
      groups = ChoiceGroups.addAll {} rows := by
  unfold groupChoices at h
  generalize ({} : ChoiceGroups) = start at h ⊢
  induction lines generalizing start with
  | nil =>
    cases h
    exact ⟨[], .nil, rfl⟩
  | cons line lines ih =>
    obtain ⟨line, row⟩ := line
    rw [List.foldlM_cons] at h
    obtain ⟨next, hnext, h⟩ := bind_eq_ok_iff.1 h
    obtain ⟨parsed, hparsed, hnext⟩ := bind_eq_ok_iff.1 hnext
    cases hnext
    obtain ⟨rows, hrows, rfl⟩ := ih _ h
    exact ⟨parsed :: rows, .cons (ChoiceRow.isReadFrom_of_parse hparsed) hrows, rfl⟩

variable {workbook : Workbook} {options : Options} {reading : Reading}

theorem isSelect_of_read (h : workbook.read options = .ok reading) :
    ∀ located ∈ reading.survey.nodes, ∀ q ∈ located.node.question?, ∀ list ∈ q.list,
      q.type.isSelect = true := by
  obtain ⟨drafting, hdrafting, hfinish⟩ := read_eq_ok h
  have hcompiled := (isSound_drafting hdrafting).1.isCompiledFrom (Drafting.finish_eq_ok hfinish)
  intro located hlocated q hq list hlist
  have hnode := Node.isFormed_of_isAuthored
    (LocatedNode.isAuthored_of_isCompiledFrom (hcompiled.nodes located hlocated)).1
  obtain ⟨path, node⟩ := located
  cases node with
  | question q' =>
    cases hq
    exact hnode.list list hlist
  | container kind header children => cases hq

end Workbook

def Survey.unselectedLists (survey : Survey) : List String :=
  survey.lists.keys.filter fun list => ∀ located ∈ survey.nodes, ∀ q ∈ located.node.question?,
    q.type.isSelect = true → q.list ≠ some list

theorem Survey.unusedLists_eq_unselectedLists {survey : Survey}
    (h : ∀ located ∈ survey.nodes, ∀ q ∈ located.node.question?, ∀ list ∈ q.list,
      q.type.isSelect = true) :
    survey.unusedLists = survey.unselectedLists := by
  apply List.filter_congr
  intro list _
  rw [Bool.eq_iff_iff, decide_eq_true_iff, Bool.not_eq_true', ← Bool.not_eq_true,
    List.contains_iff_mem]
  unfold namedLists
  rw [List.mem_filterMap]
  constructor
  · intro hnamed located hlocated q hq _ hlist
    exact hnamed ⟨located, hlocated, Option.bind_eq_some_iff.2 ⟨q, hq, hlist⟩⟩
  · rintro hselect ⟨located, hlocated, hnamed⟩
    obtain ⟨q, hq, hlist⟩ := Option.bind_eq_some_iff.1 hnamed
    exact hselect located hlocated q hq (h located hlocated q hq list hlist) hlist

namespace Workbook

variable {workbook : Workbook} {options : Options} {reading : Reading}

theorem read_groups_choices (h : workbook.read options = .ok reading) :
    ∃ rows : List ChoiceRow,
      (workbook.choices.filter (!Row.isBlank ·)).Forall₂ (fun row parsed => parsed.IsReadFrom row)
        rows ∧
      reading.survey.lists.entries = (rows.map ChoiceRow.list).eraseDups.map (fun list =>
        (list, ⟨list, (rows.filter (·.list == list)).map ChoiceRow.choice⟩)) ∧
      reading.warnings =
        (ChoiceRow.repeated rows).map (fun row => .duplicateChoice row.list row.choice.name) ++
          if options.warnUnused then
            reading.survey.unselectedLists.map .unreferencedChoiceList
          else [] := by
  have hselect := isSelect_of_read h
  obtain ⟨drafting, hdrafting, hfinish⟩ := read_eq_ok h
  have hsound := (isSound_drafting hdrafting).1
  obtain ⟨survey, hassemble, rfl⟩ := hsound.finish_eq_ok_iff.1 hfinish
  have hunselected := Survey.unusedLists_eq_unselectedLists hselect
  obtain ⟨children, -, rfl⟩ := hsound.survey_eq hassemble
  obtain ⟨settings, groups, outline, draft, -, hgroups, -, -, rfl⟩ :=
    drafting_eq_ok_iff.1 hdrafting
  obtain ⟨rows, hrows, rfl⟩ := exists_of_groupChoices hgroups
  rw [map_snd_numbered_eq] at hrows
  have hholds := ChoiceGroups.holds_empty.addAll rows
  refine ⟨rows, hrows, hholds.entries_eq, ?_⟩
  unfold Drafting.warningsOf
  rw [← hunselected, hholds.warnings_eq]
  rfl

def mixedChoices : Workbook where
  survey := [.ofList [("type", "select_multiple color"), ("name", "seen")]]
  choices := [
    .ofList [("list_name", "size"), ("name", "small"), ("label", "Small")],
    .ofList [("list_name", " color"), ("name", "red"), ("label", "Red")],
    .ofList [("list_name", ""), ("name", " ")],
    .ofList [("list_name", "size"), ("name", "large"), ("label", "Large")],
    .ofList [("list_name", "color"), ("name", "red "), ("label", "Dark red")],
    .ofList [("list_name", "color"), ("name", "large"), ("label", "Too large to tell")]]
  settings := none

theorem read_groups_choices_mixed :
    ∃ reading, mixedChoices.read {} = .ok reading ∧
      reading.survey.lists.keys = ["size", "color"] ∧
      reading.warnings =
        [.duplicateChoice "color" "red", .unreferencedChoiceList "size"] ∧
      ∃ rows : List ChoiceRow,
        (mixedChoices.choices.filter (!Row.isBlank ·)).Forall₂
          (fun row parsed => parsed.IsReadFrom row) rows ∧
        reading.survey.lists.entries = (rows.map ChoiceRow.list).eraseDups.map (fun list =>
          (list, ⟨list, (rows.filter (·.list == list)).map ChoiceRow.choice⟩)) ∧
        reading.warnings =
          (ChoiceRow.repeated rows).map (fun row => .duplicateChoice row.list row.choice.name) ++
            reading.survey.unselectedLists.map .unreferencedChoiceList := by
  have hall : (mixedChoices.read {}).toOption.any fun reading =>
      reading.survey.lists.keys = ["size", "color"] ∧
        reading.warnings =
          [.duplicateChoice "color" "red", .unreferencedChoiceList "size"] := by
    decide +kernel
  obtain ⟨reading, hread, hall⟩ := exists_eq_ok_of_any hall
  obtain ⟨hkeys, hwarnings⟩ := of_decide_eq_true hall
  exact ⟨reading, hread, hkeys, hwarnings, read_groups_choices hread⟩

end Workbook

end Questionnaire
