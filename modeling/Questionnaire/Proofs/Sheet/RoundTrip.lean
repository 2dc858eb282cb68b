import Questionnaire.Proofs.Sheet.Choices
import Questionnaire.Proofs.Sheet.Flattening
import Questionnaire.Proofs.Sheet.Reading

/-!
This module contains the round trip of surveys through workbooks: a survey that was read from a
workbook can be written, and the written workbook is read as a survey that asks the same.
-/

namespace Questionnaire

namespace Survey

variable {survey restored : Survey} {table : SymbolTable}

section Erasure

theorem expressionCell_erased (table : SymbolTable) (path : NodePath) (column : String)
    (expression : Option Expression) :
    expressionCell table path column (expression.map Expression.erased) =
      expressionCell table path column expression := by
  cases expression <;> rfl

theorem questionRow_erased (table : SymbolTable) (path : NodePath) (question : Question) :
    questionRow table path question.erased = questionRow table path question := by
  unfold questionRow Question.erased
  dsimp only
  rw [expressionCell_erased, expressionCell_erased, expressionCell_erased]
  rfl

theorem openingRow_erased (style : MarkerStyle) (table : SymbolTable) (path : NodePath)
    (kind : ContainerKind) (header : Header) :
    openingRow style table path kind header.erased = openingRow style table path kind header := by
  unfold openingRow Header.erased
  dsimp only
  rw [expressionCell_erased]

mutual

theorem nodeRows_erased (style : MarkerStyle) (table : SymbolTable) (path : NodePath)
    (node : Node) : nodeRows style table path node.erased = nodeRows style table path node := by
  cases node with
  | question q =>
    rw [Node.erased, nodeRows, nodeRows, questionRow_erased]
    rfl
  | container kind header children =>
    rw [Node.erased, nodeRows, nodeRows, openingRow_erased,
      show header.erased.name = header.name from rfl, nodesRows_erasedAll style table _ children]

theorem nodesRows_erasedAll (style : MarkerStyle) (table : SymbolTable) (path : NodePath)
    (nodes : List Node) :
    nodesRows style table path (Node.erasedAll nodes) = nodesRows style table path nodes := by
  cases nodes with
  | nil => rfl
  | cons node nodes =>
    rw [Node.erasedAll, nodesRows, nodesRows, nodeRows_erased style table path node,
      nodesRows_erasedAll style table path nodes]

end

theorem nodesRows_congr {nodes nodes' : List Node}
    (h : Node.erasedAll nodes = Node.erasedAll nodes') (style : MarkerStyle) (table : SymbolTable)
    (path : NodePath) : nodesRows style table path nodes = nodesRows style table path nodes' := by
  rw [← nodesRows_erasedAll, h, nodesRows_erasedAll]

theorem Restores.toWorkbook_eq (h : restored.Restores survey) (hsymbols : survey.symbols = .ok table)
    (style : MarkerStyle) : restored.toWorkbook style = survey.toWorkbook style := by
  unfold toWorkbook
  rw [h.symbols_eq hsymbols, hsymbols, ok_bind, ok_bind, nodesRows_congr h.children_eq,
    h.usedLists_eq]
  unfold settingsRow
  rw [h.settings_eq, h.rootName_eq]

end Erasure

def NamesListsApart (survey : Survey) : Prop :=
  ∀ located ∈ survey.nodes, ∀ q ∈ located.node.question?, q.type.isSelect = true →
    ∀ list ∈ q.list, QuestionType.normalize list ≠ "from" ∧ QuestionType.normalize list ≠ ""

instance (survey : Survey) : Decidable survey.NamesListsApart :=
  inferInstanceAs (Decidable (∀ located ∈ survey.nodes, _))

theorem IsAuthored.namesListApart (h : survey.IsAuthored table) (hlists : survey.NamesListsApart) :
    ∀ located ∈ survey.nodes, ∀ q ∈ located.node.question?, q.NamesListApart := by
  intro located hlocated q hq list hlist
  have hauthored := (h.nodes located hlocated).1
  rw [Node.question?_eq_some_iff.1 hq] at hauthored
  have hselect := (Question.IsAuthored.list hauthored list hlist).1
  exact (hlists located hlocated q hq hselect list hlist).1

structure IsWritable (survey : Survey) (table : SymbolTable) : Prop where
  symbols_eq : survey.symbols = .ok table
  header_eq : survey.header = { name := survey.rootName }
  rootName : Text.isName survey.rootName = true
  settings : survey.settings.IsAuthored
  nodes : ∀ located ∈ survey.nodes, located.IsWritable table
  keys : ∀ entry ∈ survey.lists.entries, entry.1 = entry.2.name
  list_mem : ∀ located ∈ survey.nodes, ∀ q, located.node = .question q → q.type.isSelect = true →
    q.list.getD "" ∈ survey.namedLists
  lists : ∀ list ∈ survey.usedLists, list.IsAuthored
  offers : survey.lists.Offers survey.nodes

theorem IsAuthored.isWritable (h : survey.IsAuthored table) (havoids : survey.AvoidsContainers) :
    survey.IsWritable table where
  symbols_eq := h.symbols_eq
  header_eq := h.header_eq
  rootName := h.rootName
  settings := h.settings
  nodes := by
    intro located hlocated
    obtain ⟨hauthored, hcompiled⟩ := h.nodes located hlocated
    exact LocatedNode.isWritable_of_avoids h.declared hauthored hcompiled
      (havoids table h.symbols_eq located hlocated)
  keys := h.keys
  list_mem := h.list_mem_namedLists
  lists := h.isAuthored_of_mem_usedLists
  offers := h.offers

end Survey

namespace Workbook

theorem map_snd_lines (rows : List Row) :
    (rows.zipIdx.map fun (row, index) => (lineOf index, row)).map Prod.snd = rows := by
  rw [List.map_map]
  exact List.zipIdx_map_fst 0 rows

theorem map_snd_numbered_eq (rows : List Row) :
    (numbered rows).map Prod.snd = rows.filter fun row => !Row.isBlank row := by
  conv_rhs => rw [← map_snd_lines rows, List.filter_map]
  rfl

theorem map_snd_numbered {rows : List Row} (h : ∀ row ∈ rows, Row.isBlank row = false) :
    (numbered rows).map Prod.snd = rows := by
  rw [map_snd_numbered_eq, List.filter_eq_self]
  intro row hrow
  rw [h row hrow]
  rfl

variable {survey : Survey} {table : SymbolTable}

theorem groupChoices_choiceRows (h : survey.IsWritable table) :
    ∃ groups, groupChoices (numbered (survey.usedLists.flatMap fun list =>
        list.choices.map (Survey.choiceRow list.name))) = .ok groups ∧
      groups.lists.entries = survey.namedEntries := by
  have hauthored : ∀ row ∈ survey.usedLists.flatMap ChoiceGroups.rowsOf,
      Text.IsTidy row.list ∧ row.choice.IsAuthored := by
    intro row hrow
    obtain ⟨list, hlist, hrow⟩ := List.mem_flatMap.1 hrow
    obtain ⟨choice, hchoice, rfl⟩ := List.mem_map.1 hrow
    have hlist := h.lists list hlist
    exact ⟨hlist.name, hlist.choices choice hchoice⟩
  have hrows : survey.usedLists.flatMap (fun list =>
      list.choices.map (Survey.choiceRow list.name)) =
        (survey.usedLists.flatMap ChoiceGroups.rowsOf).map fun row =>
          Survey.choiceRow row.list row.choice := by
    simp [ChoiceGroups.rowsOf, List.map_flatMap, Function.comp_def]
  have hblank : ∀ row ∈ (survey.usedLists.flatMap ChoiceGroups.rowsOf).map fun row =>
      Survey.choiceRow row.list row.choice, Row.isBlank row = false := by
    rw [List.forall_mem_map]
    intro row hrow
    obtain ⟨hlist, hchoice⟩ := hauthored row hrow
    exact Row.isBlank_ofList (Survey.isRow_choiceCells hlist hchoice) (by simp)
  refine ⟨_, groupChoices_eq ((map_snd_numbered ?_).trans hrows) hauthored, ?_⟩
  · rw [hrows]
    exact hblank
  · rw [ChoiceGroups.entries_addAll_flatMap]
    · rfl
    · exact Survey.nodup_usedLists h.keys
    · intro list hlist
      exact (h.lists list hlist).choices_ne

theorem exists_read_toWorkbook (h : survey.IsWritable table)
    (hapart : ∀ located ∈ survey.nodes, ∀ q ∈ located.node.question?, q.NamesListApart)
    (style : MarkerStyle) (options : Options) :
    ∃ workbook, survey.toWorkbook style = .ok workbook ∧
      ∃ reading, workbook.read options = .ok reading ∧ reading.survey.Restores survey := by
  obtain ⟨rows, hrows, hstand⟩ := standFor_nodesRows options style [] survey.children
    h.nodes hapart
  -- No written row is blank, so the rows that are numbered are all of them.
  obtain ⟨drafts, hdrafts, hfold⟩ := hstand.taken (numbered rows)
    (map_snd_numbered hstand.isBlank_eq) (Outline.empty survey.rootName) table rfl
    (Survey.declaresAll_of_symbols h.symbols_eq)
  obtain ⟨groups, hgroups, hentries⟩ := groupChoices_choiceRows h
  -- The root of the names comes back through the settings.
  have hroot : table.root = survey.rootName := by
    rw [SymbolTable.eq_of_declaresAll (Survey.declaresAll_of_symbols h.symbols_eq)]
    rfl
  have hbare : survey.header.relevant = none := by rw [h.header_eq]
  let draft : SurveyDraft :=
    { place := { sheet := some "survey" }, header := { name := table.root }, children := drafts }
  have hheader : draft.header = survey.header := by
    rw [h.header_eq, ← hroot]
  obtain ⟨reading, hreading, hrestores⟩ : ∃ reading,
      draft.compile (Expression.compile table) groups.lists survey.settings groups.warnings options =
        .ok reading ∧ reading.survey.Restores survey :=
    SurveyDraft.compile_restores (isReadBy_flatSpelling table) h.symbols_eq h.keys
      h.list_mem h.offers hheader rfl hbare hdrafts hentries rfl
  have hcomplete : ((Outline.empty survey.rootName).extend drafts table).complete = .ok draft := by
    rw [Outline.extend_empty]
    rfl
  let workbook : Workbook :=
    { survey := rows
      choices := survey.usedLists.flatMap fun list =>
        list.choices.map (Survey.choiceRow list.name)
      settings := some survey.settingsRow }
  refine ⟨workbook, ?_, reading, ?_, hrestores⟩
  · unfold Survey.toWorkbook
    rw [h.symbols_eq, ok_bind, hrows, ok_bind]
  · have houtline : outlineRows options survey.rootName (numbered rows) =
        .ok ((Outline.empty survey.rootName).extend drafts table) := hfold
    unfold read
    rw [SettingsRow.parse_settingsRow options h.settings h.rootName, ok_bind, hgroups, ok_bind]
    dsimp only [Option.getD_some]
    rw [houtline, ok_bind, hcomplete, ok_bind]
    exact hreading

theorem read_toWorkbook {workbook : Workbook} {reading : Reading}
    (hread : workbook.read {} = .ok reading) (havoids : reading.survey.AvoidsContainers)
    (hlists : reading.survey.NamesListsApart) (style : MarkerStyle) :
    ∃ written, reading.survey.toWorkbook style = .ok written ∧
      ∃ reading', written.read {} = .ok reading' ∧
        reading.survey.isSimilar reading'.survey = true ∧
        ∀ style', reading'.survey.toWorkbook style' = reading.survey.toWorkbook style' := by
  obtain ⟨table, hauthored⟩ := isAuthored_read (by decide) hread
  obtain ⟨written, hwritten, reading', hreading', hrestores⟩ :=
    exists_read_toWorkbook (hauthored.isWritable havoids) (hauthored.namesListApart hlists) style {}
  refine ⟨written, hwritten, reading', hreading', hrestores.isSimilar, ?_⟩
  intro style'
  exact hrestores.toWorkbook_eq hauthored.symbols_eq style'

def household : Workbook where
  survey := [
    .ofList [("type", "text"), ("name", "head"), ("label", "Head"), ("label::French", "Chef")],
    .ofList [("type", "begin repeat"), ("name", "member"), ("label", "Member")],
    .ofList [("type", "integer"), ("name", "age"), ("constraint", ". >= 0"),
      ("constraint_message", "Not negative")],
    .ofList [("type", "select_one school"), ("name", "level"), ("required", "yes"),
      ("relevant", "$\x7bage\x7d > 5 and $\x7bhead\x7d != ''")],
    .ofList [("type", "end repeat")]]
  choices := [
    .ofList [("list_name", "school"), ("name", "primary"), ("label", "Primary"), ("grade", "1")],
    .ofList [("list_name", "school"), ("name", "secondary"), ("label", "Secondary")]]
  settings := some (.ofList [("form_title", "Household")])

theorem exists_read_household : ∃ reading, household.read {} = .ok reading := by
  have hall : (household.read {}).toOption.any fun _ => true := by
    decide +kernel
  obtain ⟨reading, hread, -⟩ := exists_eq_ok_of_any hall
  exact ⟨reading, hread⟩

theorem read_toWorkbook_household :
    ∃ reading, household.read {} = .ok reading ∧ reading.survey.AvoidsContainers ∧
      reading.survey.NamesListsApart ∧
      ∃ written, reading.survey.toWorkbook .underscored = .ok written ∧
        ∃ reading', written.read {} = .ok reading' ∧
          reading.survey.isSimilar reading'.survey = true ∧
          ∀ style', reading'.survey.toWorkbook style' = reading.survey.toWorkbook style' := by
  have hall : (household.read {}).toOption.any fun reading =>
      reading.survey.AvoidsContainers && reading.survey.NamesListsApart := by
    decide +kernel
  obtain ⟨reading, hread, hboth⟩ := exists_eq_ok_of_any hall
  rw [Bool.and_eq_true, decide_eq_true_iff, decide_eq_true_iff] at hboth
  exact ⟨reading, hread, hboth.1, hboth.2, read_toWorkbook hread hboth.1 hboth.2 .underscored⟩

end Workbook

end Questionnaire
