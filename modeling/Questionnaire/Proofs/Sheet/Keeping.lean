import Questionnaire.Proofs.Expression.Climbing
import Questionnaire.Proofs.Sheet.Rebuilding
import Questionnaire.Proofs.Sheet.RoundTrip

/-!
This module contains what becomes of the rows of a survey sheet: the survey that they are read as is
written to one row for each of them, in order, which says the same.
-/

namespace Questionnaire

namespace Node

mutual

/--
The rows of a node and of all nodes inside it, with their expressions as the author wrote them. A
survey inside a survey has no row of its own.
-/
def rows : Node → List SurveyRow
  | question q => [Survey.rowOf q q.texts]
  | container (.block kind) header nodes =>
    Survey.openingOf kind header (header.relevant.map Expression.source) :: rowsAll nodes ++
      [{ type := .closing kind }]
  | container .survey _ nodes => rowsAll nodes

def rowsAll : List Node → List SurveyRow
  | [] => []
  | node :: nodes => rows node ++ rowsAll nodes

end

variable {table : SymbolTable} {lists : ChoiceLists}

mutual

theorem rows_of_compile (draft : Draft) {node : Node}
    (h : draft.compile (Expression.compile table) lists = .ok node) : node.rows = draft.rows := by
  cases draft with
  | question path place asked texts =>
    rw [Draft.compile] at h
    obtain ⟨compiled, hcompiled, h⟩ := bind_eq_ok_iff.1 h
    cases h
    obtain ⟨relevant, hrelevant, constraint, hconstraint, calculation, hcalculation, rfl⟩ :=
      Draft.exists_of_compileQuestion (orPlacing_eq_ok_iff.1 hcompiled)
    rw [rows, Draft.rows, Draft.texts_of_compile? hrelevant hconstraint hcalculation]
    rfl
  | block kind path place header text drafts =>
    rw [Draft.compile] at h
    obtain ⟨relevant, hrelevant, h⟩ := bind_eq_ok_iff.1 h
    obtain ⟨children, hchildren, h⟩ := bind_eq_ok_iff.1 h
    cases h
    rw [rows, Draft.rows, rowsAll_of_compileAll drafts hchildren]
    dsimp only
    rw [Draft.map_source_of_compile? (orPlacing_eq_ok_iff.1 hrelevant)]
    rfl

theorem rowsAll_of_compileAll (drafts : List Draft) {nodes : List Node}
    (h : Draft.compileAll (Expression.compile table) lists drafts = .ok nodes) :
    rowsAll nodes = Draft.rowsAll drafts := by
  cases drafts with
  | nil =>
    cases h
    rfl
  | cons draft drafts =>
    rw [Draft.compileAll] at h
    obtain ⟨node, hnode, h⟩ := bind_eq_ok_iff.1 h
    obtain ⟨nodes, hnodes, h⟩ := bind_eq_ok_iff.1 h
    cases h
    rw [rowsAll, Draft.rowsAll, rows_of_compile draft hnode, rowsAll_of_compileAll drafts hnodes]

end

end Node

def LocatedNode.IsFlattened (table : SymbolTable) (located : LocatedNode) : Prop :=
  ∀ expression ∈ located.node.expressions,
    ∃ text, Expression.flatten table expression.canonical located.path = .ok text

namespace Survey

variable {style : MarkerStyle} {table : SymbolTable} {path : NodePath}

theorem exists_expressionCell_iff {column : String} {expression : Option Expression} :
    (∃ cells, expressionCell table path column expression = .ok cells) ↔
      ∀ expression' ∈ expression,
        ∃ text, Expression.flatten table expression'.canonical path = .ok text := by
  cases expression with
  | none => simp [expressionCell]
  | some expression =>
    simp only [expressionCell, bind_eq_ok_iff, Option.mem_some_iff, forall_eq']
    constructor
    · rintro ⟨cells, text, htext, -⟩
      exact ⟨text, htext⟩
    · rintro ⟨text, htext⟩
      exact ⟨_, text, htext, rfl⟩

theorem exists_questionRow_iff {question : Question} :
    (∃ row, questionRow table path question = .ok row) ↔
      LocatedNode.IsFlattened table ⟨path, .question question⟩ := by
  have hcells : (∃ row, questionRow table path question = .ok row) ↔
      (∃ cells, expressionCell table path "relevant" question.relevant = .ok cells) ∧
      (∃ cells, expressionCell table path "constraint" question.constraint = .ok cells) ∧
      ∃ cells, expressionCell table path "calculation" question.calculation = .ok cells := by
    unfold questionRow
    simp only [bind_eq_ok_iff]
    constructor
    · rintro ⟨row, relevant, hrelevant, constraint, hconstraint, calculation, hcalculation, -⟩
      exact ⟨⟨_, hrelevant⟩, ⟨_, hconstraint⟩, _, hcalculation⟩
    · rintro ⟨⟨relevant, hrelevant⟩, ⟨constraint, hconstraint⟩, calculation, hcalculation⟩
      exact ⟨_, relevant, hrelevant, constraint, hconstraint, calculation, hcalculation, rfl⟩
  rw [hcells, exists_expressionCell_iff, exists_expressionCell_iff, exists_expressionCell_iff]
  exact Node.forall_expressions_question.symm

theorem exists_openingRow_iff {kind : ContainerKind} {header : Header} {children : List Node} :
    (∃ row, openingRow style table path kind header = .ok row) ↔
      LocatedNode.IsFlattened table ⟨path, .container kind header children⟩ := by
  have hcell : (∃ row, openingRow style table path kind header = .ok row) ↔
      ∃ cells, expressionCell table path "relevant" header.relevant = .ok cells := by
    unfold openingRow
    simp only [bind_eq_ok_iff]
    constructor
    · rintro ⟨row, relevant, hrelevant, -⟩
      exact ⟨_, hrelevant⟩
    · rintro ⟨relevant, hrelevant⟩
      exact ⟨_, relevant, hrelevant, rfl⟩
  rw [hcell, exists_expressionCell_iff]
  exact Node.forall_expressions_container.symm

mutual

theorem exists_nodeRows_iff (path : NodePath) (node : Node) :
    (∃ rows, nodeRows style table path node = .ok rows) ↔
      ∀ located ∈ node.located path, located.IsFlattened table := by
  cases node with
  | question q =>
    rw [nodeRows, Node.located, List.forall_mem_singleton, ← exists_questionRow_iff]
    simp only [bind_eq_ok_iff]
    constructor
    · rintro ⟨rows, row, hrow, -⟩
      exact ⟨row, hrow⟩
    · rintro ⟨row, hrow⟩
      exact ⟨_, row, hrow, rfl⟩
  | container kind header children =>
    rw [nodeRows, Node.located, List.forall_mem_cons, ← exists_nodesRows_iff _ children,
      ← exists_openingRow_iff]
    simp only [bind_eq_ok_iff]
    constructor
    · rintro ⟨rows, first, hfirst, inner, hinner, -⟩
      exact ⟨⟨first, hfirst⟩, inner, hinner⟩
    · rintro ⟨⟨first, hfirst⟩, inner, hinner⟩
      exact ⟨_, first, hfirst, inner, hinner, rfl⟩

theorem exists_nodesRows_iff (path : NodePath) (nodes : List Node) :
    (∃ rows, nodesRows style table path nodes = .ok rows) ↔
      ∀ located ∈ Node.locatedAll path nodes, located.IsFlattened table := by
  cases nodes with
  | nil => simp [nodesRows, Node.locatedAll]
  | cons node nodes =>
    rw [nodesRows, Node.locatedAll, List.forall_mem_append, ← exists_nodeRows_iff path node,
      ← exists_nodesRows_iff path nodes]
    simp only [bind_eq_ok_iff]
    constructor
    · rintro ⟨rows, front, hfront, back, hback, -⟩
      exact ⟨⟨front, hfront⟩, back, hback⟩
    · rintro ⟨⟨front, hfront⟩, back, hback⟩
      exact ⟨_, front, hfront, back, hback, rfl⟩

end

end Survey

def SymbolTable.CompilesAlike (table : SymbolTable) (owner : NodePath) :
    Option String → Option String → Prop :=
  Option.Rel fun text text' =>
    ∃ expression expression', Expression.compile table text owner = .ok expression ∧
      Expression.compile table text' owner = .ok expression' ∧
      expression.canonical = expression'.canonical

def TypeCell.NamesListApart : TypeCell → Prop
  | question _ list => ∀ name ∈ list, QuestionType.normalize name ≠ "from"
  | _ => True

namespace SurveyRow

/--
Whether a row says what another row says, as far as a node has a place for it. Their expressions are
compared at the node that both declare.
-/
structure Keeps (table : SymbolTable) (kept row : SurveyRow) : Prop where
  fields_eq : kept =
    { row.recorded with
      type := kept.type
      relevant := kept.relevant
      constraint := kept.constraint
      calculation := kept.calculation }
  type_eq : row.type.NamesListApart → kept.type = row.type
  alike : (∀ kind, row.type ≠ .closing kind) →
    ∃ name ∈ row.name, ∃ symbol ∈ table.lookup? name,
      table.CompilesAlike symbol.path row.recorded.relevant kept.relevant ∧
      table.CompilesAlike symbol.path row.recorded.constraint kept.constraint ∧
      table.CompilesAlike symbol.path row.recorded.calculation kept.calculation

variable {table : SymbolTable} {row kept : SurveyRow}

theorem type_recorded (row : SurveyRow) : row.recorded.type = row.type := by
  unfold recorded
  cases htype : row.type with
  | question type list => exact htype
  | _ => rfl

theorem recorded_recorded (row : SurveyRow) : row.recorded.recorded = row.recorded := by
  cases htype : row.type with
  | question type list =>
    have heq : row.recorded = row := by
      unfold recorded
      rw [htype]
    rw [heq, heq]
  | _ =>
    unfold recorded
    rw [htype]

theorem name_recorded (h : ∀ kind, row.type ≠ .closing kind) : row.recorded.name = row.name := by
  unfold recorded
  cases htype : row.type with
  | closing kind => exact absurd htype (h kind)
  | _ => rfl

theorem Keeps.of_recorded (h : kept.Keeps table row.recorded) : kept.Keeps table row := by
  obtain ⟨hfields, htype, halike⟩ := h
  rw [recorded_recorded] at hfields halike
  rw [type_recorded] at htype halike
  refine ⟨hfields, htype, ?_⟩
  intro hclosing
  obtain ⟨name, hname, halike⟩ := halike hclosing
  rw [name_recorded hclosing] at hname
  exact ⟨name, hname, halike⟩

end SurveyRow

theorem compilesAlike_of_rel {table : SymbolTable} {own : NodePath} {expression : Option Expression}
    {text : Option String}
    (hcompiled : ∀ expression' ∈ expression,
      Expression.compile table expression'.source own = .ok expression')
    (h : Option.Rel (flatSpelling table own) expression text) :
    table.CompilesAlike own (expression.map Expression.source) text := by
  cases h with
  | none => exact .none
  | some hspells => exact .some ⟨_, _, hcompiled _ rfl, hspells.2.2, rfl⟩

structure LocatedNode.IsAccepted (table : SymbolTable) (located : LocatedNode) : Prop
    extends located.IsWritable table where
  compiled : located.IsCompiled table
  lookup?_eq : table.lookup? located.node.name = some located.symbol

def LocatedNode.RelatesRows (style : MarkerStyle) (table : SymbolTable)
    (r : SurveyRow → Row → Prop) (located : LocatedNode) : Prop :=
  match located.node with
  | .question q =>
    ∀ row, Survey.questionRow table located.path q = .ok row → r (Survey.rowOf q q.texts) row
  | .container kind header _ =>
    ∃ block, kind = .block block ∧
      (∀ row, Survey.openingRow style table located.path kind header = .ok row →
        r (Survey.openingOf block header (header.relevant.map Expression.source)) row) ∧
      r { type := .closing block } (Survey.closingRow style kind)

namespace Survey

variable {style : MarkerStyle} {table : SymbolTable} {r : SurveyRow → Row → Prop}

mutual

theorem forall₂_nodeRows {path : NodePath} (node : Node)
    (hnode : ∀ located ∈ node.located path, located.RelatesRows style table r) {rows : List Row}
    (h : nodeRows style table path node = .ok rows) : node.rows.Forall₂ r rows := by
  cases node with
  | question q =>
    rw [nodeRows] at h
    obtain ⟨row, hrow, h⟩ := bind_eq_ok_iff.1 h
    cases h
    exact .cons (hnode _ List.mem_cons_self row hrow) .nil
  | container kind header children =>
    obtain ⟨block, rfl, hopening, hclosing⟩ := hnode _ List.mem_cons_self
    rw [nodeRows] at h
    obtain ⟨first, hfirst, h⟩ := bind_eq_ok_iff.1 h
    obtain ⟨inner, hinner, h⟩ := bind_eq_ok_iff.1 h
    cases h
    have hchildren := forall₂_nodesRows children
      (fun located hlocated => hnode located (List.mem_cons_of_mem _ hlocated)) hinner
    rw [Node.rows]
    exact List.rel_append (.cons (hopening first hfirst) hchildren) (.cons hclosing .nil)

theorem forall₂_nodesRows {path : NodePath} (nodes : List Node)
    (hnodes : ∀ located ∈ Node.locatedAll path nodes, located.RelatesRows style table r)
    {rows : List Row} (h : nodesRows style table path nodes = .ok rows) :
    (Node.rowsAll nodes).Forall₂ r rows := by
  cases nodes with
  | nil =>
    cases h
    exact .nil
  | cons node nodes =>
    rw [nodesRows] at h
    obtain ⟨front, hfront, h⟩ := bind_eq_ok_iff.1 h
    obtain ⟨back, hback, h⟩ := bind_eq_ok_iff.1 h
    cases h
    exact List.rel_append
      (forall₂_nodeRows node
        (fun located hlocated => hnodes located (List.mem_append_left _ hlocated)) hfront)
      (forall₂_nodesRows nodes
        (fun located hlocated => hnodes located (List.mem_append_right _ hlocated)) hback)

end

end Survey

namespace Workbook

variable {style : MarkerStyle} {table : SymbolTable}

def KeepsRow (options : Options) (table : SymbolTable) (row : SurveyRow) (written : Row) : Prop :=
  ∃ kept, Row.IsReadAs options written kept ∧ kept.Keeps table row

theorem relatesRows_of_isAccepted (options : Options) {located : LocatedNode}
    (h : located.IsAccepted table) :
    located.RelatesRows style table (KeepsRow options table) := by
  obtain ⟨own, node⟩ := located
  cases node with
  | question q =>
    intro row' hrow'
    obtain ⟨row, texts, hrow, hread, hrelevant, hconstraint, hcalculation⟩ :=
      exists_questionRow options h.toIsWritable
    cases hrow.symm.trans hrow'
    obtain ⟨hrelevant', hconstraint', hcalculation'⟩ :=
      Node.forall_expressions_question.1 h.compiled
    refine ⟨_, hread, rfl, TypeCell.readBack_eq_iff.2, ?_⟩
    · intro _
      exact ⟨q.name, rfl, _, h.lookup?_eq, compilesAlike_of_rel hrelevant' hrelevant,
        compilesAlike_of_rel hconstraint' hconstraint,
        compilesAlike_of_rel hcalculation' hcalculation⟩
  | container kind header children =>
    obtain ⟨⟨block, rfl⟩, -⟩ := h.authored
    refine ⟨block, rfl, ?_, ?_⟩
    · intro row' hrow'
      obtain ⟨row, text, hrow, hread, hrelevant⟩ := exists_openingRow options style h.toIsWritable
      cases hrow.symm.trans hrow'
      refine ⟨_, hread, rfl, fun _ => rfl, ?_⟩
      intro _
      have hrelevant' := Node.forall_expressions_container.1 h.compiled
      exact ⟨header.name, rfl, _, h.lookup?_eq, compilesAlike_of_rel hrelevant' hrelevant, .none,
        .none⟩
    · refine ⟨_, isReadAs_closingRow options style block, rfl, fun _ => rfl, ?_⟩
      intro hne
      exact absurd rfl (hne block)

variable {survey : Survey}

theorem isAccepted_of_isAuthored (h : survey.IsAuthored table) {rows : List Row}
    (hrows : Survey.nodesRows style table [] survey.children = .ok rows) :
    ∀ located ∈ survey.nodes, located.IsAccepted table := by
  have hflat := (Survey.exists_nodesRows_iff [] survey.children).1 ⟨rows, hrows⟩
  intro located hlocated
  obtain ⟨hauthored, hcompiled⟩ := h.nodes located hlocated
  refine ⟨LocatedNode.isWritable_of_avoids h.declared hauthored hcompiled ?_, hcompiled,
    Survey.lookup?_of_symbols h.symbols_eq hlocated⟩
  intro expression hexpression
  obtain ⟨text, htext⟩ := hflat located hlocated expression hexpression
  exact Expression.avoidsContainers_of_flatten h.declared (hcompiled expression hexpression) htext

end Workbook

namespace Workbook

variable {options : Options}

theorem exists_parsed_of_takeRow {lines : List (Nat × Row)} {outline outline' : Outline}
    (h : lines.foldlM (takeRow options) outline = .ok outline') :
    ∃ parsed : List (Nat × SurveyRow),
      lines.Forall₂ (fun line row => SurveyRow.parse options line.1 line.2 = .ok row.2) parsed ∧
        outline.addRows parsed = .ok outline' := by
  induction lines generalizing outline with
  | nil =>
    cases h
    exact ⟨[], .nil, rfl⟩
  | cons line lines ih =>
    rw [List.foldlM_cons] at h
    obtain ⟨next, hnext, h⟩ := bind_eq_ok_iff.1 h
    obtain ⟨row, hrow, hadd⟩ := bind_eq_ok_iff.1 hnext
    obtain ⟨parsed, hparsed, hrest⟩ := ih h
    refine ⟨(line.1, row) :: parsed, .cons hrow hparsed, ?_⟩
    exact bind_eq_ok_iff.2 ⟨next, hadd, hrest⟩

theorem exists_rowsAll_of_read {workbook : Workbook} {reading : Reading}
    (h : workbook.read options = .ok reading) :
    ∃ parsed : List SurveyRow,
      (numbered workbook.survey).Forall₂
        (fun line row => SurveyRow.parse options line.1 line.2 = .ok row) parsed ∧
      Node.rowsAll reading.survey.children = parsed.map SurveyRow.recorded := by
  unfold read at h
  obtain ⟨settings, -, h⟩ := bind_eq_ok_iff.1 h
  obtain ⟨groups, -, h⟩ := bind_eq_ok_iff.1 h
  obtain ⟨outline, houtline, h⟩ := bind_eq_ok_iff.1 h
  obtain ⟨draft, hdraft, h⟩ := bind_eq_ok_iff.1 h
  obtain ⟨parsed, hparsed, hrows⟩ := exists_parsed_of_takeRow houtline
  refine ⟨parsed.map Prod.snd, List.forall₂_map_right_iff.2 hparsed, ?_⟩
  have hfollows := Outline.follows_addRows (Outline.follows_empty _) hrows
  rw [Node.rowsAll_of_compileAll _ (SurveyDraft.compileAll_of_compile h),
    Outline.rows_of_complete hdraft, hfollows.rows_eq, List.nil_append]

theorem read_toWorkbook_keeps_rows {workbook written : Workbook} {reading : Reading}
    {style : MarkerStyle} (hroot : Text.isName options.rootName = true)
    (hread : workbook.read options = .ok reading)
    (hwritten : reading.survey.toWorkbook style = .ok written) :
    ∃ table, reading.survey.symbols = .ok table ∧
      (numbered workbook.survey).Forall₂
        (fun line row' => ∃ row kept, SurveyRow.parse options line.1 line.2 = .ok row ∧
          (∀ line', SurveyRow.parse options line' row' = .ok kept) ∧ kept.Keeps table row)
        written.survey := by
  obtain ⟨table, hauthored⟩ := isAuthored_read hroot hread
  obtain ⟨parsed, hparsed, hrows⟩ := exists_rowsAll_of_read hread
  unfold Survey.toWorkbook at hwritten
  rw [hauthored.symbols_eq, ok_bind] at hwritten
  obtain ⟨rows, hwrite, hwritten⟩ := bind_eq_ok_iff.1 hwritten
  cases hwritten
  have haccepted := isAccepted_of_isAuthored hauthored hwrite
  have hkept := Survey.forall₂_nodesRows reading.survey.children
    (fun located hlocated => relatesRows_of_isAccepted options (haccepted located hlocated)) hwrite
  rw [hrows] at hkept
  refine ⟨table, hauthored.symbols_eq, ?_⟩
  apply (forall₂_comp hparsed (List.forall₂_map_left_iff.1 hkept)).imp
  rintro line row' ⟨row, hparse, kept, hread', hkeeps⟩
  exact ⟨row, kept, hparse, hread'.parse_eq, hkeeps.of_recorded⟩

theorem read_toWorkbook_keeps_rows_household :
    ∃ reading, household.read {} = .ok reading ∧
      ∃ written, reading.survey.toWorkbook .spaced = .ok written ∧
        ∃ table, reading.survey.symbols = .ok table ∧
          (numbered household.survey).Forall₂
            (fun line row' => ∃ row kept, SurveyRow.parse {} line.1 line.2 = .ok row ∧
              (∀ line', SurveyRow.parse {} line' row' = .ok kept) ∧ kept.Keeps table row)
            written.survey := by
  have hall : (household.read {}).toOption.any fun reading =>
      (reading.survey.toWorkbook .spaced).toOption.any fun _ => true := by
    decide +kernel
  obtain ⟨reading, hread, hall⟩ := exists_eq_ok_of_any hall
  obtain ⟨written, hwritten, -⟩ := exists_eq_ok_of_any hall
  exact ⟨reading, hread, written, hwritten,
    read_toWorkbook_keeps_rows (by decide) hread hwritten⟩

def constrained : Workbook where
  survey := [
    .ofList [("type", "begin group"), ("name", "g"), ("constraint", ". > 1")],
    .ofList [("type", "text"), ("name", "q")],
    .ofList [("type", "end group")]]
  choices := []
  settings := none

def constraints (rows : List Row) : List (Option (Option String)) :=
  rows.map fun row => (SurveyRow.parse {} 2 row).toOption.map SurveyRow.constraint

theorem read_toWorkbook_forgets_constraint :
    ∃ reading, constrained.read {} = .ok reading ∧
      ∃ written, reading.survey.toWorkbook .spaced = .ok written ∧
        constraints constrained.survey = [some (some ". > 1"), some none, some none] ∧
        constraints written.survey = [some none, some none, some none] := by
  have hall : (constrained.read {}).toOption.any fun reading =>
      (reading.survey.toWorkbook .spaced).toOption.any fun written =>
        constraints written.survey = [some none, some none, some none] := by
    decide +kernel
  obtain ⟨reading, hread, hall⟩ := exists_eq_ok_of_any hall
  obtain ⟨written, hwritten, hlost⟩ := exists_eq_ok_of_any hall
  exact ⟨reading, hread, written, hwritten, by decide +kernel, of_decide_eq_true hlost⟩

end Workbook

end Questionnaire
