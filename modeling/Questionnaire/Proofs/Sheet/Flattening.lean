import Questionnaire.Proofs.Expression.Tidy
import Questionnaire.Proofs.Sheet.Cells
import Questionnaire.Proofs.Sheet.Steps
import Questionnaire.Proofs.TypeCell
import Questionnaire.Sheet.Reading

/-!
This module contains the rows that the nodes of a survey are written to: the rows of nodes, taken
one after the other, add drafts that ask what the nodes ask.
-/

namespace Questionnaire

def flatSpelling (table : SymbolTable) : Spelling := fun path expression text =>
  Expression.flatten table expression.canonical path = .ok text ∧ Text.IsTidy text ∧
    Expression.compile table text path = .ok { expression with source := text }

theorem isReadBy_flatSpelling (table : SymbolTable) :
    (flatSpelling table).IsReadBy (Expression.compile table) := by
  rintro path expression text ⟨-, -, hcompile⟩
  exact ⟨_, hcompile, rfl⟩

structure LocatedNode.IsWritable (table : SymbolTable) (located : LocatedNode) : Prop where
  authored : located.node.IsAuthored
  spelled : ∀ expression ∈ located.node.expressions,
    ∃ text, flatSpelling table located.path expression text

theorem LocatedNode.isWritable_of_avoids {table : SymbolTable} {located : LocatedNode}
    (htable : table.Declared) (hauthored : located.node.IsAuthored)
    (hcompiled : located.IsCompiled table)
    (havoids : ∀ expression ∈ located.node.expressions,
      expression.AvoidsContainers table located.path) : located.IsWritable table where
  authored := hauthored
  spelled := by
    intro expression hexpression
    have hcompile := hcompiled expression hexpression
    have hcanonical := Expression.isTidy_canonical htable hcompile (havoids expression hexpression)
      (Node.isTidy_source_of_isAuthored hauthored expression hexpression)
    exact Expression.flatten_isTidy htable hcompile (havoids expression hexpression) hcanonical

/--
Whether the name of a list is not taken for a part of the spelling of a type.
-/
def Question.NamesListApart (question : Question) : Prop :=
  ∀ list ∈ question.list, QuestionType.normalize list ≠ "from"

structure Row.IsReadAs (options : Options) (row : Row) (parsed : SurveyRow) : Prop where
  isBlank_eq : Row.isBlank row = false
  parse_eq : ∀ line, SurveyRow.parse options line row = .ok parsed

theorem TypeCell.isBlankText_of_parse {cell : String} {type : TypeCell}
    (h : parse cell = .ok type) : Text.isBlankText cell = false := by
  by_contra hblank
  rw [Bool.not_eq_false] at hblank
  unfold parse at h
  dsimp only at h
  rw [if_pos (by rw [Text.words_of_isBlankText hblank]; rfl)] at h
  cases h

theorem SurveyRow.isReadAs_ofList_cells (options : Options) {row : SurveyRow} {type : String}
    (hrow : row.IsTidy) (hparse : TypeCell.parse type = .ok row.type) :
    Row.IsReadAs options (.ofList (row.cells type)) row := by
  have hblank := TypeCell.isBlankText_of_parse hparse
  constructor
  · exact Row.isBlank_ofList (isRow_cells hrow hblank) (cells_ne_nil row type)
  · exact fun line => parse_ofList_cells options line hrow hblank hparse

namespace Survey

variable {table : SymbolTable} {path : NodePath}

theorem exists_expressionCell {expression : Option Expression}
    (h : ∀ expression' ∈ expression, ∃ text, flatSpelling table path expression' text)
    (column : String) :
    ∃ text, expressionCell table path column expression = .ok (optionCell column text) ∧
      (∀ text' ∈ text, Text.IsTidy text') ∧
      Option.Rel (flatSpelling table path) expression text := by
  cases expression with
  | none => exact ⟨none, rfl, by simp, .none⟩
  | some expression =>
    obtain ⟨text, hspells⟩ := h expression rfl
    refine ⟨some text, ?_, ?_, .some hspells⟩
    · unfold expressionCell
      dsimp only
      rw [hspells.1, ok_bind]
      rfl
    · intro text' htext'
      cases htext'
      exact hspells.2.1

theorem parse_typeCell {question : Question}
    (h : ∀ list ∈ question.list,
      question.type.isSelect = true ∧ Text.IsWord list ∧ QuestionType.AddsWord list) :
    TypeCell.parse (typeCell question) =
      .ok (TypeCell.question question.type question.list).readBack := by
  unfold typeCell TypeCell.readBack
  split
  · next list heq =>
    obtain ⟨hselect, hword, hadds⟩ := h list heq
    rw [if_pos hselect, heq]
    by_cases hfrom : QuestionType.normalize list = "from"
    · rw [TypeCell.parse_select_from hselect hword hadds hfrom]
      simp [Option.filter, hfrom]
    · rw [TypeCell.parse_select hselect hword hadds hfrom]
      simp [Option.filter, hfrom]
  · next heq =>
    rw [heq, TypeCell.parse_name question.type]
    rfl

def rowOf (question : Question) (texts : ExpressionTexts) : SurveyRow where
  type := .question question.type question.list
  name := some question.name
  label := question.label
  hint := question.hint
  required := question.required
  relevant := texts.relevant
  constraint := texts.constraint
  constraintMessage := question.constraintMessage
  calculation := texts.calculation
  default := question.default
  appearance := question.appearance

def openingOf (kind : BlockKind) (header : Header) (text : Option String) : SurveyRow where
  type := .opening kind
  name := some header.name
  label := header.label
  hint := header.hint
  relevant := text
  appearance := header.appearance

theorem isTidy_rowOf {question : Question} {texts : ExpressionTexts}
    (h : question.IsAuthored question.texts) (hrelevant : ∀ text ∈ texts.relevant, Text.IsTidy text)
    (hconstraint : ∀ text ∈ texts.constraint, Text.IsTidy text)
    (hcalculation : ∀ text ∈ texts.calculation, Text.IsTidy text) {type : TypeCell}
    (htype : type.IsSound) : SurveyRow.IsTidy { rowOf question texts with type } where
  type := htype
  name := by
    intro name hname
    cases hname
    exact h.isName
  label := h.label
  hint := h.hint
  relevant := hrelevant
  constraint := hconstraint
  constraintMessage := h.constraintMessage
  calculation := hcalculation
  default := h.default
  appearance := h.appearance

theorem isTidy_openingOf {kind : BlockKind} {header : Header} {text : Option String}
    {source : Option String} (h : header.IsAuthored source)
    (htext : ∀ text' ∈ text, Text.IsTidy text') : (openingOf kind header text).IsTidy where
  type := trivial
  name := by
    intro name hname
    cases hname
    exact h.isName
  label := h.label
  hint := h.hint
  relevant := htext
  constraint := by simp [openingOf]
  constraintMessage := Localized.isTidy_empty
  calculation := by simp [openingOf]
  default := by simp [openingOf]
  appearance := h.appearance

end Survey

theorem MarkerStyle.separator_cases (style : MarkerStyle) :
    style.separator = " " ∨ style.separator = "_" := by
  cases style
  · exact Or.inl rfl
  · exact Or.inr rfl

namespace Outline

def extend (outline : Outline) (drafts : List Draft) (symbols : SymbolTable) : Outline :=
  { drafts.foldl push outline with symbols }

theorem push_symbols (outline : Outline) (draft : Draft) (symbols : SymbolTable) :
    push { outline with symbols } draft = { outline.push draft with symbols } := by
  unfold push
  dsimp only
  split <;> rfl

theorem foldl_push_symbols (outline : Outline) (drafts : List Draft) (symbols : SymbolTable) :
    drafts.foldl push { outline with symbols } = { drafts.foldl push outline with symbols } := by
  induction drafts generalizing outline with
  | nil => rfl
  | cons draft drafts ih => rw [List.foldl_cons, List.foldl_cons, push_symbols, ih]

theorem extend_append (outline : Outline) (drafts drafts' : List Draft)
    (symbols symbols' : SymbolTable) :
    (outline.extend drafts symbols).extend drafts' symbols' =
      outline.extend (drafts ++ drafts') symbols' := by
  unfold extend
  rw [foldl_push_symbols, List.foldl_append]

theorem path_extend (outline : Outline) (drafts : List Draft) (symbols : SymbolTable) :
    (outline.extend drafts symbols).path = outline.path := by
  have hpath : (drafts.foldl push outline).path = outline.path := by
    induction drafts generalizing outline with
    | nil => rfl
    | cons draft drafts ih => rw [List.foldl_cons, ih, path_push]
  exact hpath

theorem extend_top (children drafts : List Draft) (symbols symbols' : SymbolTable) :
    extend { children, symbols } drafts symbols' =
      { children := children ++ drafts, symbols := symbols' } := by
  have hfold : ∀ children : List Draft,
      drafts.foldl push { children, symbols } = { children := children ++ drafts, symbols } := by
    induction drafts with
    | nil =>
      intro children
      rw [List.append_nil]
      rfl
    | cons draft drafts ih =>
      intro children
      refine (ih (children ++ [draft])).trans ?_
      rw [List.append_assoc]
      rfl
  unfold extend
  rw [hfold children]

theorem extend_empty (root : String) (drafts : List Draft) (symbols : SymbolTable) :
    (empty root).extend drafts symbols = { children := drafts, symbols } :=
  extend_top [] drafts _ symbols

theorem extend_cons (outline : Outline) (frame : Frame) (drafts : List Draft)
    (symbols symbols' : SymbolTable) :
    extend { outline with frames := frame :: outline.frames, symbols } drafts symbols' =
      { outline with
        frames := { frame with children := frame.children ++ drafts } :: outline.frames
        symbols := symbols' } := by
  have hfold : ∀ frame : Frame,
      drafts.foldl push { outline with frames := frame :: outline.frames, symbols } =
        { outline with
          frames := { frame with children := frame.children ++ drafts } :: outline.frames
          symbols } := by
    induction drafts with
    | nil =>
      intro frame
      simp
    | cons draft drafts ih =>
      intro frame
      rw [List.foldl_cons]
      unfold push
      dsimp only
      refine (ih _).trans ?_
      simp
  unfold extend
  rw [hfold frame]

end Outline

namespace Workbook

/--
Whether rows stand for nodes in the container at `path`: at whatever lines the rows are taken, they
add drafts that ask what the nodes ask.
-/
structure StandFor (options : Options) (table : SymbolTable) (path : NodePath) (rows : List Row)
    (nodes : List Node) : Prop where
  isBlank_eq : ∀ row ∈ rows, Row.isBlank row = false
  taken : ∀ lines : List (Nat × Row), lines.map Prod.snd = rows →
    ∀ (outline : Outline) (symbols : SymbolTable), outline.path = path →
      outline.symbols.DeclaresAll ((Node.locatedAll path nodes).map LocatedNode.symbol) symbols →
        ∃ drafts, Draft.AsksAll (flatSpelling table) path nodes drafts ∧
          lines.foldlM (takeRow options) outline = .ok (outline.extend drafts symbols)

variable {options : Options} {style : MarkerStyle} {table : SymbolTable} {path : NodePath}

theorem standFor_nil : StandFor options table path [] [] where
  isBlank_eq := by simp
  taken := by
    intro lines hlines outline symbols hpath hdeclares
    cases List.map_eq_nil_iff.1 hlines
    cases hdeclares
    exact ⟨[], trivial, rfl⟩

theorem StandFor.append {rows rows' : List Row} {nodes nodes' : List Node}
    (h : StandFor options table path rows nodes) (h' : StandFor options table path rows' nodes') :
    StandFor options table path (rows ++ rows') (nodes ++ nodes') where
  isBlank_eq := by
    intro row hrow
    rcases List.mem_append.1 hrow with hrow | hrow
    · exact h.isBlank_eq row hrow
    · exact h'.isBlank_eq row hrow
  taken := by
    intro lines hlines outline symbols hpath hdeclares
    obtain ⟨front, back, rfl, hfront, hback⟩ := List.map_eq_append_iff.1 hlines
    rw [Node.locatedAll_append, List.map_append] at hdeclares
    obtain ⟨next, hnext, hdeclares⟩ := SymbolTable.declaresAll_append.1 hdeclares
    obtain ⟨drafts, hdrafts, hfold⟩ := h.taken front hfront outline next hpath hnext
    obtain ⟨drafts', hdrafts', hfold'⟩ := h'.taken back hback (outline.extend drafts next) symbols
      ((Outline.path_extend ..).trans hpath) hdeclares
    refine ⟨drafts ++ drafts', Draft.asksAll_append hdrafts hdrafts', ?_⟩
    rw [List.foldlM_append, hfold, ok_bind, hfold', Outline.extend_append]

theorem eq_none_iff_of_rel {α β : Type} {r : α → β → Prop} {a : Option α} {b : Option β}
    (h : Option.Rel r a b) : a = none ↔ b = none := by
  cases h <;> simp

theorem suits_rowOf {question : Question} {texts : ExpressionTexts}
    (h : question.IsAuthored question.texts)
    (hcalculation : question.calculation = none ↔ texts.calculation = none) :
    (Survey.rowOf question texts).Suits question.type := by
  have hsource : question.texts.calculation = none ↔ texts.calculation = none := by
    rw [← hcalculation]
    exact Option.map_eq_none_iff
  refine ⟨h.isContainer_eq, ?_, ?_, h.appearance_eq⟩
  · intro htype hnone
    exact h.calculation_ne htype (hsource.2 hnone)
  · intro htype
    exact hsource.1 (h.calculation_eq htype)

theorem exists_questionRow (options : Options) {question : Question} {own : NodePath}
    (h : LocatedNode.IsWritable table ⟨own, .question question⟩) :
    ∃ row texts, Survey.questionRow table own question = .ok row ∧
      Row.IsReadAs options row
        { Survey.rowOf question texts with
          type := (TypeCell.question question.type question.list).readBack } ∧
      Option.Rel (flatSpelling table own) question.relevant texts.relevant ∧
      Option.Rel (flatSpelling table own) question.constraint texts.constraint ∧
      Option.Rel (flatSpelling table own) question.calculation texts.calculation := by
  obtain ⟨hauthored, hspelled⟩ := h
  have hquestion : question.IsAuthored question.texts := hauthored
  obtain ⟨hrelevant, hconstraint, hcalculation⟩ := Node.forall_expressions_question.1 hspelled
  obtain ⟨relevant, hrelevant, hrelevant', hspells⟩ :=
    Survey.exists_expressionCell hrelevant "relevant"
  obtain ⟨constraint, hconstraint, hconstraint', hspells'⟩ :=
    Survey.exists_expressionCell hconstraint "constraint"
  obtain ⟨calculation, hcalculation, hcalculation', hspells''⟩ :=
    Survey.exists_expressionCell hcalculation "calculation"
  have htype := Survey.parse_typeCell hquestion.list
  have htidy : SurveyRow.IsTidy
      { Survey.rowOf question ⟨relevant, constraint, calculation⟩ with
        type := (TypeCell.question question.type question.list).readBack } :=
    Survey.isTidy_rowOf hquestion hrelevant' hconstraint' hcalculation'
      (TypeCell.isSound_parse htype)
  refine ⟨_, ⟨relevant, constraint, calculation⟩, ?_,
    SurveyRow.isReadAs_ofList_cells options htidy htype, hspells, hspells', hspells''⟩
  unfold Survey.questionRow
  rw [hrelevant, ok_bind, hconstraint, ok_bind, hcalculation, ok_bind]
  simp [SurveyRow.cells, SurveyRow.segments, Survey.rowOf, Survey.optionCell]
  rfl

theorem addRow_rowOf {outline : Outline} {question : Question} {texts : ExpressionTexts}
    {symbols : SymbolTable} (line : Nat) (h : question.IsAuthored question.texts)
    (hcalculation : question.calculation = none ↔ texts.calculation = none)
    (hdeclare : outline.symbols.declare (NodePath.child outline.path question.name) .question =
      .ok symbols) :
    outline.addRow line (Survey.rowOf question texts) =
      .ok (outline.extend [.question (NodePath.child outline.path question.name)
        (.ofRow "survey" line (some question.name)) question.bare texts] symbols) := by
  have htakes : outline.Takes line (Survey.rowOf question texts) _ :=
    .question rfl rfl (suits_rowOf h hcalculation) hdeclare
  rw [Outline.addRow_of_takes htakes, Outline.push_symbols]
  rfl

theorem standFor_question (options : Options) {question : Question}
    (h : LocatedNode.IsWritable table ⟨NodePath.child path question.name, .question question⟩)
    (hapart : question.NamesListApart) :
    ∃ rows, Survey.nodeRows style table path (.question question) = .ok rows ∧
      StandFor options table path rows [.question question] := by
  have hauthored : question.IsAuthored question.texts := h.authored
  obtain ⟨row, texts, hrow, ⟨hblank, hparse⟩, hrelevant, hconstraint, hcalculation⟩ :=
    exists_questionRow options h
  rw [TypeCell.readBack_eq_iff.2 hapart] at hparse
  refine ⟨[row], ?_, ?_, ?_⟩
  · rw [Survey.nodeRows, hrow, ok_bind]
  · exact List.forall_mem_singleton.2 hblank
  -- The row of a question leaves the open blocks as they are.
  · intro lines hlines outline symbols hpath hdeclares
    obtain ⟨⟨line, row'⟩, rfl, heq⟩ := List.map_eq_singleton_iff.1 hlines
    dsimp only at heq
    subst heq hpath
    obtain ⟨next, hdeclare, rfl⟩ := hdeclares
    refine ⟨[.question (NodePath.child outline.path question.name)
      (.ofRow "survey" line (some question.name)) question.bare texts],
      ⟨⟨rfl, rfl, hrelevant, hconstraint, hcalculation⟩, trivial⟩, ?_⟩
    have hadd := addRow_rowOf line hauthored (eq_none_iff_of_rel hcalculation) hdeclare
    rw [List.foldlM_cons, takeRow, hparse, ok_bind]
    exact congrArg (· >>= _) hadd

theorem exists_openingRow (options : Options) (style : MarkerStyle) {block : BlockKind}
    {header : Header} {children : List Node} {own : NodePath}
    (h : LocatedNode.IsWritable table ⟨own, .container (.block block) header children⟩) :
    ∃ row text, Survey.openingRow style table own (.block block) header = .ok row ∧
      Row.IsReadAs options row (Survey.openingOf block header text) ∧
      Option.Rel (flatSpelling table own) header.relevant text := by
  obtain ⟨⟨-, hauthored⟩, hspelled⟩ := h
  obtain ⟨text, htext, htext', hspells⟩ :=
    Survey.exists_expressionCell (Node.forall_expressions_container.1 hspelled) "relevant"
  have htype := TypeCell.parse_opening style.separator style.separator_cases block
  refine ⟨_, text, ?_, SurveyRow.isReadAs_ofList_cells options
    (Survey.isTidy_openingOf hauthored htext') htype, hspells⟩
  unfold Survey.openingRow
  rw [htext, ok_bind]
  simp [SurveyRow.cells, SurveyRow.segments, Survey.openingOf, Survey.optionCell, Survey.textCells,
    Localized.empty, ContainerKind.name]

theorem isReadAs_closingRow (options : Options) (style : MarkerStyle) (block : BlockKind) :
    Row.IsReadAs options (Survey.closingRow style (.block block)) { type := .closing block } := by
  have hrow : Survey.closingRow style (.block block) =
      .ofList (SurveyRow.cells { type := .closing block }
        ("end" ++ style.separator ++ block.name)) := by
    simp [Survey.closingRow, SurveyRow.cells, SurveyRow.segments, Survey.optionCell,
      Survey.textCells, Localized.empty, ContainerKind.name]
  rw [hrow]
  exact SurveyRow.isReadAs_ofList_cells options (SurveyRow.isTidy_ofType trivial)
    (TypeCell.parse_closing style.separator style.separator_cases block)

theorem addRow_openingOf {outline : Outline} {block : BlockKind} {header : Header}
    {text : Option String} {symbols : SymbolTable} (line : Nat)
    (hdeclare : outline.symbols.declare (NodePath.child outline.path header.name) (.block block) =
      .ok symbols) :
    outline.addRow line (Survey.openingOf block header text) =
      .ok { outline with
        frames := ⟨block, NodePath.child outline.path header.name,
          .ofRow "survey" line (some header.name), header.bare, text, []⟩ :: outline.frames
        symbols } := by
  exact Outline.addRow_of_takes (.opening rfl rfl hdeclare)

theorem addRow_closing {outline : Outline} {frame : Frame} {frames : List Frame} (line : Nat)
    (block : BlockKind) (hframes : outline.frames = frame :: frames)
    (hblock : frame.kind = block) :
    outline.addRow line { type := .closing block } =
      .ok (Outline.push { outline with frames } frame.toDraft) := by
  subst hblock
  exact Outline.addRow_of_takes (.closing rfl hframes)

theorem standFor_container (options : Options) {block : BlockKind} {header : Header}
    {children : List Node} {rows : List Row}
    (h : LocatedNode.IsWritable table
      ⟨NodePath.child path header.name, .container (.block block) header children⟩)
    (hrows : Survey.nodesRows style table (NodePath.child path header.name) children = .ok rows)
    (hchildren : StandFor options table (NodePath.child path header.name) rows children) :
    ∃ rows, Survey.nodeRows style table path (.container (.block block) header children) = .ok rows ∧
      StandFor options table path rows [.container (.block block) header children] := by
  obtain ⟨first, text, hfirst, ⟨hfirstBlank, hfirstParse⟩, hspells⟩ :=
    exists_openingRow options style h
  obtain ⟨hlastBlank, hlastParse⟩ := isReadAs_closingRow options style block
  generalize hclose : Survey.closingRow style (.block block) = last at hlastBlank hlastParse
  refine ⟨first :: rows ++ [last], ?_, ?_, ?_⟩
  · rw [Survey.nodeRows, hfirst, ok_bind, hrows, ok_bind, hclose]
  · intro row hrow
    rcases List.mem_append.1 hrow with hrow | hrow
    · rcases List.mem_cons.1 hrow with rfl | hrow
      · exact hfirstBlank
      · exact hchildren.isBlank_eq row hrow
    · cases List.mem_singleton.1 hrow
      exact hlastBlank
  · intro lines hlines outline symbols hpath hdeclares
    subst hpath
    obtain ⟨front, back, rfl, hfront, hback⟩ := List.map_eq_append_iff.1 hlines
    obtain ⟨⟨line, row⟩, inner, rfl, rfl, hinner⟩ := List.map_eq_cons_iff.1 hfront
    obtain ⟨⟨line', row'⟩, rfl, rfl⟩ := List.map_eq_singleton_iff.1 hback
    rw [Node.locatedAll, Node.locatedAll, List.append_nil, Node.located, List.map_cons] at hdeclares
    obtain ⟨next, hdeclare, hdeclares⟩ := hdeclares
    -- The rows of the children are taken while the block is open, on top of the other frames.
    obtain ⟨drafts, hdrafts, hfold⟩ := hchildren.taken inner hinner
      { outline with
        frames := ⟨block, NodePath.child outline.path header.name,
          .ofRow "survey" line (some header.name), header.bare, text, []⟩ :: outline.frames
        symbols := next } symbols rfl hdeclares
    refine ⟨[.block block (NodePath.child outline.path header.name)
      (.ofRow "survey" line (some header.name)) header.bare text drafts],
      ⟨⟨rfl, rfl, rfl, hspells, hdrafts⟩, trivial⟩, ?_⟩
    rw [Outline.extend_cons] at hfold
    rw [List.cons_append, List.foldlM_cons, takeRow, hfirstParse, ok_bind,
      addRow_openingOf line hdeclare, ok_bind, List.foldlM_append, hfold, ok_bind,
      List.foldlM_cons, takeRow, hlastParse, ok_bind, addRow_closing line' block rfl rfl]
    exact congrArg Except.ok (Outline.push_symbols outline _ symbols)

mutual

theorem standFor_nodeRows (options : Options) (style : MarkerStyle) (path : NodePath) (node : Node)
    (h : ∀ located ∈ node.located path, located.IsWritable table)
    (hapart : ∀ located ∈ node.located path, ∀ question ∈ located.node.question?,
      question.NamesListApart) :
    ∃ rows, Survey.nodeRows style table path node = .ok rows ∧
      StandFor options table path rows [node] := by
  cases node with
  | question q =>
    exact standFor_question options (h _ List.mem_cons_self) (hapart _ List.mem_cons_self q rfl)
  | container kind header children =>
    have hown := h _ List.mem_cons_self
    obtain ⟨⟨block, rfl⟩, -⟩ := hown.authored
    obtain ⟨rows, hrows, hchildren⟩ := standFor_nodesRows options style
      (NodePath.child path header.name) children
      (fun located hlocated => h located (List.mem_cons_of_mem _ hlocated))
      (fun located hlocated => hapart located (List.mem_cons_of_mem _ hlocated))
    exact standFor_container options hown hrows hchildren

theorem standFor_nodesRows (options : Options) (style : MarkerStyle) (path : NodePath)
    (nodes : List Node) (h : ∀ located ∈ Node.locatedAll path nodes, located.IsWritable table)
    (hapart : ∀ located ∈ Node.locatedAll path nodes, ∀ question ∈ located.node.question?,
      question.NamesListApart) :
    ∃ rows, Survey.nodesRows style table path nodes = .ok rows ∧
      StandFor options table path rows nodes := by
  cases nodes with
  | nil => exact ⟨[], rfl, standFor_nil⟩
  | cons node nodes =>
    obtain ⟨rows, hrows, hnode⟩ := standFor_nodeRows options style path node
      (fun located hlocated => h located (List.mem_append_left _ hlocated))
      (fun located hlocated => hapart located (List.mem_append_left _ hlocated))
    obtain ⟨rows', hrows', hnodes⟩ := standFor_nodesRows options style path nodes
      (fun located hlocated => h located (List.mem_append_right _ hlocated))
      (fun located hlocated => hapart located (List.mem_append_right _ hlocated))
    refine ⟨rows ++ rows', ?_, hnode.append hnodes⟩
    rw [Survey.nodesRows, hrows, ok_bind, hrows', ok_bind]

end

end Workbook

end Questionnaire
