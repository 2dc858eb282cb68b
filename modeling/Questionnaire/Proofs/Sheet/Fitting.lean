import Questionnaire.Proofs.Sheet.Keeping

/-!
This module contains which surveys a workbook can hold: those in which every text is what the reading
of a cell gives. A survey that comes back from its workbook is one of them.
-/

namespace Questionnaire

/--
Whether a row has a place for a node whose expressions are spelled with paths.
-/
def Node.FitsRow : Node → Prop
  | .question q => q.IsAuthored (q.textsBy Expression.canonical)
  | .container _ header _ => header.IsAuthored (header.relevant.map Expression.canonical)

instance (node : Node) : Decidable node.FitsRow :=
  match node with
  | .question q => inferInstanceAs (Decidable (q.IsAuthored _))
  | .container _ header _ => inferInstanceAs (Decidable (header.IsAuthored _))

@[mk_iff]
structure Survey.FitsWorkbook (survey : Survey) : Prop where
  rootName : Text.isName survey.rootName = true
  settings : survey.settings.IsAuthored
  nodes : ∀ located ∈ survey.nodes, located.node.FitsRow
  named : ∀ located ∈ survey.nodes, ∀ q ∈ located.node.question?, q.type.isSelect = true →
    q.list ≠ none
  apart : ∀ located ∈ survey.nodes, ∀ q ∈ located.node.question?, q.NamesListApart
  lists : ∀ list ∈ survey.usedLists, list.IsAuthored

instance (question : Question) : Decidable question.NamesListApart :=
  inferInstanceAs (Decidable (∀ list ∈ question.list, _))

instance (survey : Survey) : Decidable survey.FitsWorkbook :=
  decidable_of_iff _ (Survey.fitsWorkbook_iff survey).symm

section Spelling

variable {spell spell' : Expression → String}

theorem Expression.isTidy_of_mem_map {expression : Option Expression}
    (h : ∀ expression' ∈ expression, Text.IsTidy (spell expression')) :
    ∀ text ∈ expression.map spell, Text.IsTidy text := by
  intro text htext
  obtain ⟨expression', hexpression, rfl⟩ := Option.map_eq_some_iff.1 htext
  exact h expression' hexpression

theorem Question.IsAuthored.respell {question : Question}
    (h : question.IsAuthored (question.textsBy spell))
    (hspell : ∀ expression ∈ (Node.question question).expressions,
      Text.IsTidy (spell' expression)) :
    question.IsAuthored (question.textsBy spell') := by
  obtain ⟨hrelevant, hconstraint, hcalculation⟩ := Node.forall_expressions_question.1 hspell
  exact
    { h with
      relevant := Expression.isTidy_of_mem_map hrelevant
      constraint := Expression.isTidy_of_mem_map hconstraint
      calculation := Expression.isTidy_of_mem_map hcalculation
      calculation_ne := fun htype hnone =>
        h.calculation_ne htype (Option.map_eq_none_iff.2 (Option.map_eq_none_iff.1 hnone))
      calculation_eq := fun htype =>
        Option.map_eq_none_iff.2 (Option.map_eq_none_iff.1 (h.calculation_eq htype)) }

theorem Header.IsAuthored.respell {header : Header}
    (h : header.IsAuthored (header.relevant.map spell))
    (hspell : ∀ expression ∈ header.relevant, Text.IsTidy (spell' expression)) :
    header.IsAuthored (header.relevant.map spell') :=
  { h with relevant := Expression.isTidy_of_mem_map hspell }

theorem Node.fitsRow_of_isAuthored {node : Node} (h : node.IsAuthored)
    (hcanonical : ∀ expression ∈ node.expressions, Text.IsTidy expression.canonical) :
    node.FitsRow := by
  cases node with
  | question q =>
    have hquestion : q.IsAuthored (q.textsBy Expression.source) := h
    exact hquestion.respell hcanonical
  | container kind header children =>
    exact h.2.respell (forall_expressions_container.1 hcanonical)

theorem Node.isAuthored_of_fitsRow {node : Node} (h : node.FitsRow) (hformed : node.IsFormed)
    (hsource : ∀ expression ∈ node.expressions, Text.IsTidy expression.source) :
    node.IsAuthored := by
  cases node with
  | question q =>
    have hquestion : q.IsAuthored (q.textsBy Expression.canonical) := h
    exact hquestion.respell hsource
  | container kind header children =>
    have hheader : header.IsAuthored (header.relevant.map Expression.canonical) := h
    exact ⟨hformed.1, hheader.respell (forall_expressions_container.1 hsource)⟩

theorem Node.isTidy_canonical_of_fitsRow {node : Node} (h : node.FitsRow) :
    ∀ expression ∈ node.expressions, Text.IsTidy expression.canonical := by
  cases node with
  | question q => exact isTidy_of_question h
  | container kind header children => exact isTidy_of_header h

theorem Node.isName_of_fitsRow {node : Node} (h : node.FitsRow) : Text.isName node.name = true := by
  cases node with
  | question q => exact Question.IsAuthored.isName h
  | container kind header children => exact Header.IsAuthored.isName h

theorem Node.fitsRow_erased {node : Node} : node.erased.FitsRow ↔ node.FitsRow := by
  cases node with
  | question q =>
    have htexts : q.erased.textsBy Expression.canonical = q.textsBy Expression.canonical := by
      unfold Question.textsBy Question.erased
      simp only [Expression.map_canonical_map_erased]
    have hfits : (Node.question q).erased.FitsRow =
        q.erased.IsAuthored (q.textsBy Expression.canonical) := by
      rw [← htexts]
      rfl
    rw [hfits]
    exact ⟨fun h => { h with }, fun h => { h with }⟩
  | container kind header children =>
    have hfits : (Node.container kind header children).erased.FitsRow =
        header.erased.IsAuthored (header.relevant.map Expression.canonical) := by
      rw [← Expression.map_canonical_map_erased]
      rfl
    rw [hfits]
    exact ⟨fun h => { h with }, fun h => { h with }⟩

end Spelling

section Choices

theorem Choice.IsAuthored.of_same {a b : Choice} (h : b.IsAuthored) (hsame : a.same b = true) :
    a.IsAuthored := by
  obtain ⟨hname, hlabel, hextras⟩ := Choice.same_iff.1 hsame
  refine ⟨by rw [hname]; exact h.name, by rw [hlabel]; exact h.label, ?_⟩
  rintro ⟨column, value⟩ hentry
  obtain ⟨value', hentry', heq⟩ := OrderedMap.exists_mem_of_agrees hextras hentry
  rw [beq_iff_eq] at heq
  subst heq
  exact h.extras _ hentry'

theorem ChoiceList.IsAuthored.of_same {a b : ChoiceList} (h : b.IsAuthored)
    (hsame : a.same b = true) : a.IsAuthored := by
  obtain ⟨hname, hchoices⟩ := ChoiceList.same_iff.1 hsame
  refine ⟨by rw [hname]; exact h.name, ?_, ?_⟩
  · intro hnil
    rw [hnil, List.forall₂_nil_left_iff] at hchoices
    exact h.choices_ne hchoices
  · intro choice hchoice
    obtain ⟨choice', hchoice', hsame⟩ := exists_mem_of_forall₂ hchoices choice hchoice
    exact (h.choices choice' hchoice').of_same hsame

end Choices

namespace Survey

variable {survey other : Survey} {table table' : SymbolTable} {style : MarkerStyle}
variable {options : Options} {rows : List Row}

theorem isAuthored_usedLists_of_agrees
    (hkeys : ∀ entry ∈ survey.lists.entries, entry.1 = entry.2.name) (hother : other.IsAuthored table)
    (h : survey.usedListsByName.agrees ChoiceList.same other.usedListsByName = true) :
    ∀ list ∈ survey.usedLists, list.IsAuthored := by
  intro list hlist
  obtain ⟨list', hlist', hsame⟩ := exists_usedList_of_agrees hkeys hother.keys h hlist
  exact (hother.isAuthored_of_mem_usedLists list' hlist').of_same hsame

theorem list_ne_none_of_erasedAll (hother : other.IsAuthored table)
    (hchildren : Node.erasedAll survey.children = Node.erasedAll other.children) :
    ∀ located ∈ survey.nodes, ∀ q ∈ located.node.question?, q.type.isSelect = true →
      q.list ≠ none := by
  intro located hlocated q hq
  exact Node.forall_question_of_erasedAll (p := fun q => q.type.isSelect = true → q.list ≠ none)
    (fun q => Iff.rfl) hchildren hother.list_ne_none located hlocated q
    (Node.question?_eq_some_iff.1 hq)

theorem fitsRow_of_erasedAll (hsymbols : survey.symbols = .ok table)
    (hrows : nodesRows style table [] survey.children = .ok rows)
    (hother : other.IsAuthored table') (hname : survey.rootName = other.rootName)
    (hchildren : Node.erasedAll survey.children = Node.erasedAll other.children) :
    ∀ located ∈ survey.nodes, located.node.FitsRow := by
  have hsymbols' := symbols_eq_of_erasedAll hname.symm hchildren.symm hsymbols
  cases hother.symbols_eq.symm.trans hsymbols'
  have hflat : ∀ located ∈ other.nodes, located.IsFlattened table := by
    rw [nodesRows_congr hchildren] at hrows
    exact (exists_nodesRows_iff [] other.children).1 ⟨rows, hrows⟩
  intro located hlocated
  obtain ⟨located', hlocated', hpath, hnode⟩ := Node.exists_located_of_erasedAll hchildren hlocated
  obtain ⟨hauthored, hcompiled⟩ := hother.nodes located' hlocated'
  rw [← Node.fitsRow_erased, ← hnode, Node.fitsRow_erased]
  apply Node.fitsRow_of_isAuthored hauthored
  intro expression hexpression
  obtain ⟨text, htext⟩ := hflat located' hlocated' expression hexpression
  have hcompile := hcompiled expression hexpression
  exact Expression.isTidy_canonical hother.declared hcompile
    (Expression.avoidsContainers_of_flatten hother.declared hcompile htext)
    (Node.isTidy_source_of_isAuthored hauthored expression hexpression)

end Survey

namespace Node

mutual

theorem rowOf_mem_rows {path own : NodePath} {q : Question} (node : Node)
    (h : ⟨own, .question q⟩ ∈ node.located path) : Survey.rowOf q q.texts ∈ node.rows := by
  cases node with
  | question q' =>
    cases List.mem_singleton.1 h
    exact List.mem_cons_self
  | container kind header children =>
    rcases List.mem_cons.1 h with h | h
    · cases h
    · have hmem := rowOf_mem_rowsAll children h
      cases kind with
      | survey => exact hmem
      | block kind => exact List.mem_append_left _ (List.mem_cons_of_mem _ hmem)

theorem rowOf_mem_rowsAll {path own : NodePath} {q : Question} (nodes : List Node)
    (h : ⟨own, .question q⟩ ∈ locatedAll path nodes) : Survey.rowOf q q.texts ∈ rowsAll nodes := by
  cases nodes with
  | nil => cases h
  | cons node nodes =>
    rcases List.mem_append.1 h with h | h
    · exact List.mem_append_left _ (rowOf_mem_rows node h)
    · exact List.mem_append_right _ (rowOf_mem_rowsAll nodes h)

end

mutual

theorem map_type_rows_erased (node : Node) :
    node.erased.rows.map SurveyRow.type = node.rows.map SurveyRow.type := by
  cases node with
  | question q => rfl
  | container kind header children =>
    have hinner := map_type_rowsAll_erasedAll children
    cases kind with
    | survey => exact hinner
    | block kind =>
      rw [erased, rows, rows]
      simp only [List.map_cons, List.map_append, hinner]
      rfl

theorem map_type_rowsAll_erasedAll (nodes : List Node) :
    (rowsAll (erasedAll nodes)).map SurveyRow.type = (rowsAll nodes).map SurveyRow.type := by
  cases nodes with
  | nil => rfl
  | cons node nodes =>
    rw [erasedAll, rowsAll, rowsAll, List.map_append, List.map_append, map_type_rows_erased node,
      map_type_rowsAll_erasedAll nodes]

end

end Node

namespace Workbook

variable {survey : Survey} {table : SymbolTable} {style : MarkerStyle} {options : Options}

def ShowsType (options : Options) (row : SurveyRow) (written : Row) : Prop :=
  Row.isBlank written = false ∧ ∀ line parsed, SurveyRow.parse options line written = .ok parsed →
    row.type = parsed.type → row.type.NamesListApart

theorem relatesRows_of_isWritable (options : Options) {located : LocatedNode}
    (h : located.IsWritable table) : located.RelatesRows style table (ShowsType options) := by
  obtain ⟨own, node⟩ := located
  cases node with
  | question q =>
    intro row' hrow'
    obtain ⟨row, texts, hrow, ⟨hblank, hparse⟩, -⟩ := exists_questionRow options h
    cases hrow.symm.trans hrow'
    refine ⟨hblank, ?_⟩
    intro line parsed hparsed htype
    cases (hparse line).symm.trans hparsed
    exact TypeCell.readBack_eq_iff.1 htype.symm
  | container kind header children =>
    obtain ⟨⟨block, rfl⟩, -⟩ := h.authored
    refine ⟨block, rfl, ?_, ?_⟩
    · intro row' hrow'
      obtain ⟨row, text, hrow, hread, -⟩ := exists_openingRow options style h
      cases hrow.symm.trans hrow'
      exact ⟨hread.isBlank_eq, fun _ _ _ _ => trivial⟩
    · exact ⟨(isReadAs_closingRow options style block).isBlank_eq, fun _ _ _ _ => trivial⟩

theorem namesListApart_of_read {workbook : Workbook} {reading : Reading}
    (hnodes : ∀ located ∈ survey.nodes, located.IsWritable table)
    (hrows : Survey.nodesRows style table [] survey.children = .ok workbook.survey)
    (hread : workbook.read options = .ok reading)
    (hchildren : Node.erasedAll survey.children = Node.erasedAll reading.survey.children) :
    ∀ located ∈ survey.nodes, ∀ q ∈ located.node.question?, q.NamesListApart := by
  have hshows := Survey.forall₂_nodesRows survey.children
    (fun located hlocated => relatesRows_of_isWritable options (hnodes located hlocated)) hrows
  obtain ⟨parsed, hparsed, hrowsAll⟩ := exists_rowsAll_of_read hread
  -- No written row is blank, so the rows that are numbered are all of them.
  have hblank : ∀ row ∈ workbook.survey, Row.isBlank row = false := by
    intro row hrow
    obtain ⟨-, -, hblank, -⟩ := exists_mem_of_forall₂ hshows.flip row hrow
    exact hblank
  have hparsed' : workbook.survey.Forall₂
      (fun written row => ∃ line, SurveyRow.parse options line written = .ok row) parsed := by
    rw [← map_snd_numbered hblank]
    exact List.forall₂_map_left_iff.2 (hparsed.imp fun line row h => ⟨line.1, h⟩)
  have htypes : (Node.rowsAll survey.children).map SurveyRow.type = parsed.map SurveyRow.type := by
    rw [← Node.map_type_rowsAll_erasedAll, hchildren, Node.map_type_rowsAll_erasedAll, hrowsAll,
      List.map_map]
    apply List.map_congr_left
    intro row hrow
    exact SurveyRow.type_recorded row
  have htypes' : (Node.rowsAll survey.children).Forall₂ (fun row row' => row.type = row'.type)
      parsed := by
    rw [← List.forall₂_eq_eq_eq] at htypes
    exact List.forall₂_map_right_iff.1 (List.forall₂_map_left_iff.1 htypes)
  have hapart : (Node.rowsAll survey.children).Forall₂
      (fun row row' => row.type.NamesListApart) parsed := by
    refine htypes'.mp ?_ (forall₂_comp hshows hparsed')
    rintro row row' htype ⟨written, ⟨-, hshows⟩, line, hparse⟩
    exact hshows line row' hparse htype
  rintro ⟨own, node⟩ hlocated q hq
  cases Node.question?_eq_some_iff.1 hq
  obtain ⟨-, -, hlist⟩ := exists_mem_of_forall₂ hapart _ (Node.rowOf_mem_rowsAll _ hlocated)
  exact hlist

end Workbook

end Questionnaire
