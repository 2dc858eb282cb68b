import Questionnaire.Proofs.Sheet.Keeping

/-!
This module contains what the type cells of a written survey sheet are read as: the types of the rows
that the survey was read from, with the lists of its questions.
-/

namespace Questionnaire

namespace Workbook

variable {table : SymbolTable} {style : MarkerStyle}

def ShowsReadBack (row : SurveyRow) (written : Row) : Prop :=
  ∃ cell, Row.cell? written "type" = some cell ∧ TypeCell.parse cell = .ok row.type.readBack

theorem relatesRows_showsReadBack {located : LocatedNode} (h : located.IsWritable table) :
    located.RelatesRows style table ShowsReadBack := by
  obtain ⟨own, node⟩ := located
  cases node with
  | question q =>
    intro row' hrow'
    obtain ⟨row, texts, hrow, hread, -⟩ := exists_questionRow {} h
    cases hrow.symm.trans hrow'
    exact SurveyRow.exists_typeCell_of_parse (hread.parse_eq 0)
  | container kind header children =>
    obtain ⟨⟨block, rfl⟩, -⟩ := h.authored
    refine ⟨block, rfl, ?_, ?_⟩
    · intro row' hrow'
      obtain ⟨row, text, hrow, hread, -⟩ := exists_openingRow {} style h
      cases hrow.symm.trans hrow'
      exact SurveyRow.exists_typeCell_of_parse (hread.parse_eq 0)
    · exact SurveyRow.exists_typeCell_of_parse ((isReadAs_closingRow {} style block).parse_eq 0)

theorem read_parse_typeCells {workbook : Workbook} {reading : Reading}
    (hread : workbook.read {} = .ok reading) :
    (∀ located ∈ reading.survey.nodes, ∀ q ∈ located.node.question?,
      TypeCell.parse (Survey.typeCell q) = .ok (TypeCell.question q.type q.list).readBack ∧
      (TypeCell.parse (Survey.typeCell q) = .ok (.question q.type q.list) ↔
        ∀ list ∈ q.list, QuestionType.normalize list ≠ "from")) ∧
    ∀ style written, reading.survey.toWorkbook style = .ok written →
      (Node.rowsAll reading.survey.children).Forall₂ ShowsReadBack written.survey := by
  obtain ⟨table, hauthored⟩ := isAuthored_read (by decide) hread
  constructor
  · intro located hlocated q hq
    have hnode := (hauthored.nodes located hlocated).1
    rw [Node.question?_eq_some_iff.1 hq] at hnode
    have hparse := Survey.parse_typeCell (Question.IsAuthored.list hnode)
    refine ⟨hparse, ?_⟩
    rw [hparse, Except.ok.injEq]
    exact TypeCell.readBack_eq_iff
  · intro style written hwritten
    unfold Survey.toWorkbook at hwritten
    rw [hauthored.symbols_eq, ok_bind] at hwritten
    obtain ⟨rows, hrows, hwritten⟩ := bind_eq_ok_iff.1 hwritten
    cases hwritten
    have haccepted := isAccepted_of_isAuthored hauthored hrows
    exact Survey.forall₂_nodesRows reading.survey.children
      (fun located hlocated => relatesRows_showsReadBack (haccepted located hlocated).toIsWritable)
      hrows

theorem read_parse_typeCells_household :
    ∃ reading, household.read {} = .ok reading ∧
      (∀ located ∈ reading.survey.nodes, ∀ q ∈ located.node.question?,
        TypeCell.parse (Survey.typeCell q) = .ok (TypeCell.question q.type q.list).readBack ∧
        (TypeCell.parse (Survey.typeCell q) = .ok (.question q.type q.list) ↔
          ∀ list ∈ q.list, QuestionType.normalize list ≠ "from")) ∧
      ∀ style written, reading.survey.toWorkbook style = .ok written →
        (Node.rowsAll reading.survey.children).Forall₂ ShowsReadBack written.survey := by
  obtain ⟨reading, hread⟩ := exists_read_household
  exact ⟨reading, hread, read_parse_typeCells hread⟩

def origins : Workbook where
  survey := [.ofList [("type", "select_one from from"), ("name", "origin")]]
  choices := [.ofList [("list_name", "from"), ("name", "north"), ("label", "North")]]
  settings := none

theorem read_typeCell_forgets_from :
    ∃ reading, origins.read {} = .ok reading ∧
      ∃ located ∈ reading.survey.nodes, ∃ q ∈ located.node.question?,
        q.type = .selectOne ∧ q.list = some "from" ∧ Survey.typeCell q = "select_one from" ∧
        TypeCell.parse (Survey.typeCell q) = .ok (.question .selectOne none) := by
  have hall : (origins.read {}).toOption.any fun reading =>
      ∃ located ∈ reading.survey.nodes, ∃ q ∈ located.node.question?,
        q.type = .selectOne ∧ q.list = some "from" ∧ Survey.typeCell q = "select_one from" ∧
        TypeCell.parse (Survey.typeCell q) = .ok (.question .selectOne none) := by
    decide +kernel
  obtain ⟨reading, hread, hlost⟩ := exists_eq_ok_of_any hall
  exact ⟨reading, hread, of_decide_eq_true hlost⟩

end Workbook

end Questionnaire
