import Questionnaire.Proofs.Expression.Climbing
import Questionnaire.Proofs.Sheet.Fitting
import Questionnaire.Proofs.XForm.Stability

/-!
This module contains the writing of forms as workbooks: every survey that a form is read as can be
written, and it comes back exactly if a workbook can hold it.
-/

namespace Questionnaire

namespace Survey

variable {survey : Survey} {table : SymbolTable} {style : MarkerStyle}

theorem toWorkbook_eq_ok {rows : List Row} (hsymbols : survey.symbols = .ok table)
    (hrows : nodesRows style table [] survey.children = .ok rows) :
    survey.toWorkbook style = .ok
      { survey := rows
        choices := survey.usedLists.flatMap fun list => list.choices.map (choiceRow list.name)
        settings := some survey.settingsRow } := by
  unfold toWorkbook
  rw [hsymbols, ok_bind, hrows, ok_bind]

end Survey

namespace XForm

variable {survey : Survey} {table : SymbolTable}

theorem IsFound.isFlattened (h : IsFound survey table) :
    ∀ located ∈ survey.nodes, located.IsFlattened table := by
  intro located hlocated expression hexpression
  obtain ⟨text, htext⟩ := h.compiled located hlocated expression hexpression
  exact ⟨_, Expression.flatten_of_compileTree htext⟩

theorem IsFound.isWritable_of_fitsRow (h : IsFound survey table)
    (hfits : ∀ located ∈ survey.nodes, located.node.FitsRow) :
    ∀ located ∈ survey.nodes, located.IsWritable table := by
  have hdeclared := Survey.declared_of_symbols h.symbols_eq
    (Survey.isNamed_of_isName fun located hlocated =>
      Node.isName_of_fitsRow (hfits located hlocated))
  intro located hlocated
  have hspelled : ∀ expression ∈ located.node.expressions,
      flatSpelling table located.path expression expression.source := by
    intro expression hexpression
    obtain ⟨text, htext⟩ := h.compiled located hlocated expression hexpression
    obtain ⟨hcompile, havoids⟩ := Expression.compile_of_compileTree hdeclared htext
    have hcanonical :=
      Node.isTidy_canonical_of_fitsRow (hfits located hlocated) expression hexpression
    obtain ⟨flat, hflat, htidy, -⟩ :=
      Expression.flatten_isTidy hdeclared hcompile havoids hcanonical
    have hsource := Expression.flatten_of_compileTree htext
    cases hflat.symm.trans hsource
    exact ⟨hsource, htidy, hcompile⟩
  refine ⟨?_, fun expression hexpression => ⟨_, hspelled expression hexpression⟩⟩
  exact Node.isAuthored_of_fitsRow (hfits located hlocated) (h.nodes located hlocated)
    fun expression hexpression => (hspelled expression hexpression).2.1

theorem IsFound.isWritable (h : IsFound survey table) (hfits : survey.FitsWorkbook) :
    survey.IsWritable table where
  symbols_eq := h.symbols_eq
  header_eq := h.header_eq
  rootName := hfits.rootName
  settings := hfits.settings
  nodes := h.isWritable_of_fitsRow hfits.nodes
  keys := h.lists.keys
  list_mem := Survey.list_mem_namedLists_of_ne_none fun located hlocated q hq =>
    hfits.named located hlocated q (Node.question?_eq_some_iff.2 hq)
  lists := hfits.lists
  offers := h.offers

theorem IsFound.fitsWorkbook (h : IsFound survey table) {style : MarkerStyle} {workbook : Workbook}
    (hrows : Survey.nodesRows style table [] survey.children = .ok workbook.survey)
    {reading : Reading} (hread : workbook.read {} = .ok reading)
    (hsimilar : survey.isSimilar reading.survey = true) : survey.FitsWorkbook := by
  obtain ⟨table', hauthored⟩ := Workbook.isAuthored_read (by decide) hread
  obtain ⟨hsettings, hheader, hchildren, hlists⟩ := Survey.isSimilar_iff.1 hsimilar
  have hname : survey.rootName = reading.survey.rootName := by
    have hname := congrArg Header.name hheader
    exact hname
  have hfits := Survey.fitsRow_of_erasedAll h.symbols_eq hrows hauthored hname hchildren
  exact
    { rootName := by
        rw [hname]
        exact hauthored.rootName
      settings := by
        rw [hsettings]
        exact hauthored.settings
      nodes := hfits
      named := Survey.list_ne_none_of_erasedAll hauthored hchildren
      apart := Workbook.namesListApart_of_read (h.isWritable_of_fitsRow hfits) hrows hread hchildren
      lists := Survey.isAuthored_usedLists_of_agrees h.lists.keys hauthored hlists }

theorem toWorkbook_restores_iff {tree : Element} {options : Options} {reading : Reading}
    (hread : read tree options = .ok reading) (style : MarkerStyle) :
    ∃ written, reading.survey.toWorkbook style = .ok written ∧
      ((∃ reading', written.read {} = .ok reading' ∧
          reading.survey.isSimilar reading'.survey = true) ↔
        reading.survey.FitsWorkbook) := by
  obtain ⟨table, hfound⟩ := isFound_read hread
  obtain ⟨rows, hrows⟩ := (Survey.exists_nodesRows_iff [] reading.survey.children).2
    hfound.isFlattened
  have hwritten := Survey.toWorkbook_eq_ok hfound.symbols_eq hrows
  refine ⟨_, hwritten, ?_, ?_⟩
  · rintro ⟨reading', hreading', hsimilar⟩
    exact hfound.fitsWorkbook hrows hreading' hsimilar
  · intro hfits
    obtain ⟨written, hwritten', reading', hreading', hrestores⟩ :=
      Workbook.exists_read_toWorkbook (hfound.isWritable hfits) hfits.apart style {}
    cases hwritten.symm.trans hwritten'
    exact ⟨reading', hreading', hrestores.isSimilar⟩

theorem toWorkbook_restores_clinic :
    ∃ reading, read clinic {} = .ok reading ∧
      ∃ written, reading.survey.toWorkbook .spaced = .ok written ∧
        ∃ reading', written.read {} = .ok reading' ∧
          reading.survey.isSimilar reading'.survey = true := by
  have hall : (read clinic {}).toOption.any fun reading => reading.survey.FitsWorkbook := by
    decide +kernel
  obtain ⟨reading, hread, hfits⟩ := exists_eq_ok_of_any hall
  obtain ⟨written, hwritten, hrestores⟩ := toWorkbook_restores_iff hread .spaced
  exact ⟨reading, hread, written, hwritten, hrestores.2 (of_decide_eq_true hfits)⟩

theorem toWorkbook_refuses_appearance :
    ∃ reading, read preloaded {} = .ok reading ∧
      ∃ written, reading.survey.toWorkbook .spaced = .ok written ∧
        ∀ reading', written.read {} ≠ .ok reading' := by
  have hall : (read preloaded {}).toOption.any fun reading =>
      (reading.survey.toWorkbook .spaced).toOption.any fun written =>
        (written.read {}).toOption.isNone := by
    decide +kernel
  obtain ⟨reading, hread, hall⟩ := exists_eq_ok_of_any hall
  obtain ⟨written, hwritten, hnone⟩ := exists_eq_ok_of_any hall
  refine ⟨reading, hread, written, hwritten, ?_⟩
  intro reading' hreading'
  rw [hreading'] at hnone
  cases hnone

end XForm

end Questionnaire
