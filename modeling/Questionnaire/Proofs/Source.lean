import Questionnaire.Proofs.Sheet.RoundTrip
import Questionnaire.Proofs.XForm.Stability

/-!
This module contains what holds of every reading, be it of a workbook or of a form: the names that are
declared while reading are the names of the survey, and the checks of the finished survey never fail.
-/

namespace Questionnaire

inductive Source where
  | workbook (sheets : Workbook)
  | form (tree : Element)
deriving Inhabited

/--
Whether the names in a survey are those in `table`, and its lists stand under their own names and
serve all its select questions. A question that names no list has the list of the empty name.
-/
structure Survey.IsLinked (survey : Survey) (table : SymbolTable) : Prop where
  symbols_eq : survey.symbols = .ok table
  rootName_eq : survey.rootName = table.root
  keys : ∀ entry ∈ survey.lists.entries, entry.1 = entry.2.name
  served : ∀ located ∈ survey.nodes, ∀ q, located.node = .question q → q.type.isSelect = true →
    ∃ list, survey.lists.get? (q.list.getD "") = some list ∧ list.choices ≠ []

theorem Drafting.IsSound.isLinked {drafting : Drafting} {rules : DraftRules}
    {p : String → Choice → Prop} {compiler : Compiler} {survey : Survey}
    (h : drafting.IsSound rules p) (hassemble : drafting.assemble compiler = .ok survey) :
    survey.IsLinked drafting.symbols := by
  have hcompiled := h.isCompiledFrom hassemble
  obtain ⟨children, -, rfl⟩ := h.survey_eq hassemble
  refine ⟨hcompiled.symbols_eq, rfl, h.lists.keys, ?_⟩
  intro located hlocated q hq hselect
  exact ChoiceLists.requireChoices_eq_ok_iff.1 (hcompiled.offers located hlocated q hq hselect)

namespace Source

def read : Source → Options → Except Failure Reading
  | workbook sheets, options => sheets.read options
  | form tree, options => XForm.read tree options

def drafting : Source → Options → Except Failure Drafting
  | workbook sheets, options => sheets.drafting options
  | form tree, _ => XForm.drafting tree

def compiler : Source → SymbolTable → Compiler
  | workbook _, table => Expression.compile table
  | form _, table => Expression.compileTree table

variable {source : Source} {options : Options} {drafting : Drafting} {reading : Reading}

theorem read_eq_ok (h : source.read options = .ok reading) :
    ∃ drafting, source.drafting options = .ok drafting ∧
      drafting.finish (source.compiler drafting.symbols) options = .ok reading := by
  cases source with
  | workbook sheets => exact Workbook.read_eq_ok h
  | form tree => exact XForm.read_eq_ok h

theorem exists_isSound (h : source.drafting options = .ok drafting) :
    ∃ rules p, drafting.IsSound rules p := by
  cases source with
  | workbook sheets => exact ⟨_, _, (Workbook.isSound_drafting h).1⟩
  | form tree => exact ⟨_, _, (XForm.isSound_drafting h).1⟩

theorem read_isLinked (source : Source) (options : Options) :
    (∀ reading, source.read options = .ok reading →
      ∃ drafting, source.drafting options = .ok drafting ∧
        drafting.finish (source.compiler drafting.symbols) options = .ok reading ∧
        reading.survey.IsLinked drafting.symbols) ∧
    ∀ drafting survey, source.drafting options = .ok drafting →
      drafting.assemble (source.compiler drafting.symbols) = .ok survey →
      survey.validate = .ok survey := by
  constructor
  · intro reading hread
    obtain ⟨drafting, hdrafting, hfinish⟩ := read_eq_ok hread
    obtain ⟨rules, p, hsound⟩ := exists_isSound hdrafting
    exact ⟨drafting, hdrafting, hfinish, hsound.isLinked (Drafting.finish_eq_ok hfinish)⟩
  · intro drafting survey hdrafting hassemble
    obtain ⟨rules, p, hsound⟩ := exists_isSound hdrafting
    exact hsound.validate_eq hassemble

theorem read_isLinked_samples : ∀ source ∈ [workbook Workbook.household, form XForm.clinic],
    ∃ reading drafting, source.read {} = .ok reading ∧ source.drafting {} = .ok drafting ∧
      reading.survey.IsLinked drafting.symbols ∧ reading.survey.validate = .ok reading.survey := by
  have hall : ∀ source ∈ [workbook Workbook.household, form XForm.clinic],
      ((source.read {}).toOption.any fun _ => true) = true := by
    decide +kernel
  intro source hsource
  obtain ⟨reading, hread, -⟩ := exists_eq_ok_of_any (hall source hsource)
  obtain ⟨hlinked, hvalid⟩ := read_isLinked source {}
  obtain ⟨drafting, hdrafting, hfinish, hlinked⟩ := hlinked reading hread
  exact ⟨reading, drafting, hread, hdrafting, hlinked,
    hvalid drafting reading.survey hdrafting (Drafting.finish_eq_ok hfinish)⟩

end Source

def Survey.IsRead (survey : Survey) : Prop :=
  ∃ (source : Source) (options : Options) (reading : Reading),
    source.read options = .ok reading ∧ reading.survey = survey

theorem Survey.IsRead.isLinked {survey : Survey} (h : survey.IsRead) :
    ∃ table, survey.IsLinked table := by
  obtain ⟨source, options, reading, hread, rfl⟩ := h
  obtain ⟨drafting, hdrafting, hfinish⟩ := Source.read_eq_ok hread
  obtain ⟨rules, p, hsound⟩ := Source.exists_isSound hdrafting
  exact ⟨drafting.symbols, hsound.isLinked (Drafting.finish_eq_ok hfinish)⟩

end Questionnaire
