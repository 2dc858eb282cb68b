import Questionnaire.Proofs.Survey.Reading

/-!
This module contains the last stage of every reading. What has been drawn up when all names are known
is assembled to a survey, and the survey then passes its own checks.
-/

namespace Questionnaire

theorem ChoiceLists.requireChoices_eq_ok_iff {lists : ChoiceLists} {question : String}
    {name? : Option String} :
    lists.requireChoices question name? = .ok () ↔
      ∃ list, lists.get? (name?.getD "") = some list ∧ list.choices ≠ [] := by
  unfold requireChoices
  dsimp only
  constructor
  · intro h
    split at h
    · next name first rest hget => exact ⟨_, hget, List.cons_ne_nil first rest⟩
    · cases h
  · rintro ⟨⟨name, choices⟩, hget, hne⟩
    cases choices with
    | nil => exact (hne rfl).elim
    | cons first rest => rw [hget]

namespace Draft

variable {compiler : Compiler} {lists : ChoiceLists}

theorem requireChoices_of_compileQuestion {path : NodePath} {asked question : Question}
    {texts : ExpressionTexts} (h : compileQuestion compiler lists path asked texts = .ok question)
    (hselect : question.type.isSelect = true) :
    lists.requireChoices question.name question.list = .ok () := by
  obtain ⟨relevant, -, constraint, -, calculation, -, rfl⟩ := exists_of_compileQuestion h
  unfold compileQuestion at h
  rw [if_pos hselect] at h
  obtain ⟨⟨⟩, hchoices, -⟩ := bind_eq_ok_iff.1 h
  exact hchoices

mutual

theorem offers_of_compile {path : NodePath} (draft : Draft) {node : Node}
    (h : compile compiler lists draft = .ok node) : lists.Offers (node.located path) := by
  cases draft with
  | question own place asked texts =>
    rw [compile] at h
    obtain ⟨compiled, hcompiled, h⟩ := bind_eq_ok_iff.1 h
    cases h
    intro located hlocated q hq hselect
    cases List.mem_singleton.1 hlocated
    cases hq
    exact requireChoices_of_compileQuestion (orPlacing_eq_ok_iff.1 hcompiled) hselect
  | block kind own place header text drafts =>
    rw [compile] at h
    obtain ⟨relevant, -, h⟩ := bind_eq_ok_iff.1 h
    obtain ⟨children, hchildren, h⟩ := bind_eq_ok_iff.1 h
    cases h
    intro located hlocated q hq hselect
    rcases List.mem_cons.1 hlocated with rfl | hlocated
    · cases hq
    · exact offers_of_compileAll drafts hchildren located hlocated q hq hselect

theorem offers_of_compileAll {path : NodePath} (drafts : List Draft) {nodes : List Node}
    (h : compileAll compiler lists drafts = .ok nodes) :
    lists.Offers (Node.locatedAll path nodes) := by
  cases drafts with
  | nil =>
    cases h
    intro located hlocated
    cases hlocated
  | cons draft drafts =>
    rw [compileAll] at h
    obtain ⟨node, hnode, h⟩ := bind_eq_ok_iff.1 h
    obtain ⟨nodes, hnodes, h⟩ := bind_eq_ok_iff.1 h
    cases h
    intro located hlocated
    rcases List.mem_append.1 hlocated with hlocated | hlocated
    · exact offers_of_compile draft hnode located hlocated
    · exact offers_of_compileAll drafts hnodes located hlocated

end

end Draft

/--
What a reader has drawn up when all names are known: the draft with its expressions still plain text,
the names that they are compiled with, and what the survey takes over as it is.
-/
structure Drafting where
  draft : SurveyDraft
  symbols : SymbolTable
  lists : ChoiceLists
  settings : Settings
  warnings : List Warning
deriving Inhabited

namespace Drafting

def assemble (drafting : Drafting) (compiler : Compiler) : Except Failure Survey := do
  let relevant ←
    orPlacing drafting.draft.place (Draft.compile? compiler [] drafting.draft.relevant)
  let children ← Draft.compileAll compiler drafting.lists drafting.draft.children
  .ok ⟨{ drafting.draft.header with relevant }, children, drafting.lists, drafting.settings⟩

def finish (drafting : Drafting) (compiler : Compiler) (options : Options) :
    Except Failure Reading :=
  drafting.draft.compile compiler drafting.lists drafting.settings drafting.warnings options

structure IsSound (drafting : Drafting) (rules : DraftRules) (p : String → Choice → Prop) :
    Prop where
  header_eq : drafting.draft.header = { name := drafting.symbols.root }
  relevant_eq : drafting.draft.relevant = none
  follows : Draft.AllFollow rules [] drafting.draft.children
  declares : (SymbolTable.empty drafting.symbols.root).DeclaresAll
    (Draft.symbolsAll drafting.draft.children) drafting.symbols
  lists : drafting.lists.Gather p

variable {drafting : Drafting} {compiler : Compiler} {options : Options} {reading : Reading}

theorem finish_eq_ok (h : drafting.finish compiler options = .ok reading) :
    drafting.assemble compiler = .ok reading.survey := by
  unfold finish SurveyDraft.compile at h
  obtain ⟨relevant, hrelevant, h⟩ := bind_eq_ok_iff.1 h
  obtain ⟨children, hchildren, h⟩ := bind_eq_ok_iff.1 h
  obtain ⟨survey, hvalid, h⟩ := bind_eq_ok_iff.1 h
  cases h
  obtain ⟨rfl, -⟩ := Survey.validate_eq_ok_iff.1 hvalid
  unfold assemble
  rw [hrelevant, hchildren]
  rfl

variable {rules : DraftRules} {p : String → Choice → Prop} {survey : Survey}

namespace IsSound

theorem survey_eq (h : drafting.IsSound rules p) (hassemble : drafting.assemble compiler = .ok survey) :
    ∃ children, Draft.compileAll compiler drafting.lists drafting.draft.children = .ok children ∧
      survey = ⟨{ name := drafting.symbols.root }, children, drafting.lists, drafting.settings⟩ := by
  unfold assemble at hassemble
  rw [h.header_eq, h.relevant_eq] at hassemble
  obtain ⟨relevant, hrelevant, hassemble⟩ := bind_eq_ok_iff.1 hassemble
  obtain ⟨children, hchildren, hassemble⟩ := bind_eq_ok_iff.1 hassemble
  cases hrelevant
  cases hassemble
  exact ⟨children, hchildren, rfl⟩

theorem isCompiledFrom (h : drafting.IsSound rules p)
    (hassemble : drafting.assemble compiler = .ok survey) :
    survey.IsCompiledFrom rules drafting.symbols compiler := by
  obtain ⟨children, hchildren, rfl⟩ := h.survey_eq hassemble
  obtain ⟨hsymbols, hnodes⟩ := Draft.compileAll_eq_ok _ h.follows hchildren
  refine ⟨?_, Draft.offers_of_compileAll _ hchildren, hnodes⟩
  unfold Survey.symbols
  rw [Survey.declareAll_eq_ok_iff]
  unfold Survey.nodes
  dsimp only
  rw [hsymbols]
  exact h.declares

theorem validate_eq (h : drafting.IsSound rules p)
    (hassemble : drafting.assemble compiler = .ok survey) : survey.validate = .ok survey := by
  have hcompiled := h.isCompiledFrom hassemble
  exact Survey.validate_eq_ok_iff.2 ⟨rfl, ⟨_, hcompiled.symbols_eq⟩, hcompiled.offers⟩

end IsSound

end Drafting

end Questionnaire
