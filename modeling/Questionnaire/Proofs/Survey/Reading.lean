import Questionnaire.Proofs.Survey.Drafting

/-!
This module contains what every reading of a survey keeps, whatever it is read from: what is known of
single choices is known of all lists that they gather in, and what is known of single drafts is known
of all nodes that they are compiled to.
-/

namespace Questionnaire

theorem foldlM_invariant {α β ε : Type} {step : β → α → Except ε β} {p : β → Prop}
    (hstep : ∀ state item state', p state → step state item = .ok state' → p state')
    {items : List α} {start result : β} (hstart : p start)
    (h : items.foldlM step start = .ok result) : p result :=
  foldlM_invariant_of_mem (fun state item _ state' => hstep state item state') hstart h

structure ChoiceLists.Gather (p : String → Choice → Prop) (lists : ChoiceLists) : Prop where
  keys : ∀ entry ∈ lists.entries, entry.1 = entry.2.name
  choices_ne : ∀ entry ∈ lists.entries, entry.2.choices ≠ []
  choices : ∀ entry ∈ lists.entries, ∀ choice ∈ entry.2.choices, p entry.1 choice

namespace ChoiceGroups

variable {p : String → Choice → Prop}

theorem gather_empty : ({} : ChoiceGroups).lists.Gather p where
  keys := by simp [OrderedMap.empty]
  choices_ne := by simp [OrderedMap.empty]
  choices := by simp [OrderedMap.empty]

theorem gather_add {groups : ChoiceGroups} {name : String} {choice : Choice}
    (hgroups : groups.lists.Gather p) (hchoice : p name choice) :
    (groups.add name choice).lists.Gather p := by
  -- The list may be new, so nothing is known of the number of its choices.
  have hlist : ∀ list, list = (groups.lists.get? name).getD ⟨name, []⟩ →
      list.name = name ∧ ∀ choice' ∈ list.choices, p name choice' := by
    rintro list rfl
    cases hget : groups.lists.get? name with
    | none => exact ⟨rfl, by simp⟩
    | some list =>
      have hmem := OrderedMap.get?_eq_some_iff.1 hget
      exact ⟨(hgroups.keys _ hmem).symm, hgroups.choices _ hmem⟩
  obtain ⟨hname, hchoices⟩ := hlist _ rfl
  unfold add
  dsimp only
  generalize (groups.lists.get? name).getD ⟨name, []⟩ = list at hname hchoices ⊢
  constructor
  · intro entry hentry
    rcases OrderedMap.mem_entries_insert hentry with rfl | hentry
    · exact hname.symm
    · exact hgroups.keys entry hentry
  · intro entry hentry
    rcases OrderedMap.mem_entries_insert hentry with rfl | hentry
    · simp
    · exact hgroups.choices_ne entry hentry
  · intro entry hentry
    rcases OrderedMap.mem_entries_insert hentry with rfl | hentry
    · intro choice' hchoice'
      rcases List.mem_append.1 hchoice' with hchoice' | hchoice'
      · exact hchoices choice' hchoice'
      · cases List.mem_singleton.1 hchoice'
        exact hchoice
    · exact hgroups.choices entry hentry

end ChoiceGroups

structure DraftRules where
  question : Question → ExpressionTexts → Prop
  header : Header → Option String → Prop

namespace Draft

mutual

def symbols : Draft → List Symbol
  | question path _ _ _ => [⟨path, .question⟩]
  | block kind path _ _ _ drafts => ⟨path, .block kind⟩ :: symbolsAll drafts

def symbolsAll : List Draft → List Symbol
  | [] => []
  | draft :: drafts => symbols draft ++ symbolsAll drafts

end

mutual

def Follows (rules : DraftRules) (path : NodePath) : Draft → Prop
  | question own _ asked texts =>
    own = NodePath.child path asked.name ∧ rules.question asked texts
  | block _ own _ header text drafts =>
    own = NodePath.child path header.name ∧ rules.header header text ∧ AllFollow rules own drafts

def AllFollow (rules : DraftRules) (path : NodePath) : List Draft → Prop
  | [] => True
  | draft :: drafts => Follows rules path draft ∧ AllFollow rules path drafts

end

theorem symbolsAll_append (drafts drafts' : List Draft) :
    symbolsAll (drafts ++ drafts') = symbolsAll drafts ++ symbolsAll drafts' := by
  induction drafts with
  | nil => rfl
  | cons draft drafts ih => rw [List.cons_append, symbolsAll, symbolsAll, ih, List.append_assoc]

theorem allFollow_append {rules : DraftRules} {path : NodePath} {drafts drafts' : List Draft} :
    AllFollow rules path (drafts ++ drafts') ↔
      AllFollow rules path drafts ∧ AllFollow rules path drafts' := by
  induction drafts with
  | nil => simp [AllFollow]
  | cons draft drafts ih => rw [List.cons_append, AllFollow, AllFollow, ih, and_assoc]

theorem symbolsAll_singleton (draft : Draft) : symbolsAll [draft] = symbols draft := by
  rw [symbolsAll, symbolsAll, List.append_nil]

end Draft

inductive LocatedNode.IsCompiledFrom (rules : DraftRules) (compiler : Compiler) :
    LocatedNode → Prop
  | question {path : NodePath} {asked : Question} {texts : ExpressionTexts}
      {relevant constraint calculation : Option Expression} (hasked : rules.question asked texts)
      (hrelevant : Draft.compile? compiler path texts.relevant = .ok relevant)
      (hconstraint : Draft.compile? compiler path texts.constraint = .ok constraint)
      (hcalculation : Draft.compile? compiler path texts.calculation = .ok calculation) :
      IsCompiledFrom rules compiler
        ⟨path, .question { asked with relevant, constraint, calculation }⟩
  | block {path : NodePath} {kind : BlockKind} {header : Header} {text : Option String}
      {relevant : Option Expression} {children : List Node} (hheader : rules.header header text)
      (hrelevant : Draft.compile? compiler path text = .ok relevant) :
      IsCompiledFrom rules compiler ⟨path, .container (.block kind) { header with relevant } children⟩

namespace Draft

variable {rules : DraftRules} {compiler : Compiler} {lists : ChoiceLists}

theorem compile?_eq_ok {path : NodePath} {text : Option String} {expression : Option Expression}
    (h : compile? compiler path text = .ok expression) :
    Option.Rel (fun text expression => compiler text path = .ok expression) text expression := by
  cases text with
  | none =>
    cases h
    exact .none
  | some text =>
    obtain ⟨compiled, hcompiled, h⟩ := bind_eq_ok_iff.1 h
    cases h
    exact .some hcompiled

theorem eq_none_iff_of_compile? {path : NodePath} {text : Option String}
    {expression : Option Expression} (h : compile? compiler path text = .ok expression) :
    expression = none ↔ text = none := by
  cases compile?_eq_ok h <;> simp

theorem exists_text_of_isCompiledFrom {located : LocatedNode}
    (h : located.IsCompiledFrom rules compiler) :
    ∀ expression ∈ located.node.expressions,
      ∃ text, compiler text located.path = .ok expression := by
  have hfield {path : NodePath} {text : Option String} {field : Option Expression}
      (hcompile : compile? compiler path text = .ok field) :
      ∀ expression ∈ field, ∃ text, compiler text path = .ok expression := by
    intro expression hexpression
    cases compile?_eq_ok hcompile with
    | none => cases hexpression
    | some hcompiled =>
      cases hexpression
      exact ⟨_, hcompiled⟩
  cases h with
  | question _ hrelevant hconstraint hcalculation =>
    rw [Node.forall_expressions_question]
    exact ⟨hfield hrelevant, hfield hconstraint, hfield hcalculation⟩
  | block _ hrelevant =>
    rw [Node.forall_expressions_container]
    exact hfield hrelevant

theorem exists_of_compileQuestion {path : NodePath} {asked question : Question}
    {texts : ExpressionTexts} (h : compileQuestion compiler lists path asked texts = .ok question) :
    ∃ relevant, compile? compiler path texts.relevant = .ok relevant ∧
    ∃ constraint, compile? compiler path texts.constraint = .ok constraint ∧
    ∃ calculation, compile? compiler path texts.calculation = .ok calculation ∧
      question = { asked with relevant, constraint, calculation } := by
  have hfields : ∃ relevant, compile? compiler path texts.relevant = .ok relevant ∧
      ∃ constraint, compile? compiler path texts.constraint = .ok constraint ∧
      ∃ calculation, compile? compiler path texts.calculation = .ok calculation ∧
        Except.ok { asked with relevant, constraint, calculation } =
          (Except.ok question : Except Failure Question) := by
    unfold compileQuestion at h
    split at h
    · obtain ⟨_, -, h⟩ := bind_eq_ok_iff.1 h
      simpa only [bind_eq_ok_iff] using h
    · simpa only [bind_eq_ok_iff] using h
  obtain ⟨relevant, hrelevant, constraint, hconstraint, calculation, hcalculation, heq⟩ := hfields
  exact ⟨relevant, hrelevant, constraint, hconstraint, calculation, hcalculation,
    (Except.ok.inj heq).symm⟩

theorem compileQuestion_eq_ok {path : NodePath} {asked question : Question}
    {texts : ExpressionTexts} (hasked : rules.question asked texts)
    (h : compileQuestion compiler lists path asked texts = .ok question) :
    question.name = asked.name ∧
      LocatedNode.IsCompiledFrom rules compiler ⟨path, .question question⟩ := by
  obtain ⟨relevant, hrelevant, constraint, hconstraint, calculation, hcalculation, rfl⟩ :=
    exists_of_compileQuestion h
  exact ⟨rfl, .question hasked hrelevant hconstraint hcalculation⟩

mutual

theorem compile_eq_ok {path : NodePath} (draft : Draft) {node : Node}
    (hdraft : draft.Follows rules path) (h : compile compiler lists draft = .ok node) :
    (node.located path).map LocatedNode.symbol = draft.symbols ∧
      ∀ inner ∈ node.located path, inner.IsCompiledFrom rules compiler := by
  cases draft with
  | question own place asked texts =>
    obtain ⟨rfl, hasked⟩ := hdraft
    rw [compile] at h
    obtain ⟨compiled, hcompiled, h⟩ := bind_eq_ok_iff.1 h
    cases h
    obtain ⟨hname, hquestion⟩ := compileQuestion_eq_ok hasked (orPlacing_eq_ok_iff.1 hcompiled)
    rw [Node.located, hname]
    refine ⟨rfl, ?_⟩
    intro inner hinner
    cases List.mem_singleton.1 hinner
    exact hquestion
  | block kind own place header text drafts =>
    obtain ⟨rfl, hheader, hdrafts⟩ := hdraft
    rw [compile] at h
    obtain ⟨relevant, hrelevant, h⟩ := bind_eq_ok_iff.1 h
    obtain ⟨children, hchildren, h⟩ := bind_eq_ok_iff.1 h
    cases h
    -- The names of a block are those of its children behind its own, in the draft as in the node.
    obtain ⟨hsymbols, hnodes⟩ := compileAll_eq_ok drafts hdrafts hchildren
    rw [Node.located, symbols]
    dsimp only
    refine ⟨by rw [List.map_cons, hsymbols]; rfl, ?_⟩
    intro inner hinner
    rcases List.mem_cons.1 hinner with rfl | hinner
    · exact .block hheader (orPlacing_eq_ok_iff.1 hrelevant)
    · exact hnodes inner hinner

theorem compileAll_eq_ok {path : NodePath} (drafts : List Draft) {nodes : List Node}
    (hdrafts : AllFollow rules path drafts) (h : compileAll compiler lists drafts = .ok nodes) :
    (Node.locatedAll path nodes).map LocatedNode.symbol = symbolsAll drafts ∧
      ∀ inner ∈ Node.locatedAll path nodes, inner.IsCompiledFrom rules compiler := by
  cases drafts with
  | nil =>
    cases h
    refine ⟨rfl, ?_⟩
    intro inner hinner
    cases hinner
  | cons draft drafts =>
    obtain ⟨hdraft, hdrafts⟩ := hdrafts
    rw [compileAll] at h
    obtain ⟨node, hnode, h⟩ := bind_eq_ok_iff.1 h
    obtain ⟨nodes, hnodes, h⟩ := bind_eq_ok_iff.1 h
    cases h
    obtain ⟨hsymbols, hinner⟩ := compile_eq_ok draft hdraft hnode
    obtain ⟨hsymbols', hinner'⟩ := compileAll_eq_ok drafts hdrafts hnodes
    refine ⟨?_, ?_⟩
    · rw [Node.locatedAll, List.map_append, hsymbols, hsymbols', symbolsAll]
    · intro inner h
      rcases List.mem_append.1 h with h | h
      · exact hinner inner h
      · exact hinner' inner h

end

end Draft

structure Survey.IsCompiledFrom (survey : Survey) (rules : DraftRules) (table : SymbolTable)
    (compiler : Compiler) : Prop where
  symbols_eq : survey.symbols = .ok table
  offers : survey.lists.Offers survey.nodes
  nodes : ∀ located ∈ survey.nodes, located.IsCompiledFrom rules compiler

theorem SurveyDraft.compileAll_of_compile {compiler : Compiler} {lists : ChoiceLists}
    {draft : SurveyDraft} {settings : Settings} {warnings : List Warning} {options : Options}
    {reading : Reading}
    (h : draft.compile compiler lists settings warnings options = .ok reading) :
    Draft.compileAll compiler lists draft.children = .ok reading.survey.children := by
  unfold SurveyDraft.compile at h
  obtain ⟨relevant, -, h⟩ := bind_eq_ok_iff.1 h
  obtain ⟨children, hcompile, h⟩ := bind_eq_ok_iff.1 h
  obtain ⟨survey, hvalidate, h⟩ := bind_eq_ok_iff.1 h
  cases h
  obtain ⟨rfl, -⟩ := Survey.validate_eq_ok_iff.1 hvalidate
  exact hcompile

end Questionnaire
