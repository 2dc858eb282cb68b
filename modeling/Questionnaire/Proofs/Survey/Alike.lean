import Questionnaire.Proofs.Survey.Assembly

/-!
This module contains the comparison of two readings whose drafts are alike. Drafts are alike if they
differ only in the places that failures point at and, where siblings may move, in the order of
siblings. Alike drafts are compiled to alike nodes.
-/

namespace Questionnaire

/--
Nodes that are equal but for the order of siblings, at every level. Siblings are in the same order
unless `moves` holds.
-/
inductive Node.AllAlike (moves : Prop) : List Node → List Node → Prop
  | nil : AllAlike moves [] []
  | question {q : Question} {nodes nodes' : List Node} (h : AllAlike moves nodes nodes') :
      AllAlike moves (.question q :: nodes) (.question q :: nodes')
  | container {kind : ContainerKind} {header : Header} {children children' nodes nodes' : List Node}
      (hchildren : AllAlike moves children children') (h : AllAlike moves nodes nodes') :
      AllAlike moves (.container kind header children :: nodes)
        (.container kind header children' :: nodes')
  | swap {node node' : Node} {nodes : List Node} (hmoves : moves) :
      AllAlike moves (node :: node' :: nodes) (node' :: node :: nodes)
  | trans {nodes nodes' nodes'' : List Node} (h : AllAlike moves nodes nodes')
      (h' : AllAlike moves nodes' nodes'') : AllAlike moves nodes nodes''

inductive Draft.AllAlike (moves : Prop) : List Draft → List Draft → Prop
  | nil : AllAlike moves [] []
  | question {path : NodePath} {place place' : Place} {asked : Question} {texts : ExpressionTexts}
      {drafts drafts' : List Draft} (h : AllAlike moves drafts drafts') :
      AllAlike moves (.question path place asked texts :: drafts)
        (.question path place' asked texts :: drafts')
  | block {kind : BlockKind} {path : NodePath} {place place' : Place} {header : Header}
      {text : Option String} {children children' drafts drafts' : List Draft}
      (hchildren : AllAlike moves children children') (h : AllAlike moves drafts drafts') :
      AllAlike moves (.block kind path place header text children :: drafts)
        (.block kind path place' header text children' :: drafts')
  | swap {draft draft' : Draft} {drafts : List Draft} (hmoves : moves) :
      AllAlike moves (draft :: draft' :: drafts) (draft' :: draft :: drafts)
  | trans {drafts drafts' drafts'' : List Draft} (h : AllAlike moves drafts drafts')
      (h' : AllAlike moves drafts' drafts'') : AllAlike moves drafts drafts''

namespace Node

theorem AllAlike.eq {nodes nodes' : List Node} (h : AllAlike False nodes nodes') :
    nodes = nodes' := by
  induction h with
  | nil => rfl
  | question h ih => rw [ih]
  | container hchildren h ihchildren ih => rw [ihchildren, ih]
  | swap hmoves => exact hmoves.elim
  | trans h h' ih ih' => exact ih.trans ih'

def alone : Node → Node
  | question q => question q
  | container kind header _ => container kind header []

theorem name_alone (node : Node) : node.alone.name = node.name := by
  cases node <;> rfl

end Node

def LocatedNode.alone (located : LocatedNode) : LocatedNode :=
  { located with node := located.node.alone }

theorem Node.AllAlike.perm_locatedAll {moves : Prop} {nodes nodes' : List Node}
    (h : AllAlike moves nodes nodes') (path : NodePath) :
    ((locatedAll path nodes).map LocatedNode.alone).Perm
      ((locatedAll path nodes').map LocatedNode.alone) := by
  induction h generalizing path with
  | nil => exact .refl _
  | question h ih => exact (ih path).cons _
  | container hchildren h ihchildren ih =>
    simp only [locatedAll, located, List.map_append, List.map_cons]
    exact ((ihchildren _).cons _).append (ih path)
  | swap hmoves =>
    simp only [locatedAll, List.map_append, ← List.append_assoc]
    exact List.perm_append_comm.append_right _
  | trans h h' ih ih' => exact (ih path).trans (ih' path)

structure Survey.Alike (moves : Prop) (a b : Survey) : Prop where
  header_eq : a.header = b.header
  settings_eq : a.settings = b.settings
  children : Node.AllAlike moves a.children b.children

theorem Survey.Alike.mem_namedLists {moves : Prop} {a b : Survey} (h : a.Alike moves b)
    (name : String) : name ∈ a.namedLists ↔ name ∈ b.namedLists := by
  have hperm := h.children.perm_locatedAll []
  have hnamed (survey : Survey) : survey.namedLists =
      (survey.nodes.map LocatedNode.alone).filterMap
        fun located => located.node.question?.bind Question.list := by
    unfold namedLists
    rw [List.filterMap_map]
    apply List.filterMap_congr
    intro located hlocated
    obtain ⟨path, node⟩ := located
    cases node <;> rfl
  rw [hnamed a, hnamed b]
  exact (hperm.filterMap _).mem_iff

theorem Survey.Alike.unusedLists_eq {moves : Prop} {a b : Survey} (h : a.Alike moves b)
    (hkeys : a.lists.keys = b.lists.keys) : a.unusedLists = b.unusedLists := by
  unfold unusedLists
  rw [hkeys]
  apply List.filter_congr
  intro name hname
  rw [Bool.eq_iff_iff]
  simp only [Bool.not_eq_true', List.contains_eq_mem, decide_eq_false_iff_not, h.mem_namedLists]

def ChoiceLists.CoveredBy (lists lists' : ChoiceLists) : Prop :=
  ∀ question list, lists.requireChoices question list = .ok () →
    lists'.requireChoices question list = .ok ()

namespace Draft

variable {moves : Prop}

theorem allAlike_self (moves : Prop) (drafts : List Draft) : AllAlike moves drafts drafts := by
  cases drafts with
  | nil => exact .nil
  | cons draft drafts =>
    have hdrafts := allAlike_self moves drafts
    cases draft with
    | question path place asked texts => exact .question hdrafts
    | block kind path place header text children =>
      exact .block (allAlike_self moves children) hdrafts

theorem AllAlike.cons (draft : Draft) {drafts drafts' : List Draft}
    (h : AllAlike moves drafts drafts') : AllAlike moves (draft :: drafts) (draft :: drafts') := by
  cases draft with
  | question path place asked texts => exact .question h
  | block kind path place header text children => exact .block (allAlike_self moves children) h

theorem AllAlike.append {front front' back back' : List Draft}
    (hfront : AllAlike moves front front') (hback : AllAlike moves back back') :
    AllAlike moves (front ++ back) (front' ++ back') := by
  induction hfront generalizing back back' with
  | nil => exact hback
  | question h ih => exact .question (ih hback)
  | block hchildren h ihchildren ih => exact .block hchildren (ih hback)
  | @swap draft draft' drafts hmoves =>
    have hdrafts : AllAlike moves (drafts ++ back) (drafts ++ back') := by
      induction drafts with
      | nil => exact hback
      | cons draft drafts ih => exact ih.cons draft
    exact (AllAlike.swap hmoves).trans ((hdrafts.cons draft).cons draft')
  | trans h h' ih ih' => exact (ih (allAlike_self moves back)).trans (ih' hback)

theorem allAlike_of_perm {drafts drafts' : List Draft} (hmoves : moves)
    (h : drafts.Perm drafts') : AllAlike moves drafts drafts' := by
  induction h with
  | nil => exact .nil
  | cons draft h ih => exact ih.cons draft
  | swap draft draft' drafts => exact .swap hmoves
  | trans h h' ih ih' => exact ih.trans ih'

variable {compiler : Compiler} {lists lists' : ChoiceLists}

theorem AllAlike.exists_compileAll {drafts drafts' : List Draft} {nodes : List Node}
    (h : AllAlike moves drafts drafts') (hcompile : compileAll compiler lists drafts = .ok nodes) :
    ∃ nodes', compileAll compiler lists drafts' = .ok nodes' ∧
      Node.AllAlike moves nodes nodes' := by
  induction h generalizing nodes with
  | nil =>
    cases hcompile
    exact ⟨[], rfl, .nil⟩
  | @question path place place' asked texts drafts drafts' h ih =>
    rw [compileAll, compile] at hcompile
    obtain ⟨node, hnode, hcompile⟩ := bind_eq_ok_iff.1 hcompile
    obtain ⟨rest, hrest, hcompile⟩ := bind_eq_ok_iff.1 hcompile
    obtain ⟨asked, hasked, hnode⟩ := bind_eq_ok_iff.1 hnode
    cases hnode
    cases hcompile
    obtain ⟨rest', hrest', halike⟩ := ih hrest
    refine ⟨.question asked :: rest', ?_, .question halike⟩
    rw [compileAll, compile, orPlacing_eq_ok_iff.2 (orPlacing_eq_ok_iff.1 hasked), ok_bind, ok_bind,
      hrest', ok_bind]
  | @block kind path place place' header text children children' drafts drafts' hchildren h
      ihchildren ih =>
    rw [compileAll, compile] at hcompile
    obtain ⟨node, hnode, hcompile⟩ := bind_eq_ok_iff.1 hcompile
    obtain ⟨rest, hrest, hcompile⟩ := bind_eq_ok_iff.1 hcompile
    obtain ⟨relevant, hrelevant, hnode⟩ := bind_eq_ok_iff.1 hnode
    obtain ⟨inner, hinner, hnode⟩ := bind_eq_ok_iff.1 hnode
    cases hnode
    cases hcompile
    obtain ⟨inner', hinner', halike⟩ := ihchildren hinner
    obtain ⟨rest', hrest', halike'⟩ := ih hrest
    refine ⟨.container (.block kind) { header with relevant } inner' :: rest', ?_,
      .container halike halike'⟩
    rw [compileAll, compile, orPlacing_eq_ok_iff.2 (orPlacing_eq_ok_iff.1 hrelevant), ok_bind,
      hinner', ok_bind, ok_bind, hrest', ok_bind]
  | swap hmoves =>
    rw [compileAll, compileAll] at hcompile
    obtain ⟨node, hnode, hcompile⟩ := bind_eq_ok_iff.1 hcompile
    obtain ⟨rest, hrest, hcompile⟩ := bind_eq_ok_iff.1 hcompile
    obtain ⟨node', hnode', hrest⟩ := bind_eq_ok_iff.1 hrest
    obtain ⟨nodes, hnodes, hrest⟩ := bind_eq_ok_iff.1 hrest
    cases hrest
    cases hcompile
    refine ⟨node' :: node :: nodes, ?_, .swap hmoves⟩
    rw [compileAll, compileAll, hnode', ok_bind, hnode, ok_bind, hnodes, ok_bind, ok_bind]
  | trans h h' ih ih' =>
    obtain ⟨middle, hmiddle, halike⟩ := ih hcompile
    obtain ⟨nodes', hnodes', halike'⟩ := ih' hmiddle
    exact ⟨nodes', hnodes', halike.trans halike'⟩

theorem compileQuestion_of_coveredBy
    (hlists : lists.CoveredBy lists') {path : NodePath} {asked question : Question}
    {texts : ExpressionTexts} (h : compileQuestion compiler lists path asked texts = .ok question) :
    compileQuestion compiler lists' path asked texts = .ok question := by
  unfold compileQuestion at h ⊢
  split at h
  · next hselect =>
    obtain ⟨⟨⟩, hchoices, h⟩ := bind_eq_ok_iff.1 h
    rw [if_pos hselect, hlists _ _ hchoices]
    exact h
  · next hselect =>
    rw [if_neg hselect]
    exact h

mutual

theorem compile_of_coveredBy
    (hlists : lists.CoveredBy lists') (draft : Draft) {node : Node}
    (h : compile compiler lists draft = .ok node) : compile compiler lists' draft = .ok node := by
  cases draft with
  | question path place asked texts =>
    rw [compile] at h ⊢
    obtain ⟨compiled, hcompiled, h⟩ := bind_eq_ok_iff.1 h
    have hquestion := compileQuestion_of_coveredBy hlists (orPlacing_eq_ok_iff.1 hcompiled)
    rw [orPlacing_eq_ok_iff.2 hquestion]
    exact h
  | block kind path place header text drafts =>
    rw [compile] at h ⊢
    obtain ⟨relevant, hrelevant, h⟩ := bind_eq_ok_iff.1 h
    obtain ⟨children, hchildren, h⟩ := bind_eq_ok_iff.1 h
    rw [hrelevant, ok_bind, compileAll_of_coveredBy hlists drafts hchildren]
    exact h

theorem compileAll_of_coveredBy
    (hlists : lists.CoveredBy lists') (drafts : List Draft) {nodes : List Node}
    (h : compileAll compiler lists drafts = .ok nodes) :
    compileAll compiler lists' drafts = .ok nodes := by
  cases drafts with
  | nil => exact h
  | cons draft drafts =>
    rw [compileAll] at h ⊢
    obtain ⟨node, hnode, h⟩ := bind_eq_ok_iff.1 h
    obtain ⟨rest, hrest, h⟩ := bind_eq_ok_iff.1 h
    rw [compile_of_coveredBy hlists draft hnode, ok_bind,
      compileAll_of_coveredBy hlists drafts hrest]
    exact h

end

end Draft

namespace SymbolTable

theorem exists_declare {table : SymbolTable} {path : NodePath} {name : String}
    (hname : path.name? = some name) (hnone : table.lookup? name = none) (kind : SymbolKind) :
    ∃ next, table.declare path kind = .ok next :=
  ⟨_, declare_eq_ok_iff.2 ⟨name, hname, hnone, rfl⟩⟩

theorem root_declare {table next : SymbolTable} {path : NodePath} {kind : SymbolKind}
    (h : table.declare path kind = .ok next) : next.root = table.root := by
  obtain ⟨name, -, -, rfl⟩ := declare_eq_ok_iff.1 h
  rfl

end SymbolTable

structure SymbolTable.Agrees (table table' : SymbolTable) : Prop where
  root_eq : table.root = table'.root
  lookup?_eq : ∀ name, table.lookup? name = table'.lookup? name

namespace SymbolTable.Agrees

variable {table table' table'' : SymbolTable}

theorem trans (h : table.Agrees table') (h' : table'.Agrees table'') : table.Agrees table'' where
  root_eq := h.root_eq.trans h'.root_eq
  lookup?_eq := fun name => (h.lookup?_eq name).trans (h'.lookup?_eq name)

theorem exists_declare {next : SymbolTable} {path : NodePath} {kind : SymbolKind}
    (h : table.Agrees table') (hdeclare : table.declare path kind = .ok next) :
    ∃ next', table'.declare path kind = .ok next' ∧ next.Agrees next' := by
  obtain ⟨name, hname, hnone, -⟩ := declare_eq_ok_iff.1 hdeclare
  rw [h.lookup?_eq] at hnone
  obtain ⟨next', hdeclare'⟩ := SymbolTable.exists_declare hname hnone kind
  refine ⟨next', hdeclare', ?_, ?_⟩
  · rw [root_declare hdeclare, root_declare hdeclare', h.root_eq]
  · intro other
    rw [lookup?_declare hdeclare, lookup?_declare hdeclare', h.lookup?_eq]

theorem exists_declaresAll {symbols : List Symbol} {last : SymbolTable} (h : table.Agrees table')
    (hdeclares : table.DeclaresAll symbols last) :
    ∃ last', table'.DeclaresAll symbols last' ∧ last.Agrees last' := by
  induction symbols generalizing table table' with
  | nil =>
    cases hdeclares
    exact ⟨table', rfl, h⟩
  | cons symbol symbols ih =>
    obtain ⟨next, hnext, hdeclares⟩ := hdeclares
    obtain ⟨next', hnext', hagrees⟩ := h.exists_declare hnext
    obtain ⟨last', hlast', hagrees'⟩ := ih hagrees hdeclares
    exact ⟨last', ⟨next', hnext', hlast'⟩, hagrees'⟩

theorem nameAt?_eq (h : table.Agrees table') : table.nameAt? = table'.nameAt? := by
  funext path
  unfold nameAt?
  simp only [h.lookup?_eq]

theorem compile_eq (h : table.Agrees table') :
    Expression.compile table = Expression.compile table' := by
  funext source owner
  have htarget :
      Expression.target? table owner source = Expression.target? table' owner source := by
    funext kind
    unfold Expression.target?
    simp only [h.lookup?_eq, h.root_eq]
  have hreference :
      Expression.reference? table owner source = Expression.reference? table' owner source := by
    funext kind
    unfold Expression.reference?
    rw [htarget, h.nameAt?_eq]
  unfold Expression.compile
  rw [hreference]

end SymbolTable.Agrees

theorem SymbolTable.exists_declare_swap {table next last : SymbolTable} {path path' : NodePath}
    {kind kind' : SymbolKind} (h : table.declare path kind = .ok next)
    (h' : next.declare path' kind' = .ok last) :
    ∃ next' last', table.declare path' kind' = .ok next' ∧ next'.declare path kind = .ok last' ∧
      last.Agrees last' := by
  obtain ⟨name, hname, hnone, -⟩ := declare_eq_ok_iff.1 h
  obtain ⟨name', hname', hnone', -⟩ := declare_eq_ok_iff.1 h'
  rw [lookup?_declare h, hname] at hnone'
  by_cases heq : name = name'
  · simp [heq] at hnone'
  · rw [if_neg (by simp [heq])] at hnone'
    obtain ⟨next', hnext'⟩ := exists_declare hname' hnone' kind'
    have hnone'' := lookup?_declare hnext' name
    rw [hname', if_neg (by simp [Ne.symm heq]), hnone] at hnone''
    obtain ⟨last', hlast'⟩ := exists_declare hname hnone'' kind
    refine ⟨next', last', hnext', hlast', ?_, ?_⟩
    · rw [root_declare h', root_declare h, root_declare hlast', root_declare hnext']
    · intro other
      rw [lookup?_declare h', lookup?_declare h, lookup?_declare hlast', lookup?_declare hnext',
        hname, hname']
      by_cases hother : name = other
      · rw [← hother, if_neg (by simp [Ne.symm heq]), if_pos rfl, if_pos rfl]
      · have hne : ¬ some name = some other := by simp [hother]
        rw [if_neg hne, if_neg hne]

theorem SymbolTable.exists_declaresAll_of_perm {table last : SymbolTable}
    {symbols symbols' : List Symbol} (h : table.DeclaresAll symbols last)
    (hperm : symbols.Perm symbols') :
    ∃ last', table.DeclaresAll symbols' last' ∧ last.Agrees last' := by
  induction hperm generalizing table last with
  | nil => exact ⟨last, h, rfl, fun _ => rfl⟩
  | cons symbol hperm ih =>
    obtain ⟨next, hnext, h⟩ := h
    obtain ⟨last', hlast', hagrees⟩ := ih h
    exact ⟨last', ⟨next, hnext, hlast'⟩, hagrees⟩
  | swap symbol symbol' symbols =>
    obtain ⟨next, hnext, next', hnext', h⟩ := h
    obtain ⟨middle, middle', hmiddle, hmiddle', hagrees⟩ := exists_declare_swap hnext hnext'
    obtain ⟨last', hlast', hagrees'⟩ := hagrees.exists_declaresAll h
    exact ⟨last', ⟨middle, hmiddle, middle', hmiddle', hlast'⟩, hagrees'⟩
  | trans hperm hperm' ih ih' =>
    obtain ⟨middle, hmiddle, hagrees⟩ := ih h
    obtain ⟨last', hlast', hagrees'⟩ := ih' hmiddle
    exact ⟨last', hlast', hagrees.trans hagrees'⟩

namespace Drafting

structure Alike (moves : Prop) (a b : Drafting) : Prop where
  children : Draft.AllAlike moves a.draft.children b.draft.children
  symbols : a.symbols.Agrees b.symbols
  keys_eq : a.lists.keys = b.lists.keys
  covered : a.lists.CoveredBy b.lists
  settings_eq : a.settings = b.settings
  warnings_eq : a.warnings = b.warnings

def warningsOf (drafting : Drafting) (survey : Survey) (options : Options) : List Warning :=
  drafting.warnings ++
    if options.warnUnused then survey.unusedLists.map Warning.unreferencedChoiceList else []

variable {drafting a b : Drafting} {rules : DraftRules} {p : String → Choice → Prop}
  {compiler : Compiler} {options : Options} {survey : Survey} {reading : Reading} {moves : Prop}

theorem IsSound.finish_eq_ok_iff (h : drafting.IsSound rules p) :
    drafting.finish compiler options = .ok reading ↔
      ∃ survey, drafting.assemble compiler = .ok survey ∧
        reading = ⟨survey, drafting.warningsOf survey options⟩ := by
  have hvalid : ∀ survey, drafting.assemble compiler = .ok survey →
      survey.validate = .ok survey := fun survey => h.validate_eq
  unfold finish SurveyDraft.compile
  unfold assemble at hvalid ⊢
  simp only [bind_eq_ok_iff] at hvalid ⊢
  constructor
  · rintro ⟨relevant, hrelevant, children, hchildren, survey, hvalidate, hreading⟩
    have hsurvey := hvalid _ ⟨relevant, hrelevant, children, hchildren, rfl⟩
    rw [hsurvey] at hvalidate
    cases hvalidate
    cases hreading
    exact ⟨_, ⟨relevant, hrelevant, children, hchildren, rfl⟩, rfl⟩
  · rintro ⟨survey, ⟨relevant, hrelevant, children, hchildren, hsurvey⟩, rfl⟩
    cases hsurvey
    exact ⟨relevant, hrelevant, children, hchildren, _,
      hvalid _ ⟨relevant, hrelevant, children, hchildren, rfl⟩, rfl⟩

theorem Alike.exists_finish (h : a.Alike moves b) (ha : a.IsSound rules p) (hb : b.IsSound rules p)
    (hfinish : a.finish (Expression.compile a.symbols) options = .ok reading) :
    ∃ reading', b.finish (Expression.compile b.symbols) options = .ok reading' ∧
      reading.survey.Alike moves reading'.survey ∧ reading'.warnings = reading.warnings ∧
      reading.survey.lists = a.lists ∧ reading'.survey.lists = b.lists := by
  obtain ⟨survey, hassemble, rfl⟩ := ha.finish_eq_ok_iff.1 hfinish
  obtain ⟨children, hchildren, rfl⟩ := ha.survey_eq hassemble
  obtain ⟨children', hchildren', halike⟩ :=
    h.children.exists_compileAll (Draft.compileAll_of_coveredBy h.covered _ hchildren)
  have hassemble' : b.assemble (Expression.compile b.symbols) =
      .ok ⟨{ name := b.symbols.root }, children', b.lists, b.settings⟩ := by
    unfold assemble
    rw [hb.header_eq, hb.relevant_eq, ← h.symbols.compile_eq, hchildren']
    rfl
  refine ⟨_, hb.finish_eq_ok_iff.2 ⟨_, hassemble', rfl⟩, ?_⟩
  have hsurvey : Survey.Alike moves
      ⟨{ name := a.symbols.root }, children, a.lists, a.settings⟩
      ⟨{ name := b.symbols.root }, children', b.lists, b.settings⟩ :=
    ⟨by rw [h.symbols.root_eq], h.settings_eq, halike⟩
  refine ⟨hsurvey, ?_, rfl, rfl⟩
  unfold warningsOf
  rw [hsurvey.unusedLists_eq h.keys_eq, h.warnings_eq]

end Drafting

end Questionnaire
