import Questionnaire.Proofs.Survey.Similarity
import Questionnaire.Survey.Draft

/-!
This module contains the theory of compiling drafts: a draft that spells the expressions of a survey
in some way compiles to a survey that asks the same, if its compiler understands the spelling.
-/

namespace Questionnaire

/--
A way to spell compiled expressions: which texts stand for an expression of the node at a path.
-/
abbrev Spelling := NodePath → Expression → String → Prop

def Spelling.IsReadBy (spells : Spelling) (compiler : Compiler) : Prop :=
  ∀ path expression text, spells path expression text →
    ∃ compiled, compiler text path = .ok compiled ∧ compiled.erased = expression.erased

def Question.bare (question : Question) : Question :=
  { question with relevant := none, constraint := none, calculation := none }

def Header.bare (header : Header) : Header :=
  { header with relevant := none }

def ChoiceLists.Offers (lists : ChoiceLists) (nodes : List LocatedNode) : Prop :=
  ∀ located ∈ nodes, ∀ q, located.node = .question q → q.type.isSelect = true →
    lists.requireChoices q.name q.list = .ok ()

namespace Draft

mutual

def Asks (spells : Spelling) (path : NodePath) : Node → Draft → Prop
  | .question q, question own _ asked texts =>
    own = NodePath.child path q.name ∧ asked = q.bare ∧
      Option.Rel (spells own) q.relevant texts.relevant ∧
      Option.Rel (spells own) q.constraint texts.constraint ∧
      Option.Rel (spells own) q.calculation texts.calculation
  | .container kind header children, block kind' own _ asked text drafts =>
    kind = .block kind' ∧ own = NodePath.child path header.name ∧ asked = header.bare ∧
      Option.Rel (spells own) header.relevant text ∧ AsksAll spells own children drafts
  | _, _ => False

def AsksAll (spells : Spelling) (path : NodePath) : List Node → List Draft → Prop
  | [], [] => True
  | node :: nodes, draft :: drafts => Asks spells path node draft ∧ AsksAll spells path nodes drafts
  | _, _ => False

end

theorem asksAll_append {spells : Spelling} {path : NodePath} {nodes nodes' : List Node}
    {drafts drafts' : List Draft} (h : AsksAll spells path nodes drafts)
    (h' : AsksAll spells path nodes' drafts') :
    AsksAll spells path (nodes ++ nodes') (drafts ++ drafts') := by
  induction nodes generalizing drafts with
  | nil =>
    cases drafts with
    | nil => exact h'
    | cons draft drafts => exact h.elim
  | cons node nodes ih =>
    cases drafts with
    | nil => exact h.elim
    | cons draft drafts => exact ⟨h.1, ih h.2⟩

section Compile

variable {spells : Spelling} {compiler : Compiler} {lists : ChoiceLists}

theorem compile?_of_rel (hread : spells.IsReadBy compiler) {path : NodePath}
    {expression : Option Expression} {text : Option String}
    (h : Option.Rel (spells path) expression text) :
    ∃ compiled, compile? compiler path text = .ok compiled ∧
      compiled.map Expression.erased = expression.map Expression.erased := by
  cases h with
  | none => exact ⟨none, rfl, rfl⟩
  | @some expression text h =>
    obtain ⟨compiled, hcompiled, heq⟩ := hread path expression text h
    refine ⟨some compiled, ?_, by rw [Option.map_some, Option.map_some, heq]⟩
    unfold compile?
    dsimp only
    rw [hcompiled]
    rfl

theorem compileQuestion_of_asks (hread : spells.IsReadBy compiler) {path : NodePath}
    {question : Question} {texts : ExpressionTexts}
    (hchoices : question.type.isSelect = true →
      lists.requireChoices question.name question.list = .ok ())
    (hrelevant : Option.Rel (spells path) question.relevant texts.relevant)
    (hconstraint : Option.Rel (spells path) question.constraint texts.constraint)
    (hcalculation : Option.Rel (spells path) question.calculation texts.calculation) :
    ∃ compiled, compileQuestion compiler lists path question.bare texts = .ok compiled ∧
      compiled.erased = question.erased := by
  obtain ⟨relevant, hrelevant, hrelevant'⟩ := compile?_of_rel hread hrelevant
  obtain ⟨constraint, hconstraint, hconstraint'⟩ := compile?_of_rel hread hconstraint
  obtain ⟨calculation, hcalculation, hcalculation'⟩ := compile?_of_rel hread hcalculation
  refine ⟨{ question with relevant, constraint, calculation }, ?_, ?_⟩
  -- The choices are required in front of the expressions, but of a select question only.
  · unfold compileQuestion
    by_cases hselect : question.type.isSelect = true
    · have hselect' : question.bare.type.isSelect = true := hselect
      have hoffers : lists.requireChoices question.bare.name question.bare.list = .ok () :=
        hchoices hselect
      rw [if_pos hselect', hoffers, ok_bind, hrelevant, ok_bind, hconstraint, ok_bind,
        hcalculation, ok_bind]
      rfl
    · have hselect' : ¬ question.bare.type.isSelect = true := hselect
      rw [if_neg hselect', hrelevant]
      simp only [ok_bind, hconstraint, hcalculation]
      rfl
  · unfold Question.erased
    dsimp only
    rw [hrelevant', hconstraint', hcalculation']

mutual

theorem compile_of_asks (hread : spells.IsReadBy compiler) {path : NodePath} (node : Node)
    {draft : Draft} (hoffers : lists.Offers (node.located path)) (h : Asks spells path node draft) :
    ∃ compiled, compile compiler lists draft = .ok compiled ∧ compiled.erased = node.erased := by
  cases node with
  | question q =>
    cases draft with
    | block kind own place asked text drafts => exact h.elim
    | question own place asked texts =>
      obtain ⟨rfl, rfl, hrelevant, hconstraint, hcalculation⟩ := h
      have hchoices := hoffers _ List.mem_cons_self q rfl
      obtain ⟨compiled, hcompiled, heq⟩ :=
        compileQuestion_of_asks hread hchoices hrelevant hconstraint hcalculation
      refine ⟨.question compiled, ?_, by rw [Node.erased, Node.erased, heq]⟩
      rw [compile, orPlacing_eq_ok_iff.2 hcompiled]
      rfl
  | container kind header children =>
    cases draft with
    | question own place asked texts => exact h.elim
    | block kind' own place asked text drafts =>
      obtain ⟨rfl, rfl, rfl, hrelevant, hchildren⟩ := h
      have hinner : lists.Offers (Node.locatedAll (NodePath.child path header.name) children) := by
        intro inner hinner
        exact hoffers inner (List.mem_cons_of_mem _ hinner)
      obtain ⟨relevant, hcompiled, heq⟩ := compile?_of_rel hread hrelevant
      obtain ⟨compiled, hcompiled', heq'⟩ := compileAll_of_asks hread children hinner hchildren
      refine ⟨.container (.block kind') { header with relevant } compiled, ?_, ?_⟩
      · rw [compile, orPlacing_eq_ok_iff.2 hcompiled, ok_bind, hcompiled', ok_bind]
        rfl
      · rw [Node.erased, Node.erased, heq']
        unfold Header.erased
        dsimp only
        rw [heq]

theorem compileAll_of_asks (hread : spells.IsReadBy compiler) {path : NodePath} (nodes : List Node)
    {drafts : List Draft} (hoffers : lists.Offers (Node.locatedAll path nodes))
    (h : AsksAll spells path nodes drafts) :
    ∃ compiled, compileAll compiler lists drafts = .ok compiled ∧
      Node.erasedAll compiled = Node.erasedAll nodes := by
  cases nodes with
  | nil =>
    cases drafts with
    | nil => exact ⟨[], rfl, rfl⟩
    | cons draft drafts => exact h.elim
  | cons node nodes =>
    cases drafts with
    | nil => exact h.elim
    | cons draft drafts =>
      obtain ⟨hdraft, hdrafts⟩ := h
      have hnode : lists.Offers (node.located path) := by
        intro inner hinner
        exact hoffers inner (List.mem_append_left _ hinner)
      have hnodes : lists.Offers (Node.locatedAll path nodes) := by
        intro inner hinner
        exact hoffers inner (List.mem_append_right _ hinner)
      obtain ⟨compiled, hcompiled, heq⟩ := compile_of_asks hread node hnode hdraft
      obtain ⟨compiled', hcompiled', heq'⟩ := compileAll_of_asks hread nodes hnodes hdrafts
      refine ⟨compiled :: compiled', ?_, by rw [Node.erasedAll, Node.erasedAll, heq, heq']⟩
      rw [compileAll, hcompiled, ok_bind, hcompiled', ok_bind]

end

end Compile

end Draft

namespace Survey

theorem requireAllChoices_eq_ok_iff {lists : ChoiceLists} {nodes : List LocatedNode} :
    requireAllChoices lists nodes = .ok () ↔ lists.Offers nodes := by
  induction nodes with
  | nil => simp [requireAllChoices, ChoiceLists.Offers]
  | cons located nodes ih =>
    have hcons : lists.Offers (located :: nodes) ↔
        (∀ q, located.node = .question q → q.type.isSelect = true →
          lists.requireChoices q.name q.list = .ok ()) ∧ lists.Offers nodes := by
      unfold ChoiceLists.Offers
      rw [List.forall_mem_cons]
    rw [hcons, ← ih, requireAllChoices]
    split
    · next q hq =>
      split
      · next hselect =>
        rw [bind_eq_ok_iff]
        simp [hq, hselect, Unique.exists_iff]
      · next hselect => simp [hq, hselect]
    · next hcontainer => simp [hcontainer]

theorem offers_erasedAll {lists : ChoiceLists} {path : NodePath} {nodes : List Node} :
    lists.Offers (Node.locatedAll path (Node.erasedAll nodes)) ↔
      lists.Offers (Node.locatedAll path nodes) := by
  rw [Node.locatedAll_erasedAll]
  unfold ChoiceLists.Offers
  rw [List.forall_mem_map]
  refine forall₂_congr fun inner _ => ?_
  obtain ⟨own, node⟩ := inner
  cases node with
  | question q =>
    constructor
    · rintro h q' hq'
      cases hq'
      exact h q.erased rfl
    · rintro h q' hq'
      cases hq'
      exact h q rfl
  | container kind header children =>
    constructor
    · intro _ q' hq'
      cases hq'
    · intro _ q' hq'
      cases hq'

theorem validate_eq_ok_iff {survey survey' : Survey} :
    survey.validate = .ok survey' ↔
      survey' = survey ∧ (∃ table, survey.symbols = .ok table) ∧ survey.lists.Offers survey.nodes := by
  unfold validate
  rw [bind_eq_ok_iff]
  constructor
  · rintro ⟨table, htable, h⟩
    obtain ⟨⟨⟩, hchoices, h⟩ := bind_eq_ok_iff.1 h
    cases h
    exact ⟨rfl, ⟨table, htable⟩, requireAllChoices_eq_ok_iff.1 hchoices⟩
  · rintro ⟨rfl, ⟨table, htable⟩, hchoices⟩
    refine ⟨table, htable, ?_⟩
    rw [requireAllChoices_eq_ok_iff.2 hchoices]
    rfl

def namedEntries (survey : Survey) : List (String × ChoiceList) :=
  survey.usedLists.map fun list => (list.name, list)

theorem map_snd_namedEntries (survey : Survey) :
    survey.namedEntries.map Prod.snd = survey.usedLists := by
  unfold namedEntries
  rw [List.map_map]
  exact List.map_id _

theorem offers_usedLists {survey : Survey} {lists : ChoiceLists}
    (hkeys : ∀ entry ∈ survey.lists.entries, entry.1 = entry.2.name)
    (hentries : lists.entries = survey.namedEntries)
    (hnamed : ∀ located ∈ survey.nodes, ∀ q, located.node = .question q → q.type.isSelect = true →
      q.list.getD "" ∈ survey.namedLists)
    (h : survey.lists.Offers survey.nodes) : lists.Offers survey.nodes := by
  intro located hlocated q hq hselect
  have hoffers := h located hlocated q hq hselect
  have hnamed := hnamed located hlocated q hq hselect
  unfold ChoiceLists.requireChoices at hoffers ⊢
  dsimp only at hoffers ⊢
  generalize q.list.getD "" = name at hnamed hoffers ⊢
  split at hoffers
  · next own first choices hget =>
    have hmem := OrderedMap.get?_eq_some_iff.1 hget
    have hown : name = own := hkeys _ hmem
    subst hown
    have hused : (⟨name, first :: choices⟩ : ChoiceList) ∈ survey.usedLists := by
      unfold usedLists
      rw [List.mem_filter, List.contains_iff_mem]
      exact ⟨List.mem_map.2 ⟨_, hmem, rfl⟩, hnamed⟩
    have hget' : lists.get? name = some ⟨name, first :: choices⟩ := by
      rw [OrderedMap.get?_eq_some_iff, hentries]
      exact List.mem_map.2 ⟨_, hused, rfl⟩
    rw [hget']
  · cases hoffers

end Survey

namespace SurveyDraft

variable {spells : Spelling} {compiler : Compiler} {lists : ChoiceLists} {survey : Survey}

theorem compile_restores (hread : spells.IsReadBy compiler) {draft : SurveyDraft}
    {settings : Settings} {warnings : List Warning} {options : Options} {table : SymbolTable}
    (hsymbols : survey.symbols = .ok table)
    (hkeys : ∀ entry ∈ survey.lists.entries, entry.1 = entry.2.name)
    (hnamed : ∀ located ∈ survey.nodes, ∀ q, located.node = .question q → q.type.isSelect = true →
      q.list.getD "" ∈ survey.namedLists)
    (hoffers : survey.lists.Offers survey.nodes)
    (hheader : draft.header = survey.header) (hrelevant : draft.relevant = none)
    (hbare : survey.header.relevant = none)
    (hchildren : Draft.AsksAll spells [] survey.children draft.children)
    (hlists : lists.entries = survey.namedEntries) (hsettings : settings = survey.settings) :
    ∃ reading, draft.compile compiler lists settings warnings options = .ok reading ∧
      reading.survey.Restores survey := by
  have hoffers' := Survey.offers_usedLists hkeys hlists hnamed hoffers
  obtain ⟨children, hcompile, heq⟩ := Draft.compileAll_of_asks hread survey.children hoffers' hchildren
  -- The check of the whole survey depends on nothing that the two surveys may differ in.
  have hvalidate : Survey.validate
      ⟨{ draft.header with relevant := none }, children, lists, settings⟩ =
      .ok ⟨{ draft.header with relevant := none }, children, lists, settings⟩ := by
    rw [Survey.validate_eq_ok_iff]
    refine ⟨rfl, ⟨table, Survey.symbols_eq_of_erasedAll ?_ heq hsymbols⟩, ?_⟩
    · rw [hheader]
      rfl
    · have hnodes : lists.Offers (Node.locatedAll [] children) := by
        rw [← Survey.offers_erasedAll, heq, Survey.offers_erasedAll]
        exact hoffers'
      exact hnodes
  unfold SurveyDraft.compile
  rw [hrelevant, hcompile]
  have hroot : orPlacing draft.place (Draft.compile? compiler [] none) = .ok none := rfl
  rw [hroot, ok_bind, ok_bind, hvalidate, ok_bind]
  refine ⟨_, rfl, ?_, heq, hsettings, ?_⟩
  · dsimp only
    rw [hheader, ← hbare]
  · have hnamedLists : Survey.namedLists
        ⟨{ draft.header with relevant := none }, children, lists, settings⟩ = survey.namedLists :=
      Survey.namedLists_eq_of_erasedAll heq
    unfold Survey.usedLists
    dsimp only
    rw [hnamedLists, hlists, Survey.map_snd_namedEntries]
    unfold Survey.usedLists
    rw [List.filter_filter]
    simp

end SurveyDraft

end Questionnaire
