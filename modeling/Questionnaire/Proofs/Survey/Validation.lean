import Questionnaire.Proofs.Survey.Alike
import Questionnaire.Proofs.Survey.Walk

/-!
This module contains what the checks of a survey accept, and which node they report if they do not: the
first one on the walk through the survey that takes a name again, and if there is none the first select
question that has no list of choices.
-/

namespace Questionnaire

namespace Survey

section Names

def nameTaken (name : String) : Failure :=
  ⟨.duplicateName name, some (.ofNode name)⟩

variable {table table' : SymbolTable} {located : LocatedNode} {nodes : List LocatedNode}
  {failure : Failure}

theorem declareAll_cons_of_taken (hnamed : located.path.name? = some located.node.name)
    (htaken : table.lookup? located.node.name ≠ none) (nodes : List LocatedNode) :
    declareAll table (located :: nodes) = .error (nameTaken located.node.name) := by
  obtain ⟨symbol, hsymbol⟩ := Option.ne_none_iff_exists'.1 htaken
  unfold declareAll SymbolTable.declare
  rw [hnamed]
  dsimp only
  rw [hsymbol]
  rfl

theorem exists_declareAll_cons (hnamed : located.path.name? = some located.node.name)
    (hfree : table.lookup? located.node.name = none) :
    ∃ next, ∀ nodes, declareAll table (located :: nodes) = declareAll next nodes := by
  obtain ⟨next, hnext⟩ := SymbolTable.exists_declare hnamed hfree located.node.symbolKind
  refine ⟨next, fun nodes => ?_⟩
  rw [declareAll, hnext]
  rfl

theorem declareAll_eq_error_iff
    (hnamed : ∀ located ∈ nodes, located.path.name? = some located.node.name) :
    declareAll table nodes = .error failure ↔
      ∃ front located back table', nodes = front ++ located :: back ∧
        declareAll table front = .ok table' ∧ table'.lookup? located.node.name ≠ none ∧
          failure = nameTaken located.node.name := by
  induction nodes generalizing table with
  | nil => simp [declareAll]
  | cons head nodes ih =>
    obtain ⟨hhead, hnamed⟩ := List.forall_mem_cons.1 hnamed
    by_cases hfree : table.lookup? head.node.name = none
    · obtain ⟨next, hnext⟩ := exists_declareAll_cons hhead hfree
      rw [hnext, ih hnamed]
      constructor
      · rintro ⟨front, located, back, table', rfl, hfront, h⟩
        exact ⟨head :: front, located, back, table', rfl, (hnext front).trans hfront, h⟩
      · rintro ⟨front, located, back, table', heq, hfront, htaken, hfailure⟩
        cases front with
        | nil =>
          cases heq
          cases hfront
          exact (htaken hfree).elim
        | cons other front =>
          cases heq
          exact ⟨front, located, back, table', rfl, (hnext front).symm.trans hfront, htaken,
            hfailure⟩
    · rw [declareAll_cons_of_taken hhead hfree]
      constructor
      · rintro ⟨⟩
        exact ⟨[], head, nodes, table, rfl, rfl, hfree, rfl⟩
      · rintro ⟨front, located, back, table', heq, hfront, htaken, rfl⟩
        cases front with
        | nil =>
          cases heq
          rfl
        | cons other front =>
          cases heq
          rw [declareAll_cons_of_taken hhead hfree] at hfront
          cases hfront

section Fresh

variable {root : String}

theorem lookup?_eq_none_iff_of_declareAll
    (hnamed : ∀ located ∈ nodes, located.path.name? = some located.node.name)
    (h : declareAll (.empty root) nodes = .ok table) (name : String) :
    table.lookup? name = none ↔ name ∉ nodes.map (·.node.name) := by
  rw [SymbolTable.eq_of_declaresAll (declareAll_eq_ok_iff.1 h)]
  dsimp only [SymbolTable.lookup?, SymbolTable.empty]
  rw [List.nil_append, List.find?_eq_none, List.forall_mem_map, List.mem_map, not_exists]
  refine forall_congr' fun located => ?_
  rw [not_and]
  refine forall_congr' fun hlocated => ?_
  rw [show located.symbol.path.name? = some located.node.name from hnamed located hlocated]
  simp

theorem nodup_names_of_declareAll
    (hnamed : ∀ located ∈ nodes, located.path.name? = some located.node.name)
    (h : declareAll (.empty root) nodes = .ok table) : (nodes.map (·.node.name)).Nodup := by
  have hnodup := SymbolTable.nodup_names_of_declaresAll (declareAll_eq_ok_iff.1 h)
  have heq : nodes.map ((·.path.name?) ∘ LocatedNode.symbol) =
      nodes.map (some ∘ fun located => located.node.name) := List.map_congr_left hnamed
  rw [List.map_map, heq, ← List.map_map] at hnodup
  exact hnodup.of_map some

theorem exists_declareAll_iff
    (hnamed : ∀ located ∈ nodes, located.path.name? = some located.node.name) :
    (∃ table, declareAll (.empty root) nodes = .ok table) ↔ (nodes.map (·.node.name)).Nodup := by
  constructor
  · rintro ⟨table, h⟩
    exact nodup_names_of_declareAll hnamed h
  · intro hnodup
    cases h : declareAll (.empty root) nodes with
    | ok table => exact ⟨table, rfl⟩
    | error failure =>
      obtain ⟨front, located, back, table, rfl, hfront, htaken, -⟩ :=
        (declareAll_eq_error_iff hnamed).1 h
      refine (htaken ?_).elim
      rw [lookup?_eq_none_iff_of_declareAll (fun other hother =>
        hnamed other (List.mem_append_left _ hother)) hfront]
      rw [List.map_append, List.nodup_append] at hnodup
      intro hmem
      exact hnodup.2.2 _ hmem _ List.mem_cons_self rfl

end Fresh

end Names

end Survey

def ChoiceLists.Serves (lists : ChoiceLists) (located : LocatedNode) : Prop :=
  ∀ q ∈ located.node.question?, q.type.isSelect = true →
    ∃ list, lists.get? (q.list.getD "") = some list ∧ list.choices ≠ []

theorem ChoiceLists.requireChoices_eq_error {lists : ChoiceLists} {question : String}
    {name? : Option String}
    (h : ¬ ∃ list, lists.get? (name?.getD "") = some list ∧ list.choices ≠ []) :
    lists.requireChoices question name? =
      .error (Cause.danglingChoiceList question (name?.getD "")).failure := by
  have hfails : lists.requireChoices question name? ≠ .ok () :=
    fun hok => h (requireChoices_eq_ok_iff.1 hok)
  unfold requireChoices at hfails ⊢
  dsimp only at hfails ⊢
  split
  · next name first rest hget =>
    rw [hget] at hfails
    exact (hfails rfl).elim
  · rfl

theorem ChoiceLists.offers_iff {lists : ChoiceLists} {nodes : List LocatedNode} :
    lists.Offers nodes ↔ ∀ located ∈ nodes, lists.Serves located := by
  refine forall₂_congr fun located _ => ?_
  obtain ⟨path, node⟩ := located
  cases node with
  | question q => simp [Serves, Node.question?, requireChoices_eq_ok_iff]
  | container kind header children => simp [Serves, Node.question?]

namespace Survey

section Choices

def choicesMissing (q : Question) : Failure :=
  ⟨.danglingChoiceList q.name (q.list.getD ""), some (.ofNode q.name)⟩

variable {lists : ChoiceLists} {located : LocatedNode} {nodes : List LocatedNode}
  {failure : Failure}

theorem requireAllChoices_cons_of_serves (h : lists.Serves located) (nodes : List LocatedNode) :
    requireAllChoices lists (located :: nodes) = requireAllChoices lists nodes := by
  rw [requireAllChoices]
  split
  · next q hq =>
    split
    · next hselect =>
      have hq : q ∈ located.node.question? := by rw [hq]; rfl
      rw [ChoiceLists.requireChoices_eq_ok_iff.2 (h q hq hselect)]
      rfl
    · rfl
  · rfl

theorem exists_requireAllChoices_cons (h : ¬ lists.Serves located) :
    ∃ q, located.node = .question q ∧
      ∀ nodes, requireAllChoices lists (located :: nodes) = .error (choicesMissing q) := by
  obtain ⟨path, node⟩ := located
  cases node with
  | container kind header children =>
    refine (h fun q hq => ?_).elim
    cases hq
  | question q =>
    have hquestion : q.type.isSelect = true ∧
        ¬ ∃ list, lists.get? (q.list.getD "") = some list ∧ list.choices ≠ [] := by
      simpa [ChoiceLists.Serves, Node.question?] using h
    obtain ⟨hselect, hmissing⟩ := hquestion
    refine ⟨q, rfl, fun nodes => ?_⟩
    rw [requireAllChoices]
    dsimp only
    rw [if_pos hselect, ChoiceLists.requireChoices_eq_error hmissing]
    rfl

theorem requireAllChoices_eq_error_iff :
    requireAllChoices lists nodes = .error failure ↔
      ∃ front path q back, nodes = front ++ ⟨path, .question q⟩ :: back ∧
        (∀ other ∈ front, lists.Serves other) ∧ ¬ lists.Serves ⟨path, .question q⟩ ∧
          failure = choicesMissing q := by
  induction nodes with
  | nil => simp [requireAllChoices]
  | cons head nodes ih =>
    by_cases hhead : lists.Serves head
    · rw [requireAllChoices_cons_of_serves hhead, ih]
      constructor
      · rintro ⟨front, path, q, back, rfl, hfront, h⟩
        exact ⟨head :: front, path, q, back, rfl, List.forall_mem_cons.2 ⟨hhead, hfront⟩, h⟩
      · rintro ⟨front, path, q, back, heq, hfront, hmissing, hfailure⟩
        cases front with
        | nil =>
          cases heq
          exact (hmissing hhead).elim
        | cons other front =>
          cases heq
          exact ⟨front, path, q, back, rfl, (List.forall_mem_cons.1 hfront).2, hmissing, hfailure⟩
    · obtain ⟨q, hq, hfails⟩ := exists_requireAllChoices_cons hhead
      obtain ⟨path, node⟩ := head
      cases hq
      rw [hfails]
      constructor
      · rintro ⟨⟩
        exact ⟨[], path, q, nodes, rfl, by simp, hhead, rfl⟩
      · rintro ⟨front, path', q', back, heq, hfront, hmissing, rfl⟩
        cases front with
        | nil =>
          cases heq
          rfl
        | cons other front =>
          cases heq
          exact (hhead (hfront _ List.mem_cons_self)).elim

end Choices

section Whole

variable {survey : Survey} {failure : Failure}

theorem name?_of_mem_walk (survey : Survey) :
    ∀ located ∈ survey.walk, located.path.name? = some located.node.name := by
  rw [walk_eq_nodes]
  exact Node.name?_of_mem_locatedAll [] survey.children

theorem exists_symbols_iff :
    (∃ table, survey.symbols = .ok table) ↔ (survey.walk.map (·.node.name)).Nodup := by
  unfold symbols
  rw [← walk_eq_nodes]
  exact exists_declareAll_iff survey.name?_of_mem_walk

theorem symbols_eq_error_iff :
    survey.symbols = .error failure ↔
      ∃ front located back, survey.walk = front ++ located :: back ∧
        (front.map (·.node.name)).Nodup ∧ located.node.name ∈ front.map (·.node.name) ∧
          failure = nameTaken located.node.name := by
  have hnamed := survey.name?_of_mem_walk
  unfold symbols
  rw [← walk_eq_nodes, declareAll_eq_error_iff hnamed]
  refine exists_congr fun front => exists_congr fun located => exists_congr fun back => ?_
  constructor
  · rintro ⟨table, hwalk, hfront, htaken, hfailure⟩
    have hnamed : ∀ other ∈ front, other.path.name? = some other.node.name := fun other hother =>
      hnamed other (hwalk ▸ List.mem_append_left _ hother)
    refine ⟨hwalk, nodup_names_of_declareAll hnamed hfront, ?_, hfailure⟩
    rw [Ne, lookup?_eq_none_iff_of_declareAll hnamed hfront, not_not] at htaken
    exact htaken
  · rintro ⟨hwalk, hnodup, htaken, hfailure⟩
    have hnamed : ∀ other ∈ front, other.path.name? = some other.node.name := fun other hother =>
      hnamed other (hwalk ▸ List.mem_append_left _ hother)
    obtain ⟨table, hfront⟩ := (exists_declareAll_iff hnamed).2 hnodup
    refine ⟨table, hwalk, hfront, ?_, hfailure⟩
    rw [Ne, lookup?_eq_none_iff_of_declareAll hnamed hfront, not_not]
    exact htaken

theorem validate_eq_error_iff :
    survey.validate = .error failure ↔
      survey.symbols = .error failure ∨
        (∃ table, survey.symbols = .ok table) ∧
          requireAllChoices survey.lists survey.nodes = .error failure := by
  unfold validate
  cases survey.symbols with
  | error failure' => simp [bind, Except.bind]
  | ok table =>
    cases requireAllChoices survey.lists survey.nodes with
    | error failure' => simp [bind, Except.bind]
    | ok _ => simp [bind, Except.bind]

theorem validate_reports_first (survey : Survey) :
    (∃ visits : List (List Nat × LocatedNode), visits.map Prod.snd = survey.walk ∧
      (visits.map Prod.fst).Pairwise (· < ·) ∧
      ∀ position located, (position, located) ∈ visits ↔
        Node.StandsAt [] survey.children position located) ∧
    (∀ accepted, survey.validate = .ok accepted ↔ accepted = survey ∧
      (survey.walk.map (·.node.name)).Nodup ∧ ∀ located ∈ survey.walk, survey.lists.Serves located) ∧
    ∀ failure, survey.validate = .error failure ↔
      (∃ front located back, survey.walk = front ++ located :: back ∧
        (front.map (·.node.name)).Nodup ∧ located.node.name ∈ front.map (·.node.name) ∧
          failure = ⟨.duplicateName located.node.name, some (.ofNode located.node.name)⟩) ∨
      (survey.walk.map (·.node.name)).Nodup ∧
        ∃ front path q back, survey.walk = front ++ ⟨path, .question q⟩ :: back ∧
          (∀ other ∈ front, survey.lists.Serves other) ∧
            ¬ survey.lists.Serves ⟨path, .question q⟩ ∧
            failure = ⟨.danglingChoiceList q.name (q.list.getD ""), some (.ofNode q.name)⟩ := by
  refine ⟨survey.exists_visits_walk, fun accepted => ?_, fun failure => ?_⟩
  · rw [validate_eq_ok_iff, exists_symbols_iff, ChoiceLists.offers_iff, walk_eq_nodes]
  · rw [validate_eq_error_iff, symbols_eq_error_iff, exists_symbols_iff,
      requireAllChoices_eq_error_iff, walk_eq_nodes]
    rfl

end Whole

end Survey

end Questionnaire
