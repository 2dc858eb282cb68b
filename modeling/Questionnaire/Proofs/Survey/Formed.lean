import Questionnaire.Proofs.Localized
import Questionnaire.Proofs.Survey.Drafting

/-!
This module contains what is known of every survey that was read, be it from a workbook or from a
form: its texts are trimmed, its questions hold what their types allow, and its lists have choices.
-/

namespace Questionnaire

def Localized.IsTrimmed (t : Localized) : Prop :=
  ∀ entry ∈ t.entries, Text.IsTidy entry.2

theorem Localized.IsTidy.isTrimmed {t : Localized} (h : t.IsTidy) : t.IsTrimmed :=
  h.value_isTidy

structure Question.IsFormed (question : Question) : Prop where
  label : question.label.IsTrimmed
  hint : question.hint.IsTrimmed
  constraintMessage : question.constraintMessage.IsTrimmed
  default : ∀ text ∈ question.default, Text.IsTidy text
  isContainer_eq : question.type.isContainer = false
  calculation_ne : question.type = .calculate → question.calculation ≠ none
  calculation_eq : question.type = .hidden → question.calculation = none
  list : ∀ list ∈ question.list, question.type.isSelect = true

structure Header.IsFormed (header : Header) : Prop where
  label : header.label.IsTrimmed
  hint : header.hint.IsTrimmed

def Node.IsFormed : Node → Prop
  | .question q => q.IsFormed
  | .container kind header _ => (∃ block, kind = .block block) ∧ header.IsFormed

structure Choice.IsFormed (choice : Choice) : Prop where
  name : Text.trim choice.name = choice.name
  label : choice.label.IsTrimmed
  extras : ∀ entry ∈ choice.extras.entries,
    entry.1 ≠ "name" ∧ entry.1 ≠ "label" ∧ Text.trim entry.2 = entry.2

structure ChoiceList.IsFormed (list : ChoiceList) : Prop where
  choices_ne : list.choices ≠ []
  choices : ∀ choice ∈ list.choices, choice.IsFormed

structure ChoiceLists.AreFormed (lists : ChoiceLists) : Prop where
  keys : ∀ entry ∈ lists.entries, entry.1 = entry.2.name
  lists : ∀ entry ∈ lists.entries, entry.2.IsFormed

structure Survey.IsFormed (survey : Survey) (table : SymbolTable) : Prop where
  symbols_eq : survey.symbols = .ok table
  header_eq : survey.header = { name := survey.rootName }
  title : ∀ text ∈ survey.settings.title, Text.IsTidy text
  nodes : ∀ located ∈ survey.nodes, located.node.IsFormed
  lists : survey.lists.AreFormed
  offers : survey.lists.Offers survey.nodes

namespace Survey

section Symbols

variable {survey : Survey} {table : SymbolTable}

theorem declaresAll_of_symbols (h : survey.symbols = .ok table) :
    (SymbolTable.empty survey.rootName).DeclaresAll (survey.nodes.map LocatedNode.symbol) table :=
  declareAll_eq_ok_iff.1 h

theorem nodup_names_of_symbols (h : survey.symbols = .ok table) :
    (survey.nodes.map fun located => located.path.name?).Nodup := by
  have hnodup := SymbolTable.nodup_names_of_declaresAll (declaresAll_of_symbols h)
  rw [List.map_map] at hnodup
  exact hnodup

theorem nodup_paths_of_symbols (h : survey.symbols = .ok table) :
    (survey.nodes.map LocatedNode.path).Nodup := by
  apply List.Nodup.of_map NodePath.name?
  rw [List.map_map]
  exact nodup_names_of_symbols h

theorem eq_of_path_eq (h : survey.symbols = .ok table) {located located' : LocatedNode}
    (hlocated : located ∈ survey.nodes) (hlocated' : located' ∈ survey.nodes)
    (hpath : located.path = located'.path) : located = located' :=
  List.inj_on_of_nodup_map (nodup_paths_of_symbols h) hlocated hlocated' hpath

theorem declared_of_symbols (h : survey.symbols = .ok table)
    (hnamed : ∀ located ∈ survey.nodes, located.path.IsNamed) : table.Declared := by
  apply SymbolTable.declared_of_declaresAll (.empty survey.rootName) _ (declaresAll_of_symbols h)
  rw [List.forall_mem_map]
  exact hnamed

theorem lookup?_of_symbols (h : survey.symbols = .ok table) {located : LocatedNode}
    (hlocated : located ∈ survey.nodes) :
    table.lookup? located.node.name = some located.symbol :=
  SymbolTable.lookup?_of_mem_of_declaresAll (declaresAll_of_symbols h)
    (List.mem_map_of_mem hlocated) (Node.name?_of_mem_locatedAll [] survey.children located hlocated)

end Symbols

variable {survey : Survey}

theorem mem_entries_of_mem_usedLists {list : ChoiceList}
    (hkeys : ∀ entry ∈ survey.lists.entries, entry.1 = entry.2.name)
    (h : list ∈ survey.usedLists) : (list.name, list) ∈ survey.lists.entries := by
  obtain ⟨⟨key, list'⟩, hentry, rfl⟩ := List.mem_map.1 (List.mem_of_mem_filter h)
  have hkey : key = list'.name := hkeys _ hentry
  subst hkey
  exact hentry

theorem IsFormed.isFormed_of_mem_usedLists {table : SymbolTable} (h : survey.IsFormed table) :
    ∀ list ∈ survey.usedLists, list.IsFormed := by
  intro list hlist
  exact h.lists.lists _ (mem_entries_of_mem_usedLists h.lists.keys hlist)

theorem nodup_usedLists (hkeys : ∀ entry ∈ survey.lists.entries, entry.1 = entry.2.name) :
    (survey.usedLists.map ChoiceList.name).Nodup := by
  have hnames : (survey.lists.entries.map Prod.snd).map ChoiceList.name =
      survey.lists.entries.map Prod.fst := by
    rw [List.map_map]
    apply List.map_congr_left
    intro entry hentry
    exact (hkeys entry hentry).symm
  apply List.Nodup.sublist ((List.filter_sublist).map ChoiceList.name)
  rw [hnames]
  exact survey.lists.nodup

theorem entries_usedListsByName (hkeys : ∀ entry ∈ survey.lists.entries, entry.1 = entry.2.name) :
    survey.usedListsByName.entries = survey.usedLists.map fun list => (list.name, list) := by
  apply OrderedMap.entries_ofList
  rw [List.map_map]
  exact nodup_usedLists hkeys

theorem exists_usedList_of_agrees {other : Survey}
    (hkeys : ∀ entry ∈ survey.lists.entries, entry.1 = entry.2.name)
    (hkeys' : ∀ entry ∈ other.lists.entries, entry.1 = entry.2.name)
    (h : survey.usedListsByName.agrees ChoiceList.same other.usedListsByName = true)
    {list : ChoiceList} (hlist : list ∈ survey.usedLists) :
    ∃ list' ∈ other.usedLists, list.same list' = true := by
  have hentry : (list.name, list) ∈ survey.usedListsByName.entries := by
    rw [entries_usedListsByName hkeys]
    exact List.mem_map_of_mem hlist
  obtain ⟨list', hentry', hsame⟩ := OrderedMap.exists_mem_of_agrees h hentry
  rw [entries_usedListsByName hkeys'] at hentry'
  obtain ⟨list'', hlist'', heq⟩ := List.mem_map.1 hentry'
  obtain ⟨-, rfl⟩ := Prod.mk.inj heq
  exact ⟨list'', hlist'', hsame⟩

end Survey

namespace Node

theorem question?_eq_some_iff {node : Node} {question : Question} :
    node.question? = some question ↔ node = .question question := by
  cases node <;> simp [question?]

mutual

theorem forall_path_of_mem_located {p : String → Prop} {path : NodePath}
    (hpath : ∀ name ∈ path, p name) (node : Node)
    (h : ∀ inner ∈ node.located path, p inner.node.name) :
    ∀ inner ∈ node.located path, ∀ name ∈ inner.path, p name := by
  have hown {name : String} (hname : p name) : ∀ name' ∈ NodePath.child path name, p name' := by
    intro name' hname'
    rcases List.mem_append.1 hname' with hname' | hname'
    · exact hpath name' hname'
    · cases List.mem_singleton.1 hname'
      exact hname
  cases node with
  | question q =>
    intro inner hinner
    have hname := h inner hinner
    cases List.mem_singleton.1 hinner
    exact hown hname
  | container kind header children =>
    have hname := h _ List.mem_cons_self
    intro inner hinner
    rcases List.mem_cons.1 hinner with rfl | hinner
    · exact hown hname
    · exact forall_path_of_mem_locatedAll (hown hname) children
        (fun inner hinner => h inner (List.mem_cons_of_mem _ hinner)) inner hinner

theorem forall_path_of_mem_locatedAll {p : String → Prop} {path : NodePath}
    (hpath : ∀ name ∈ path, p name) (nodes : List Node)
    (h : ∀ inner ∈ locatedAll path nodes, p inner.node.name) :
    ∀ inner ∈ locatedAll path nodes, ∀ name ∈ inner.path, p name := by
  cases nodes with
  | nil =>
    intro inner hinner
    cases hinner
  | cons node nodes =>
    intro inner hinner
    rcases List.mem_append.1 hinner with hinner | hinner
    · exact forall_path_of_mem_located hpath node
        (fun inner hinner => h inner (List.mem_append_left _ hinner)) inner hinner
    · exact forall_path_of_mem_locatedAll hpath nodes
        (fun inner hinner => h inner (List.mem_append_right _ hinner)) inner hinner

end

end Node

theorem Survey.forall_path {p : String → Prop} {survey : Survey}
    (h : ∀ located ∈ survey.nodes, p located.node.name) :
    ∀ located ∈ survey.nodes, ∀ name ∈ located.path, p name :=
  Node.forall_path_of_mem_locatedAll (by simp) survey.children h

theorem Survey.isNamed_of_isName {survey : Survey}
    (h : ∀ located ∈ survey.nodes, Text.isName located.node.name = true) :
    ∀ located ∈ survey.nodes, located.path.IsNamed :=
  Survey.forall_path (p := fun name => Text.isName name = true) h

end Questionnaire
