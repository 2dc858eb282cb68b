import Questionnaire.Proofs.Expression.Linking
import Questionnaire.Survey.Basic

/-!
This module contains the theory of declaring all nodes of a survey: the declarations of a survey
depend on the paths and kinds of its nodes only, and every node is found by its name.
-/

namespace Questionnaire

namespace SymbolTable

def DeclaresAll : SymbolTable → List Symbol → SymbolTable → Prop
  | table, [], table' => table' = table
  | table, symbol :: symbols, table' =>
    ∃ next, table.declare symbol.path symbol.kind = .ok next ∧ next.DeclaresAll symbols table'

theorem declaresAll_append {table table' : SymbolTable} {symbols symbols' : List Symbol} :
    table.DeclaresAll (symbols ++ symbols') table' ↔
      ∃ next, table.DeclaresAll symbols next ∧ next.DeclaresAll symbols' table' := by
  induction symbols generalizing table with
  | nil =>
    constructor
    · intro h
      exact ⟨table, rfl, h⟩
    · rintro ⟨next, rfl, h⟩
      exact h
  | cons symbol symbols ih =>
    constructor
    · rintro ⟨next, hnext, h⟩
      obtain ⟨next', hnext', h⟩ := ih.1 h
      exact ⟨next', ⟨next, hnext, hnext'⟩, h⟩
    · rintro ⟨next', ⟨next, hnext, hnext'⟩, h⟩
      exact ⟨next, hnext, ih.2 ⟨next', hnext', h⟩⟩

theorem declaresAll_snoc {table next table' : SymbolTable} {symbols : List Symbol}
    {path : NodePath} {kind : SymbolKind} (h : table.DeclaresAll symbols next)
    (hdeclare : next.declare path kind = .ok table') :
    table.DeclaresAll (symbols ++ [⟨path, kind⟩]) table' :=
  declaresAll_append.2 ⟨next, h, table', hdeclare, rfl⟩

theorem eq_of_declaresAll {table table' : SymbolTable} {symbols : List Symbol}
    (h : table.DeclaresAll symbols table') : table' = ⟨table.root, table.symbols ++ symbols⟩ := by
  induction symbols generalizing table with
  | nil =>
    rw [List.append_nil]
    exact h
  | cons symbol symbols ih =>
    obtain ⟨next, hnext, h⟩ := h
    obtain ⟨name, -, -, rfl⟩ := declare_eq_ok_iff.1 hnext
    rw [ih h]
    simp

theorem declared_of_declaresAll {table table' : SymbolTable} {symbols : List Symbol}
    (htable : table.Declared) (hnamed : ∀ symbol ∈ symbols, symbol.path.IsNamed)
    (h : table.DeclaresAll symbols table') : table'.Declared := by
  induction symbols generalizing table with
  | nil =>
    rw [show table' = table from h]
    exact htable
  | cons symbol symbols ih =>
    obtain ⟨next, hnext, h⟩ := h
    apply ih _ (fun symbol hsymbol => hnamed symbol (List.mem_cons_of_mem _ hsymbol)) h
    exact .declare htable (hnamed symbol List.mem_cons_self) hnext

theorem lookup?_of_declaresAll {table table' : SymbolTable} {symbols : List Symbol}
    (h : table.DeclaresAll symbols table') {name : String} {symbol : Symbol}
    (hlookup : table.lookup? name = some symbol) : table'.lookup? name = some symbol := by
  rw [eq_of_declaresAll h]
  unfold lookup? at hlookup ⊢
  rw [List.find?_append, hlookup]
  rfl

theorem lookup?_of_mem_of_declaresAll {table table' : SymbolTable} {symbols : List Symbol}
    (h : table.DeclaresAll symbols table') {symbol : Symbol} (hsymbol : symbol ∈ symbols)
    {name : String} (hname : symbol.path.name? = some name) :
    table'.lookup? name = some symbol := by
  obtain ⟨before, behind, rfl⟩ := List.append_of_mem hsymbol
  obtain ⟨middle, -, next, hdeclare, hbehind⟩ := declaresAll_append.1 h
  have hnext : next.lookup? name = some symbol := by
    rw [lookup?_declare hdeclare, if_pos hname]
  exact lookup?_of_declaresAll hbehind hnext

theorem nodup_names_of_declaresAll {table table' : SymbolTable} {symbols : List Symbol}
    (h : table.DeclaresAll symbols table') : (symbols.map (·.path.name?)).Nodup := by
  induction symbols generalizing table with
  | nil => exact .nil
  | cons head symbols ih =>
    obtain ⟨next, hnext, h⟩ := h
    rw [List.map_cons, List.nodup_cons]
    refine ⟨?_, ih h⟩
    intro hmem
    obtain ⟨symbol, hsymbol, hname⟩ := List.mem_map.1 hmem
    -- The name of the head is taken when the symbols behind it are declared.
    obtain ⟨before, behind, rfl⟩ := List.append_of_mem hsymbol
    obtain ⟨table'', hbefore, table''', hdeclare, -⟩ := declaresAll_append.1 h
    obtain ⟨name, hname', hnone, -⟩ := declare_eq_ok_iff.1 hdeclare
    have hhead : next.lookup? name = some head := by
      rw [lookup?_declare hnext, if_pos (by rw [← hname, hname'])]
    rw [lookup?_of_declaresAll hbefore hhead] at hnone
    cases hnone

end SymbolTable

def LocatedNode.symbol (located : LocatedNode) : Symbol :=
  ⟨located.path, located.node.symbolKind⟩

namespace Survey

theorem declareAll_eq_ok_iff {table table' : SymbolTable} {nodes : List LocatedNode} :
    declareAll table nodes = .ok table' ↔
      table.DeclaresAll (nodes.map LocatedNode.symbol) table' := by
  induction nodes generalizing table with
  | nil =>
    constructor
    · intro h
      cases h
      rfl
    · intro h
      rw [show table' = table from h]
      rfl
  | cons located nodes ih =>
    obtain ⟨path, node⟩ := located
    unfold declareAll
    rw [bind_eq_ok_iff, List.map_cons, SymbolTable.DeclaresAll]
    simp only [orPlacing_eq_ok_iff, ih]
    rfl

end Survey

namespace Node

theorem forall_expressions_question {p : Expression → Prop} {q : Question} :
    (∀ expression ∈ (question q).expressions, p expression) ↔
      (∀ expression ∈ q.relevant, p expression) ∧ (∀ expression ∈ q.constraint, p expression) ∧
        ∀ expression ∈ q.calculation, p expression := by
  simp only [expressions, List.forall_mem_append, Option.mem_toList, Option.mem_def, and_assoc]

theorem forall_expressions_container {p : Expression → Prop} {kind : ContainerKind}
    {header : Header} {children : List Node} :
    (∀ expression ∈ (container kind header children).expressions, p expression) ↔
      ∀ expression ∈ header.relevant, p expression := by
  simp only [expressions, Option.mem_toList, Option.mem_def]

mutual

theorem name?_of_mem_located (path : NodePath) (node : Node) :
    ∀ inner ∈ node.located path, inner.path.name? = some inner.node.name := by
  cases node with
  | question q =>
    intro inner hinner
    cases List.mem_singleton.1 hinner
    exact List.getLast?_concat
  | container kind header children =>
    intro inner hinner
    rcases List.mem_cons.1 hinner with rfl | hinner
    · exact List.getLast?_concat
    · exact name?_of_mem_locatedAll (NodePath.child path header.name) children inner hinner

theorem name?_of_mem_locatedAll (path : NodePath) (nodes : List Node) :
    ∀ inner ∈ locatedAll path nodes, inner.path.name? = some inner.node.name := by
  cases nodes with
  | nil =>
    intro inner hinner
    cases hinner
  | cons node nodes =>
    intro inner hinner
    rcases List.mem_append.1 hinner with hinner | hinner
    · exact name?_of_mem_located path node inner hinner
    · exact name?_of_mem_locatedAll path nodes inner hinner

end

theorem mem_located (path : NodePath) (node : Node) :
    ⟨NodePath.child path node.name, node⟩ ∈ node.located path := by
  cases node <;> exact List.mem_cons_self

theorem mem_locatedAll {nodes : List Node} {node : Node} (h : node ∈ nodes) (path : NodePath) :
    ⟨NodePath.child path node.name, node⟩ ∈ locatedAll path nodes := by
  induction nodes with
  | nil => cases h
  | cons head nodes ih =>
    rcases List.mem_cons.1 h with rfl | h
    · exact List.mem_append_left _ (mem_located path node)
    · exact List.mem_append_right _ (ih h)

theorem name_ne_of_declaresAll {table table' : SymbolTable} {path : NodePath} {node : Node}
    {nodes : List Node}
    (h : table.DeclaresAll ((locatedAll path (node :: nodes)).map LocatedNode.symbol) table') :
    ∀ other ∈ nodes, other.name ≠ node.name := by
  intro other hother heq
  have hnodup := SymbolTable.nodup_names_of_declaresAll h
  rw [List.map_map, locatedAll, List.map_append, List.nodup_append] at hnodup
  apply hnodup.2.2 _ (List.mem_map_of_mem (mem_located path node)) _
    (List.mem_map_of_mem (mem_locatedAll hother path))
  rw [heq]
  rfl

theorem locatedAll_append (path : NodePath) (nodes nodes' : List Node) :
    locatedAll path (nodes ++ nodes') = locatedAll path nodes ++ locatedAll path nodes' := by
  induction nodes with
  | nil => rfl
  | cons node nodes ih => rw [List.cons_append, locatedAll, locatedAll, ih, List.append_assoc]

end Node

end Questionnaire
