import Questionnaire.Expression.Compilation
import Questionnaire.Proofs.Expression.Lexing
import Questionnaire.Proofs.Fallible

/-!
This module contains the theory of finding the nodes that an expression mentions, by name and by
path.
-/

namespace Questionnaire

/--
Symbol tables that declarations of nodes with valid names result in.
-/
inductive SymbolTable.Declared : SymbolTable → Prop
  | empty (root : String) : Declared (.empty root)
  | declare {table table' : SymbolTable} {path : NodePath} {kind : SymbolKind}
      (htable : Declared table) (hpath : path.IsNamed)
      (hdeclare : table.declare path kind = .ok table') : Declared table'

namespace SymbolTable

def nested : SymbolTable :=
  ⟨"data", [⟨["age"], .question⟩, ⟨["g"], .block .group⟩, ⟨["g", "x"], .question⟩]⟩

theorem declare_eq_ok_iff {table table' : SymbolTable} {path : NodePath} {kind : SymbolKind} :
    table.declare path kind = .ok table' ↔
      ∃ name, path.name? = some name ∧ table.lookup? name = none ∧
        table' = ⟨table.root, table.symbols ++ [⟨path, kind⟩]⟩ := by
  unfold declare
  cases path.name? with
  | none => simp
  | some name =>
    cases hlookup : table.lookup? name with
    | none => simp [hlookup, eq_comm]
    | some symbol => simp [hlookup]

theorem declare_child_eq_ok_iff {table table' : SymbolTable} {path : NodePath} {name : String}
    {kind : SymbolKind} :
    table.declare (NodePath.child path name) kind = .ok table' ↔ table.lookup? name = none ∧
      table' = ⟨table.root, table.symbols ++ [⟨NodePath.child path name, kind⟩]⟩ := by
  have hname : (NodePath.child path name).name? = some name := List.getLast?_concat
  rw [declare_eq_ok_iff, hname]
  simp

theorem lookup?_declare_child {table table' : SymbolTable} {path : NodePath} {own : String}
    {kind : SymbolKind} (h : table.declare (NodePath.child path own) kind = .ok table')
    (name : String) : table'.lookup? name = none ↔ table.lookup? name = none ∧ own ≠ name := by
  have hname : (NodePath.child path own).name? = some own := List.getLast?_concat
  rw [lookup?_declare h, hname]
  by_cases heq : own = name <;> simp [heq]

theorem Declared.isNamed {table : SymbolTable} (h : table.Declared) :
    ∀ symbol ∈ table.symbols, symbol.path.IsNamed := by
  induction h with
  | empty root => simp [SymbolTable.empty]
  | declare htable hpath hdeclare ih =>
    obtain ⟨name, -, -, rfl⟩ := declare_eq_ok_iff.1 hdeclare
    intro symbol hsymbol
    rcases List.mem_append.1 hsymbol with hsymbol | hsymbol
    · exact ih symbol hsymbol
    · cases List.mem_singleton.1 hsymbol
      exact hpath

theorem declared_nested : nested.Declared := by
  have hage : (SymbolTable.empty "data").declare ["age"] .question =
      .ok ⟨"data", [⟨["age"], .question⟩]⟩ := rfl
  have hgroup : SymbolTable.declare ⟨"data", [⟨["age"], .question⟩]⟩ ["g"] (.block .group) =
      .ok ⟨"data", [⟨["age"], .question⟩, ⟨["g"], .block .group⟩]⟩ := rfl
  have hinner : SymbolTable.declare
      ⟨"data", [⟨["age"], .question⟩, ⟨["g"], .block .group⟩]⟩ ["g", "x"] .question =
        .ok nested := rfl
  apply Declared.declare _ (by decide) hinner
  apply Declared.declare _ (by decide) hgroup
  apply Declared.declare _ (by decide) hage
  exact .empty "data"

theorem mem_of_lookup? {table : SymbolTable} {name : String} {symbol : Symbol}
    (h : table.lookup? name = some symbol) :
    symbol ∈ table.symbols ∧ symbol.path.name? = some name := by
  unfold lookup? at h
  constructor
  · exact List.mem_of_find?_eq_some h
  · have := List.find?_some h
    simpa using this

theorem nameAt?_eq_some_iff {table : SymbolTable} {path : NodePath} {name : String} :
    table.nameAt? path = some name ↔
      ∃ symbol, table.lookup? name = some symbol ∧ symbol.path = path := by
  unfold nameAt?
  constructor
  · intro h
    obtain ⟨own, hown, h⟩ := Option.bind_eq_some_iff.1 h
    obtain ⟨symbol, hsymbol, h⟩ := Option.bind_eq_some_iff.1 h
    split at h
    · next hpath =>
      cases h
      exact ⟨symbol, hsymbol, hpath⟩
    · cases h
  · rintro ⟨symbol, hsymbol, rfl⟩
    have hname := (mem_of_lookup? hsymbol).2
    rw [hname]
    simp [hsymbol]

theorem ne_nil_of_nameAt? {table : SymbolTable} {path : NodePath} {name : String}
    (h : table.nameAt? path = some name) : path ≠ [] := by
  obtain ⟨symbol, hsymbol, rfl⟩ := nameAt?_eq_some_iff.1 h
  intro hnil
  have hname := (mem_of_lookup? hsymbol).2
  rw [hnil] at hname
  cases hname

end SymbolTable

namespace Expression

variable {table : SymbolTable} {owner : NodePath} {source source' : String}

theorem target?_source {kind : TokenKind} {target : Option NodePath}
    (h : target? table owner source kind = .ok target) :
    target? table owner source' kind = .ok target := by
  unfold target? at h ⊢
  split at h
  · split at h
    · cases h
    · exact h
  · unfold pathTarget? at h ⊢
    split at h
    · next hdot =>
      rw [if_pos hdot]
      exact h
    · next hdot =>
      rw [if_neg hdot]
      dsimp only at h ⊢
      split at h
      · cases h
      · exact h
      · exact h
  · exact h

theorem target?_of_namesNode_eq_false {kind : TokenKind} (h : kind.namesNode = false) :
    target? table owner source kind = .ok none := by
  cases kind <;> first | rfl | cases h

theorem reference?_eq_some_iff {kind : TokenKind} {reference : Reference} :
    reference? table owner source kind = .ok (some reference) ↔
      ∃ target name, target? table owner source kind = .ok (some target) ∧
        table.nameAt? target = some name ∧
          reference = ⟨name, (owner.relativeTo target).text, (owner.relativeTo target).scope⟩ := by
  unfold reference?
  rw [bind_eq_ok_iff]
  constructor
  · rintro ⟨target, htarget, h⟩
    cases target with
    | none => cases h
    | some target =>
      dsimp only at h
      split at h
      · cases h
      · next name hname =>
        cases h
        exact ⟨target, name, htarget, hname, rfl⟩
  · rintro ⟨target, name, htarget, hname, rfl⟩
    refine ⟨some target, htarget, ?_⟩
    dsimp only
    rw [hname]

theorem namesNode_of_reference? {kind : TokenKind} {reference : Reference}
    (h : reference? table owner source kind = .ok (some reference)) : kind.namesNode = true := by
  obtain ⟨target, name, htarget, -, -⟩ := reference?_eq_some_iff.1 h
  rw [← Bool.not_eq_false]
  intro hkind
  rw [target?_of_namesNode_eq_false hkind] at htarget
  cases htarget

theorem reference?_eq_none_iff {kind : TokenKind} :
    reference? table owner source kind = .ok none ↔
      target? table owner source kind = .ok none := by
  unfold reference?
  rw [bind_eq_ok_iff]
  constructor
  · rintro ⟨target, htarget, h⟩
    cases target with
    | none => exact htarget
    | some target =>
      dsimp only at h
      split at h <;> cases h
  · intro h
    exact ⟨none, h, rfl⟩

theorem reference?_source {kind : TokenKind} {reference : Option Reference}
    (h : reference? table owner source kind = .ok reference) :
    reference? table owner source' kind = .ok reference := by
  cases reference with
  | none =>
    rw [reference?_eq_none_iff] at h ⊢
    exact target?_source h
  | some reference =>
    rw [reference?_eq_some_iff] at h ⊢
    obtain ⟨target, name, htarget, h⟩ := h
    exact ⟨target, name, target?_source htarget, h⟩

theorem target?_relativeTo {target : NodePath} (hne : target ≠ []) (hnamed : target.IsNamed)
    (hout : ¬ target.Encloses owner) :
    target? table owner source (.path (owner.relativeTo target).text) = .ok (some target) := by
  obtain ⟨hnames, -⟩ := NodePath.isNamed_relativeTo hne hnamed hout
  obtain ⟨c, text, htext, hc⟩ := Lexeme.exists_toList_text _
  have hdot : (owner.relativeTo target).text ≠ "." := by
    intro hdot
    rw [hdot] at htext
    cases htext
  unfold target? pathTarget?
  dsimp only
  rw [if_neg hdot, htext, if_neg (by simp), NodePath.resolve?_text_relativeTo hne hnamed hout]
  cases target with
  | nil => exact absurd rfl hne
  | cons name target => rfl

theorem annotate_eq_ok_iff {α : Type} {step : TokenKind → Except Failure (Option α)}
    {lexemes : List Lexeme} {annotated : List (Lexeme × Option α)} :
    annotate step lexemes = .ok annotated ↔
      annotated.map Prod.fst = lexemes ∧
        ∀ entry ∈ annotated, step entry.1.kind = .ok entry.2 := by
  induction lexemes generalizing annotated with
  | nil =>
    unfold annotate
    constructor
    · intro h
      cases h
      simp
    · rintro ⟨h, -⟩
      rw [List.map_eq_nil_iff.1 h]
  | cons lexeme lexemes ih =>
    unfold annotate
    rw [bind_eq_ok_iff]
    constructor
    · rintro ⟨result, hresult, h⟩
      obtain ⟨results, hresults, h⟩ := bind_eq_ok_iff.1 h
      cases h
      obtain ⟨hmap, hsteps⟩ := ih.1 hresults
      refine ⟨by rw [List.map_cons, hmap], ?_⟩
      intro entry hentry
      rcases List.mem_cons.1 hentry with rfl | hentry
      · exact hresult
      · exact hsteps entry hentry
    · rintro ⟨hmap, hsteps⟩
      cases annotated with
      | nil => cases hmap
      | cons entry annotated =>
        obtain ⟨lexeme', result⟩ := entry
        simp only [List.map_cons, List.cons.injEq] at hmap
        obtain ⟨rfl, hmap⟩ := hmap
        refine ⟨result, hsteps _ List.mem_cons_self, ?_⟩
        rw [ih.2 ⟨hmap, fun entry hentry => hsteps entry (List.mem_cons_of_mem _ hentry)⟩]
        rfl

end Expression

end Questionnaire
