import Questionnaire.Proofs.Expression.Linking
import Questionnaire.Proofs.Expression.Renaming

/-!
This module contains what the mentions in an expression stand for, told from the names of the
declared nodes and from the steps of paths. These are the nodes that the compilation finds.
-/

namespace Questionnaire

namespace SymbolTable

variable {table : SymbolTable}

def paths (table : SymbolTable) : List NodePath :=
  table.symbols.map Symbol.path

theorem Declared.lookup?_of_mem (h : table.Declared) {symbol : Symbol} {name : String}
    (hsymbol : symbol ∈ table.symbols) (hname : symbol.path.name? = some name) :
    table.lookup? name = some symbol := by
  induction h with
  | empty root => cases hsymbol
  | @declare table table' path kind _ _ hdeclare ih =>
    rw [lookup?_declare hdeclare]
    obtain ⟨own, hown, hfree, rfl⟩ := declare_eq_ok_iff.1 hdeclare
    rcases List.mem_append.1 hsymbol with hsymbol | hsymbol
    · have hlookup := ih hsymbol
      rw [if_neg, hlookup]
      intro heq
      rw [hown] at heq
      cases heq
      rw [hfree] at hlookup
      cases hlookup
    · cases List.mem_singleton.1 hsymbol
      rw [if_pos hname]

theorem Declared.exists_name (h : table.Declared) {symbol : Symbol}
    (hsymbol : symbol ∈ table.symbols) : ∃ name, symbol.path.name? = some name := by
  induction h with
  | empty root => cases hsymbol
  | declare _ _ hdeclare ih =>
    obtain ⟨own, hown, -, rfl⟩ := declare_eq_ok_iff.1 hdeclare
    rcases List.mem_append.1 hsymbol with hsymbol | hsymbol
    · exact ih hsymbol
    · cases List.mem_singleton.1 hsymbol
      exact ⟨own, hown⟩

theorem mem_paths_of_nameAt? {path : NodePath} {name : String}
    (h : table.nameAt? path = some name) : path ∈ table.paths := by
  obtain ⟨symbol, hsymbol, rfl⟩ := nameAt?_eq_some_iff.1 h
  exact List.mem_map_of_mem (mem_of_lookup? hsymbol).1

end SymbolTable

/--
Whether a mention stands for a node. A name stands for the node that has it, and a path for the node
that it leads to, from the root if it is absolute and else from the owner of the expression. The
path `.` is the value of the owner, and stands for no node.
-/
def NodeMention.StandsFor (root : String) (owner target : NodePath) : NodeMention → Prop
  | name own _ => target.name? = some own
  | path text _ => text ≠ "." ∧ (text = target.absolute root ∨ owner.LeadsTo text target)

instance (root : String) (owner target : NodePath) (mention : NodeMention) :
    Decidable (mention.StandsFor root owner target) :=
  match mention with
  | .name _ _ => inferInstanceAs (Decidable (_ = _))
  | .path _ _ => inferInstanceAs (Decidable (_ ∧ _))

namespace Expression

def mentioned? (table : SymbolTable) (owner : NodePath) (mention : NodeMention) : Option NodePath :=
  table.paths.find? (mention.StandsFor table.root owner ·)

variable {table : SymbolTable} {owner target : NodePath} {source : String} {mention : NodeMention}

theorem mentioned?_eq_some (h : mentioned? table owner mention = some target) :
    target ∈ table.paths ∧ mention.StandsFor table.root owner target :=
  ⟨List.mem_of_find?_eq_some h, by simpa using List.find?_some h⟩

def led? (root : String) (owner : NodePath) (path : String) : Option NodePath :=
  if path.toList.head? == some '/' then NodePath.ofAbsolute? root path else owner.resolve? path

theorem pathTarget?_eq_ok {root path : String} {found : Option NodePath}
    (h : pathTarget? root owner path source = .ok found) :
    path = "." ∧ found = none ∨
      path ≠ "." ∧ ∃ target, led? root owner path = some target ∧
        found = if target = [] then none else some target := by
  unfold pathTarget? at h
  split at h
  · next hdot =>
    cases h
    exact Or.inl ⟨hdot, rfl⟩
  · next hdot =>
    refine Or.inr ⟨hdot, ?_⟩
    dsimp only at h
    split at h
    · cases h
    · next hroot =>
      cases h
      exact ⟨[], hroot, rfl⟩
    · next target hne htarget =>
      cases h
      refine ⟨target, htarget, ?_⟩
      rw [if_neg]
      rintro rfl
      exact hne rfl

theorem standsFor_of_led? {root path : String} {span : Span} (hdot : path ≠ ".")
    (h : led? root owner path = some target) :
    (NodeMention.path path span).StandsFor root owner target := by
  refine ⟨hdot, ?_⟩
  unfold led? at h
  split at h
  · exact Or.inl (NodePath.ofAbsolute?_eq_some h).2
  · exact Or.inr (NodePath.resolve?_eq_some_iff.1 h)

theorem eq_of_led? {root path : String} {span : Span} {found : NodePath}
    (h : led? root owner path = some found) (hnamed : target.IsNamed)
    (hstands : (NodeMention.path path span).StandsFor root owner target) : found = target := by
  unfold led? at h
  obtain ⟨-, rfl | hleads⟩ := hstands
  · have hhead : (target.absolute root).toList.head? = some '/' := by simp [NodePath.absolute]
    rw [hhead, beq_self_eq_true, if_pos rfl] at h
    have htarget := NodePath.ofAbsolute?_absolute (NodePath.ofAbsolute?_eq_some h).1 hnamed
    rw [h] at htarget
    exact Option.some.inj htarget
  · have htarget := NodePath.resolve?_eq_some_iff.2 hleads
    rw [if_neg, htarget] at h
    · exact (Option.some.inj h).symm
    · intro hhead
      rw [NodePath.resolve?_of_slash owner (eq_of_beq hhead)] at htarget
      cases htarget

theorem standsFor_of_target? (h : target? table owner source mention.kind = .ok (some target)) :
    mention.StandsFor table.root owner target := by
  cases mention with
  | name own span =>
    unfold target? at h
    dsimp only [NodeMention.kind] at h
    split at h
    · cases h
    · next symbol hsymbol =>
      cases h
      exact (SymbolTable.mem_of_lookup? hsymbol).2
  | path path span =>
    rcases pathTarget?_eq_ok h with ⟨-, h⟩ | ⟨hdot, found, hled, h⟩
    · cases h
    · split at h
      · cases h
      · cases h
        exact standsFor_of_led? hdot hled

theorem standsFor_root_of_target? (h : target? table owner source mention.kind = .ok none) :
    mention.kind = .path "." ∨ mention.StandsFor table.root owner [] := by
  cases mention with
  | name own span =>
    unfold target? at h
    dsimp only [NodeMention.kind] at h
    split at h <;> cases h
  | path path span =>
    rcases pathTarget?_eq_ok h with ⟨rfl, -⟩ | ⟨hdot, found, hled, h⟩
    · exact Or.inl rfl
    · split at h
      · next hroot =>
        rw [hroot] at hled
        exact Or.inr (standsFor_of_led? hdot hled)
      · cases h

theorem target?_of_standsFor (htable : table.Declared) {found : Option NodePath}
    (h : target? table owner source mention.kind = .ok found) (htarget : target ∈ table.paths)
    (hstands : mention.StandsFor table.root owner target) : found = some target := by
  obtain ⟨symbol, hsymbol, rfl⟩ := List.mem_map.1 htarget
  cases mention with
  | name own span =>
    unfold target? at h
    dsimp only [NodeMention.kind] at h
    rw [htable.lookup?_of_mem hsymbol hstands] at h
    cases h
    rfl
  | path path span =>
    rcases pathTarget?_eq_ok h with ⟨hdot, -⟩ | ⟨-, found', hled, rfl⟩
    · exact absurd hdot hstands.1
    · obtain rfl := eq_of_led? hled (htable.isNamed symbol hsymbol) hstands
      obtain ⟨name, hname⟩ := htable.exists_name hsymbol
      rw [if_neg]
      intro hnil
      rw [hnil] at hname
      cases hname

theorem mentioned?_eq (htable : table.Declared) {found : Option NodePath}
    (h : target? table owner source mention.kind = .ok found)
    (hdeclared : ∀ target ∈ found, target ∈ table.paths) :
    mentioned? table owner mention = found := by
  cases hmentioned : mentioned? table owner mention with
  | some target =>
    obtain ⟨htarget, hstands⟩ := mentioned?_eq_some hmentioned
    exact (target?_of_standsFor htable h htarget hstands).symm
  | none =>
    cases found with
    | none => rfl
    | some target =>
      have hnone := List.find?_eq_none.1 hmentioned target (hdeclared target rfl)
      exact absurd (by simpa using standsFor_of_target? h) hnone

theorem mentioned?_eq_none (htable : table.Declared)
    (h : reference? table owner source mention.kind = .ok none) :
    mentioned? table owner mention = none :=
  mentioned?_eq htable (reference?_eq_none_iff.1 h) (by simp)

theorem mentioned?_eq_of_nameAt? (htable : table.Declared) {name : String}
    (h : target? table owner source mention.kind = .ok (some target))
    (hname : table.nameAt? target = some name) : mentioned? table owner mention = some target := by
  apply mentioned?_eq htable h
  intro target' htarget'
  cases htarget'
  exact SymbolTable.mem_paths_of_nameAt? hname

theorem exists_mentioned? (htable : table.Declared) {reference : Reference}
    (h : reference? table owner source mention.kind = .ok (some reference)) :
    ∃ target name, mentioned? table owner mention = some target ∧
      table.nameAt? target = some name ∧
        reference = ⟨name, (owner.relativeTo target).text, (owner.relativeTo target).scope⟩ := by
  obtain ⟨target, name, htarget, hname, heq⟩ := reference?_eq_some_iff.1 h
  exact ⟨target, name, mentioned?_eq_of_nameAt? htable htarget hname, hname, heq⟩

end Expression

end Questionnaire
