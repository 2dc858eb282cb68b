import Questionnaire.Proofs.Expression.Flat
import Questionnaire.Proofs.Expression.PathText

/-!
This module contains which compiled texts are expressions again. The path to a container around the
owner climbs only, and no expression has a lexeme of that text.
-/

namespace Questionnaire

def Reference.readAs (reference : Reference) : TokenKind :=
  match reference.path.toList with
  | [] => .endOfInput
  | c :: cs => (Lexeme.scan c cs).kind

theorem Lexeme.readAs_of_standsBefore {reference : Reference} {gap : List Char} {kind : TokenKind}
    (h : StandsBefore ⟨gap, reference.path.toList, kind⟩ none) : reference.readAs = kind := by
  obtain ⟨c, text, htext, -, hscan⟩ := h
  have hkind := hscan [] rfl
  rw [List.append_nil] at hkind
  dsimp only at htext
  unfold Reference.readAs
  rw [htext]
  dsimp only
  rw [hkind]

namespace Expression

variable {table : SymbolTable} {owner : NodePath} {source : String} {expression : Expression}
variable {kind : TokenKind} {reference : Reference}

theorem readAs_of_encloses {target : NodePath} (h : target.Encloses owner)
    (hpath : reference.path = (owner.relativeTo target).text) :
    (∀ gap next, Lexeme.EndsPath next →
        Lexeme.StandsBefore ⟨gap, reference.path.toList, reference.readAs⟩ next) ∧
      reference.readAs = .malformed .missingStep := by
  obtain ⟨climbs, hclimb⟩ := NodePath.exists_climb_of_encloses h
  rw [hclimb] at hpath
  have hstands (gap : List Char) (next : Option Char) (hnext : Lexeme.EndsPath next) :
      Lexeme.StandsBefore ⟨gap, reference.path.toList, .malformed .missingStep⟩ next := by
    rw [hpath]
    exact Lexeme.standsBefore_climb climbs gap hnext
  have hkind := Lexeme.readAs_of_standsBefore (hstands [] none (by simp [Lexeme.EndsPath]))
  rw [hkind]
  exact ⟨hstands, rfl⟩

theorem standsBefore_readAs (htable : table.Declared)
    (h : reference? table owner source kind = .ok (some reference)) (gap : List Char)
    {next : Option Char} (hnext : Lexeme.EndsPath next) :
    Lexeme.StandsBefore ⟨gap, reference.path.toList, reference.readAs⟩ next := by
  obtain ⟨target, name, -, hname, heq⟩ := reference?_eq_some_iff.1 h
  have hpath : reference.path = (owner.relativeTo target).text := by rw [heq]
  by_cases hencloses : target.Encloses owner
  · exact (readAs_of_encloses hencloses hpath).1 gap next hnext
  · have hne := SymbolTable.ne_nil_of_nameAt? hname
    obtain ⟨symbol, hsymbol, rfl⟩ := SymbolTable.nameAt?_eq_some_iff.1 hname
    have hnamed := htable.isNamed symbol (SymbolTable.mem_of_lookup? hsymbol).1
    obtain ⟨hnames, hvalid⟩ := NodePath.isNamed_relativeTo hne hnamed hencloses
    have hstands (gap : List Char) (next : Option Char) (hnext : Lexeme.EndsPath next) :
        Lexeme.StandsBefore ⟨gap, reference.path.toList, .path reference.path⟩ next := by
      rw [hpath]
      exact Lexeme.standsBefore_relativePath hnames hvalid gap hnext
    rw [Lexeme.readAs_of_standsBefore (hstands [] none (by simp [Lexeme.EndsPath]))]
    exact hstands gap next hnext

theorem lexemes_canonical (htable : table.Declared)
    (h : compile table source owner = .ok expression) :
    ∃ linked, expression.references = linked.filterMap Prod.snd ∧
      (∀ entry ∈ linked, reference? table owner source entry.1.kind = .ok entry.2) ∧
      lexemes expression.canonical =
        (relinked none [] linked).map (reread Reference.readAs) := by
  obtain ⟨formula, linked, hformula, hmap, hlinked, rfl⟩ := compile_eq_ok_iff.1 h
  have hphrase := phrase_of_parse hformula
  have hseparate := separate_lexemes hformula
  rw [← hmap] at hphrase hseparate
  refine ⟨linked, rfl, hlinked, lexemes_reread hphrase hseparate ?_ ?_⟩
  · rintro ⟨lexeme, reference⟩ hentry reference' hreference
    cases hreference
    have hreference := hlinked _ hentry
    obtain ⟨target, name, -, -, heq⟩ := reference?_eq_some_iff.1 hreference
    exact ⟨namesNode_of_reference? hreference, owner.relativeTo target, by rw [heq]⟩
  · rintro ⟨lexeme, reference⟩ hentry reference' hreference gap next hnext
    cases hreference
    exact standsBefore_readAs htable (hlinked _ hentry) gap hnext

theorem avoidsContainers_of_parse (htable : table.Declared)
    (h : compile table source owner = .ok expression) {formula : Formula}
    (hformula : Formula.parse expression.canonical = .ok formula) :
    expression.AvoidsContainers table owner := by
  obtain ⟨linked, hreferences, hlinked, hlexemes⟩ := lexemes_canonical htable h
  have hproper := (phrase_of_parse hformula).isProper
  intro reference hreference symbol hsymbol hencloses
  -- The path of such a reference would be a malformed lexeme of the text.
  have hmem : some reference ∈ (relinked none [] linked).map Prod.snd := by
    rw [hreferences, ← filterMap_snd_relinked linked none []] at hreference
    obtain ⟨entry, hentry, heq⟩ := List.mem_filterMap.1 hreference
    exact List.mem_map.2 ⟨entry, hentry, heq⟩
  obtain ⟨⟨lexeme, _⟩, hentry, rfl⟩ := List.mem_map.1 hmem
  rw [hreferences] at hreference
  obtain ⟨⟨lexeme', _⟩, hentry', rfl⟩ := List.mem_filterMap.1 hreference
  obtain ⟨target, name, -, hname, heq⟩ := reference?_eq_some_iff.1 (hlinked _ hentry')
  obtain ⟨symbol', hsymbol', rfl⟩ := SymbolTable.nameAt?_eq_some_iff.1 hname
  have hsame : symbol' = symbol := by
    rw [heq, Option.mem_def, hsymbol'] at hsymbol
    exact Option.some.inj hsymbol
  subst hsame
  have hkind := (readAs_of_encloses hencloses (congrArg Reference.path heq)).2
  have hfound : reread Reference.readAs (lexeme, some reference) ∈ lexemes expression.canonical := by
    rw [hlexemes]
    exact List.mem_map_of_mem hentry
  exact hproper _ hfound _ hkind

theorem exists_parse_canonical_iff (htable : table.Declared)
    (h : compile table source owner = .ok expression) :
    (∃ formula, Formula.parse expression.canonical = .ok formula) ↔
      expression.AvoidsContainers table owner := by
  constructor
  · rintro ⟨formula, hformula⟩
    exact avoidsContainers_of_parse htable h hformula
  · intro havoids
    obtain ⟨formula, -, hformula, -⟩ := exists_relinked htable h havoids
    exact ⟨formula, hformula⟩

theorem parse_of_flatten {flat : String} (h : flatten table source owner = .ok flat) :
    ∃ formula, Formula.parse source = .ok formula := by
  unfold flatten at h
  obtain ⟨formula, hformula, -⟩ := bind_eq_ok_iff.1 h
  exact ⟨formula, hformula⟩

theorem avoidsContainers_of_flatten (htable : table.Declared)
    (h : compile table source owner = .ok expression) {flat : String}
    (hflat : flatten table expression.canonical owner = .ok flat) :
    expression.AvoidsContainers table owner := by
  obtain ⟨formula, hformula⟩ := parse_of_flatten hflat
  exact avoidsContainers_of_parse htable h hformula

theorem flatten_of_compileTree (h : compileTree table source owner = .ok expression) :
    flatten table expression.canonical owner = .ok expression.source := by
  unfold compileTree at h
  obtain ⟨compiled, -, h⟩ := bind_eq_ok_iff.1 h
  obtain ⟨flat, hflat, h⟩ := bind_eq_ok_iff.1 h
  cases h
  exact hflat

theorem compile_of_compileTree (htable : table.Declared)
    (h : compileTree table source owner = .ok expression) :
    compile table expression.source owner = .ok expression ∧
      expression.AvoidsContainers table owner := by
  unfold compileTree at h
  obtain ⟨compiled, hcompiled, h⟩ := bind_eq_ok_iff.1 h
  obtain ⟨flat, hflat, h⟩ := bind_eq_ok_iff.1 h
  cases h
  have havoids := avoidsContainers_of_flatten htable hcompiled hflat
  obtain ⟨-, flat', -, -, hflat', hagain⟩ := flatten_canonical htable hcompiled havoids
  have heq : flat' = flat := Except.ok.inj (hflat'.symm.trans hflat)
  subst heq
  exact ⟨hagain, havoids⟩

end Expression

end Questionnaire
