import Questionnaire.Proofs.Expression.Mention
import Questionnaire.Proofs.Expression.PathText
import Questionnaire.Proofs.Expression.Relinking

/-!
This module contains what the compilation of an expression keeps: the compiled text has the structure
of its source, with relative paths in place of the mentions of nodes, and compiles to itself.
-/

namespace Questionnaire

theorem Token.forall₂_locate {R : Token → Token → Prop} {lexemes lexemes' : List Lexeme}
    (h : lexemes.Forall₂ (fun lexeme lexeme' => ∀ span span',
      R ⟨lexeme.kind, span⟩ ⟨lexeme'.kind, span'⟩) lexemes') (position position' : Position) :
    (Token.locate position lexemes).Forall₂ R (Token.locate position' lexemes') := by
  induction h generalizing position position' with
  | nil => exact .nil
  | cons hhead _ ih => exact .cons (hhead _ _) (ih _ _)

namespace Expression

def AvoidsContainers (table : SymbolTable) (owner : NodePath) (expression : Expression) : Prop :=
  ∀ reference ∈ expression.references, ∀ symbol ∈ table.lookup? reference.name,
    ¬ symbol.path.Encloses owner

instance (table : SymbolTable) (owner : NodePath) (expression : Expression) :
    Decidable (expression.AvoidsContainers table owner) :=
  inferInstanceAs (Decidable (∀ reference ∈ expression.references, _))

def relink (table : SymbolTable) (owner : NodePath) (mention : NodeMention) : NodeMention :=
  match mentioned? table owner mention with
  | some target => .path (owner.relativeTo target).text mention.span
  | none => mention

structure Records (table : SymbolTable) (owner target : NodePath) (mention : NodeMention)
    (reference : Reference) : Prop where
  mentioned_eq : mentioned? table owner mention = some target
  declared : ∃ symbol ∈ table.symbols,
    symbol.path.name? = some reference.name ∧ symbol.path = target
  name_eq : ∀ name span, mention = .name name span → reference.name = name
  path_eq : reference.path = (owner.relativeTo target).text
  scope_eq : reference.scope = (owner.relativeTo target).scope
  resolves : owner.resolve? reference.path = some target

structure Linked (table : SymbolTable) (owner : NodePath) (source : String)
    (entry : Lexeme × Option Reference) : Prop where
  reference_eq : reference? table owner source entry.1.kind = .ok entry.2
  linksByPath : LinksByPath entry
  relinks : ∀ reference ∈ entry.2,
    reference? table owner source (.path reference.path) = .ok (some reference)
  mentioned_eq : entry.2 = none → ∀ mention : NodeMention, mention.kind = entry.1.kind →
    mentioned? table owner mention = none
  records : ∀ reference ∈ entry.2, ∀ mention : NodeMention, mention.kind = entry.1.kind →
    ∃ target, Records table owner target mention reference

variable {table : SymbolTable} {owner : NodePath} {source : String} {expression : Expression}

theorem linked_entry (htable : table.Declared) {entry : Lexeme × Option Reference}
    (hentry : reference? table owner source entry.1.kind = .ok entry.2)
    (havoids : ∀ reference ∈ entry.2, ∀ symbol ∈ table.lookup? reference.name,
      ¬ symbol.path.Encloses owner) : Linked table owner source entry := by
  obtain ⟨lexeme, _ | reference⟩ := entry
  · refine ⟨hentry, by simp [LinksByPath], by simp, ?_, by simp⟩
    intro _ mention hkind
    dsimp only at hentry hkind
    rw [← hkind] at hentry
    exact mentioned?_eq_none htable hentry
  · obtain ⟨target, name, htarget, hname, heq⟩ := reference?_eq_some_iff.1 hentry
    have hne := SymbolTable.ne_nil_of_nameAt? hname
    obtain ⟨symbol, hsymbol, hpath⟩ := SymbolTable.nameAt?_eq_some_iff.1 hname
    obtain ⟨hmem, hown⟩ := SymbolTable.mem_of_lookup? hsymbol
    have hnamed : target.IsNamed := by
      rw [← hpath]
      exact htable.isNamed symbol hmem
    -- Without this the path to the node would climb to it only, and name no step at all.
    have hout : ¬ target.Encloses owner := by
      rw [← hpath]
      apply havoids reference rfl
      rw [heq]
      exact hsymbol
    have hkind := namesNode_of_reference? hentry
    obtain ⟨hnames, hvalid⟩ := NodePath.isNamed_relativeTo hne hnamed hout
    refine ⟨hentry, ?_, ?_, by simp, ?_⟩
    · intro reference' hreference'
      cases hreference'
      exact ⟨hkind, _, hnames, hvalid, by rw [heq]⟩
    · intro reference' hreference'
      cases hreference'
      rw [reference?_eq_some_iff]
      refine ⟨target, name, ?_, hname, heq⟩
      rw [heq]
      exact target?_relativeTo hne hnamed hout
    · intro reference' hreference' mention hmention
      cases hreference'
      dsimp only at htarget hmention
      rw [← hmention] at htarget
      have hmentioned := mentioned?_eq_of_nameAt? htable htarget hname
      refine ⟨target, hmentioned, ⟨symbol, hmem, ?_, hpath⟩, ?_, ?_, ?_, ?_⟩
      · rw [heq]
        exact hown
      · rintro own span rfl
        have hstands := (mentioned?_eq_some hmentioned).2
        rw [← hpath] at hstands
        rw [heq]
        exact Option.some.inj (hown.symm.trans hstands)
      · rw [heq]
      · rw [heq]
      · rw [heq]
        exact NodePath.resolve?_text_relativeTo hne hnamed hout

theorem compile_eq_ok_iff :
    compile table source owner = .ok expression ↔
      ∃ formula linked, Formula.parse source = .ok formula ∧
        linked.map Prod.fst = lexemes source ∧
        (∀ entry ∈ linked, reference? table owner source entry.1.kind = .ok entry.2) ∧
        expression = ⟨source, String.ofList (spliceRelative none linked),
          linked.filterMap Prod.snd⟩ := by
  unfold compile
  rw [bind_eq_ok_iff]
  constructor
  · rintro ⟨formula, hformula, h⟩
    obtain ⟨linked, hlinked, h⟩ := bind_eq_ok_iff.1 h
    obtain ⟨hmap, hsteps⟩ := annotate_eq_ok_iff.1 hlinked
    cases h
    exact ⟨formula, linked, hformula, hmap, hsteps, rfl⟩
  · rintro ⟨formula, linked, hformula, hmap, hsteps, rfl⟩
    refine ⟨formula, hformula, ?_⟩
    rw [annotate_eq_ok_iff.2 ⟨hmap, hsteps⟩]
    rfl

theorem linked_of_compile (htable : table.Declared)
    (h : compile table source owner = .ok expression)
    (havoids : expression.AvoidsContainers table owner) :
    ∃ formula linked, Formula.parse source = .ok formula ∧
      linked.map Prod.fst = lexemes source ∧
      (∀ entry ∈ linked, Linked table owner source entry) ∧
      expression = ⟨source, String.ofList (spliceRelative none linked),
        linked.filterMap Prod.snd⟩ := by
  obtain ⟨formula, linked, hformula, hmap, hsteps, rfl⟩ := compile_eq_ok_iff.1 h
  refine ⟨formula, linked, hformula, hmap, ?_, rfl⟩
  intro entry hentry
  apply linked_entry htable (hsteps entry hentry)
  intro reference hreference
  apply havoids
  exact List.mem_filterMap.2 ⟨entry, hentry, hreference⟩

theorem mention?_eq_some {token : Token} {mention : NodeMention}
    (h : token.mention? = some mention) : mention.kind = token.kind := by
  unfold Token.mention? at h
  split at h
  · next hkind =>
    cases h
    exact hkind.symm
  · next hkind =>
    cases h
    exact hkind.symm
  · cases h

theorem span_of_mention? {token : Token} {mention : NodeMention}
    (h : token.mention? = some mention) : mention.span = token.span := by
  unfold Token.mention? at h
  split at h <;> cases h <;> rfl

theorem exists_mention? (token : Token) (h : token.kind.namesNode = true) :
    ∃ mention, token.mention? = some mention := by
  obtain ⟨kind, span⟩ := token
  cases kind with
  | reference name => exact ⟨_, rfl⟩
  | path text => exact ⟨_, rfl⟩
  | _ => cases h

section Linked

variable {entry : Lexeme × Option Reference} {linked : List (Lexeme × Option Reference)}

theorem isChanged_of_reference? (htable : table.Declared)
    (h : reference? table owner source entry.1.kind = .ok entry.2)
    {change : NodeMention → NodeMention} (kind : Reference → TokenKind)
    (hnone : ∀ mention, mentioned? table owner mention = none → change mention = mention)
    (hsome : ∀ mention target name,
      mentioned? table owner mention = some target → table.nameAt? target = some name →
        (change mention).kind =
          kind ⟨name, (owner.relativeTo target).text, (owner.relativeTo target).scope⟩)
    (span span' : Span) :
    Token.IsChanged change ⟨entry.1.kind, span⟩ ⟨(entry.2.map kind).getD entry.1.kind, span'⟩ := by
  obtain ⟨lexeme, reference⟩ := entry
  dsimp only at h ⊢
  unfold Token.IsChanged
  cases hmention : Token.mention? ⟨lexeme.kind, span⟩ with
  | none =>
    -- Only lexemes that mention a node have a reference.
    cases reference with
    | none => rfl
    | some reference =>
      obtain ⟨mention, hmention'⟩ :=
        exists_mention? ⟨lexeme.kind, span⟩ (namesNode_of_reference? h)
      rw [hmention] at hmention'
      cases hmention'
  | some mention =>
    have hkind := mention?_eq_some hmention
    dsimp only at hkind
    rw [← hkind] at h ⊢
    rw [Option.map_some, Option.getD_some, Function.comp_apply]
    cases reference with
    | none =>
      rw [hnone mention (mentioned?_eq_none htable h)]
      rfl
    | some reference =>
      obtain ⟨target, name, hmentioned, hname, rfl⟩ := exists_mentioned? htable h
      rw [hsome mention target name hmentioned hname]
      rfl

theorem relink_eq_self {mention : NodeMention}
    (h : mentioned? table owner mention = none) :
    relink table owner mention = mention := by
  unfold relink
  rw [h]

theorem kind_relink {mention : NodeMention} {target : NodePath}
    (h : mentioned? table owner mention = some target) :
    (relink table owner mention).kind = .path (owner.relativeTo target).text := by
  unfold relink
  rw [h]
  rfl

theorem forall₂_relinked (htable : table.Declared)
    (h : ∀ entry ∈ linked, Linked table owner source entry) (last : Option Char) (gap : List Char) :
    (linked.map Prod.fst).Forall₂ (fun lexeme lexeme' => ∀ span span',
        Token.IsChanged (relink table owner) ⟨lexeme.kind, span⟩ ⟨lexeme'.kind, span'⟩)
      ((relinked last gap linked).map Prod.fst) := by
  induction linked generalizing last gap with
  | nil => exact .nil
  | cons entry linked ih =>
    have hchanged := isChanged_of_reference? htable (h entry List.mem_cons_self).reference_eq
      (fun reference => .path reference.path) (fun mention => relink_eq_self)
      (fun mention target name hmentioned _ => kind_relink hmentioned)
    have htail := ih fun entry hentry => h entry (List.mem_cons_of_mem _ hentry)
    obtain ⟨lexeme, reference⟩ := entry
    cases reference with
    | none => exact .cons hchanged (htail _ _)
    | some reference => exact .cons hchanged (htail _ _)

theorem reference?_relinked (h : ∀ entry ∈ linked, Linked table owner source entry)
    (source' : String) (last : Option Char) (gap : List Char) :
    ∀ entry ∈ relinked last gap linked,
      reference? table owner source' entry.1.kind = .ok entry.2 := by
  induction linked generalizing last gap with
  | nil => simp [relinked]
  | cons entry linked ih =>
    have hentry := h entry List.mem_cons_self
    have htail := ih fun entry hentry => h entry (List.mem_cons_of_mem _ hentry)
    obtain ⟨lexeme, reference⟩ := entry
    cases reference with
    | none =>
      intro entry' hentry'
      rcases List.mem_cons.1 hentry' with rfl | hentry'
      · exact reference?_source hentry.reference_eq
      · exact htail _ _ entry' hentry'
    -- The relative path finds the node again, with the same record.
    | some reference =>
      intro entry' hentry'
      rcases List.mem_cons.1 hentry' with rfl | hentry'
      · exact reference?_source (hentry.relinks reference rfl)
      · exact htail _ _ entry' hentry'

theorem forall₂_records (h : ∀ entry ∈ linked, Linked table owner source entry)
    (position : Position) :
    (((Token.locate position (linked.map Prod.fst)).filterMap Token.mention?).filter
        fun mention => (mentioned? table owner mention).isSome).Forall₂
      (fun mention reference => ∃ target, Records table owner target mention reference)
      (linked.filterMap Prod.snd) := by
  induction linked generalizing position with
  | nil => exact .nil
  | cons entry linked ih =>
    have hentry := h entry List.mem_cons_self
    have htail := ih fun entry hentry => h entry (List.mem_cons_of_mem _ hentry)
    obtain ⟨lexeme, reference⟩ := entry
    -- A lexeme has at most one mention, and has a record exactly if that mention is resolved.
    rw [List.map_cons, Token.locate]
    dsimp only
    cases hmention : Token.mention?
        ⟨lexeme.kind, (position.advance lexeme.gap).spanOf lexeme.text⟩ with
    | none =>
      rw [List.filterMap_cons_none hmention]
      cases reference with
      | none =>
        rw [List.filterMap_cons_none rfl]
        exact htail _
      | some reference =>
        obtain ⟨mention, hsome⟩ := exists_mention?
          ⟨lexeme.kind, (position.advance lexeme.gap).spanOf lexeme.text⟩
          (hentry.linksByPath _ rfl).1
        rw [hmention] at hsome
        cases hsome
    | some mention =>
      rw [List.filterMap_cons_some hmention]
      have hkind := mention?_eq_some hmention
      cases reference with
      | none =>
        have hnone := hentry.mentioned_eq rfl mention hkind
        rw [List.filter_cons_of_neg (by simp [hnone]), List.filterMap_cons_none rfl]
        exact htail _
      | some reference =>
        obtain ⟨target, hrecords⟩ := hentry.records reference rfl mention hkind
        have hsome := hrecords.mentioned_eq
        rw [List.filter_cons_of_pos (by simp [hsome])]
        exact .cons ⟨target, hrecords⟩ (htail _)

theorem exists_entry_of_mem_mentions {formula : Formula}
    (hformula : Formula.parse source = .ok formula) (hmap : linked.map Prod.fst = lexemes source)
    {mention : NodeMention} (hmention : mention ∈ formula.mentions) :
    ∃ entry ∈ linked, mention.kind = entry.1.kind := by
  rw [mentions_of_parse hformula] at hmention
  obtain ⟨token, htoken, hmention⟩ := List.mem_filterMap.1 hmention
  have hkind := List.mem_map_of_mem (f := Token.kind) htoken
  rw [map_kind_tokens, ← hmap] at hkind
  obtain ⟨lexeme, hlexeme, hkind⟩ := List.mem_map.1 hkind
  obtain ⟨entry, hentry, rfl⟩ := List.mem_map.1 hlexeme
  exact ⟨entry, hentry, (mention?_eq_some hmention).trans hkind.symm⟩

theorem parse_spliceRelative (htable : table.Declared) {formula : Formula}
    (hformula : Formula.parse source = .ok formula)
    (hmap : linked.map Prod.fst = lexemes source)
    (hlinked : ∀ entry ∈ linked, Linked table owner source entry) :
    lexemes (String.ofList (spliceRelative none linked)) =
        (relinked none [] linked).map Prod.fst ∧
      ∃ formula', Formula.parse (String.ofList (spliceRelative none linked)) = .ok formula' ∧
        Formula.IsChanged (relink table owner) formula formula' := by
  have hphrase := phrase_of_parse hformula
  have hseparate := separate_lexemes hformula
  rw [← hmap] at hphrase hseparate
  have hlexemes := lexemes_spliceRelative hphrase hseparate fun entry hentry =>
    (hlinked entry hentry).linksByPath
  have htokens : (tokens source).Forall₂ (Token.IsChanged (relink table owner))
      (tokens (String.ofList (spliceRelative none linked))) := by
    unfold tokens
    rw [hlexemes, ← hmap]
    exact Token.forall₂_locate (forall₂_relinked htable hlinked _ _) _ _
  obtain ⟨formula', hformula', hchanged⟩ :=
    Formula.ofTokens_changed htokens (Formula.parse_eq_ok_iff.1 hformula)
  exact ⟨hlexemes, formula', Formula.parse_eq_ok_iff.2 hformula', hchanged⟩

end Linked

theorem canonical_keeps_meaning (htable : table.Declared)
    (h : compile table source owner = .ok expression)
    (havoids : expression.AvoidsContainers table owner) :
    ∃ formula formula', Formula.parse source = .ok formula ∧
      Formula.parse expression.canonical = .ok formula' ∧
      formula'.withoutSpans = (formula.mapMentions (relink table owner)).withoutSpans ∧
      (formula.mentions.filter fun mention => (mentioned? table owner mention).isSome).Forall₂
        (fun mention reference => ∃ target, Records table owner target mention reference)
        expression.references ∧
      ∀ mention ∈ formula.mentions, mentioned? table owner mention = none →
        mention.kind = .path "." ∨ mention.StandsFor table.root owner [] := by
  obtain ⟨formula, linked, hformula, hmap, hlinked, rfl⟩ := linked_of_compile htable h havoids
  obtain ⟨-, formula', hformula', hchanged⟩ := parse_spliceRelative htable hformula hmap hlinked
  have hmentions : formula.mentions =
      (Token.locate {} (linked.map Prod.fst)).filterMap Token.mention? := by
    rw [mentions_of_parse hformula, tokens, hmap]
  refine ⟨formula, formula', hformula, hformula', hchanged, ?_, ?_⟩
  · rw [hmentions]
    exact forall₂_records hlinked _
  · intro mention hmention hnone
    obtain ⟨entry, hentry, hkind⟩ := exists_entry_of_mem_mentions hformula hmap hmention
    have hlink := hlinked entry hentry
    have hreference : entry.2 = none := by
      cases hreference : entry.2 with
      | none => rfl
      | some reference =>
        obtain ⟨target, hrecords⟩ := hlink.records reference hreference mention hkind
        rw [hrecords.mentioned_eq] at hnone
        cases hnone
    have htarget := hlink.reference_eq
    rw [hreference, reference?_eq_none_iff, ← hkind] at htarget
    exact standsFor_root_of_target? htarget

theorem canonical_keeps_meaning_sum :
    ∃ formula formula', Formula.parse "$\x7bage\x7d+/data/g/x<." = .ok formula ∧
      Formula.parse "../../age+../x<." = .ok formula' ∧
      formula'.withoutSpans =
        (formula.mapMentions (relink .nested ["g", "x"])).withoutSpans ∧
      (formula.mentions.filter fun mention =>
          (mentioned? .nested ["g", "x"] mention).isSome).Forall₂
        (fun mention reference => ∃ target, Records .nested ["g", "x"] target mention reference)
        [⟨"age", "../../age", .outer 1⟩, ⟨"x", "../x", .sameContainer⟩] ∧
      ∀ mention ∈ formula.mentions, mentioned? .nested ["g", "x"] mention = none →
        mention.kind = .path "." ∨ mention.StandsFor "data" ["g", "x"] [] := by
  have h : compile .nested "$\x7bage\x7d+/data/g/x<." ["g", "x"] =
      .ok ⟨"$\x7bage\x7d+/data/g/x<.", "../../age+../x<.",
        [⟨"age", "../../age", .outer 1⟩, ⟨"x", "../x", .sameContainer⟩]⟩ := by
    decide +kernel
  have hmeaning := canonical_keeps_meaning SymbolTable.declared_nested h (by decide +kernel)
  exact hmeaning

theorem linked_relinked {linked : List (Lexeme × Option Reference)} (htable : table.Declared)
    (hlinked : ∀ entry ∈ linked, Linked table owner source entry)
    (havoids : ∀ reference ∈ linked.filterMap Prod.snd, ∀ symbol ∈ table.lookup? reference.name,
      ¬ symbol.path.Encloses owner) (source' : String) (last : Option Char) (gap : List Char) :
    ∀ entry ∈ relinked last gap linked, Linked table owner source' entry := by
  intro entry hentry
  apply linked_entry htable (reference?_relinked hlinked source' last gap entry hentry)
  intro reference hreference
  apply havoids
  rw [← filterMap_snd_relinked linked last gap]
  exact List.mem_filterMap.2 ⟨entry, hentry, hreference⟩

theorem exists_relinked (htable : table.Declared)
    (h : compile table source owner = .ok expression)
    (havoids : expression.AvoidsContainers table owner) :
    ∃ formula linked, Formula.parse expression.canonical = .ok formula ∧
      linked.map Prod.fst = lexemes expression.canonical ∧
      (∀ entry ∈ linked, Linked table owner expression.canonical entry) ∧
      (∀ entry ∈ linked, ∀ reference ∈ entry.2, entry.1.kind = .path reference.path) ∧
      expression.canonical = String.ofList (spliceRelative none linked) ∧
      expression.references = linked.filterMap Prod.snd := by
  obtain ⟨formula, linked, hformula, hmap, hlinked, rfl⟩ := linked_of_compile htable h havoids
  obtain ⟨hlexemes, formula', hformula', -⟩ := parse_spliceRelative htable hformula hmap hlinked
  have hphrase := phrase_of_parse hformula
  rw [← hmap] at hphrase
  have hlinks : ∀ entry ∈ linked, LinksByPath entry := fun entry hentry =>
    (hlinked entry hentry).linksByPath
  have hfixed : spliceRelative none (relinked none [] linked) = [] ++ spliceRelative none linked :=
    spliceRelative_relinked hphrase hlinks rfl
  refine ⟨formula', relinked none [] linked, hformula', hlexemes.symm, ?_, ?_, ?_, ?_⟩
  · exact linked_relinked htable hlinked havoids _ none []
  · exact kind_relinked linked none []
  · rw [hfixed]
    rfl
  · exact (filterMap_snd_relinked linked none []).symm

theorem compile_canonical (htable : table.Declared)
    (h : compile table source owner = .ok expression)
    (havoids : expression.AvoidsContainers table owner) :
    compile table expression.canonical owner =
      .ok { expression with source := expression.canonical } := by
  obtain ⟨formula, linked, hformula, hmap, hlinked, -, hcanonical, hreferences⟩ :=
    exists_relinked htable h havoids
  rw [compile_eq_ok_iff]
  refine ⟨formula, linked, hformula, hmap, ?_, ?_⟩
  · intro entry hentry
    exact (hlinked entry hentry).reference_eq
  · rw [← hcanonical, ← hreferences]

end Expression

end Questionnaire
