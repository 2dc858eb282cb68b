import Questionnaire.Proofs.Expression.Canonical
import Questionnaire.Proofs.Expression.Spelling

/-!
This module contains the way back from a compiled expression to names: the text with names that is
made from the paths compiles to the same expression.
-/

namespace Questionnaire

open Expression

def TokenKind.isPath : TokenKind → Bool
  | path _ => true
  | _ => false

namespace Expression

/--
The lexemes of a text in which a reference by name stands for each path, beside the references.
-/
def renamed : List (Lexeme × Option Reference) → List (Lexeme × Option Reference)
  | [] => []
  | (lexeme, none) :: linked => (lexeme, none) :: renamed linked
  | (lexeme, some reference) :: linked =>
    (⟨lexeme.gap, referenceText reference.name, .reference reference.name⟩, some reference) ::
      renamed linked

def named (linked : List (Lexeme × Option Reference)) : List (Lexeme × Option String) :=
  linked.map fun entry => (entry.1, entry.2.map Reference.name)

def LinksByName (entry : Lexeme × Option Reference) : Prop :=
  ∀ reference ∈ entry.2, entry.1.kind.namesNode = true ∧ Text.isName reference.name = true

variable {linked : List (Lexeme × Option Reference)}

theorem spliceNames_named_cons (lexeme : Lexeme) (reference : Option Reference)
    (linked : List (Lexeme × Option Reference)) :
    spliceNames (named ((lexeme, reference) :: linked)) =
      lexeme.gap ++ (reference.map (referenceText ·.name)).getD lexeme.text ++
        spliceNames (named linked) := by
  cases reference <;> rfl

theorem chars_renamed (linked : List (Lexeme × Option Reference)) :
    ((renamed linked).map Prod.fst).flatMap Lexeme.chars = spliceNames (named linked) := by
  induction linked with
  | nil => rfl
  | cons entry linked ih =>
    obtain ⟨lexeme, reference⟩ := entry
    cases reference with
    | none =>
      rw [renamed, List.map_cons, List.flatMap_cons, ih]
      rfl
    | some reference =>
      rw [renamed, List.map_cons, List.flatMap_cons, ih]
      rfl

theorem head?_chars_renamed {expecting : Expecting}
    (hphrase : Phrase expecting (linked.map Prod.fst))
    (hlinks : ∀ entry ∈ linked, LinksByName entry) :
    nextChar? (renamed linked) = nextChar? linked ∨
      expecting = .operand ∧ ∀ c ∈ nextChar? (renamed linked), Lexeme.StaysApart c := by
  cases linked with
  | nil => exact Or.inl rfl
  | cons entry linked =>
    obtain ⟨⟨gap, text, kind⟩, reference⟩ := entry
    cases reference with
    | none => exact Or.inl rfl
    | some reference =>
      cases gap with
      | cons c gap => exact Or.inl rfl
      | nil =>
        -- A reference that is written without a space in front starts with a dollar sign.
        right
        rw [List.map_cons] at hphrase
        refine ⟨(hphrase.of_namesNode (hlinks _ List.mem_cons_self reference rfl).1).1, ?_⟩
        intro c hc
        cases hc
        exact ⟨by decide, by decide⟩

theorem separate_renamed {expecting : Expecting} (hphrase : Phrase expecting (linked.map Prod.fst))
    (hseparate : Lexeme.Separate (linked.map Prod.fst))
    (hlinks : ∀ entry ∈ linked, LinksByName entry) :
    Lexeme.Separate ((renamed linked).map Prod.fst) := by
  induction linked generalizing expecting with
  | nil => cases hphrase
  | cons entry linked ih =>
    have htail := (List.forall_mem_cons.1 hlinks).2
    obtain ⟨lexeme, reference⟩ := entry
    cases reference with
    | none =>
      cases linked with
      | nil => exact hseparate
      | cons entry' linked =>
        rw [List.map_cons] at hphrase hseparate
        obtain ⟨next, hnext, hrest⟩ := hphrase.after_of_ne (by simp)
        cases hseparate with
        | cons hgap hstands hseparate =>
          have hrenamed := ih hrest hseparate htail
          rw [renamed, List.map_cons]
          apply Lexeme.Separate.cons hgap _ hrenamed
          rw [← nextChar?_eq hrenamed]
          rcases head?_chars_renamed hrest htail with hhead | ⟨rfl, hapart⟩
          · rw [hhead, nextChar?_eq hseparate]
            exact hstands
          · exact hstands.of_opens ⟨expecting, hnext⟩ hapart
    | some reference =>
      obtain ⟨hkind, hname⟩ := hlinks _ List.mem_cons_self reference rfl
      rw [List.map_cons] at hphrase hseparate
      obtain ⟨-, hrest⟩ := hphrase.of_namesNode hkind
      have hseparate' := hseparate.tail hrest.ne_nil
      rw [renamed, List.map_cons]
      apply Lexeme.Separate.cons
      · exact hseparate.gap_eq
      · exact Lexeme.standsBefore_reference hname _ _
      · exact ih hrest hseparate' htail

theorem spliceRelative_renamed {last : Option Char} {expecting : Expecting}
    (hphrase : Phrase expecting (linked.map Prod.fst))
    (hlinks : ∀ entry ∈ linked, LinksByName entry) :
    spliceRelative last (renamed linked) = spliceRelative last linked := by
  induction linked generalizing last expecting with
  | nil => rfl
  | cons entry linked ih =>
    have htail := (List.forall_mem_cons.1 hlinks).2
    obtain ⟨lexeme, reference⟩ := entry
    cases reference with
    | none =>
      rw [renamed, spliceRelative, spliceRelative]
      cases linked with
      | nil => rfl
      | cons entry' linked =>
        obtain ⟨next, -, hrest⟩ := hphrase.after_of_ne (by simp)
        rw [ih hrest htail]
    | some reference =>
      obtain ⟨hkind, -⟩ := hlinks _ List.mem_cons_self reference rfl
      rw [List.map_cons] at hphrase
      obtain ⟨-, hrest⟩ := hphrase.of_namesNode hkind
      have hnext : nextChar? (renamed linked) = nextChar? linked := by
        rcases head?_chars_renamed hrest htail with hhead | ⟨hoperand, -⟩
        · exact hhead
        · cases hoperand
      rw [renamed, spliceRelative, spliceRelative, hnext, ih hrest htail]

theorem filterMap_snd_renamed (linked : List (Lexeme × Option Reference)) :
    (renamed linked).filterMap Prod.snd = linked.filterMap Prod.snd := by
  induction linked with
  | nil => rfl
  | cons entry linked ih =>
    obtain ⟨lexeme, reference⟩ := entry
    cases reference <;> simp [renamed, ih]

theorem lexemes_spliceNames {expecting : Expecting}
    (hphrase : Phrase expecting (linked.map Prod.fst))
    (hseparate : Lexeme.Separate (linked.map Prod.fst))
    (hlinks : ∀ entry ∈ linked, LinksByName entry) :
    lexemes (String.ofList (spliceNames (named linked))) = (renamed linked).map Prod.fst := by
  unfold lexemes
  rw [String.toList_ofList, ← chars_renamed]
  exact Lexeme.split_flatMap_chars (separate_renamed hphrase hseparate hlinks)

variable {table : SymbolTable} {owner : NodePath} {source : String} {expression : Expression}
variable {entry : Lexeme × Option Reference}

theorem linksByName_of_reference? (htable : table.Declared)
    (h : reference? table owner source entry.1.kind = .ok entry.2) : LinksByName entry := by
  obtain ⟨lexeme, reference⟩ := entry
  intro reference' hreference
  cases hreference
  refine ⟨namesNode_of_reference? h, ?_⟩
  obtain ⟨target, name, -, hname, rfl⟩ := reference?_eq_some_iff.1 h
  obtain ⟨symbol, hsymbol, -⟩ := SymbolTable.nameAt?_eq_some_iff.1 hname
  obtain ⟨hmem, hlast⟩ := SymbolTable.mem_of_lookup? hsymbol
  exact htable.isNamed symbol hmem _ (List.mem_of_getLast? hlast)

theorem reference?_name {kind : TokenKind} {reference : Reference}
    (h : reference? table owner source kind = .ok (some reference)) (source' : String) :
    reference? table owner source' (.reference reference.name) = .ok (some reference) := by
  obtain ⟨target, name, -, hname, rfl⟩ := reference?_eq_some_iff.1 h
  obtain ⟨symbol, hsymbol, hpath⟩ := SymbolTable.nameAt?_eq_some_iff.1 hname
  rw [reference?_eq_some_iff]
  refine ⟨target, name, ?_, hname, rfl⟩
  unfold target?
  dsimp only
  rw [hsymbol]
  dsimp only
  rw [hpath]

theorem flatName?_of_reference? {kind : TokenKind} {reference : Option Reference}
    (h : reference? table owner source kind = .ok reference) :
    flatName? table owner source kind =
      .ok (if kind.isPath then reference.map Reference.name else none) := by
  cases kind with
  | path path =>
    unfold flatName?
    dsimp only
    cases reference with
    | none =>
      have htarget := reference?_eq_none_iff.1 h
      rw [show pathTarget? table.root owner path source = .ok none from htarget]
      rfl
    | some reference =>
      obtain ⟨target, name, htarget, hname, rfl⟩ := reference?_eq_some_iff.1 h
      rw [show pathTarget? table.root owner path source = .ok (some target) from htarget, ok_bind]
      dsimp only
      rw [hname]
      rfl
  | _ => rfl

def rename (table : SymbolTable) (owner : NodePath) (mention : NodeMention) : NodeMention :=
  match mentioned? table owner mention >>= table.nameAt? with
  | some name => .name name mention.span
  | none => mention

theorem rename_eq_self {mention : NodeMention}
    (h : mentioned? table owner mention = none) :
    rename table owner mention = mention := by
  unfold rename
  rw [h]
  rfl

theorem kind_rename {mention : NodeMention} {target : NodePath} {name : String}
    (h : mentioned? table owner mention = some target)
    (hname : table.nameAt? target = some name) :
    (rename table owner mention).kind = .reference name := by
  unfold rename
  rw [h]
  dsimp only [Option.bind_eq_bind, Option.bind_some]
  rw [hname]
  rfl

theorem forall₂_renamed (htable : table.Declared)
    (h : ∀ entry ∈ linked, reference? table owner source entry.1.kind = .ok entry.2) :
    (linked.map Prod.fst).Forall₂ (fun lexeme lexeme' => ∀ span span',
        Token.IsChanged (rename table owner) ⟨lexeme.kind, span⟩ ⟨lexeme'.kind, span'⟩)
      ((renamed linked).map Prod.fst) := by
  induction linked with
  | nil => exact .nil
  | cons entry linked ih =>
    have hchanged := isChanged_of_reference? htable (h entry List.mem_cons_self)
      (fun reference => .reference reference.name) (fun mention => rename_eq_self)
      (fun mention target name => kind_rename)
    have htail := ih fun entry hentry => h entry (List.mem_cons_of_mem _ hentry)
    obtain ⟨lexeme, reference⟩ := entry
    cases reference with
    | none => exact .cons hchanged htail
    | some reference => exact .cons hchanged htail

theorem reference?_renamed
    (h : ∀ entry ∈ linked, reference? table owner source entry.1.kind = .ok entry.2)
    (source' : String) :
    ∀ entry ∈ renamed linked, reference? table owner source' entry.1.kind = .ok entry.2 := by
  induction linked with
  | nil => simp [renamed]
  | cons entry linked ih =>
    have hentry := h entry List.mem_cons_self
    have htail := ih fun entry hentry => h entry (List.mem_cons_of_mem _ hentry)
    obtain ⟨lexeme, reference⟩ := entry
    intro entry' hentry'
    cases reference with
    | none =>
      rcases List.mem_cons.1 hentry' with rfl | hentry'
      · exact reference?_source hentry
      · exact htail entry' hentry'
    | some reference =>
      rcases List.mem_cons.1 hentry' with rfl | hentry'
      · exact reference?_name hentry source'
      · exact htail entry' hentry'

def namedPaths (linked : List (Lexeme × Option Reference)) : List (Lexeme × Option String) :=
  linked.map fun entry =>
    (entry.1, if entry.1.kind.isPath then entry.2.map Reference.name else none)

theorem text_of_reference? {lexeme : Lexeme} {reference : Reference} (hmem : lexeme ∈ lexemes source)
    (h : reference? table owner source lexeme.kind = .ok (some reference))
    (hpath : lexeme.kind.isPath = false) :
    lexeme.text = referenceText reference.name := by
  have hkind := namesNode_of_reference? h
  obtain ⟨target, name, htarget, hname, rfl⟩ := reference?_eq_some_iff.1 h
  cases hlexeme : lexeme.kind with
  | path path =>
    rw [hlexeme] at hpath
    cases hpath
  | reference own =>
    rw [hlexeme] at htarget
    unfold target? at htarget
    dsimp only at htarget
    split at htarget
    · cases htarget
    · next symbol hsymbol =>
      cases htarget
      obtain ⟨symbol', hsymbol', hpath'⟩ := SymbolTable.nameAt?_eq_some_iff.1 hname
      have hown := (SymbolTable.mem_of_lookup? hsymbol).2
      have hlast := (SymbolTable.mem_of_lookup? hsymbol').2
      rw [hpath', hown] at hlast
      cases hlast
      exact Lexeme.text_of_reference lexeme hmem hlexeme
  | _ =>
    rw [hlexeme] at hkind
    cases hkind

theorem spliceNames_namedPaths (hmem : ∀ entry ∈ linked, entry.1 ∈ lexemes source)
    (h : ∀ entry ∈ linked, reference? table owner source entry.1.kind = .ok entry.2) :
    spliceNames (namedPaths linked) = spliceNames (named linked) := by
  induction linked with
  | nil => rfl
  | cons entry linked ih =>
    have hentry := h entry List.mem_cons_self
    have hlexeme := hmem entry List.mem_cons_self
    have htail := ih (fun entry hentry => hmem entry (List.mem_cons_of_mem _ hentry))
      (fun entry hentry => h entry (List.mem_cons_of_mem _ hentry))
    obtain ⟨lexeme, reference⟩ := entry
    rw [spliceNames_named_cons, ← htail]
    cases reference with
    | none =>
      rw [namedPaths, List.map_cons]
      dsimp only [Option.map_none]
      rw [ite_self]
      rfl
    | some reference =>
      rw [namedPaths, List.map_cons]
      dsimp only
      cases hpath : lexeme.kind.isPath with
      | true => rfl
      | false =>
        have htext := text_of_reference? hlexeme hentry hpath
        rw [if_neg (by simp), spliceNames, htext]
        rfl

theorem flatten_of_references {formula : Formula} (hformula : Formula.parse source = .ok formula)
    (hmap : linked.map Prod.fst = lexemes source)
    (hlinked : ∀ entry ∈ linked, reference? table owner source entry.1.kind = .ok entry.2) :
    flatten table source owner = .ok (String.ofList (spliceNames (named linked))) := by
  have hannotate : annotate (flatName? table owner source) (lexemes source) =
      .ok (namedPaths linked) := by
    rw [annotate_eq_ok_iff]
    refine ⟨?_, ?_⟩
    · rw [← hmap, namedPaths, List.map_map]
      rfl
    · intro entry hentry
      obtain ⟨entry', hentry', rfl⟩ := List.mem_map.1 hentry
      exact flatName?_of_reference? (hlinked entry' hentry')
  have hmem : ∀ entry ∈ linked, entry.1 ∈ lexemes source := by
    intro entry hentry
    rw [← hmap]
    exact List.mem_map_of_mem hentry
  unfold flatten
  rw [hformula, ok_bind, hannotate, ok_bind, spliceNames_namedPaths hmem hlinked]

theorem compile_spliceNames {formula : Formula} (htable : table.Declared)
    (hformula : Formula.parse source = .ok formula) (hmap : linked.map Prod.fst = lexemes source)
    (hlinked : ∀ entry ∈ linked, reference? table owner source entry.1.kind = .ok entry.2) :
    compile table (String.ofList (spliceNames (named linked))) owner =
      .ok ⟨String.ofList (spliceNames (named linked)), String.ofList (spliceRelative none linked),
        linked.filterMap Prod.snd⟩ := by
  have hphrase := phrase_of_parse hformula
  have hseparate := separate_lexemes hformula
  rw [← hmap] at hphrase hseparate
  have hlinks : ∀ entry ∈ linked, LinksByName entry := fun entry hentry =>
    linksByName_of_reference? htable (hlinked entry hentry)
  have hlexemes := lexemes_spliceNames hphrase hseparate hlinks
  have htokens : (tokens source).Forall₂ (Token.IsChanged (rename table owner))
      (tokens (String.ofList (spliceNames (named linked)))) := by
    unfold tokens
    rw [hlexemes, ← hmap]
    exact Token.forall₂_locate (forall₂_renamed htable hlinked) _ _
  obtain ⟨formula', hformula', -⟩ :=
    Formula.ofTokens_changed htokens (Formula.parse_eq_ok_iff.1 hformula)
  rw [compile_eq_ok_iff]
  refine ⟨formula', renamed linked, Formula.parse_eq_ok_iff.2 hformula', hlexemes.symm, ?_, ?_⟩
  · exact reference?_renamed hlinked _
  · rw [spliceRelative_renamed hphrase hlinks, filterMap_snd_renamed]

theorem compile_flatten (htable : table.Declared)
    (h : compile table source owner = .ok expression) :
    ∃ flat again, flatten table source owner = .ok flat ∧ compile table flat owner = .ok again ∧
      again.canonical = expression.canonical ∧ again.references = expression.references := by
  obtain ⟨formula, linked, hformula, hmap, hlinked, rfl⟩ := compile_eq_ok_iff.1 h
  have hflat := flatten_of_references hformula hmap hlinked
  have hagain := compile_spliceNames htable hformula hmap hlinked
  exact ⟨_, _, hflat, hagain, rfl, rfl⟩

theorem compile_flatten_mixed :
    ∃ flat again, flatten .nested "$\x7bage\x7d+/data/g/x>count(..)*../../age" ["g", "x"] = .ok flat ∧
      compile .nested flat ["g", "x"] = .ok again ∧
        again.canonical = "../../age+../x>count(../)*../../age" ∧
        again.references = [⟨"age", "../../age", .outer 1⟩, ⟨"x", "../x", .sameContainer⟩,
          ⟨"g", "../", .sameContainer⟩, ⟨"age", "../../age", .outer 1⟩] := by
  have h : compile .nested "$\x7bage\x7d+/data/g/x>count(..)*../../age" ["g", "x"] =
      .ok ⟨"$\x7bage\x7d+/data/g/x>count(..)*../../age", "../../age+../x>count(../)*../../age",
        [⟨"age", "../../age", .outer 1⟩, ⟨"x", "../x", .sameContainer⟩,
          ⟨"g", "../", .sameContainer⟩, ⟨"age", "../../age", .outer 1⟩]⟩ := by
    decide +kernel
  exact compile_flatten SymbolTable.declared_nested h

theorem flatten_canonical (htable : table.Declared)
    (h : compile table source owner = .ok expression)
    (havoids : expression.AvoidsContainers table owner) :
    ∃ linked flat, linked.map Prod.fst = lexemes expression.canonical ∧
      flat = String.ofList (spliceNames (named linked)) ∧
      flatten table expression.canonical owner = .ok flat ∧
      compile table flat owner = .ok { expression with source := flat } := by
  obtain ⟨formula, linked, hformula, hmap, hlinked, -, hcanonical, hreferences⟩ :=
    exists_relinked htable h havoids
  have hlinks : ∀ entry ∈ linked,
      reference? table owner expression.canonical entry.1.kind = .ok entry.2 :=
    fun entry hentry => (hlinked entry hentry).reference_eq
  refine ⟨linked, String.ofList (spliceNames (named linked)), hmap, rfl, ?_, ?_⟩
  · exact flatten_of_references hformula hmap hlinks
  · rw [compile_spliceNames htable hformula hmap hlinks, ← hcanonical, ← hreferences]

theorem compileTree_canonical (htable : table.Declared)
    (h : compile table source owner = .ok expression)
    (havoids : expression.AvoidsContainers table owner) :
    ∃ flat, compileTree table expression.canonical owner =
      .ok { expression with source := flat } := by
  obtain ⟨-, flat, -, -, hflat, -⟩ := flatten_canonical htable h havoids
  refine ⟨flat, ?_⟩
  unfold compileTree
  rw [compile_canonical htable h havoids, ok_bind]
  dsimp only
  rw [hflat]
  rfl

theorem compile_idempotent (htable : table.Declared)
    (h : compile table source owner = .ok expression)
    (havoids : expression.AvoidsContainers table owner) :
    (∃ again, compile table expression.canonical owner = .ok again ∧
        again.canonical = expression.canonical ∧ again.references = expression.references) ∧
      ∃ again, compileTree table expression.canonical owner = .ok again ∧
        again.canonical = expression.canonical ∧ again.references = expression.references := by
  have hcompile := compile_canonical htable h havoids
  obtain ⟨flat, htree⟩ := compileTree_canonical htable h havoids
  exact ⟨⟨_, hcompile, rfl, rfl⟩, _, htree, rfl, rfl⟩

theorem compile_idempotent_sum :
    (∃ again, compile .nested "../../age+../x" ["g", "x"] = .ok again ∧
        again.canonical = "../../age+../x" ∧
        again.references = [⟨"age", "../../age", .outer 1⟩, ⟨"x", "../x", .sameContainer⟩]) ∧
      ∃ again, compileTree .nested "../../age+../x" ["g", "x"] = .ok again ∧
        again.canonical = "../../age+../x" ∧
        again.references = [⟨"age", "../../age", .outer 1⟩, ⟨"x", "../x", .sameContainer⟩] := by
  have h : compile .nested "$\x7bage\x7d+/data/g/x" ["g", "x"] =
      .ok ⟨"$\x7bage\x7d+/data/g/x", "../../age+../x",
        [⟨"age", "../../age", .outer 1⟩, ⟨"x", "../x", .sameContainer⟩]⟩ := by
    decide +kernel
  have hidempotent := compile_idempotent SymbolTable.declared_nested h (by decide +kernel)
  exact hidempotent

end Expression

end Questionnaire
