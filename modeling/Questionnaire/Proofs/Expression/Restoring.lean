import Questionnaire.Proofs.Expression.Flat
import Questionnaire.Proofs.Expression.Spans

/-!
This module contains the way back from a compiled expression to its source: the text with names is
the source again, with a reference by name wherever the source mentions a node.
-/

namespace Questionnaire

namespace Expression

/--
The text of a source from `offset` on, in which references by name stand for the spans of `edits`.
A reference is kept apart from the name characters next to its span by spaces.
-/
def restored (source : String) (offset : Nat) : List (Span × String) → List Char
  | [] => dropBytes offset source.toList
  | (span, name) :: edits =>
    takeBytes (span.start - offset) (dropBytes offset source.toList) ++
      guardSpace (span.charBefore? source) ++ referenceText name ++
      guardSpace (span.charBehind? source) ++ restored source span.stop edits

def rewriting? (table : SymbolTable) (owner : NodePath) (mention : NodeMention) :
    Option (Span × String) := do
  let target ← mentioned? table owner mention
  let name ← target.name?
  some (mention.span, name)

structure StandsFree (source : String) (mention : NodeMention) : Prop where
  kind_eq : ∃ name, mention.kind = .reference name
  before : guardSpace (mention.span.charBefore? source) = []
  behind : guardSpace (mention.span.charBehind? source) = []

def edits (position : Position) : List (Lexeme × Option Reference) → List (Span × String)
  | [] => []
  | (lexeme, reference) :: linked =>
    let start := position.advance lexeme.gap
    (reference.map fun reference => (start.spanOf lexeme.text, reference.name)).toList ++
      edits (start.advance lexeme.text) linked

variable {table : SymbolTable} {owner : NodePath} {source : String} {expression : Expression}
variable {linked : List (Lexeme × Option Reference)} {entry : Lexeme × Option Reference}

theorem Linked.rewriting?_eq (h : Linked table owner source entry) (span : Span) :
    (Token.mention? ⟨entry.1.kind, span⟩).bind (rewriting? table owner) =
      entry.2.map fun reference => (span, reference.name) := by
  cases hmention : Token.mention? ⟨entry.1.kind, span⟩ with
  | none =>
    cases hreference : entry.2 with
    | none => rfl
    | some reference =>
      obtain ⟨mention, hsome⟩ :=
        exists_mention? ⟨entry.1.kind, span⟩ (h.linksByPath _ hreference).1
      rw [hmention] at hsome
      cases hsome
  | some mention =>
    rw [Option.bind_some, rewriting?, span_of_mention? hmention]
    have hkind := mention?_eq_some hmention
    cases hreference : entry.2 with
    | none =>
      rw [h.mentioned_eq hreference mention hkind]
      rfl
    | some reference =>
      obtain ⟨target, hrecords⟩ := h.records reference hreference mention hkind
      obtain ⟨symbol, -, hname, rfl⟩ := hrecords.declared
      rw [hrecords.mentioned_eq, Option.bind_eq_bind, Option.bind_some, hname]
      rfl

theorem edits_none (position : Position) (lexeme : Lexeme)
    (linked : List (Lexeme × Option Reference)) :
    edits position ((lexeme, none) :: linked) =
      edits ((position.advance lexeme.gap).advance lexeme.text) linked :=
  rfl

theorem edits_some (position : Position) (lexeme : Lexeme) (reference : Reference)
    (linked : List (Lexeme × Option Reference)) :
    edits position ((lexeme, some reference) :: linked) =
      ((position.advance lexeme.gap).spanOf lexeme.text, reference.name) ::
        edits ((position.advance lexeme.gap).advance lexeme.text) linked :=
  rfl

theorem edits_eq (hlinked : ∀ entry ∈ linked, Linked table owner source entry)
    (position : Position) :
    ((Token.locate position (linked.map Prod.fst)).filterMap Token.mention?).filterMap
      (rewriting? table owner) = edits position linked := by
  rw [List.filterMap_filterMap]
  induction linked generalizing position with
  | nil => rfl
  | cons entry linked ih =>
    obtain ⟨hentry, htail⟩ := List.forall_mem_cons.1 hlinked
    rw [List.map_cons, Token.locate, List.filterMap_cons, hentry.rewriting?_eq, ih htail]
    obtain ⟨lexeme, reference⟩ := entry
    cases reference <;> rfl

theorem spliceNames_relinked {last : Option Char} {gap : List Char} (h : linked = [] → gap = []) :
    spliceNames (named (relinked last gap linked)) =
      gap ++ spliceNames (named (relinked last [] linked)) := by
  cases linked with
  | nil =>
    rw [h rfl]
    rfl
  | cons entry linked =>
    obtain ⟨lexeme, reference⟩ := entry
    cases reference <;> simp [relinked, spliceNames_named_cons]

theorem spliceNames_relinked_none (last : Option Char) (lexeme : Lexeme)
    (linked : List (Lexeme × Option Reference)) :
    spliceNames (named (relinked last [] ((lexeme, none) :: linked))) =
      lexeme.chars ++ spliceNames (named (relinked (lexeme.chars.getLast?.or last) [] linked)) :=
  rfl

theorem spliceNames_relinked_some (last : Option Char) (lexeme : Lexeme) (reference : Reference)
    (linked : List (Lexeme × Option Reference)) :
    ∃ last', spliceNames (named (relinked last [] ((lexeme, some reference) :: linked))) =
      lexeme.gap ++ guardSpace (lexeme.gap.getLast?.or last) ++ referenceText reference.name ++
        guardSpace (nextChar? linked) ++ spliceNames (named (relinked last' [] linked)) := by
  have hbehind : linked = [] → guardSpace (nextChar? linked) = [] := by
    rintro rfl
    rfl
  refine ⟨(guardSpace (lexeme.gap.getLast?.or last) ++ reference.path.toList ++
    guardSpace (nextChar? linked)).getLast?, ?_⟩
  rw [relinked, spliceNames_named_cons, spliceNames_relinked hbehind]
  simp

section Restored

variable {taken pending : List Char} {position : Position}

theorem restored_nil (hsource : source.toList = taken ++ pending) :
    restored source (byteLength taken) [] = pending := by
  rw [restored, hsource, dropBytes_append]

theorem restored_cons {lexeme : Lexeme} {back : List Char}
    (hsource : source.toList = taken ++ pending ++ (lexeme.chars ++ back))
    (hposition : position.offset = byteLength (taken ++ pending)) (name : String)
    (edits : List (Span × String)) :
    restored source (byteLength taken)
        (((position.advance lexeme.gap).spanOf lexeme.text, name) :: edits) =
      pending ++ lexeme.gap ++ guardSpace (lexeme.gap.getLast?.or (taken ++ pending).getLast?) ++
        referenceText name ++ guardSpace back.head? ++
          restored source (byteLength (taken ++ pending ++ lexeme.chars)) edits := by
  have h := position.covers_spanOf hsource hposition
  have hlength : ((position.advance lexeme.gap).spanOf lexeme.text).start - byteLength taken =
      byteLength (pending ++ lexeme.gap) := by
    rw [h.start_eq, List.append_assoc, byteLength_append, Nat.add_sub_cancel_left]
  have hdrop : dropBytes (byteLength taken) source.toList =
      pending ++ lexeme.gap ++ (lexeme.text ++ back) := by
    rw [h.source_eq, List.append_assoc, List.append_assoc, List.append_assoc, dropBytes_append,
      List.append_assoc]
  have hstop : ((position.advance lexeme.gap).spanOf lexeme.text).stop =
      byteLength (taken ++ pending ++ lexeme.chars) := by
    rw [h.stop_eq, Lexeme.chars, List.append_assoc]
  rw [restored, hlength, hdrop, takeBytes_append, h.charBefore?_eq, h.charBehind?_eq, hstop,
    List.getLast?_append]

theorem restored_edits {expecting : Expecting} {last : Option Char}
    (hsource : source.toList = taken ++ pending ++ (linked.map Prod.fst).flatMap Lexeme.chars)
    (hposition : position.offset = byteLength (taken ++ pending))
    (hlast : expecting = .operand → last = (taken ++ pending).getLast?)
    (hphrase : Phrase expecting (linked.map Prod.fst))
    (hseparate : Lexeme.Separate (linked.map Prod.fst))
    (hlinks : ∀ entry ∈ linked, LinksByPath entry) :
    restored source (byteLength taken) (edits position linked) =
      pending ++ spliceNames (named (relinked last [] linked)) := by
  -- Lexemes without a reference wait in `pending`: the next edit copies their text from the source.
  induction linked generalizing taken pending position expecting last with
  | nil => cases hphrase
  | cons entry linked ih =>
    have htail := (List.forall_mem_cons.1 hlinks).2
    obtain ⟨lexeme, reference⟩ := entry
    rw [List.map_cons, List.flatMap_cons] at hsource
    have hoffset : ((position.advance lexeme.gap).advance lexeme.text).offset =
        byteLength (taken ++ pending ++ lexeme.chars) := Position.offset_advance hposition
    cases reference with
    | none =>
      rw [edits_none, spliceNames_relinked_none]
      rw [List.append_assoc] at hoffset
      cases linked with
      | nil =>
        rw [List.map_nil, List.flatMap_nil, List.append_nil, List.append_assoc] at hsource
        have hnil : spliceNames (named (relinked (lexeme.chars.getLast?.or last) [] [])) = [] := rfl
        rw [hnil, List.append_nil]
        exact restored_nil hsource
      | cons entry' linked =>
        rw [List.map_cons] at hphrase hseparate
        obtain ⟨next, -, hrest⟩ := hphrase.after_of_ne (by simp)
        -- Only the end of the input has no text, so the last character is one of this lexeme.
        have hchars : lexeme.chars ≠ [] := by
          intro hnil
          have htext := (List.append_eq_nil_iff.1 hnil).2
          simpa using hseparate.eq_nil_of_text htext
        have hlast' : lexeme.chars.getLast?.or last =
            (taken ++ (pending ++ lexeme.chars)).getLast? := by
          rw [← List.append_assoc, List.getLast?_append, List.getLast?_eq_some_getLast hchars]
          rfl
        rw [ih _ hoffset (fun _ => hlast') hrest (hseparate.tail (by simp)) htail]
        · simp
        · rw [hsource]
          simp
    | some reference =>
      obtain ⟨hkind, -⟩ := hlinks _ List.mem_cons_self reference rfl
      rw [List.map_cons] at hphrase hseparate
      -- Behind a reference no operand stands, so what was written for it is never looked at again.
      obtain ⟨rfl, hrest⟩ := hphrase.of_namesNode hkind
      have hseparate' := hseparate.tail hrest.ne_nil
      obtain ⟨last', hflat⟩ := spliceNames_relinked_some last lexeme reference linked
      have htail' : restored source (byteLength (taken ++ pending ++ lexeme.chars))
          (edits ((position.advance lexeme.gap).advance lexeme.text) linked) =
            [] ++ spliceNames (named (relinked last' [] linked)) := by
        apply ih _ _ _ hrest hseparate' htail
        · rw [hsource]
          simp
        · rw [List.append_nil]
          exact hoffset
        · intro hoperand
          cases hoperand
      rw [edits_some, hflat, restored_cons hsource hposition, hlast rfl,
        nextChar?_eq hseparate', htail']
      simp

theorem restored_eq_self
    (hsource : source.toList = taken ++ pending ++ (linked.map Prod.fst).flatMap Lexeme.chars)
    (hposition : position.offset = byteLength (taken ++ pending))
    (hfree : ∀ edit ∈ edits position linked,
      edit.1.textIn source = String.ofList (referenceText edit.2) ∧
        guardSpace (edit.1.charBefore? source) = [] ∧
          guardSpace (edit.1.charBehind? source) = []) :
    restored source (byteLength taken) (edits position linked) =
      pending ++ (linked.map Prod.fst).flatMap Lexeme.chars := by
  induction linked generalizing taken pending position with
  | nil =>
    rw [List.map_nil, List.flatMap_nil, List.append_nil] at hsource ⊢
    exact restored_nil hsource
  | cons entry linked ih =>
    obtain ⟨lexeme, reference⟩ := entry
    rw [List.map_cons, List.flatMap_cons] at hsource ⊢
    have hoffset : ((position.advance lexeme.gap).advance lexeme.text).offset =
        byteLength (taken ++ pending ++ lexeme.chars) := Position.offset_advance hposition
    cases reference with
    | none =>
      rw [edits_none] at hfree ⊢
      rw [List.append_assoc] at hoffset
      rw [ih _ hoffset hfree]
      · simp
      · rw [hsource]
        simp
    | some reference =>
      rw [edits_some] at hfree ⊢
      obtain ⟨⟨htext, hbefore, hbehind⟩, hfree⟩ := List.forall_mem_cons.1 hfree
      have hcovers := position.covers_spanOf hsource hposition
      rw [hcovers.textIn_eq, String.ofList_inj] at htext
      rw [hcovers.charBefore?_eq, List.getLast?_append] at hbefore
      rw [hcovers.charBehind?_eq] at hbehind
      have htail : restored source (byteLength (taken ++ pending ++ lexeme.chars))
          (edits ((position.advance lexeme.gap).advance lexeme.text) linked) =
            [] ++ (linked.map Prod.fst).flatMap Lexeme.chars := by
        apply ih _ _ hfree
        · rw [hsource]
          simp
        · rw [List.append_nil]
          exact hoffset
      rw [restored_cons hsource hposition, hbefore, hbehind, ← htext, htail]
      simp [Lexeme.chars]

end Restored

theorem eq_of_rewriting? {mention : NodeMention} {name : String} {edit : Span × String}
    (hkind : mention.kind = .reference name)
    (h : rewriting? table owner mention = some edit) : edit = (mention.span, name) := by
  unfold rewriting? at h
  obtain ⟨target, htarget, h⟩ := Option.bind_eq_some_iff.1 h
  have hstands := (mentioned?_eq_some htarget).2
  cases mention with
  | name own span =>
    cases hkind
    have hname : target.name? = some name := hstands
    rw [hname] at h
    cases h
    rfl
  | path path span => cases hkind

theorem textIn_mention {formula : Formula} (hformula : Formula.parse source = .ok formula)
    {mention : NodeMention} (hmention : mention ∈ formula.mentions) {name : String}
    (hkind : mention.kind = .reference name) :
    mention.span.textIn source = String.ofList (referenceText name) := by
  rw [mentions_of_parse hformula] at hmention
  obtain ⟨token, htoken, hmention⟩ := List.mem_filterMap.1 hmention
  obtain ⟨lexeme, hlexeme, hkind', htext⟩ := textIn_tokens source token htoken
  have hreference : lexeme.kind = .reference name := by
    rw [← hkind', ← mention?_eq_some hmention, hkind]
  rw [span_of_mention? hmention, htext, Lexeme.text_of_reference lexeme hlexeme hreference]

theorem flatten_restores_source (htable : table.Declared)
    (h : compile table source owner = .ok expression)
    (havoids : expression.AvoidsContainers table owner) :
    ∃ formula, Formula.parse source = .ok formula ∧
      flatten table expression.canonical owner = .ok (String.ofList
        (restored source 0 (formula.mentions.filterMap (rewriting? table owner)))) ∧
      ((∀ mention ∈ formula.mentions, (rewriting? table owner mention).isSome = true →
          StandsFree source mention) →
        flatten table expression.canonical owner = .ok source) := by
  obtain ⟨formula, linked, hformula, hmap, hlinked, rfl⟩ := linked_of_compile htable h havoids
  obtain ⟨hlexemes, formula', hformula', -⟩ := parse_spliceRelative htable hformula hmap hlinked
  have hflat := flatten_of_references hformula' hlexemes.symm fun entry hentry =>
    (linked_relinked htable hlinked havoids _ none [] entry hentry).reference_eq
  have hedits : formula.mentions.filterMap (rewriting? table owner) = edits {} linked := by
    rw [mentions_of_parse hformula, tokens, ← hmap, edits_eq hlinked]
  have hphrase := phrase_of_parse hformula
  have hseparate := separate_lexemes hformula
  rw [← hmap] at hphrase hseparate
  have hsource : source.toList = [] ++ [] ++ (linked.map Prod.fst).flatMap Lexeme.chars := by
    rw [hmap]
    exact (Lexeme.flatMap_split source.toList).symm
  have hrestored : restored source 0 (edits {} linked) =
      [] ++ spliceNames (named (relinked none [] linked)) :=
    restored_edits hsource rfl (fun _ => rfl) hphrase hseparate fun entry hentry =>
      (hlinked entry hentry).linksByPath
  refine ⟨formula, hformula, ?_, ?_⟩
  · rw [hedits, hrestored]
    exact hflat
  · intro hfree
    have hself : restored source 0 (edits {} linked) =
        [] ++ (linked.map Prod.fst).flatMap Lexeme.chars := by
      refine restored_eq_self hsource rfl ?_
      intro edit hedit
      rw [← hedits] at hedit
      obtain ⟨mention, hmention, hrewriting⟩ := List.mem_filterMap.1 hedit
      obtain ⟨⟨name, hkind⟩, hbefore, hbehind⟩ :=
        hfree mention hmention (by rw [hrewriting]; rfl)
      cases eq_of_rewriting? hkind hrewriting
      exact ⟨textIn_mention hformula hmention hkind, hbefore, hbehind⟩
    have hchars : spliceNames (named (relinked none [] linked)) = source.toList :=
      hrestored.symm.trans (hself.trans hsource.symm)
    rw [hflat, hchars, String.ofList_toList]

theorem flatten_restores_source_sum :
    flatten .nested "../../age+../x" ["g", "x"] = .ok "$\x7bage\x7d+$\x7bx\x7d" := by
  have h : compile .nested "$\x7bage\x7d+$\x7bx\x7d" ["g", "x"] =
      .ok ⟨"$\x7bage\x7d+$\x7bx\x7d", "../../age+../x",
        [⟨"age", "../../age", .outer 1⟩, ⟨"x", "../x", .sameContainer⟩]⟩ := by
    decide +kernel
  obtain ⟨formula, hformula, -, hrestored⟩ :=
    flatten_restores_source SymbolTable.declared_nested h (by decide +kernel)
  have hmentions : formula.mentions = [.name "age" ⟨0, 6, 1⟩, .name "x" ⟨7, 11, 8⟩] := by
    rw [mentions_of_parse hformula]
    decide +kernel
  apply hrestored
  intro mention hmention _
  rw [hmentions] at hmention
  rcases List.mem_pair.1 hmention with rfl | rfl
  · exact ⟨⟨"age", rfl⟩, by decide +kernel, by decide +kernel⟩
  · exact ⟨⟨"x", rfl⟩, by decide +kernel, by decide +kernel⟩

example : restored "$\x7bage\x7d-/data/g/x" 0 [(⟨0, 6, 1⟩, "age"), (⟨7, 16, 8⟩, "x")] =
    "$\x7bage\x7d - $\x7bx\x7d".toList := by
  decide +kernel

end Expression

end Questionnaire
