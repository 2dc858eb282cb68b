import Questionnaire.Proofs.Expression.Fragment
import Questionnaire.Proofs.Expression.Parsing

/-!
This module contains what the spans of an accepted expression are worth: the text under the span of
a part is accepted on its own, as that part, and the spans lie inside each other as the parts do.
-/

namespace Questionnaire

namespace Formula

def operands : Formula → List Formula
  | number _ _ | string _ _ | reference _ _ | path _ _ => []
  | call _ arguments _ => arguments
  | binary _ left right _ => [left, right]
  | negate operand _ => [operand]
  | group inner _ => [inner]

inductive IsPart (part : Formula) : Formula → Prop
  | self : IsPart part part
  | operand {operand whole : Formula} (hoperand : operand ∈ whole.operands)
      (h : IsPart part operand) : IsPart part whole

mutual

def mapSpans (change : Span → Span) : Formula → Formula
  | number text span => number text (change span)
  | string text span => string text (change span)
  | reference name span => reference name (change span)
  | path text span => path text (change span)
  | call name arguments span => call name (mapSpansAll change arguments) (change span)
  | binary operator left right span =>
    binary operator (mapSpans change left) (mapSpans change right) (change span)
  | negate operand span => negate (mapSpans change operand) (change span)
  | group inner span => group (mapSpans change inner) (change span)

def mapSpansAll (change : Span → Span) : List Formula → List Formula
  | [] => []
  | formula :: formulas => mapSpans change formula :: mapSpansAll change formulas

end

section Spans

variable {change : Span → Span} {level : Level} {tokens : List Token} {formula : Formula}

theorem mapSpansAll_eq (formulas : List Formula) :
    mapSpansAll change formulas = formulas.map (mapSpans change) := by
  induction formulas with
  | nil => rfl
  | cons formula formulas ih => rw [mapSpansAll, List.map_cons, ih]

theorem span_mapSpans (change : Span → Span) (formula : Formula) :
    (formula.mapSpans change).span = change formula.span := by
  cases formula <;> rfl

def movePart (change : Span → Span) (part : List Token × Formula) : List Token × Formula :=
  (part.1.map (Token.mapSpan change), part.2.mapSpans change)

theorem separated_map (change : Span → Span) {parts : List (List Token)}
    (h : Separated parts tokens) :
    Separated (parts.map (List.map (Token.mapSpan change)))
      (tokens.map (Token.mapSpan change)) := by
  induction h with
  | nil => exact .nil
  | single part => exact .single _
  | cons hcomma _ ih =>
    rw [List.map_append, List.map_cons]
    exact .cons hcomma ih

theorem derives_mapSpans
    (hto : ∀ first last, change (first.to last) = (change first).to (change last))
    (h : Derives level tokens formula) :
    Derives level (tokens.map (Token.mapSpan change)) (formula.mapSpans change) := by
  induction h with
  | operand hlevel _ ih => exact .operand hlevel ih
  | binary hlevel hoperator htoken _ _ ihleft ihright =>
    rw [List.map_append, List.map_cons, mapSpans, hto, ← span_mapSpans change,
      ← span_mapSpans change]
    exact .binary hlevel hoperator htoken ihleft ihright
  | negate htoken _ ih =>
    rw [List.map_cons, mapSpans, hto, ← span_mapSpans change]
    exact .negate htoken ih
  | number htoken => exact .number htoken
  | string htoken => exact .string htoken
  | reference htoken => exact .reference htoken
  | path htoken => exact .path htoken
  | group hstart hclose _ ih =>
    rw [List.map_append, List.map_cons, mapSpans, hto]
    exact .group hstart hclose ih
  | @call _ _ _ _ _ tokens arguments hhead hstart hclose hname hcount hseparated _ ih =>
    have hfst : (arguments.map Prod.fst).map (List.map (Token.mapSpan change)) =
        (arguments.map (movePart change)).map Prod.fst := by
      rw [List.map_map, List.map_map]
      rfl
    have hsnd : (arguments.map Prod.snd).map (mapSpans change) =
        (arguments.map (movePart change)).map Prod.snd := by
      rw [List.map_map, List.map_map]
      rfl
    have hparts := separated_map change hseparated
    rw [hfst] at hparts
    rw [List.map_append, List.map_cons, List.map_cons, mapSpans, hto, mapSpansAll_eq, hsnd]
    refine .call hhead hstart hclose hname (by rwa [List.length_map]) hparts ?_
    intro part hpart
    obtain ⟨argument, hargument, rfl⟩ := List.mem_map.1 hpart
    exact ih argument hargument

end Spans

section Parts

variable {level : Level} {tokens : List Token} {formula : Formula}

theorem infix_of_separated {parts : List (List Token)} (h : Separated parts tokens) :
    parts.flatten.Sublist tokens ∧ ∀ part ∈ parts, part <:+: tokens := by
  induction h with
  | nil => simp
  | single part => simp
  | @cons part next parts comma tokens _ _ ih =>
    obtain ⟨hflatten, hparts⟩ := ih
    refine ⟨(List.Sublist.refl part).append (hflatten.cons comma), List.forall_mem_cons.2 ⟨?_, ?_⟩⟩
    · exact (List.prefix_append part _).isInfix
    · intro other hother
      have hbehind : tokens <:+: part ++ comma :: tokens :=
        ((List.suffix_cons comma tokens).trans (List.suffix_append part _)).isInfix
      exact (hparts other hother).trans hbehind

theorem operands_of_derives (h : Derives level tokens formula) :
    ∃ parts : List (List Token × Formula), formula.operands = parts.map Prod.snd ∧
      (parts.map Prod.fst).flatten.Sublist tokens ∧
        ∀ part ∈ parts, part.1 <:+: tokens ∧ Derives .or part.1 part.2 := by
  induction h with
  | operand _ _ ih => exact ih
  | @binary _ _ _ token tokens tokens' left right _ _ _ hleft hright =>
    refine ⟨[(tokens, left), (tokens', right)], rfl, ?_, ?_⟩
    · simp
    · have hwithin : tokens' <:+: tokens ++ token :: tokens' :=
        ((List.suffix_cons token tokens').trans (List.suffix_append _ _)).isInfix
      simpa using ⟨⟨(List.prefix_append _ _).isInfix, derives_or hleft⟩, hwithin, derives_or hright⟩
  | @negate token tokens operand _ h =>
    refine ⟨[(tokens, operand)], rfl, ?_, ?_⟩
    · simp
    · simpa using ⟨(List.suffix_cons token tokens).isInfix, derives_or h⟩
  | number | string | reference | path => exact ⟨[], rfl, List.nil_sublist _, by simp⟩
  | @group start close tokens inner _ _ h =>
    refine ⟨[(tokens, inner)], rfl, ?_, ?_⟩
    · simp
    · simpa using ⟨⟨[start], [close], rfl⟩, h⟩
  | @call head start close _ _ tokens arguments _ _ _ _ _ hseparated h =>
    obtain ⟨hflatten, hparts⟩ := infix_of_separated hseparated
    have hinside : tokens <:+: head :: start :: tokens ++ [close] := ⟨[head, start], [close], rfl⟩
    refine ⟨arguments, rfl, hflatten.trans hinside.sublist, ?_⟩
    intro argument hargument
    exact ⟨(hparts _ (List.mem_map_of_mem hargument)).trans hinside, h argument hargument⟩

theorem derives_of_isPart {part : Formula} (hpart : part.IsPart formula)
    (h : Derives level tokens formula) : ∃ used, used <:+: tokens ∧ Derives .or used part := by
  induction hpart generalizing level tokens with
  | self => exact ⟨tokens, List.infix_rfl, derives_or h⟩
  | operand hoperand _ ih =>
    obtain ⟨parts, hparts, -, hderives⟩ := operands_of_derives h
    rw [hparts] at hoperand
    obtain ⟨⟨used, operand⟩, hmem, rfl⟩ := List.mem_map.1 hoperand
    obtain ⟨hwithin, hoperand⟩ := hderives _ hmem
    obtain ⟨used', hwithin', hused'⟩ := ih hoperand
    exact ⟨used', hwithin'.trans hwithin, hused'⟩

theorem span_of_derives (h : Derives level tokens formula) :
    ∃ first last, tokens.head? = some first ∧ tokens.getLast? = some last ∧
      formula.span = first.span.to last.span := by
  induction h with
  | operand _ _ ih => exact ih
  | binary _ _ _ _ _ ihleft ihright =>
    obtain ⟨first, _, hfirst, _, hleft⟩ := ihleft
    obtain ⟨_, last, _, hlast, hright⟩ := ihright
    refine ⟨first, last, ?_, ?_, ?_⟩
    · simp [hfirst]
    · simp [List.getLast?_cons, hlast]
    · rw [span, hleft, hright]
      rfl
  | @negate token _ _ _ _ ih =>
    obtain ⟨first, last, _, hlast, hoperand⟩ := ih
    refine ⟨token, last, rfl, ?_, ?_⟩
    · simp [List.getLast?_cons, hlast]
    · rw [span, hoperand]
      rfl
  | @number token _ _ | @string token _ _ | @reference token _ _ | @path token _ _ =>
    exact ⟨token, token, rfl, rfl, rfl⟩
  | @group start close _ _ _ _ _ _ => exact ⟨start, close, rfl, List.getLast?_concat, rfl⟩
  | @call head _ close _ _ _ _ _ _ _ _ _ _ _ _ =>
    exact ⟨head, close, rfl, List.getLast?_concat, rfl⟩

end Parts

section Order

variable {level : Level} {tokens : List Token} {formula : Formula}

theorem encloses_operands (h : Derives level tokens formula) (hordered : AreOrdered tokens) :
    ∀ operand ∈ formula.operands, formula.span.Encloses operand.span := by
  obtain ⟨first, last, hfirst, hlast, hspan⟩ := span_of_derives h
  obtain ⟨parts, hparts, -, hderives⟩ := operands_of_derives h
  intro operand hoperand
  rw [hparts] at hoperand
  obtain ⟨⟨used, operand⟩, hmem, rfl⟩ := List.mem_map.1 hoperand
  obtain ⟨hwithin, hoperand⟩ := hderives _ hmem
  obtain ⟨first', last', hfirst', hlast', hspan'⟩ := span_of_derives hoperand
  rw [hspan, hspan']
  constructor
  · exact hordered.first_le hfirst first' (hwithin.subset (List.mem_of_head? hfirst'))
  · exact hordered.le_last hlast last' (hwithin.subset (List.mem_of_getLast? hlast'))

theorem pairwise_operands (h : Derives level tokens formula) (hordered : AreOrdered tokens) :
    formula.operands.Pairwise fun first second => first.span.Precedes second.span := by
  obtain ⟨parts, hparts, hflatten, hderives⟩ := operands_of_derives h
  have hpairwise := (List.pairwise_flatten.1 (hordered.sublist hflatten).pairwise).2
  rw [hparts, List.pairwise_map]
  rw [List.pairwise_map] at hpairwise
  refine hpairwise.imp_of_mem ?_
  intro part part' hpart hpart' hprecedes
  obtain ⟨_, last, _, hlast, hspan⟩ := span_of_derives (hderives part hpart).2
  obtain ⟨first, _, hfirst, _, hspan'⟩ := span_of_derives (hderives part' hpart').2
  rw [hspan, hspan']
  exact hprecedes last (List.mem_of_getLast? hlast) first (List.mem_of_head? hfirst)

end Order

/--
Whether the span of a formula is where its text stands in a source: alone, the text is accepted as
the same formula, which only stands further in front, and the spans of the operands are those of
texts inside it, one behind the other.
-/
structure IsFaithful (source : String) (formula : Formula) : Prop where
  covers : ∃ front text back, formula.span.Covers source front text back ∧
    formula.span.column = front.length + 1
  parse_textIn : ∃ alone, parse (formula.span.textIn source) = .ok alone ∧
    alone.mapSpans (.shift formula.span.start (formula.span.column - 1)) = formula
  encloses : ∀ operand ∈ formula.operands, formula.span.Encloses operand.span
  pairwise : formula.operands.Pairwise fun first second => first.span.Precedes second.span

section Fragment

variable {source : String} {used : List Token} {front text back : List Char} {formula : Formula}

theorem exists_parse_of_isFragment (hfragment : IsFragment source used front text back)
    (h : Derives .or used formula) :
    ∃ alone, parse (String.ofList text) = .ok alone ∧
      alone.mapSpans (.shift (byteLength front) front.length) = formula := by
  obtain ⟨tokens', last, htokens, hend, rfl⟩ := hfragment.tokens_eq
  -- Moved back and forth again, the tokens are the same, and so is the formula that they derive.
  have halone := derives_mapSpans (Span.unshift_to (byteLength front) front.length) h
  have hkept : (tokens'.map (Token.mapSpan (.shift (byteLength front) front.length))).map
      (Token.mapSpan (.unshift (byteLength front) front.length)) = tokens' := by
    rw [List.map_map]
    apply List.map_id''
    intro token
    exact congrArg (Token.mk token.kind) (Span.unshift_shift _ _ _)
  rw [hkept] at halone
  refine ⟨_, (parse_eq_ok_iff_derives _ _).2 ⟨tokens', last, htokens, hend, halone⟩, ?_⟩
  exact derives_unique (derives_mapSpans (Span.shift_to _ _) halone) h

theorem isFaithful_of_isFragment (hfragment : IsFragment source used front text back)
    (hordered : AreOrdered used) (h : Derives .or used formula) : IsFaithful source formula := by
  obtain ⟨first, last, hfirst, hlast, hspan⟩ := span_of_derives h
  obtain ⟨hstart, hcolumn⟩ := hfragment.first_eq first hfirst
  have hcovers : formula.span.Covers source front text back := by
    rw [hspan]
    exact ⟨hfragment.source_eq, hstart, hfragment.last_eq last hlast⟩
  have hcolumn : formula.span.column = front.length + 1 := by rwa [hspan]
  refine ⟨⟨front, text, back, hcovers, hcolumn⟩, ?_, encloses_operands h hordered,
    pairwise_operands h hordered⟩
  rw [hcovers.textIn_eq, hcovers.start_eq, hcolumn, Nat.add_sub_cancel]
  exact exists_parse_of_isFragment hfragment h

end Fragment

theorem isFaithful_of_isPart {source : String} {formula part : Formula}
    (h : parse source = .ok formula) (hpart : part.IsPart formula) : part.IsFaithful source := by
  obtain ⟨body, last, htokens, -, hderives⟩ := (parse_eq_ok_iff_derives _ _).1 h
  obtain ⟨used, ⟨front, back, rfl⟩, hused⟩ := derives_of_isPart hpart hderives
  obtain ⟨first, _, hfirst, -⟩ := span_of_derives hused
  have hne : used ≠ [] := by
    rintro rfl
    cases hfirst
  rw [List.append_assoc _ back] at htokens
  obtain ⟨before, text, after, hfragment⟩ :=
    exists_isFragment (phrase_of_parse h).isProper htokens hne (by simp)
  apply isFaithful_of_isFragment hfragment _ hused
  have hordered := areOrdered_tokens source
  rw [htokens] at hordered
  exact hordered.sublist (List.infix_append front used _).sublist

/--
The call in `'é' = concat(1, -${x})`. In front of it there is one byte more than there are
characters.
-/
def accentedCall : Formula :=
  .call "concat" [.number "1" ⟨14, 15, 14⟩, .negate (.reference "x" ⟨18, 22, 18⟩) ⟨17, 22, 17⟩]
    ⟨7, 23, 7⟩

def accented : Formula :=
  .binary .equal (.string "é" ⟨0, 4, 1⟩) accentedCall ⟨0, 23, 1⟩

theorem isFaithful_of_isPart_accented :
    parse "'é' = concat(1, -$\x7bx\x7d)" = .ok accented ∧ accentedCall.IsPart accented ∧
      accentedCall.IsFaithful "'é' = concat(1, -$\x7bx\x7d)" := by
  have htokens : tokens "'é' = concat(1, -$\x7bx\x7d)" = [⟨.string "é", ⟨0, 4, 1⟩⟩,
      ⟨.equal, ⟨5, 6, 5⟩⟩, ⟨.name "concat", ⟨7, 13, 7⟩⟩, ⟨.leftParen, ⟨13, 14, 13⟩⟩,
      ⟨.number "1", ⟨14, 15, 14⟩⟩, ⟨.comma, ⟨15, 16, 15⟩⟩, ⟨.minus, ⟨17, 18, 17⟩⟩,
      ⟨.reference "x", ⟨18, 22, 18⟩⟩, ⟨.rightParen, ⟨22, 23, 22⟩⟩,
      ⟨.endOfInput, ⟨23, 23, 23⟩⟩] := by
    decide +kernel
  have hparse : parse "'é' = concat(1, -$\x7bx\x7d)" = .ok accented := by
    rw [parse_eq_ok_iff, htokens]
    rfl
  have hpart : accentedCall.IsPart accented := .operand (by simp [accented, operands]) .self
  exact ⟨hparse, hpart, isFaithful_of_isPart hparse hpart⟩

end Formula

end Questionnaire
