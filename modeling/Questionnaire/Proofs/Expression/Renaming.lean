import Questionnaire.Proofs.Expression.Phrase
import Mathlib.Data.List.Forall2

/-!
This module contains how the structure of an expression follows a change of the nodes that it
mentions: nothing else in the structure depends on them.
-/

namespace Questionnaire

namespace NodeMention

def kind : NodeMention → TokenKind
  | .name target _ => .reference target
  | .path text _ => .path text

def span : NodeMention → Span
  | .name _ span | .path _ span => span

def formula : NodeMention → Formula
  | .name target span => .reference target span
  | .path text span => .path text span

theorem namesNode_kind (mention : NodeMention) : mention.kind.namesNode = true := by
  cases mention <;> rfl

end NodeMention

namespace Formula

mutual

def withoutSpans : Formula → Formula
  | number text _ => number text .atStart
  | string text _ => string text .atStart
  | reference name _ => reference name .atStart
  | path text _ => path text .atStart
  | call name arguments _ => call name (withoutSpansAll arguments) .atStart
  | binary operator left right _ => binary operator (withoutSpans left) (withoutSpans right) .atStart
  | negate operand _ => negate (withoutSpans operand) .atStart
  | group inner _ => group (withoutSpans inner) .atStart

def withoutSpansAll : List Formula → List Formula
  | [] => []
  | formula :: formulas => withoutSpans formula :: withoutSpansAll formulas

end

mutual

def mapMentions (change : NodeMention → NodeMention) : Formula → Formula
  | number text span => number text span
  | string text span => string text span
  | reference name span => (change (.name name span)).formula
  | path text span => (change (.path text span)).formula
  | call name arguments span => call name (mapMentionsAll change arguments) span
  | binary operator left right span =>
    binary operator (mapMentions change left) (mapMentions change right) span
  | negate operand span => negate (mapMentions change operand) span
  | group inner span => group (mapMentions change inner) span

def mapMentionsAll (change : NodeMention → NodeMention) : List Formula → List Formula
  | [] => []
  | formula :: formulas => mapMentions change formula :: mapMentionsAll change formulas

end

def IsChanged (change : NodeMention → NodeMention) (formula formula' : Formula) : Prop :=
  formula'.withoutSpans = (formula.mapMentions change).withoutSpans

end Formula

def Token.IsChanged (change : NodeMention → NodeMention) (token token' : Token) : Prop :=
  token'.kind = (token.mention?.map (NodeMention.kind ∘ change)).getD token.kind

namespace Formula

variable {change : NodeMention → NodeMention}

def Reader.Follows (change : NodeMention → NodeMention) (read : Reader Formula) : Prop :=
  ∀ tokens formula rest, read tokens = .ok (formula, rest) →
    ∀ tokens', tokens.Forall₂ (Token.IsChanged change) tokens' →
      ∃ formula' rest', read tokens' = .ok (formula', rest') ∧ IsChanged change formula formula' ∧
        rest.Forall₂ (Token.IsChanged change) rest'

theorem kind_of_isChanged {token token' : Token} (h : token.IsChanged change token')
    (hkind : token.kind.namesNode = false) : token'.kind = token.kind := by
  unfold Token.IsChanged at h
  rw [h, mention?_eq_none hkind]
  rfl

theorem namesNode_of_isChanged {token token' : Token} (h : token.IsChanged change token') :
    token'.kind.namesNode = token.kind.namesNode := by
  cases hkind : token.kind.namesNode with
  | false => rw [kind_of_isChanged h hkind, hkind]
  | true =>
    unfold Token.IsChanged at h
    cases hmention : token.mention? with
    | some mention =>
      rw [h, hmention]
      exact NodeMention.namesNode_kind _
    | none =>
      rw [h, hmention]
      exact hkind

section Forall₂

variable {tokens tokens' : List Token}

theorem nextKind_eq_iff (h : tokens.Forall₂ (Token.IsChanged change) tokens') {kind : TokenKind}
    (hkind : kind.namesNode = false) : nextKind tokens' = kind ↔ nextKind tokens = kind := by
  cases h with
  | nil => rfl
  | @cons token token' rest rest' hhead _ =>
    simp only [nextKind]
    constructor
    · intro h
      have := namesNode_of_isChanged hhead
      rw [h, hkind] at this
      rw [← kind_of_isChanged hhead this.symm]
      exact h
    · rintro rfl
      exact kind_of_isChanged hhead hkind

theorem operator?_nextKind (h : tokens.Forall₂ (Token.IsChanged change) tokens') :
    operator? (nextKind tokens') = operator? (nextKind tokens) := by
  -- A mention is no operator, before the change and after it.
  have hnone : ∀ kind : TokenKind, kind.namesNode = true → operator? kind = none := by
    intro kind hkind
    cases hoperator : operator? kind with
    | none => rfl
    | some operator =>
      rw [namesNode_of_operator? (by rw [hoperator]; rfl)] at hkind
      cases hkind
  cases h with
  | nil => rfl
  | @cons token token' rest rest' hhead _ =>
    simp only [nextKind]
    cases hkind : token.kind.namesNode with
    | false => rw [kind_of_isChanged hhead hkind]
    | true =>
      rw [hnone _ hkind, hnone]
      rw [namesNode_of_isChanged hhead, hkind]

theorem forall₂_tail (h : tokens.Forall₂ (Token.IsChanged change) tokens') :
    tokens.tail.Forall₂ (Token.IsChanged change) tokens'.tail := by
  cases h with
  | nil => exact .nil
  | cons _ htail => exact htail

end Forall₂

theorem isChanged_join (operator : Operator) {left left' right right' : Formula}
    (hleft : IsChanged change left left') (hright : IsChanged change right right') :
    IsChanged change (join operator left right) (join operator left' right') := by
  unfold IsChanged at *
  simp only [join, mapMentions, withoutSpans, hleft, hright]

theorem follows_readChainRest {operators : List Operator} {readOperand : Reader Formula}
    (hread : readOperand.Follows change) {limit : Nat} {left left' formula : Formula}
    {tokens tokens' rest : List Token} (hleft : IsChanged change left left')
    (htokens : tokens.Forall₂ (Token.IsChanged change) tokens')
    (h : readChainRest operators readOperand limit left tokens = .ok (formula, rest)) :
    ∃ formula' rest', readChainRest operators readOperand limit left' tokens' =
        .ok (formula', rest') ∧
      IsChanged change formula formula' ∧ rest.Forall₂ (Token.IsChanged change) rest' := by
  induction limit generalizing left left' tokens tokens' with
  | zero =>
    cases h
    exact ⟨left', tokens', rfl, hleft, htokens⟩
  | succ limit ih =>
    unfold readChainRest at h ⊢
    rw [operator?_nextKind htokens]
    split at h
    · cases h
      exact ⟨left', tokens', rfl, hleft, htokens⟩
    · next operator hoperator =>
      obtain ⟨⟨right, behind⟩, hright, h⟩ := bind_eq_ok_iff.1 h
      obtain ⟨right', behind', hright', hchanged, hbehind⟩ :=
        hread _ _ _ hright _ (forall₂_tail htokens)
      rw [hright', ok_bind]
      exact ih (isChanged_join operator hleft hchanged) hbehind h

theorem follows_readChain {limit : Nat} {operators : List Operator} {readOperand : Reader Formula}
    (hread : readOperand.Follows change) :
    (readChain limit operators readOperand).Follows change := by
  intro tokens formula rest h tokens' htokens
  unfold readChain at h ⊢
  obtain ⟨⟨left, behind⟩, hleft, h⟩ := bind_eq_ok_iff.1 h
  obtain ⟨left', behind', hleft', hchanged, hbehind⟩ := hread _ _ _ hleft _ htokens
  rw [hleft', ok_bind]
  exact follows_readChainRest hread hchanged hbehind h

theorem follows_readUnary {readOperand : Reader Formula} (hread : readOperand.Follows change) :
    (readUnary readOperand).Follows change := by
  intro tokens
  induction tokens with
  | nil =>
    intro formula rest h tokens' htokens
    cases htokens
    exact hread _ _ _ h _ .nil
  | cons token tokens ih =>
    intro formula rest h tokens' htokens
    cases htokens with
    | @cons _ token' _ rest' hhead htail =>
      have hminus : token'.kind = .minus ↔ token.kind = .minus :=
        nextKind_eq_iff (.cons hhead htail) rfl
      unfold readUnary at h ⊢
      split at h
      · next hkind =>
        have hkind' : token'.kind = .minus := hminus.2 hkind
        obtain ⟨⟨operand, behind⟩, hoperand, h⟩ := bind_eq_ok_iff.1 h
        obtain ⟨operand', behind', hoperand', hchanged, hbehind⟩ := ih _ _ hoperand _ htail
        cases h
        rw [hkind']
        dsimp only
        rw [hoperand', ok_bind]
        refine ⟨_, _, rfl, ?_, hbehind⟩
        unfold IsChanged at *
        simp only [mapMentions, withoutSpans, hchanged]
      · next hkind =>
        have hkind' : token'.kind ≠ .minus := fun h' => hkind (hminus.1 h')
        split
        · contradiction
        · exact hread _ _ _ h _ (.cons hhead htail)

theorem follows_readClose {tokens tokens' rest : List Token} {span : Span}
    (htokens : tokens.Forall₂ (Token.IsChanged change) tokens')
    (h : readClose tokens = .ok (span, rest)) :
    ∃ span' rest', readClose tokens' = .ok (span', rest') ∧
      rest.Forall₂ (Token.IsChanged change) rest' := by
  unfold readClose at h
  split at h
  · next hclose =>
    cases h
    have hclose' := (nextKind_eq_iff htokens rfl).2 hclose
    refine ⟨nextSpan tokens', tokens'.tail, ?_, forall₂_tail htokens⟩
    unfold readClose
    rw [hclose']
  · cases h

def AreChanged (change : NodeMention → NodeMention) (formulas formulas' : List Formula) : Prop :=
  withoutSpansAll formulas' = withoutSpansAll (mapMentionsAll change formulas) ∧
    formulas'.length = formulas.length

theorem areChanged_cons {formula formula' : Formula} {formulas formulas' : List Formula}
    (hhead : IsChanged change formula formula') (htail : AreChanged change formulas formulas') :
    AreChanged change (formula :: formulas) (formula' :: formulas') := by
  unfold AreChanged IsChanged at *
  simp only [withoutSpansAll, mapMentionsAll, hhead, htail.1, List.length_cons, htail.2, and_self]

theorem follows_readMoreArguments {read : Reader Formula} (hread : read.Follows change)
    {limit : Nat} {arguments : List Formula} {tokens tokens' rest : List Token}
    (htokens : tokens.Forall₂ (Token.IsChanged change) tokens')
    (h : readMoreArguments read limit tokens = .ok (arguments, rest)) :
    ∃ arguments' rest', readMoreArguments read limit tokens' = .ok (arguments', rest') ∧
      AreChanged change arguments arguments' ∧ rest.Forall₂ (Token.IsChanged change) rest' := by
  induction limit generalizing arguments tokens tokens' with
  | zero =>
    cases h
    exact ⟨[], tokens', rfl, ⟨rfl, rfl⟩, htokens⟩
  | succ limit ih =>
    have hcomma : nextKind tokens' = .comma ↔ nextKind tokens = .comma :=
      nextKind_eq_iff htokens rfl
    unfold readMoreArguments at h ⊢
    split at h
    · next hkind =>
      obtain ⟨⟨argument, behind⟩, hargument, h⟩ := bind_eq_ok_iff.1 h
      obtain ⟨⟨arguments', behind'⟩, harguments, h⟩ := bind_eq_ok_iff.1 h
      cases h
      obtain ⟨argument'', behind'', hargument', hchanged, hbehind⟩ :=
        hread _ _ _ hargument _ (forall₂_tail htokens)
      obtain ⟨arguments'', rest'', harguments', hchanged', hrest⟩ := ih hbehind harguments
      rw [hcomma.2 hkind]
      dsimp only
      rw [hargument', ok_bind]
      dsimp only
      rw [harguments', ok_bind]
      exact ⟨_, _, rfl, areChanged_cons hchanged hchanged', hrest⟩
    · next hkind =>
      cases h
      split
      · next hkind' => exact absurd (hcomma.1 hkind') hkind
      · exact ⟨[], tokens', rfl, ⟨rfl, rfl⟩, htokens⟩

theorem follows_readArguments {read : Reader Formula} (hread : read.Follows change) {limit : Nat}
    {arguments : List Formula} {tokens tokens' rest : List Token}
    (htokens : tokens.Forall₂ (Token.IsChanged change) tokens')
    (h : readArguments limit read tokens = .ok (arguments, rest)) :
    ∃ arguments' rest', readArguments limit read tokens' = .ok (arguments', rest') ∧
      AreChanged change arguments arguments' ∧ rest.Forall₂ (Token.IsChanged change) rest' := by
  have hclose : nextKind tokens' = .rightParen ↔ nextKind tokens = .rightParen :=
    nextKind_eq_iff htokens rfl
  unfold readArguments at h ⊢
  split at h
  · next hkind =>
    cases h
    rw [hclose.2 hkind]
    exact ⟨[], tokens', rfl, ⟨rfl, rfl⟩, htokens⟩
  · next hkind =>
    obtain ⟨⟨argument, behind⟩, hargument, h⟩ := bind_eq_ok_iff.1 h
    obtain ⟨⟨arguments', behind'⟩, harguments, h⟩ := bind_eq_ok_iff.1 h
    cases h
    obtain ⟨argument'', behind'', hargument', hchanged, hbehind⟩ := hread _ _ _ hargument _ htokens
    obtain ⟨arguments'', rest'', harguments', hchanged', hrest⟩ :=
      follows_readMoreArguments hread hbehind harguments
    split
    · next hkind' => exact absurd (hclose.1 hkind') hkind
    · rw [hargument', ok_bind]
      dsimp only
      rw [harguments', ok_bind]
      exact ⟨_, _, rfl, areChanged_cons hchanged hchanged', hrest⟩

theorem follows_readCall {read : Reader Formula} (hread : read.Follows change) {limit : Nat}
    {name : String} {span : Span} (span' : Span) {formula : Formula}
    {tokens tokens' rest : List Token} (htokens : tokens.Forall₂ (Token.IsChanged change) tokens')
    (h : readCall limit read name span tokens = .ok (formula, rest)) :
    ∃ formula' rest', readCall limit read name span' tokens' = .ok (formula', rest') ∧
      IsChanged change formula formula' ∧ rest.Forall₂ (Token.IsChanged change) rest' := by
  unfold readCall at h
  split at h
  · next hopen =>
    have hopen' := (nextKind_eq_iff htokens rfl).2 hopen
    split at h
    · cases h
    · next arity harity =>
      obtain ⟨⟨arguments, behind⟩, harguments, h⟩ := bind_eq_ok_iff.1 h
      obtain ⟨⟨close, behind'⟩, hclose, h⟩ := bind_eq_ok_iff.1 h
      obtain ⟨arguments', behind'', harguments', hchanged, hbehind⟩ :=
        follows_readArguments hread (forall₂_tail htokens) harguments
      obtain ⟨close', rest', hclose', hrest⟩ := follows_readClose hbehind hclose
      dsimp only at h
      split at h
      · next haccepts =>
        cases h
        unfold readCall
        rw [hopen']
        dsimp only
        rw [harity]
        dsimp only
        rw [harguments', ok_bind]
        dsimp only
        rw [hclose', ok_bind]
        dsimp only
        -- The number of the arguments is the same, and the function accepts it.
        rw [hchanged.2, if_pos haccepts]
        refine ⟨_, _, rfl, ?_, hrest⟩
        unfold IsChanged
        simp only [mapMentions, withoutSpans, hchanged.1]
      · cases h
  · cases h

theorem readPrimary_mention (read : Reader Formula) (limit : Nat) {mention : NodeMention}
    {tokens : List Token} (h : nextKind tokens = mention.kind) :
    ∃ formula, readPrimary limit read tokens = .ok (formula, tokens.tail) ∧
      formula.withoutSpans = mention.formula.withoutSpans := by
  unfold readPrimary
  rw [h]
  cases mention with
  | name target span => exact ⟨_, rfl, rfl⟩
  | path text span => exact ⟨_, rfl, rfl⟩

theorem nextKind_of_mention? {tokens tokens' : List Token}
    (htokens : tokens.Forall₂ (Token.IsChanged change) tokens') {mention : NodeMention}
    (hkind : nextKind tokens = mention.kind) (hspan : nextSpan tokens = mention.span) :
    nextKind tokens' = (change mention).kind := by
  cases htokens with
  | nil => cases mention <;> cases hkind
  | @cons token token' rest rest' hhead _ =>
    simp only [nextKind, nextSpan] at hkind hspan ⊢
    have hmention : token.mention? = some mention := by
      unfold Token.mention?
      cases mention <;> simp_all [NodeMention.kind, NodeMention.span]
    unfold Token.IsChanged at hhead
    rw [hhead, hmention]
    rfl

theorem follows_readPrimary {read : Reader Formula} (hread : read.Follows change) {limit : Nat} :
    (readPrimary limit read).Follows change := by
  intro tokens formula rest h tokens' htokens
  have hkept : ∀ kind : TokenKind, kind.namesNode = false → nextKind tokens = kind →
      nextKind tokens' = kind := fun kind hkind => (nextKind_eq_iff htokens hkind).2
  unfold readPrimary at h
  dsimp only at h
  generalize hkind : nextKind tokens = kind at h
  cases kind with
  | reference target =>
    cases h
    have hmention : nextKind tokens' = (change (.name target (nextSpan tokens))).kind :=
      nextKind_of_mention? htokens hkind rfl
    obtain ⟨formula', hformula', hchanged⟩ := readPrimary_mention read limit hmention
    exact ⟨formula', _, hformula', hchanged, forall₂_tail htokens⟩
  | path text =>
    cases h
    have hmention : nextKind tokens' = (change (.path text (nextSpan tokens))).kind :=
      nextKind_of_mention? htokens hkind rfl
    obtain ⟨formula', hformula', hchanged⟩ := readPrimary_mention read limit hmention
    exact ⟨formula', _, hformula', hchanged, forall₂_tail htokens⟩
  | number text | string text =>
    cases h
    unfold readPrimary
    rw [hkept _ rfl hkind]
    exact ⟨_, _, rfl, rfl, forall₂_tail htokens⟩
  | name name =>
    unfold readPrimary
    rw [hkept _ rfl hkind]
    exact follows_readCall hread _ (forall₂_tail htokens) h
  | leftParen =>
    obtain ⟨⟨inner, behind⟩, hinner, h⟩ := bind_eq_ok_iff.1 h
    obtain ⟨⟨close, behind'⟩, hclose, h⟩ := bind_eq_ok_iff.1 h
    cases h
    obtain ⟨inner', behind'', hinner', hchanged, hbehind⟩ :=
      hread _ _ _ hinner _ (forall₂_tail htokens)
    obtain ⟨close', rest', hclose', hrest⟩ := follows_readClose hbehind hclose
    unfold readPrimary
    rw [hkept _ rfl hkind]
    dsimp only
    rw [hinner', ok_bind]
    dsimp only
    rw [hclose', ok_bind]
    refine ⟨_, _, rfl, ?_, hrest⟩
    unfold IsChanged at *
    simp only [mapMentions, withoutSpans, hchanged]
  | _ => cases h

theorem follows_foldr {limit : Nat} {readOperand : Reader Formula}
    (hread : readOperand.Follows change) (levels : List (List Operator)) :
    (levels.foldr (readChain limit) readOperand).Follows change := by
  induction levels with
  | nil => exact hread
  | cons level levels ih => exact follows_readChain ih

theorem follows_read (limit : Nat) : (read limit).Follows change := by
  induction limit with
  | zero =>
    intro tokens formula rest h
    cases h
  | succ limit ih =>
    unfold read
    apply follows_foldr
    apply follows_readUnary
    apply follows_readChain
    apply follows_readPrimary
    exact ih

theorem ofTokens_changed {tokens tokens' : List Token}
    (htokens : tokens.Forall₂ (Token.IsChanged change) tokens') {formula : Formula}
    (h : ofTokens tokens = .ok formula) :
    ∃ formula', ofTokens tokens' = .ok formula' ∧ IsChanged change formula formula' := by
  have hend : nextKind tokens' = .endOfInput ↔ nextKind tokens = .endOfInput :=
    nextKind_eq_iff htokens rfl
  unfold ofTokens at h ⊢
  split at h
  · cases h
  · next hkind =>
    obtain ⟨⟨formula', rest⟩, hread, h⟩ := bind_eq_ok_iff.1 h
    dsimp only at h
    split at h
    · next hrest =>
      cases h
      obtain ⟨formula'', rest', hread', hchanged, hrest'⟩ := follows_read _ _ _ _ hread _ htokens
      split
      · next hkind' => exact absurd (hend.1 hkind') hkind
      -- The depth limit of the reader is the number of the tokens, which stays the same.
      · rw [← htokens.length_eq, hread', ok_bind]
        dsimp only
        rw [(nextKind_eq_iff hrest' rfl).2 hrest]
        exact ⟨formula'', rfl, hchanged⟩
    · cases h

end Formula

end Questionnaire
