import Questionnaire.Expression.Grammar
import Questionnaire.Proofs.Expression.Lexing
import Questionnaire.Proofs.Fallible

/-!
This module contains what every accepted expression has in common: an operand stands behind an
operator, a comma or an opening parenthesis only, and is followed by none. The mentions of a formula
are those of its tokens.
-/

namespace Questionnaire

/--
What may come next in an expression that has been read so far.
-/
inductive Expecting where
  | operand
  | arguments
  | operator
deriving DecidableEq

namespace Expecting

def after : Expecting → TokenKind → Option Expecting
  | operand, .minus | operand, .leftParen | arguments, .leftParen | operator, .comma => some operand
  | operand, .number _ | operand, .string _ | operand, .reference _ | operand, .path _ =>
    some operator
  | operand, .name _ => some arguments
  -- An empty list of arguments closes where an operand could stand.
  | operand, .rightParen | operator, .rightParen => some operator
  | operator, kind => if (Formula.operator? kind).isSome then some operand else none
  | _, _ => none

def afterAll : Expecting → List Token → Option Expecting
  | expecting, [] => some expecting
  | expecting, token :: tokens => (expecting.after token.kind).bind (afterAll · tokens)

theorem afterAll_append (expecting : Expecting) (tokens tokens' : List Token) :
    expecting.afterAll (tokens ++ tokens') =
      (expecting.afterAll tokens).bind (afterAll · tokens') := by
  induction tokens generalizing expecting with
  | nil => rfl
  | cons token tokens ih =>
    rw [List.cons_append, afterAll, afterAll]
    cases expecting.after token.kind with
    | none => rfl
    | some next => exact ih next

theorem after_operator {kind : TokenKind} (h : (Formula.operator? kind).isSome = true) :
    after operator kind = some operand := by
  unfold after
  split <;> first | rfl | simp_all [Formula.operator?]

end Expecting

def Token.mention? (token : Token) : Option NodeMention :=
  match token.kind with
  | .reference name => some (.name name token.span)
  | .path text => some (.path text token.span)
  | _ => none

namespace Formula

structure Operand (tokens : List Token) (mentions : List NodeMention) : Prop where
  afterAll_eq : Expecting.afterAll .operand tokens = some .operator
  mentions_eq : mentions = tokens.filterMap Token.mention?

def Reader.TakesOperand (read : Reader Formula) : Prop :=
  ∀ tokens formula rest, read tokens = .ok (formula, rest) →
    ∃ used, tokens = used ++ rest ∧ Operand used formula.mentions

theorem exists_cons_of_nextKind {tokens : List Token} {kind : TokenKind}
    (h : nextKind tokens = kind) (hkind : kind ≠ .endOfInput) :
    ∃ token, token.kind = kind ∧ tokens = token :: tokens.tail := by
  cases tokens with
  | nil => exact absurd h.symm hkind
  | cons token tokens => exact ⟨token, h, rfl⟩

theorem mention?_eq_none {token : Token} (h : token.kind.namesNode = false) :
    token.mention? = none := by
  unfold Token.mention?
  split
  · next hkind => simp [hkind, TokenKind.namesNode] at h
  · next hkind => simp [hkind, TokenKind.namesNode] at h
  · rfl

theorem namesNode_of_operator? {kind : TokenKind} (h : (operator? kind).isSome = true) :
    kind.namesNode = false := by
  cases kind <;> first | rfl | simp [operator?] at h

theorem operand_append {first second : List Token} {token : Token}
    {mentions mentions' : List NodeMention}
    (hfirst : Operand first mentions) (hsecond : Operand second mentions')
    (htoken : Expecting.after .operator token.kind = some .operand)
    (hmention : token.mention? = none) :
    Operand (first ++ token :: second) (mentions ++ mentions') where
  afterAll_eq := by
    rw [Expecting.afterAll_append, hfirst.afterAll_eq, Option.bind_some, Expecting.afterAll, htoken,
      Option.bind_some, hsecond.afterAll_eq]
  mentions_eq := by
    rw [List.filterMap_append, List.filterMap_cons_none hmention, hfirst.mentions_eq,
      hsecond.mentions_eq]

theorem takesOperand_readChainRest {operators : List Operator} {readOperand : Reader Formula}
    (hread : readOperand.TakesOperand) {limit : Nat} {left formula : Formula}
    {taken tokens rest : List Token} (htaken : Operand taken left.mentions)
    (h : readChainRest operators readOperand limit left tokens = .ok (formula, rest)) :
    ∃ used, tokens = used ++ rest ∧ Operand (taken ++ used) formula.mentions := by
  -- The operands that have been joined so far are one operand, which the next operator extends.
  induction limit generalizing left taken tokens with
  | zero =>
    cases h
    exact ⟨[], rfl, by rwa [List.append_nil]⟩
  | succ limit ih =>
    unfold readChainRest at h
    split at h
    · cases h
      exact ⟨[], rfl, by rwa [List.append_nil]⟩
    · next operator hoperator =>
      obtain ⟨hsome, -⟩ := Option.filter_eq_some_iff.1 hoperator
      have hne : nextKind tokens ≠ .endOfInput := by
        intro hend
        rw [hend] at hsome
        cases hsome
      obtain ⟨token, hkind, htokens⟩ := exists_cons_of_nextKind rfl hne
      have hsome' : (operator? token.kind).isSome = true := by
        rw [hkind, hsome]
        rfl
      obtain ⟨⟨right, behind⟩, hright, h⟩ := bind_eq_ok_iff.1 h
      obtain ⟨used, hused, hoperand⟩ := hread _ _ _ hright
      have hjoin : Operand (taken ++ token :: used) (join operator left right).mentions := by
        unfold join mentions
        apply operand_append htaken hoperand
        · exact Expecting.after_operator hsome'
        · exact mention?_eq_none (namesNode_of_operator? hsome')
      obtain ⟨used', hused', hoperand'⟩ := ih hjoin h
      refine ⟨token :: used ++ used', ?_, ?_⟩
      · rw [htokens, hused, hused']
        simp
      · simpa using hoperand'

theorem takesOperand_readChain {limit : Nat} {operators : List Operator}
    {readOperand : Reader Formula} (hread : readOperand.TakesOperand) :
    (readChain limit operators readOperand).TakesOperand := by
  intro tokens formula rest h
  unfold readChain at h
  obtain ⟨⟨left, behind⟩, hleft, h⟩ := bind_eq_ok_iff.1 h
  obtain ⟨used, hused, hoperand⟩ := hread _ _ _ hleft
  obtain ⟨used', hused', hoperand'⟩ := takesOperand_readChainRest hread hoperand h
  refine ⟨used ++ used', ?_, hoperand'⟩
  rw [hused, hused', List.append_assoc]

theorem takesOperand_readUnary {readOperand : Reader Formula} (hread : readOperand.TakesOperand) :
    (readUnary readOperand).TakesOperand := by
  intro tokens
  -- One minus is taken off in front each time, so this is an induction on the tokens.
  induction tokens with
  | nil =>
    intro formula rest h
    exact hread _ _ _ h
  | cons token tokens ih =>
    intro formula rest h
    unfold readUnary at h
    split at h
    · next hminus =>
      obtain ⟨⟨operand, behind⟩, hoperand, h⟩ := bind_eq_ok_iff.1 h
      cases h
      obtain ⟨used, hused, hused'⟩ := ih _ _ hoperand
      refine ⟨token :: used, by rw [hused]; rfl, ?_, ?_⟩
      · rw [Expecting.afterAll, hminus]
        exact hused'.afterAll_eq
      · rw [List.filterMap_cons_none (mention?_eq_none (by rw [hminus]; rfl)), mentions]
        exact hused'.mentions_eq
    · exact hread _ _ _ h

theorem readClose_eq_ok {tokens rest : List Token} {span : Span}
    (h : readClose tokens = .ok (span, rest)) :
    ∃ token, token.kind = .rightParen ∧ token.span = span ∧ tokens = token :: rest := by
  unfold readClose at h
  split at h
  · next hclose =>
    cases h
    obtain ⟨token, hkind, htokens⟩ := exists_cons_of_nextKind hclose (by simp)
    rw [htokens]
    exact ⟨token, hkind, rfl, rfl⟩
  · cases h

theorem readMoreArguments_used {read : Reader Formula} (hread : read.TakesOperand) {limit : Nat}
    {arguments : List Formula} {tokens rest : List Token}
    (h : readMoreArguments read limit tokens = .ok (arguments, rest)) :
    ∃ used, tokens = used ++ rest ∧ Expecting.afterAll .operator used = some .operator ∧
      mentionsAll arguments = used.filterMap Token.mention? := by
  induction limit generalizing arguments tokens with
  | zero =>
    cases h
    exact ⟨[], rfl, rfl, rfl⟩
  | succ limit ih =>
    unfold readMoreArguments at h
    split at h
    · next hcomma =>
      obtain ⟨token, hkind, htokens⟩ := exists_cons_of_nextKind hcomma (by simp)
      obtain ⟨⟨argument, behind⟩, hargument, h⟩ := bind_eq_ok_iff.1 h
      obtain ⟨⟨arguments', behind'⟩, harguments, h⟩ := bind_eq_ok_iff.1 h
      cases h
      obtain ⟨used, hused, hoperand⟩ := hread _ _ _ hargument
      obtain ⟨used', hused', hafter, hmentions⟩ := ih harguments
      refine ⟨token :: used ++ used', ?_, ?_, ?_⟩
      · rw [htokens, hused, hused']
        simp
      · rw [List.cons_append, Expecting.afterAll, hkind, Expecting.after, Option.bind_some,
          Expecting.afterAll_append, hoperand.afterAll_eq, Option.bind_some, hafter]
      · rw [List.cons_append, List.filterMap_cons_none (mention?_eq_none (by rw [hkind]; rfl)),
          List.filterMap_append, mentionsAll, hoperand.mentions_eq, hmentions]
    · cases h
      exact ⟨[], rfl, rfl, rfl⟩

theorem readArguments_used {read : Reader Formula} (hread : read.TakesOperand) {limit : Nat}
    {arguments : List Formula} {tokens rest : List Token}
    (h : readArguments limit read tokens = .ok (arguments, rest)) :
    ∃ used stop, tokens = used ++ rest ∧ Expecting.afterAll .operand used = some stop ∧
      stop.after .rightParen = some .operator ∧
        mentionsAll arguments = used.filterMap Token.mention? := by
  unfold readArguments at h
  split at h
  · cases h
    exact ⟨[], .operand, rfl, rfl, rfl, rfl⟩
  · obtain ⟨⟨argument, behind⟩, hargument, h⟩ := bind_eq_ok_iff.1 h
    obtain ⟨⟨arguments', behind'⟩, harguments, h⟩ := bind_eq_ok_iff.1 h
    cases h
    obtain ⟨used, hused, hoperand⟩ := hread _ _ _ hargument
    obtain ⟨used', hused', hafter, hmentions⟩ := readMoreArguments_used hread harguments
    refine ⟨used ++ used', .operator, ?_, ?_, rfl, ?_⟩
    · rw [hused, hused', List.append_assoc]
    · rw [Expecting.afterAll_append, hoperand.afterAll_eq, Option.bind_some, hafter]
    · rw [List.filterMap_append, mentionsAll, hoperand.mentions_eq, hmentions]

theorem operand_parentheses {inside : List Token} {start close : Token} {stop : Expecting}
    (hopen : start.kind = .leftParen) (hclose : close.kind = .rightParen)
    (hinside : Expecting.afterAll .operand inside = some stop)
    (hstop : stop.after .rightParen = some .operator) :
    Expecting.afterAll .arguments (start :: inside ++ [close]) = some .operator ∧
      Expecting.afterAll .operand (start :: inside ++ [close]) = some .operator ∧
        (start :: inside ++ [close]).filterMap Token.mention? =
          inside.filterMap Token.mention? := by
  have hrun : Expecting.afterAll .operand (inside ++ [close]) = some .operator := by
    rw [Expecting.afterAll_append, hinside, Option.bind_some, Expecting.afterAll, hclose, hstop]
    rfl
  refine ⟨?_, ?_, ?_⟩
  · rw [List.cons_append, Expecting.afterAll, hopen]
    exact hrun
  · rw [List.cons_append, Expecting.afterAll, hopen]
    exact hrun
  · rw [List.cons_append, List.filterMap_cons_none (mention?_eq_none (by rw [hopen]; rfl)),
      List.filterMap_append, List.filterMap_cons_none (mention?_eq_none (by rw [hclose]; rfl))]
    simp

theorem readCall_used {read : Reader Formula} (hread : read.TakesOperand) {limit : Nat}
    {name : String} {span : Span} {formula : Formula} {tokens rest : List Token}
    (h : readCall limit read name span tokens = .ok (formula, rest)) :
    ∃ used, tokens = used ++ rest ∧ Expecting.afterAll .arguments used = some .operator ∧
      formula.mentions = used.filterMap Token.mention? := by
  unfold readCall at h
  split at h
  · next hopen =>
    split at h
    · cases h
    · next arity harity =>
      obtain ⟨start, hstart, htokens⟩ := exists_cons_of_nextKind hopen (by simp)
      obtain ⟨⟨arguments, behind⟩, harguments, h⟩ := bind_eq_ok_iff.1 h
      obtain ⟨⟨close, behind'⟩, hclose, h⟩ := bind_eq_ok_iff.1 h
      obtain ⟨token, htoken, -, hbehind⟩ := readClose_eq_ok hclose
      obtain ⟨used, stop, hused, hafter, hstop, hmentions⟩ := readArguments_used hread harguments
      obtain ⟨hcall, -, hfilter⟩ := operand_parentheses hstart htoken hafter hstop
      dsimp only at h
      split at h
      · cases h
        refine ⟨start :: used ++ [token], ?_, hcall, ?_⟩
        · rw [htokens, hused, hbehind]
          simp
        · rw [hfilter]
          exact hmentions
      · cases h
  · cases h

theorem takesOperand_readPrimary {read : Reader Formula} (hread : read.TakesOperand)
    {limit : Nat} : (readPrimary limit read).TakesOperand := by
  intro tokens formula rest h
  unfold readPrimary at h
  dsimp only at h
  generalize hkind : nextKind tokens = kind at h
  have htokens := fun hne => exists_cons_of_nextKind hkind hne
  cases kind with
  | name name =>
    obtain ⟨token, htoken, htokens⟩ := htokens (by simp)
    obtain ⟨used, hused, hafter, hmentions⟩ := readCall_used hread h
    refine ⟨token :: used, by rw [htokens, hused]; rfl, ?_, ?_⟩
    · rw [Expecting.afterAll, htoken]
      exact hafter
    · rw [List.filterMap_cons_none (mention?_eq_none (by rw [htoken]; rfl)), hmentions]
  | leftParen =>
    obtain ⟨start, hstart, htokens⟩ := htokens (by simp)
    obtain ⟨⟨inner, behind⟩, hinner, h⟩ := bind_eq_ok_iff.1 h
    obtain ⟨⟨close, behind'⟩, hclose, h⟩ := bind_eq_ok_iff.1 h
    cases h
    obtain ⟨token, htoken, -, hbehind⟩ := readClose_eq_ok hclose
    obtain ⟨used, hused, hoperand⟩ := hread _ _ _ hinner
    obtain ⟨-, hgroup, hfilter⟩ := operand_parentheses hstart htoken hoperand.afterAll_eq rfl
    dsimp only at hbehind ⊢
    refine ⟨start :: used ++ [token], ?_, hgroup, ?_⟩
    · rw [htokens, hused, hbehind]
      simp
    · rw [hfilter]
      exact hoperand.mentions_eq
  | number text | string text | reference name | path text =>
    obtain ⟨token, htoken, htokens⟩ := htokens (by simp)
    cases h
    refine ⟨[token], htokens, ?_, ?_⟩
    · rw [Expecting.afterAll, htoken]
      rfl
    · rw [htokens]
      simp [Token.mention?, htoken, mentions, nextSpan]
  | _ => cases h

theorem takesOperand_foldr {limit : Nat} {readOperand : Reader Formula}
    (hread : readOperand.TakesOperand) (levels : List (List Operator)) :
    (levels.foldr (readChain limit) readOperand).TakesOperand := by
  induction levels with
  | nil => exact hread
  | cons level levels ih => exact takesOperand_readChain ih

theorem takesOperand_read (limit : Nat) : (read limit).TakesOperand := by
  -- The limit bounds the depth of nesting: inside parentheses and arguments it is one less.
  induction limit with
  | zero =>
    intro tokens formula rest h
    cases h
  | succ limit ih =>
    unfold read
    apply takesOperand_foldr
    apply takesOperand_readUnary
    apply takesOperand_readChain
    apply takesOperand_readPrimary
    exact ih

theorem ofTokens_eq_ok_iff {tokens : List Token} {formula : Formula} :
    ofTokens tokens = .ok formula ↔ nextKind tokens ≠ .endOfInput ∧
      ∃ rest, read tokens.length tokens = .ok (formula, rest) ∧ nextKind rest = .endOfInput := by
  unfold ofTokens
  constructor
  · intro h
    split at h
    · cases h
    · next hne =>
      obtain ⟨⟨formula', rest⟩, hread, h⟩ := bind_eq_ok_iff.1 h
      dsimp only at h
      split at h
      · next hend =>
        cases h
        exact ⟨hne, rest, hread, hend⟩
      · cases h
  · rintro ⟨hne, rest, hread, hend⟩
    split
    · contradiction
    · rw [hread, ok_bind]
      dsimp only
      rw [hend]

theorem ofTokens_eq_ok {tokens : List Token} {formula : Formula}
    (h : ofTokens tokens = .ok formula) :
    ∃ used last, tokens = used ++ last ∧ nextKind last = .endOfInput ∧
      Operand used formula.mentions := by
  obtain ⟨-, rest, hread, hend⟩ := ofTokens_eq_ok_iff.1 h
  obtain ⟨used, hused, hoperand⟩ := takesOperand_read _ _ _ _ hread
  exact ⟨used, rest, hused, hend, hoperand⟩

theorem parse_eq_ok_iff {source : String} {formula : Formula} :
    parse source = .ok formula ↔ ofTokens (tokens source) = .ok formula := by
  unfold parse
  constructor
  · intro h
    split at h
    · next heq =>
      cases h
      exact heq
    · cases h
  · intro h
    rw [h]

end Formula

/--
Lexemes that complete an expression of which `expecting` has been read so far.
-/
inductive Phrase : Expecting → List Lexeme → Prop
  | last (gap : List Char) : Phrase .operator [⟨gap, [], .endOfInput⟩]
  | cons {expecting next : Expecting} {lexeme : Lexeme} {lexemes : List Lexeme}
      (hnext : expecting.after lexeme.kind = some next) (hrest : Phrase next lexemes) :
      Phrase expecting (lexeme :: lexemes)

namespace Lexeme

theorem scanReference_kind_ne_endOfInput (cs : List Char) :
    (scanReference cs).kind ≠ .endOfInput := by
  unfold scanReference
  split
  · dsimp only
    split
    · dsimp only
      split <;> simp
    · simp
  · simp

theorem scanString_kind_ne_endOfInput (quote : Char) (cs : List Char) :
    (scanString quote cs).kind ≠ .endOfInput := by
  unfold scanString
  dsimp only
  split <;> simp

theorem scanNumber_kind_ne_endOfInput (cs : List Char) :
    (scanNumber cs).kind ≠ .endOfInput := by
  unfold scanNumber
  dsimp only
  split <;> simp

theorem scanPath_kind_ne_endOfInput (cs : List Char) : (scanPath cs).kind ≠ .endOfInput := by
  unfold scanPath
  dsimp only
  split <;> split <;> simp

theorem scan_kind_ne_endOfInput (c : Char) (cs : List Char) :
    (scan c cs).kind ≠ .endOfInput := by
  unfold scan
  split
  case h_9 | h_10 | h_11 =>
    unfold scanOrEqual
    split <;> simp
  case h_12 => exact scanReference_kind_ne_endOfInput cs
  case h_13 | h_14 => exact scanString_kind_ne_endOfInput _ cs
  case h_15 => exact scanPath_kind_ne_endOfInput _
  case h_16 =>
    unfold scanDot
    split
    · exact scanNumber_kind_ne_endOfInput _
    · exact scanPath_kind_ne_endOfInput _
  case h_17 =>
    unfold scanWord
    split
    · exact scanNumber_kind_ne_endOfInput _
    · split <;> simp
  all_goals simp

end Lexeme

theorem Expecting.after_endOfInput (expecting : Expecting) :
    expecting.after .endOfInput = none := by
  cases expecting <;> rfl

theorem Expecting.after_malformed (expecting : Expecting) (fault : LexicalFault) :
    expecting.after (.malformed fault) = none := by
  cases expecting <;> rfl

theorem phrase_split {cs : List Char} {expecting : Expecting} {position : Position}
    {used last : List Token}
    (htokens : Token.locate position (Lexeme.split cs) = used ++ last)
    (hlast : Formula.nextKind last = .endOfInput)
    (hused : expecting.afterAll used = some .operator) :
    Phrase expecting (Lexeme.split cs) ∧ last.length = 1 := by
  -- The end of the input is no token of an operand, so it can only be behind the used ones.
  fun_induction Lexeme.split cs generalizing expecting position used with
  | case1 cs hcs =>
    cases used with
    | nil =>
      cases hused
      rw [List.nil_append] at htokens
      rw [← htokens]
      exact ⟨.last _, rfl⟩
    | cons token used =>
      obtain ⟨rfl, -⟩ := List.cons.inj htokens
      rw [Expecting.afterAll, Expecting.after_endOfInput] at hused
      cases hused
  | case2 cs c rest hcs _ ih =>
    cases used with
    | nil =>
      rw [List.nil_append] at htokens
      rw [← htokens] at hlast
      exact absurd hlast (Lexeme.scan_kind_ne_endOfInput c rest)
    | cons token used =>
      obtain ⟨rfl, htail⟩ := List.cons.inj htokens
      rw [Expecting.afterAll] at hused
      obtain ⟨next, hnext, hused⟩ := Option.bind_eq_some_iff.1 hused
      obtain ⟨hphrase, hlength⟩ := ih htail hused
      exact ⟨.cons hnext hphrase, hlength⟩

theorem phrase_of_parse {source : String} {formula : Formula}
    (h : Formula.parse source = .ok formula) : Phrase .operand (lexemes source) := by
  obtain ⟨used, last, htokens, hlast, hoperand⟩ :=
    Formula.ofTokens_eq_ok (Formula.parse_eq_ok_iff.1 h)
  exact (phrase_split htokens hlast hoperand.afterAll_eq).1

theorem mentions_of_parse {source : String} {formula : Formula}
    (h : Formula.parse source = .ok formula) :
    formula.mentions = (tokens source).filterMap Token.mention? := by
  obtain ⟨used, last, htokens, hlast, hoperand⟩ :=
    Formula.ofTokens_eq_ok (Formula.parse_eq_ok_iff.1 h)
  have hlength := (phrase_split htokens hlast hoperand.afterAll_eq).2
  obtain ⟨token, rfl⟩ := List.length_eq_one_iff.1 hlength
  have hnone : token.mention? = none := by
    apply Formula.mention?_eq_none
    rw [show token.kind = .endOfInput from hlast]
    rfl
  rw [htokens, List.filterMap_append, ← hoperand.mentions_eq, List.filterMap_cons_none hnone]
  simp

namespace Phrase

theorem isProper {expecting : Expecting} {lexemes : List Lexeme} (h : Phrase expecting lexemes) :
    ∀ lexeme ∈ lexemes, lexeme.kind.IsProper := by
  induction h with
  | last gap =>
    intro lexeme hlexeme fault
    cases List.mem_singleton.1 hlexeme
    simp
  | cons hnext _ ih =>
    intro lexeme hlexeme
    rcases List.mem_cons.1 hlexeme with rfl | hlexeme
    · intro fault hfault
      rw [hfault, Expecting.after_malformed] at hnext
      cases hnext
    · exact ih lexeme hlexeme

end Phrase

theorem separate_lexemes {source : String} {formula : Formula}
    (h : Formula.parse source = .ok formula) : Lexeme.Separate (lexemes source) :=
  Lexeme.separate_split (phrase_of_parse h).isProper

end Questionnaire
