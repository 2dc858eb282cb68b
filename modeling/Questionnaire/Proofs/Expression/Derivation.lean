import Questionnaire.Proofs.Expression.Phrase
import Questionnaire.Proofs.OrderedMap

/-!
This module contains the grammar of expressions as a relation between tokens and the formula they
derive. Whatever the reader accepts derives the formula that it returns.
-/

namespace Questionnaire

/--
The levels of the grammar, from the loosest to the tightest.
-/
inductive Level where
  | or
  | and
  | equality
  | relation
  | additive
  | multiply
  | unary
  | union
  | primary
deriving DecidableEq

namespace Level

def tighter? : Level → Option Level
  | or => some and
  | and => some equality
  | equality => some relation
  | relation => some additive
  | additive => some multiply
  | multiply => some unary
  | unary => some union
  | union => some primary
  | primary => none

def depth : Level → Nat
  | or => 0
  | and => 1
  | equality => 2
  | relation => 3
  | additive => 4
  | multiply => 5
  | unary => 6
  | union => 7
  | primary => 8

theorem depth_of_tighter? {level tighter : Level} (h : level.tighter? = some tighter) :
    tighter.depth = level.depth + 1 := by
  cases level <;> cases h <;> rfl

end Level

namespace Operator

def level : Operator → Level
  | or => .or
  | and => .and
  | equal | notEqual => .equality
  | less | lessEqual | greater | greaterEqual => .relation
  | add | subtract => .additive
  | multiply | divide | modulo => .multiply
  | union => .union

def kind : Operator → TokenKind
  | or => .name "or"
  | and => .name "and"
  | equal => .equal
  | notEqual => .notEqual
  | less => .less
  | lessEqual => .lessEqual
  | greater => .greater
  | greaterEqual => .greaterEqual
  | add => .plus
  | subtract => .minus
  | multiply => .star
  | divide => .name "div"
  | modulo => .name "mod"
  | union => .pipe

end Operator

namespace Formula

theorem operator?_eq_some_iff {kind : TokenKind} {operator : Operator} :
    operator? kind = some operator ↔ kind = operator.kind := by
  constructor
  · intro h
    unfold operator? at h
    split at h <;> cases h <;> rfl
  · rintro rfl
    cases operator <;> rfl

inductive Separated : List (List Token) → List Token → Prop
  | nil : Separated [] []
  | single (part : List Token) : Separated [part] part
  | cons {part next : List Token} {parts : List (List Token)} {comma : Token} {tokens : List Token}
      (hcomma : comma.kind = .comma) (h : Separated (next :: parts) tokens) :
      Separated (part :: next :: parts) (part ++ comma :: tokens)

/--
The formula that tokens derive at a level of the grammar.
-/
inductive Derives : Level → List Token → Formula → Prop
  | operand {level tighter : Level} {tokens : List Token} {formula : Formula}
      (hlevel : level.tighter? = some tighter) (h : Derives tighter tokens formula) :
      Derives level tokens formula
  | binary {level tighter : Level} {operator : Operator} {token : Token}
      {tokens tokens' : List Token} {left right : Formula}
      (hlevel : level.tighter? = some tighter) (hoperator : operator.level = level)
      (htoken : token.kind = operator.kind) (hleft : Derives level tokens left)
      (hright : Derives tighter tokens' right) :
      Derives level (tokens ++ token :: tokens')
        (.binary operator left right (left.span.to right.span))
  | negate {token : Token} {tokens : List Token} {operand : Formula} (htoken : token.kind = .minus)
      (h : Derives .unary tokens operand) :
      Derives .unary (token :: tokens) (.negate operand (token.span.to operand.span))
  | number {token : Token} {text : String} (htoken : token.kind = .number text) :
      Derives .primary [token] (.number text token.span)
  | string {token : Token} {text : String} (htoken : token.kind = .string text) :
      Derives .primary [token] (.string text token.span)
  | reference {token : Token} {name : String} (htoken : token.kind = .reference name) :
      Derives .primary [token] (.reference name token.span)
  | path {token : Token} {text : String} (htoken : token.kind = .path text) :
      Derives .primary [token] (.path text token.span)
  | group {start close : Token} {tokens : List Token} {inner : Formula}
      (hstart : start.kind = .leftParen) (hclose : close.kind = .rightParen)
      (h : Derives .or tokens inner) :
      Derives .primary (start :: tokens ++ [close]) (.group inner (start.span.to close.span))
  | call {head start close : Token} {name : String} {arity : Arity} {tokens : List Token}
      {arguments : List (List Token × Formula)} (hhead : head.kind = .name name)
      (hstart : start.kind = .leftParen) (hclose : close.kind = .rightParen)
      (hname : (name, arity) ∈ functions) (hcount : arity.accepts arguments.length = true)
      (hseparated : Separated (arguments.map Prod.fst) tokens)
      (h : ∀ argument ∈ arguments, Derives .or argument.1 argument.2) :
      Derives .primary (head :: start :: tokens ++ [close])
        (.call name (arguments.map Prod.snd) (head.span.to close.span))

def Reader.IsSound (read : Reader Formula) (level : Level) : Prop :=
  ∀ tokens formula rest, read tokens = .ok (formula, rest) →
    ∃ used, tokens = used ++ rest ∧ Derives level used formula

structure IsChain (level tighter : Level) (operators : List Operator) : Prop where
  tighter?_eq : level.tighter? = some tighter
  ne_unary : level ≠ .unary
  mem_iff (operator : Operator) : operator ∈ operators ↔ operator.level = level

theorem isChain_union : IsChain .union .primary tightLevel where
  tighter?_eq := rfl
  ne_unary := by decide
  mem_iff operator := by cases operator <;> decide

inductive Chained : Level → List (List Operator) → Level → Prop
  | nil (level : Level) : Chained level [] level
  | cons {level tighter last : Level} {operators : List Operator} {levels : List (List Operator)}
      (hchain : IsChain level tighter operators) (h : Chained tighter levels last) :
      Chained level (operators :: levels) last

theorem chained_looseLevels : Chained .or looseLevels .unary := by
  refine .cons ⟨rfl, by decide, ?_⟩ <| .cons ⟨rfl, by decide, ?_⟩ <|
    .cons ⟨rfl, by decide, ?_⟩ <| .cons ⟨rfl, by decide, ?_⟩ <| .cons ⟨rfl, by decide, ?_⟩ <|
    .cons ⟨rfl, by decide, ?_⟩ <| .nil .unary
  all_goals
    intro operator
    cases operator <;> decide

section Chain

variable {level tighter : Level} {operators : List Operator} {readOperand : Reader Formula}

theorem derives_readChainRest (hchain : IsChain level tighter operators)
    (hread : readOperand.IsSound tighter) {limit : Nat} {left formula : Formula}
    {taken tokens rest : List Token} (htaken : Derives level taken left)
    (h : readChainRest operators readOperand limit left tokens = .ok (formula, rest)) :
    ∃ used, tokens = used ++ rest ∧ Derives level (taken ++ used) formula := by
  induction limit generalizing left taken tokens with
  | zero =>
    cases h
    exact ⟨[], rfl, by rwa [List.append_nil]⟩
  | succ limit ih =>
    unfold readChainRest at h
    split at h
    · cases h
      exact ⟨[], rfl, by rwa [List.append_nil]⟩
    · next operator hoperator =>
      obtain ⟨hsome, hmem⟩ := Option.filter_eq_some_iff.1 hoperator
      have hkind := operator?_eq_some_iff.1 hsome
      obtain ⟨token, htoken, htokens⟩ :=
        exists_cons_of_nextKind hkind (by cases operator <;> simp [Operator.kind])
      obtain ⟨⟨right, behind⟩, hright, h⟩ := bind_eq_ok_iff.1 h
      obtain ⟨used, hused, hderives⟩ := hread _ _ _ hright
      have hjoin : Derives level (taken ++ token :: used) (join operator left right) :=
        .binary hchain.tighter?_eq ((hchain.mem_iff operator).1 (by simpa using hmem)) htoken htaken
          hderives
      obtain ⟨used', hused', hderives'⟩ := ih hjoin h
      refine ⟨token :: used ++ used', ?_, ?_⟩
      · rw [htokens, hused, hused']
        simp
      · simpa using hderives'

theorem isSound_readChain (hchain : IsChain level tighter operators)
    (hread : readOperand.IsSound tighter) {limit : Nat} :
    (readChain limit operators readOperand).IsSound level := by
  intro tokens formula rest h
  unfold readChain at h
  obtain ⟨⟨left, behind⟩, hleft, h⟩ := bind_eq_ok_iff.1 h
  obtain ⟨used, hused, hderives⟩ := hread _ _ _ hleft
  obtain ⟨used', hused', hderives'⟩ :=
    derives_readChainRest hchain hread (.operand hchain.tighter?_eq hderives) h
  refine ⟨used ++ used', ?_, hderives'⟩
  rw [hused, hused', List.append_assoc]

theorem isSound_foldr {last : Level} {levels : List (List Operator)}
    (hlevels : Chained level levels last) (hread : readOperand.IsSound last) {limit : Nat} :
    (levels.foldr (readChain limit) readOperand).IsSound level := by
  induction hlevels with
  | nil => exact hread
  | cons hchain _ ih => exact isSound_readChain hchain (ih hread)

end Chain

theorem isSound_readUnary {readOperand : Reader Formula} (hread : readOperand.IsSound .union) :
    (readUnary readOperand).IsSound .unary := by
  intro tokens
  induction tokens with
  | nil =>
    intro formula rest h
    obtain ⟨used, hused, hderives⟩ := hread _ _ _ h
    exact ⟨used, hused, .operand rfl hderives⟩
  | cons token tokens ih =>
    intro formula rest h
    unfold readUnary at h
    split at h
    · next hminus =>
      obtain ⟨⟨operand, behind⟩, hoperand, h⟩ := bind_eq_ok_iff.1 h
      cases h
      obtain ⟨used, hused, hderives⟩ := ih _ _ hoperand
      exact ⟨token :: used, by rw [hused]; rfl, .negate hminus hderives⟩
    · obtain ⟨used, hused, hderives⟩ := hread _ _ _ h
      exact ⟨used, hused, .operand rfl hderives⟩

section Call

variable {read : Reader Formula} {limit : Nat} {tokens rest : List Token}

theorem separated_readMoreArguments (hread : read.IsSound .or) {arguments : List Formula}
    (h : readMoreArguments read limit tokens = .ok (arguments, rest)) :
    ∃ (used : List Token) (parts : List (List Token × Formula)), tokens = used ++ rest ∧
      arguments = parts.map Prod.snd ∧ (∀ part ∈ parts, Derives .or part.1 part.2) ∧
        ∀ first, Separated (first :: parts.map Prod.fst) (first ++ used) := by
  induction limit generalizing arguments tokens with
  | zero =>
    cases h
    refine ⟨[], [], rfl, rfl, by simp, ?_⟩
    intro first
    rw [List.append_nil]
    exact .single first
  | succ limit ih =>
    unfold readMoreArguments at h
    split at h
    · next hcomma =>
      obtain ⟨comma, hkind, htokens⟩ := exists_cons_of_nextKind hcomma (by simp)
      obtain ⟨⟨argument, behind⟩, hargument, h⟩ := bind_eq_ok_iff.1 h
      obtain ⟨⟨arguments', behind'⟩, harguments, h⟩ := bind_eq_ok_iff.1 h
      cases h
      obtain ⟨used, hused, hderives⟩ := hread _ _ _ hargument
      obtain ⟨used', parts, hused', rfl, hparts, hseparated⟩ := ih harguments
      refine ⟨comma :: used ++ used', (used, argument) :: parts, ?_, rfl, ?_, ?_⟩
      · rw [htokens, hused, hused']
        simp
      · exact List.forall_mem_cons.2 ⟨hderives, hparts⟩
      · intro first
        exact .cons hkind (hseparated used)
    · cases h
      refine ⟨[], [], rfl, rfl, by simp, ?_⟩
      intro first
      rw [List.append_nil]
      exact .single first

theorem separated_readArguments (hread : read.IsSound .or) {arguments : List Formula}
    (h : readArguments limit read tokens = .ok (arguments, rest)) :
    ∃ (used : List Token) (parts : List (List Token × Formula)), tokens = used ++ rest ∧
      arguments = parts.map Prod.snd ∧ (∀ part ∈ parts, Derives .or part.1 part.2) ∧
        Separated (parts.map Prod.fst) used := by
  unfold readArguments at h
  split at h
  · cases h
    exact ⟨[], [], rfl, rfl, by simp, .nil⟩
  · obtain ⟨⟨argument, behind⟩, hargument, h⟩ := bind_eq_ok_iff.1 h
    obtain ⟨⟨arguments', behind'⟩, harguments, h⟩ := bind_eq_ok_iff.1 h
    cases h
    obtain ⟨used, hused, hderives⟩ := hread _ _ _ hargument
    obtain ⟨used', parts, hused', rfl, hparts, hseparated⟩ :=
      separated_readMoreArguments hread harguments
    refine ⟨used ++ used', (used, argument) :: parts, ?_, rfl, ?_, hseparated used⟩
    · rw [hused, hused', List.append_assoc]
    · exact List.forall_mem_cons.2 ⟨hderives, hparts⟩

theorem arity?_eq_some_iff {name : String} {arity : Arity} :
    arity? name = some arity ↔ (name, arity) ∈ functions := by
  have hnodup : (functions.map Prod.fst).Nodup := by decide
  constructor
  · exact OrderedMap.mem_of_lookup_eq_some
  · exact OrderedMap.lookup_eq_some_of_mem hnodup

theorem derives_readCall (hread : read.IsSound .or) {head : Token} {name : String}
    {formula : Formula} (hhead : head.kind = .name name)
    (h : readCall limit read name head.span tokens = .ok (formula, rest)) :
    ∃ used, tokens = used ++ rest ∧ Derives .primary (head :: used) formula := by
  unfold readCall at h
  split at h
  · next hopen =>
    split at h
    · cases h
    · next arity harity =>
      obtain ⟨start, hstart, htokens⟩ := exists_cons_of_nextKind hopen (by simp)
      obtain ⟨⟨arguments, behind⟩, harguments, h⟩ := bind_eq_ok_iff.1 h
      obtain ⟨⟨close, behind'⟩, hclose, h⟩ := bind_eq_ok_iff.1 h
      obtain ⟨token, htoken, rfl, hbehind⟩ := readClose_eq_ok hclose
      obtain ⟨used, parts, hused, rfl, hparts, hseparated⟩ :=
        separated_readArguments hread harguments
      dsimp only at h
      rw [List.length_map] at h
      split at h
      · next hcount =>
        cases h
        refine ⟨start :: used ++ [token], ?_, ?_⟩
        · rw [htokens, hused, hbehind]
          simp
        · exact .call hhead hstart htoken (arity?_eq_some_iff.1 harity) hcount hseparated hparts
      · cases h
  · cases h

theorem isSound_readPrimary (hread : read.IsSound .or) :
    (readPrimary limit read).IsSound .primary := by
  intro tokens formula rest h
  unfold readPrimary at h
  dsimp only at h
  generalize hkind : nextKind tokens = kind at h
  have htokens := fun hne => exists_cons_of_nextKind hkind hne
  cases kind with
  | name name =>
    obtain ⟨token, htoken, htokens⟩ := htokens (by simp)
    have hspan : nextSpan tokens = token.span := by rw [htokens]; rfl
    rw [hspan] at h
    obtain ⟨used, hused, hderives⟩ := derives_readCall hread htoken h
    exact ⟨token :: used, by rw [htokens, hused]; rfl, hderives⟩
  | leftParen =>
    obtain ⟨start, hstart, htokens⟩ := htokens (by simp)
    obtain ⟨⟨inner, behind⟩, hinner, h⟩ := bind_eq_ok_iff.1 h
    obtain ⟨⟨close, behind'⟩, hclose, h⟩ := bind_eq_ok_iff.1 h
    cases h
    obtain ⟨token, htoken, rfl, hbehind⟩ := readClose_eq_ok hclose
    obtain ⟨used, hused, hderives⟩ := hread _ _ _ hinner
    dsimp only at hbehind ⊢
    rw [htokens]
    refine ⟨start :: used ++ [token], ?_, .group hstart htoken hderives⟩
    rw [hused, hbehind]
    simp
  | number text | string text | reference name | path text =>
    obtain ⟨token, htoken, htokens⟩ := htokens (by simp)
    cases h
    rw [htokens]
    refine ⟨[token], rfl, ?_⟩
    first
      | exact .number htoken
      | exact .string htoken
      | exact .reference htoken
      | exact .path htoken
  | _ => cases h

end Call

theorem isSound_read (limit : Nat) : (read limit).IsSound .or := by
  -- The limit bounds the depth of nesting: inside parentheses and arguments it is one less.
  induction limit with
  | zero =>
    intro tokens formula rest h
    cases h
  | succ limit ih =>
    apply isSound_foldr chained_looseLevels
    apply isSound_readUnary
    apply isSound_readChain isChain_union
    exact isSound_readPrimary ih

end Formula

end Questionnaire
