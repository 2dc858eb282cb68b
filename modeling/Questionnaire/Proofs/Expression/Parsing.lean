import Questionnaire.Proofs.Expression.Derivation

/-!
This module contains that expressions are accepted exactly if the grammar derives them. The grammar
is unambiguous because the reader, which is a function, finds every derivation.
-/

namespace Questionnaire

namespace Formula

/--
Whether a token cannot go on with what a level derives: if it stands for an operator, then for one
that binds more loosely.
-/
def Stops (level : Level) (kind : TokenKind) : Prop :=
  ∀ operator, operator? kind = some operator → operator.level.depth < level.depth

theorem Stops.mono {level tighter : Level} {kind : TokenKind} (h : Stops level kind)
    (hdepth : level.depth ≤ tighter.depth) : Stops tighter kind := by
  intro operator hoperator
  exact Nat.lt_of_lt_of_le (h operator hoperator) hdepth

theorem stops_operator {level : Level} {kind : TokenKind} {operator : Operator}
    (hkind : kind = operator.kind) (hdepth : operator.level.depth < level.depth) :
    Stops level kind := by
  intro operator' hoperator'
  rw [operator?_eq_some_iff.2 hkind] at hoperator'
  cases hoperator'
  exact hdepth

theorem stops_of_operator?_eq_none {kind : TokenKind} (h : operator? kind = none) (level : Level) :
    Stops level kind := by
  intro operator hoperator
  rw [h] at hoperator
  cases hoperator

structure Opens (level : Level) (kind : TokenKind) : Prop where
  ne_rightParen : kind ≠ .rightParen
  ne_endOfInput : kind ≠ .endOfInput
  ne_minus : Level.unary.depth < level.depth → kind ≠ .minus

theorem opens_of_derives {level : Level} {tokens : List Token} {formula : Formula}
    (h : Derives level tokens formula) :
    ∃ first behind, tokens = first :: behind ∧ Opens level first.kind := by
  induction h with
  | operand hlevel _ ih =>
    obtain ⟨first, behind, htokens, hopens⟩ := ih
    have hdepth := Level.depth_of_tighter? hlevel
    refine ⟨first, behind, htokens, hopens.ne_rightParen, hopens.ne_endOfInput, ?_⟩
    intro hlt
    exact hopens.ne_minus (by omega)
  | binary _ _ _ _ _ ih _ =>
    obtain ⟨first, behind, rfl, hopens⟩ := ih
    exact ⟨first, _, rfl, hopens⟩
  | negate htoken _ _ =>
    refine ⟨_, _, rfl, ?_, ?_, ?_⟩
    · simp [htoken]
    · simp [htoken]
    · intro hlt
      exact absurd hlt (Nat.lt_irrefl _)
  | number htoken | string htoken | reference htoken | path htoken | group htoken _ _ _
  | call htoken _ _ _ _ _ _ _ =>
    exact ⟨_, _, rfl, by simp [htoken], by simp [htoken], by simp [htoken]⟩

def Reader.IsComplete (read : Reader Formula) (level : Level) (bound : Nat) : Prop :=
  ∀ used formula rest, Derives level used formula → used.length ≤ bound →
    Stops level (nextKind rest) → read (used ++ rest) = .ok (formula, rest)

section Chain

variable {level tighter : Level} {operators : List Operator} {readOperand : Reader Formula}
  {limit bound : Nat}

theorem readChainRest_cons {operator : Operator} {token : Token} (hmem : operator ∈ operators)
    (htoken : token.kind = operator.kind) (left : Formula) (tokens : List Token) :
    readChainRest operators readOperand (limit + 1) left (token :: tokens) =
      readOperand tokens >>= fun (right, rest) =>
        readChainRest operators readOperand limit (join operator left right) rest := by
  have hoperator : (operator? (nextKind (token :: tokens))).filter (operators.contains ·) =
      some operator := by
    refine Option.filter_eq_some_iff.2 ⟨operator?_eq_some_iff.2 htoken, ?_⟩
    simpa using hmem
  rw [readChainRest, hoperator]
  rfl

theorem readChainRest_of_stops (hchain : IsChain level tighter operators) {rest : List Token}
    (hrest : Stops level (nextKind rest)) (left : Formula) :
    readChainRest operators readOperand limit left rest = .ok (left, rest) := by
  have hoperator : (operator? (nextKind rest)).filter (operators.contains ·) = none := by
    refine Option.filter_eq_none_iff.2 ?_
    intro operator hsome hcontains
    have hlevel := (hchain.mem_iff operator).1 (by simpa using hcontains)
    have hlt := hrest operator hsome
    rw [hlevel] at hlt
    exact Nat.lt_irrefl _ hlt
  cases limit with
  | zero => rfl
  | succ limit => rw [readChainRest, hoperator]

theorem readChain_append (hchain : IsChain level tighter operators)
    (hread : readOperand.IsComplete tighter bound) (hbound : bound ≤ limit + 1)
    {used : List Token} {formula : Formula} (h : Derives level used formula)
    (hused : used.length ≤ bound) :
    ∃ joined, joined < used.length ∧ ∀ rest, Stops tighter (nextKind rest) →
      readChain limit operators readOperand (used ++ rest) =
        readChainRest operators readOperand (limit - joined) formula rest := by
  have hdepth := Level.depth_of_tighter? hchain.tighter?_eq
  -- `joined` counts the operators that the formula took from the limit of the chain.
  induction h with
  | operand hlevel h _ =>
    rw [hchain.tighter?_eq] at hlevel
    cases hlevel
    obtain ⟨first, behind, hcons, -⟩ := opens_of_derives h
    refine ⟨0, by simp [hcons], ?_⟩
    intro rest hrest
    rw [readChain, hread _ _ _ h hused hrest]
    rfl
  | @binary _ _ operator token tokens tokens' left right hlevel hoperator htoken _ hright ih _ =>
    rw [hchain.tighter?_eq] at hlevel
    cases hlevel
    rw [List.length_append, List.length_cons] at hused
    obtain ⟨joined, hjoined, hleft⟩ := ih hchain (by omega) hdepth
    obtain ⟨first, behind, hcons, -⟩ := opens_of_derives hright
    refine ⟨joined + 1, ?_, ?_⟩
    · rw [List.length_append, List.length_cons]
      omega
    · intro rest hrest
      have hstops : Stops tighter (nextKind (token :: (tokens' ++ rest))) := by
        refine stops_operator htoken ?_
        rw [hoperator]
        omega
      obtain ⟨limit', hlimit⟩ : ∃ limit', limit - joined = limit' + 1 :=
        ⟨limit - joined - 1, by omega⟩
      have hmem := (hchain.mem_iff operator).2 hoperator
      rw [List.append_assoc, List.cons_append, hleft _ hstops, hlimit,
        readChainRest_cons hmem htoken, hread _ _ _ hright (by omega) hrest, ok_bind,
        ← Nat.sub_sub, hlimit]
      rfl
  | negate => exact absurd rfl hchain.ne_unary
  | number | string | reference | path | group | call => cases hchain.tighter?_eq

theorem isComplete_readChain (hchain : IsChain level tighter operators)
    (hread : readOperand.IsComplete tighter bound) (hbound : bound ≤ limit + 1) :
    (readChain limit operators readOperand).IsComplete level bound := by
  intro used formula rest h hused hrest
  obtain ⟨joined, -, hjoined⟩ := readChain_append hchain hread hbound h hused
  have hdepth := Level.depth_of_tighter? hchain.tighter?_eq
  rw [hjoined rest (hrest.mono (by omega)), readChainRest_of_stops hchain hrest]

theorem isComplete_foldr {last : Level} {levels : List (List Operator)}
    (hlevels : Chained level levels last) (hread : readOperand.IsComplete last bound)
    (hbound : bound ≤ limit + 1) :
    (levels.foldr (readChain limit) readOperand).IsComplete level bound := by
  induction hlevels with
  | nil => exact hread
  | cons hchain _ ih => exact isComplete_readChain hchain (ih hread) hbound

end Chain

theorem isComplete_readUnary {readOperand : Reader Formula} {bound : Nat}
    (hread : readOperand.IsComplete .union bound) :
    (readUnary readOperand).IsComplete .unary bound := by
  intro used formula rest h hused hrest
  generalize hlevel : Level.unary = level at h
  induction h with
  | @operand _ _ _ formula htighter h _ =>
    subst hlevel
    cases htighter
    obtain ⟨first, behind, rfl, hopens⟩ := opens_of_derives h
    have hminus : first.kind ≠ .minus := hopens.ne_minus (by decide)
    have hrest' : Stops .union (nextKind rest) := hrest.mono (by decide)
    rw [List.cons_append, readUnary]
    split
    · contradiction
    · exact hread _ _ _ h hused hrest'
  | @binary _ _ operator _ _ _ _ _ _ hoperator =>
    subst hlevel
    cases operator <;> cases hoperator
  | negate htoken _ ih =>
    rw [List.cons_append, readUnary, htoken]
    dsimp only
    rw [ih (Nat.le_of_succ_le hused) rfl]
    rfl
  | number | string | reference | path | group | call => cases hlevel

section Call

variable {read : Reader Formula} {limit bound : Nat}

theorem readClose_cons {close : Token} (hclose : close.kind = .rightParen) (rest : List Token) :
    readClose (close :: rest) = .ok (close.span, rest) := by
  have hkind : nextKind (close :: rest) = .rightParen := hclose
  rw [readClose, hkind]
  rfl

theorem readMoreArguments_separated (hread : read.IsComplete .or bound) {first : List Token}
    {arguments : List (List Token × Formula)} {inside rest : List Token}
    (h : Separated (first :: arguments.map Prod.fst) inside)
    (hderives : ∀ argument ∈ arguments, Derives .or argument.1 argument.2)
    (hbound : inside.length ≤ bound) (hlimit : inside.length ≤ limit)
    (hrest : nextKind rest = .rightParen) :
    ∃ more, inside = first ++ more ∧ Stops .or (nextKind (more ++ rest)) ∧
      readMoreArguments read limit (more ++ rest) = .ok (arguments.map Prod.snd, rest) := by
  induction arguments generalizing first inside limit with
  | nil =>
    cases h
    refine ⟨[], (List.append_nil first).symm, ?_, ?_⟩
    · rw [List.nil_append, hrest]
      exact stops_of_operator?_eq_none rfl .or
    · cases limit with
      | zero => rfl
      | succ limit =>
        rw [List.nil_append, readMoreArguments, hrest]
        rfl
  | cons argument arguments ih =>
    obtain ⟨hargument, hderives⟩ := List.forall_mem_cons.1 hderives
    cases h with
    | @cons _ _ _ comma tokens hcomma h =>
      rw [List.length_append, List.length_cons] at hbound hlimit
      cases limit with
      | zero => omega
      | succ limit =>
        have hinside : tokens.length ≤ limit := by omega
        obtain ⟨more, htokens, hstops, hmore⟩ := ih h hderives (by omega) hinside
        have hlength := congrArg List.length htokens
        rw [List.length_append] at hlength
        refine ⟨comma :: tokens, rfl, ?_, ?_⟩
        · exact stops_of_operator?_eq_none (by rw [List.cons_append, nextKind, hcomma]; rfl) .or
        · rw [List.cons_append, readMoreArguments, nextKind, hcomma]
          dsimp only
          rw [List.tail_cons, htokens, List.append_assoc,
            hread _ _ _ hargument (by omega) hstops, ok_bind]
          dsimp only
          rw [hmore]
          rfl

theorem readArguments_separated (hread : read.IsComplete .or bound)
    {arguments : List (List Token × Formula)} {inside rest : List Token}
    (h : Separated (arguments.map Prod.fst) inside)
    (hderives : ∀ argument ∈ arguments, Derives .or argument.1 argument.2)
    (hbound : inside.length ≤ bound) (hlimit : inside.length ≤ limit)
    (hrest : nextKind rest = .rightParen) :
    readArguments limit read (inside ++ rest) = .ok (arguments.map Prod.snd, rest) := by
  cases arguments with
  | nil =>
    cases h
    rw [List.nil_append, readArguments, hrest]
    rfl
  | cons argument arguments =>
    obtain ⟨hargument, hderives⟩ := List.forall_mem_cons.1 hderives
    obtain ⟨more, rfl, hstops, hmore⟩ :=
      readMoreArguments_separated hread h hderives hbound hlimit hrest
    obtain ⟨first, behind, hcons, hopens⟩ := opens_of_derives hargument
    have hlength : argument.1.length ≤ bound := by
      rw [List.length_append] at hbound
      omega
    have hkind : nextKind (argument.1 ++ more ++ rest) ≠ .rightParen := by
      rw [hcons]
      exact hopens.ne_rightParen
    unfold readArguments
    split
    · contradiction
    · rw [List.append_assoc, hread _ _ _ hargument hlength hstops, ok_bind]
      dsimp only
      rw [hmore]
      rfl

theorem isComplete_readPrimary (hread : read.IsComplete .or bound) (hbound : bound ≤ limit) :
    (readPrimary limit read).IsComplete .primary (bound + 1) := by
  intro used formula rest h hused _
  cases h with
  | operand hlevel => cases hlevel
  | binary hlevel => cases hlevel
  | number htoken | string htoken | reference htoken | path htoken =>
    rw [List.singleton_append, readPrimary, nextKind, htoken]
    rfl
  | @group start close inside inner hstart hclose h =>
    simp only [List.length_append, List.length_cons, List.length_nil] at hused
    have hstops : Stops .or (nextKind (close :: rest)) :=
      stops_of_operator?_eq_none (by rw [nextKind, hclose]; rfl) .or
    rw [List.append_assoc, List.cons_append, List.singleton_append, readPrimary, nextKind, hstart]
    dsimp only
    rw [List.tail_cons, hread _ _ _ h (by omega) hstops, ok_bind]
    dsimp only
    rw [readClose_cons hclose]
    rfl
  | @call head start close name arity inside arguments hhead hstart hclose hname hcount hseparated
      hderives =>
    simp only [List.length_append, List.length_cons, List.length_nil] at hused
    have harguments : readArguments limit read (inside ++ close :: rest) =
        .ok (arguments.map Prod.snd, close :: rest) :=
      readArguments_separated hread hseparated hderives (by omega) (by omega) hclose
    rw [List.append_assoc, List.cons_append, List.cons_append, List.singleton_append, readPrimary,
      nextKind, hhead]
    dsimp only
    rw [List.tail_cons, readCall, nextKind, hstart]
    dsimp only
    rw [arity?_eq_some_iff.2 hname]
    dsimp only
    rw [List.tail_cons, harguments, ok_bind]
    dsimp only
    rw [readClose_cons hclose, ok_bind]
    dsimp only
    rw [List.length_map, if_pos hcount]
    rfl

end Call

theorem isComplete_read (limit : Nat) : (read limit).IsComplete .or limit := by
  -- What stands inside parentheses is shorter than the whole, and so is an argument of a call.
  induction limit with
  | zero =>
    intro used formula rest h hused
    obtain ⟨first, behind, rfl, -⟩ := opens_of_derives h
    cases hused
  | succ limit ih =>
    unfold read
    apply isComplete_foldr chained_looseLevels
    · apply isComplete_readUnary
      apply isComplete_readChain isChain_union
      · exact isComplete_readPrimary ih (Nat.le_refl limit)
      · exact Nat.le_refl _
    · exact Nat.le_refl _

theorem derives_or {level : Level} {tokens : List Token} {formula : Formula}
    (h : Derives level tokens formula) : Derives .or tokens formula := by
  cases level <;> repeat first
    | exact h
    | refine .operand rfl ?_

theorem derives_unique {level level' : Level} {tokens : List Token} {formula formula' : Formula}
    (h : Derives level tokens formula) (h' : Derives level' tokens formula') :
    formula = formula' := by
  have hstops : Stops .or (nextKind []) := stops_of_operator?_eq_none rfl .or
  have hread := isComplete_read tokens.length _ _ [] (derives_or h) (Nat.le_refl _) hstops
  rw [isComplete_read tokens.length _ _ [] (derives_or h') (Nat.le_refl _) hstops] at hread
  cases hread
  rfl

theorem parse_eq_ok_iff_derives (source : String) (formula : Formula) :
    parse source = .ok formula ↔ ∃ used last, tokens source = used ++ [last] ∧
      last.kind = .endOfInput ∧ Derives .or used formula := by
  rw [parse_eq_ok_iff, ofTokens_eq_ok_iff]
  constructor
  · rintro ⟨-, rest, hread, hend⟩
    obtain ⟨used, hused, hderives⟩ := isSound_read _ _ _ _ hread
    obtain ⟨used', hused', hoperand⟩ := takesOperand_read _ _ _ _ hread
    have heq := List.append_cancel_right (hused'.symm.trans hused)
    subst heq
    obtain ⟨-, hlength⟩ := phrase_split hused hend hoperand.afterAll_eq
    obtain ⟨last, rfl⟩ := List.length_eq_one_iff.1 hlength
    exact ⟨used', last, hused, hend, hderives⟩
  · rintro ⟨used, last, htokens, hend, hderives⟩
    have hstops : Stops .or (nextKind [last]) :=
      stops_of_operator?_eq_none (by rw [nextKind, hend]; rfl) .or
    obtain ⟨first, behind, hcons, hopens⟩ := opens_of_derives hderives
    rw [htokens]
    refine ⟨?_, [last], ?_, hend⟩
    · rw [hcons]
      exact hopens.ne_endOfInput
    · exact isComplete_read _ _ _ _ hderives (by simp) hstops

theorem parse_follows_grammar :
    (∀ source formula, parse source = .ok formula ↔ ∃ used last, tokens source = used ++ [last] ∧
      last.kind = .endOfInput ∧ Derives .or used formula) ∧
    ∀ level level' used formula formula', Derives level used formula →
      Derives level' used formula' → formula = formula' := by
  refine ⟨parse_eq_ok_iff_derives, ?_⟩
  intro level level' used formula formula' h h'
  exact derives_unique h h'

theorem parse_follows_grammar_sum :
    parse "1+-2" = .ok (.binary .add (.number "1" ⟨0, 1, 1⟩)
        (.negate (.number "2" ⟨3, 4, 4⟩) ⟨2, 4, 3⟩) ⟨0, 4, 1⟩) ∧
      ∀ formula, Derives .or [⟨.number "1", ⟨0, 1, 1⟩⟩, ⟨.plus, ⟨1, 2, 2⟩⟩, ⟨.minus, ⟨2, 3, 3⟩⟩,
          ⟨.number "2", ⟨3, 4, 4⟩⟩] formula →
        formula = .binary .add (.number "1" ⟨0, 1, 1⟩)
          (.negate (.number "2" ⟨3, 4, 4⟩) ⟨2, 4, 3⟩) ⟨0, 4, 1⟩ := by
  have htokens : tokens "1+-2" = [⟨.number "1", ⟨0, 1, 1⟩⟩, ⟨.plus, ⟨1, 2, 2⟩⟩,
      ⟨.minus, ⟨2, 3, 3⟩⟩, ⟨.number "2", ⟨3, 4, 4⟩⟩] ++ [⟨.endOfInput, ⟨4, 4, 5⟩⟩] := by
    decide +kernel
  have hleft : Derives .additive [⟨.number "1", ⟨0, 1, 1⟩⟩] (.number "1" ⟨0, 1, 1⟩) :=
    .operand rfl <| .operand rfl <| .operand rfl <| .operand rfl <| .number rfl
  have hright : Derives .multiply [⟨.minus, ⟨2, 3, 3⟩⟩, ⟨.number "2", ⟨3, 4, 4⟩⟩]
      (.negate (.number "2" ⟨3, 4, 4⟩) ⟨2, 4, 3⟩) :=
    .operand rfl <| .negate rfl <| .operand rfl <| .operand rfl <| .number rfl
  have hsum : Derives .additive
      ([⟨.number "1", ⟨0, 1, 1⟩⟩] ++ ⟨.plus, ⟨1, 2, 2⟩⟩ ::
        [⟨.minus, ⟨2, 3, 3⟩⟩, ⟨.number "2", ⟨3, 4, 4⟩⟩])
      (.binary .add (.number "1" ⟨0, 1, 1⟩) (.negate (.number "2" ⟨3, 4, 4⟩) ⟨2, 4, 3⟩)
        ⟨0, 4, 1⟩) :=
    .binary rfl rfl rfl hleft hright
  refine ⟨(parse_follows_grammar.1 _ _).2 ⟨_, _, htokens, rfl, derives_or hsum⟩, ?_⟩
  intro formula h
  exact parse_follows_grammar.2 _ _ _ _ _ h hsum

end Formula

end Questionnaire
