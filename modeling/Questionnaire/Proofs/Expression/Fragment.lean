import Questionnaire.Proofs.Expression.Tokens

/-!
This module contains the tokens of a fragment of a source. Neighbouring tokens are also the tokens
of the text that they cover, but for where that text stands in the source, and their spans lie
behind each other.
-/

namespace Questionnaire

namespace Span

def shift (bytes columns : Nat) (span : Span) : Span :=
  ⟨span.start + bytes, span.stop + bytes, span.column + columns⟩

def unshift (bytes columns : Nat) (span : Span) : Span :=
  ⟨span.start - bytes, span.stop - bytes, span.column - columns⟩

theorem unshift_shift (bytes columns : Nat) (span : Span) :
    (span.shift bytes columns).unshift bytes columns = span := by
  simp [shift, unshift]

theorem shift_to (bytes columns : Nat) (first last : Span) :
    (first.to last).shift bytes columns =
      (first.shift bytes columns).to (last.shift bytes columns) :=
  rfl

theorem unshift_to (bytes columns : Nat) (first last : Span) :
    (first.to last).unshift bytes columns =
      (first.unshift bytes columns).to (last.unshift bytes columns) :=
  rfl

def Encloses (outer inner : Span) : Prop :=
  outer.start ≤ inner.start ∧ inner.stop ≤ outer.stop

def Precedes (first second : Span) : Prop :=
  first.stop ≤ second.start

end Span

def Token.mapSpan (change : Span → Span) (token : Token) : Token :=
  ⟨token.kind, change token.span⟩

namespace Lexeme

theorem StandsBefore.mono {lexeme : Lexeme} {next next' : Option Char}
    (h : lexeme.StandsBefore next) (hkind : lexeme.kind.IsProper) (hnext : ∀ c ∈ next', c ∈ next) :
    lexeme.StandsBefore next' := by
  obtain ⟨c, text, htext, hblank, hscan⟩ := h
  have hhead (next : Option Char) : next.toList.head? = next := by cases next <;> rfl
  refine ⟨c, text, htext, hblank, ?_⟩
  intro rest hrest
  apply scan_append (hscan next.toList (hhead next)) hkind
  rw [hrest, hhead]
  exact hnext

theorem Separate.withoutGap {lexeme : Lexeme} {lexemes : List Lexeme}
    (h : Separate (lexeme :: lexemes)) : Separate (⟨[], lexeme.text, lexeme.kind⟩ :: lexemes) := by
  cases h with
  | last _ => exact .last (by simp)
  | cons _ hstands hrest => exact .cons (by simp) hstands hrest

theorem Separate.of_append {front lexemes : List Lexeme} (h : Separate (front ++ lexemes))
    (hne : lexemes ≠ []) : Separate lexemes := by
  induction front with
  | nil => exact h
  | cons lexeme front ih => exact ih (h.tail (by simp [hne]))

theorem Separate.cut {lexemes back : List Lexeme} (h : Separate (lexemes ++ back)) (hne : back ≠ [])
    (hproper : ∀ lexeme ∈ lexemes, lexeme.kind.IsProper) :
    Separate (lexemes ++ [⟨[], [], .endOfInput⟩]) := by
  induction lexemes with
  | nil => exact .last (by simp)
  | cons lexeme lexemes ih =>
    obtain ⟨hlexeme, hproper⟩ := List.forall_mem_cons.1 hproper
    have hbehind : lexemes ++ back ≠ [] := by simp [hne]
    rw [List.cons_append] at h ⊢
    -- What is behind a lexeme decides only whether the lexeme goes on, and the end stops all of them.
    refine .cons h.gap_eq ((h.standsBefore hbehind).mono hlexeme ?_) (ih (h.tail hbehind) hproper)
    rw [List.flatMap_append, List.flatMap_append]
    exact head?_append_mono (by simp [chars])

end Lexeme

namespace Token

theorem length_locate (position : Position) (lexemes : List Lexeme) :
    (locate position lexemes).length = lexemes.length := by
  induction lexemes generalizing position with
  | nil => rfl
  | cons lexeme lexemes ih => rw [locate, List.length_cons, List.length_cons, ih]

theorem locate_eq_append {front : List Char} {lexemes : List Lexeme} {tokens tokens' : List Token}
    (h : locate (.behind front) lexemes = tokens ++ tokens') :
    ∃ first second, lexemes = first ++ second ∧ tokens = locate (.behind front) first ∧
      tokens' = locate (.behind (front ++ first.flatMap Lexeme.chars)) second := by
  have hlength := congrArg List.length h
  rw [length_locate, List.length_append] at hlength
  have hsplit := List.take_append_drop tokens.length lexemes
  refine ⟨lexemes.take tokens.length, lexemes.drop tokens.length, hsplit.symm, ?_⟩
  rw [← hsplit, locate_append] at h
  have htake : (locate (.behind front) (lexemes.take tokens.length)).length = tokens.length := by
    rw [length_locate, List.length_take]
    omega
  obtain ⟨hfirst, hsecond⟩ := List.append_inj h htake
  exact ⟨hfirst.symm, hsecond.symm⟩

theorem locate_behind_append (front front' : List Char) (lexemes : List Lexeme) :
    locate (.behind (front ++ front')) lexemes =
      (locate (.behind front') lexemes).map
        (mapSpan (.shift (byteLength front) front.length)) := by
  induction lexemes generalizing front' with
  | nil => rfl
  | cons lexeme lexemes ih =>
    have hspan (cs : List Char) : (Position.behind (front ++ cs)).spanOf lexeme.text =
        ((Position.behind cs).spanOf lexeme.text).shift (byteLength front) front.length := by
      simp only [Position.behind, Position.spanOf, Span.shift, byteLength_append,
        List.length_append, Span.mk.injEq]
      omega
    rw [locate_behind, locate_behind, List.append_assoc, List.append_assoc, ih, hspan]
    rfl

theorem stop_of_getLast?_locate {front : List Char} {lexemes : List Lexeme} {last : Token}
    (h : (locate (.behind front) lexemes).getLast? = some last) :
    last.span.stop = byteLength (front ++ lexemes.flatMap Lexeme.chars) := by
  induction lexemes using List.reverseRecOn with
  | nil => cases h
  | append_singleton lexemes lexeme _ =>
    rw [locate_append, locate_behind, List.getLast?_append] at h
    cases h
    have hchars : front ++ (lexemes ++ [lexeme]).flatMap Lexeme.chars =
        front ++ lexemes.flatMap Lexeme.chars ++ lexeme.gap ++ lexeme.text := by
      simp [Lexeme.chars]
    rw [hchars, byteLength_append]
    rfl

end Token

/--
Whether tokens of a source are the tokens of a text in it, as they stand behind `front`.
-/
structure IsFragment (source : String) (used : List Token) (front text back : List Char) :
    Prop where
  source_eq : source.toList = front ++ text ++ back
  first_eq : ∀ token ∈ used.head?,
    token.span.start = byteLength front ∧ token.span.column = front.length + 1
  last_eq : ∀ token ∈ used.getLast?, token.span.stop = byteLength (front ++ text)
  tokens_eq : ∃ alone last, tokens (String.ofList text) = alone ++ [last] ∧
    last.kind = .endOfInput ∧
      used = alone.map (Token.mapSpan (.shift (byteLength front) front.length))

theorem isFragment_locate {source : String} {front back : List Char} {lexemes : List Lexeme}
    (hsource : source.toList = front ++ lexemes.flatMap Lexeme.chars ++ back)
    (hseparate : Lexeme.Separate (lexemes ++ [⟨[], [], .endOfInput⟩]))
    (hgap : ∀ lexeme ∈ lexemes.head?, lexeme.gap = []) :
    IsFragment source (Token.locate (.behind front) lexemes) front (lexemes.flatMap Lexeme.chars)
      back where
  source_eq := hsource
  first_eq := by
    cases lexemes with
    | nil => simp [Token.locate]
    | cons lexeme lexemes =>
      rintro token htoken
      rw [Token.locate_behind, hgap lexeme rfl, List.append_nil] at htoken
      cases htoken
      exact ⟨rfl, rfl⟩
  last_eq := by
    intro token htoken
    exact Token.stop_of_getLast?_locate htoken
  tokens_eq := by
    have hsplit : Lexeme.split (lexemes.flatMap Lexeme.chars) =
        lexemes ++ [⟨[], [], .endOfInput⟩] := by
      have hchars := Lexeme.split_flatMap_chars hseparate
      rw [List.flatMap_append] at hchars
      simpa [Lexeme.chars] using hchars
    have htokens : tokens (String.ofList (lexemes.flatMap Lexeme.chars)) =
        Token.locate (.behind []) (lexemes ++ [⟨[], [], .endOfInput⟩]) := by
      rw [← hsplit, tokens, Questionnaire.lexemes, String.toList_ofList]
      rfl
    refine ⟨_, _, htokens.trans (Token.locate_append [] lexemes _), rfl, ?_⟩
    rw [← Token.locate_behind_append, List.append_nil]

theorem exists_isFragment {source : String} {front used back : List Token}
    (hproper : ∀ lexeme ∈ lexemes source, lexeme.kind.IsProper)
    (htokens : tokens source = front ++ used ++ back) (hused : used ≠ []) (hback : back ≠ []) :
    ∃ before text after, IsFragment source used before text after := by
  have hlocate : Token.locate (.behind []) (lexemes source) = front ++ used ++ back := htokens
  obtain ⟨taken, behind, hlexemes, htaken, rfl⟩ := Token.locate_eq_append hlocate
  obtain ⟨first, second, rfl, -, rfl⟩ := Token.locate_eq_append htaken.symm
  have hbehind : behind ≠ [] := by
    rintro rfl
    exact hback rfl
  cases second with
  | nil => exact absurd rfl hused
  | cons lexeme second =>
    have hmem : ∀ lexeme' ∈ lexeme :: second, lexeme' ∈ lexemes source := by
      intro lexeme' hlexeme'
      rw [hlexemes, List.append_assoc]
      exact List.mem_append_right _ (List.mem_append_left _ hlexeme')
    have hseparate : Lexeme.Separate (lexeme :: second ++ behind) := by
      have hall : Lexeme.Separate (lexemes source) := Lexeme.separate_split hproper
      rw [hlexemes, List.append_assoc] at hall
      exact hall.of_append (by simp)
    have hcut := hseparate.cut hbehind fun lexeme' hlexeme' => hproper _ (hmem _ hlexeme')
    have hsource : source.toList = first.flatMap Lexeme.chars ++ lexeme.gap ++
        (⟨[], lexeme.text, lexeme.kind⟩ :: second).flatMap Lexeme.chars ++
          behind.flatMap Lexeme.chars := by
      have hchars : (lexemes source).flatMap Lexeme.chars = source.toList :=
        Lexeme.flatMap_split source.toList
      rw [← hchars, hlexemes]
      simp [Lexeme.chars]
    have hfragment := isFragment_locate hsource hcut.withoutGap (by simp)
    rw [Token.locate_behind, List.append_nil] at hfragment
    rw [List.nil_append, Token.locate_behind, Lexeme.chars, ← List.append_assoc]
    exact ⟨_, _, _, hfragment⟩

structure AreOrdered (tokens : List Token) : Prop where
  pairwise : tokens.Pairwise fun first second => first.span.Precedes second.span
  start_le : ∀ token ∈ tokens, token.span.start ≤ token.span.stop

theorem areOrdered_tokens (source : String) : AreOrdered (tokens source) where
  pairwise := Token.pairwise_locate _ _
  start_le := by
    intro token htoken
    obtain ⟨lexeme, -, -, front, back, hcovers, -⟩ := covers_tokens source token htoken
    rw [hcovers.start_eq, hcovers.stop_eq, byteLength_append]
    exact Nat.le_add_right _ _

namespace AreOrdered

variable {tokens : List Token}

theorem sublist {tokens' : List Token} (h : AreOrdered tokens) (hsublist : tokens'.Sublist tokens) :
    AreOrdered tokens' where
  pairwise := h.pairwise.sublist hsublist
  start_le token htoken := h.start_le token (hsublist.mem htoken)

theorem first_le (h : AreOrdered tokens) {first : Token} (hfirst : tokens.head? = some first) :
    ∀ token ∈ tokens, first.span.start ≤ token.span.start := by
  obtain ⟨rest, rfl⟩ := List.head?_eq_some_iff.1 hfirst
  intro token htoken
  rcases List.mem_cons.1 htoken with rfl | htoken
  · exact Nat.le_refl _
  · have hprecedes := List.rel_of_pairwise_cons h.pairwise htoken
    exact Nat.le_trans (h.start_le first List.mem_cons_self) hprecedes

theorem le_last (h : AreOrdered tokens) {last : Token} (hlast : tokens.getLast? = some last) :
    ∀ token ∈ tokens, token.span.stop ≤ last.span.stop := by
  obtain ⟨front, rfl⟩ := List.getLast?_eq_some_iff.1 hlast
  intro token htoken
  rcases List.mem_append.1 htoken with hmem | hmem
  · have hprecedes := (List.pairwise_append.1 h.pairwise).2.2 token hmem last (by simp)
    exact Nat.le_trans hprecedes (h.start_le last (by simp))
  · cases List.mem_singleton.1 hmem
    exact Nat.le_refl _

end AreOrdered

end Questionnaire
