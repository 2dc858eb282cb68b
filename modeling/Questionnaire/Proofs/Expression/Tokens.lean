import Questionnaire.Proofs.Expression.Spans
import Questionnaire.Proofs.Expression.Spelling

/-!
This module contains what the division of a source into tokens keeps: the tokens stand in the order
of their spans, and between them there is white space only, so that no text of the source is lost.
-/

namespace Questionnaire

theorem byteLength_toList (source : String) : byteLength source.toList = source.utf8ByteSize := by
  have h (cs : List Char) : byteLength cs = (String.ofList cs).utf8ByteSize := by
    induction cs with
    | nil => rfl
    | cons c cs ih =>
      rw [byteLength, ih, ← List.singleton_append, String.ofList_append, String.utf8ByteSize_append,
        ← String.singleton_eq_ofList, String.utf8ByteSize_singleton]
  rw [h, String.ofList_toList]

theorem byteLength_pos {cs : List Char} (h : cs ≠ []) : 0 < byteLength cs := by
  cases cs with
  | nil => exact absurd rfl h
  | cons c cs => exact Nat.add_pos_left c.utf8Size_pos _

def Span.textBetween (first second : Span) (source : String) : List Char :=
  takeBytes (second.start - first.stop) (dropBytes first.stop source.toList)

namespace Token

theorem offset_le_of_mem_locate {position : Position} {lexemes : List Lexeme} :
    ∀ token ∈ locate position lexemes, position.offset ≤ token.span.start := by
  induction lexemes generalizing position with
  | nil => simp [locate]
  | cons lexeme lexemes ih =>
    intro token htoken
    rcases List.mem_cons.1 htoken with rfl | htoken
    · exact Nat.le_add_right _ _
    · have hbehind := ih token htoken
      dsimp only [Position.advance] at hbehind
      omega

theorem pairwise_locate (position : Position) (lexemes : List Lexeme) :
    (locate position lexemes).Pairwise
      fun first second => first.span.stop ≤ second.span.start := by
  induction lexemes generalizing position with
  | nil => exact .nil
  | cons lexeme lexemes ih => exact .cons offset_le_of_mem_locate (ih _)

theorem isChain_locate {source : String} {front : List Char} {lexemes : List Lexeme}
    (hsource : source.toList = front ++ lexemes.flatMap Lexeme.chars)
    (hgap : ∀ lexeme ∈ lexemes, ∀ c ∈ lexeme.gap, Text.isBlank c = true) {span : Span}
    (hspan : span.stop = byteLength front) :
    (span :: (locate (.behind front) lexemes).map Token.span).IsChain fun first second =>
      ∀ c ∈ first.textBetween second source, Text.isBlank c = true := by
  induction lexemes generalizing front span with
  | nil => exact .singleton span
  | cons lexeme lexemes ih =>
    obtain ⟨hgap, hgaps⟩ := List.forall_mem_cons.1 hgap
    rw [List.flatMap_cons] at hsource
    rw [locate_behind, List.map_cons]
    refine .cons_cons ?_ (ih ?_ hgaps ?_)
    · have hstart : ((Position.behind (front ++ lexeme.gap)).spanOf lexeme.text).start - span.stop =
          byteLength lexeme.gap := by
        rw [hspan]
        exact Nat.sub_eq_of_eq_add' (byteLength_append _ _)
      rw [Span.textBetween, hstart, hspan, hsource, dropBytes_append, Lexeme.chars,
        List.append_assoc, takeBytes_append]
      exact hgap
    · rw [hsource, List.append_assoc]
    · rw [Lexeme.chars, ← List.append_assoc, byteLength_append]
      rfl

theorem locate_append (front : List Char) (lexemes lexemes' : List Lexeme) :
    locate (.behind front) (lexemes ++ lexemes') =
      locate (.behind front) lexemes ++
        locate (.behind (front ++ lexemes.flatMap Lexeme.chars)) lexemes' := by
  induction lexemes generalizing front with
  | nil => rw [List.flatMap_nil, List.append_nil]; rfl
  | cons lexeme lexemes ih =>
    rw [List.cons_append, locate_behind, locate_behind, ih, List.flatMap_cons, List.append_assoc,
      List.cons_append]

theorem kind_of_mem_locate {P : TokenKind → Prop} {position : Position} {lexemes : List Lexeme}
    (h : ∀ lexeme ∈ lexemes, P lexeme.kind) :
    ∀ token ∈ locate position lexemes, P token.kind := by
  induction lexemes generalizing position with
  | nil => simp [locate]
  | cons lexeme lexemes ih =>
    obtain ⟨hlexeme, hlexemes⟩ := List.forall_mem_cons.1 h
    exact List.forall_mem_cons.2 ⟨hlexeme, ih hlexemes⟩

end Token

/--
Whether tokens account for the whole of a source. `Span.atStart` stands in front of the first token.
-/
structure IsLossless (source : String) (tokens : List Token) : Prop where
  exists_endOfInput : ∃ body, tokens = body ++
      [⟨.endOfInput, ⟨source.utf8ByteSize, source.utf8ByteSize, source.length + 1⟩⟩] ∧
    ∀ token ∈ body, token.kind ≠ .endOfInput
  pairwise : tokens.Pairwise fun first second => first.span.stop ≤ second.span.start
  isChain : (Span.atStart :: tokens.map Token.span).IsChain fun first second =>
    ∀ c ∈ first.textBetween second source, Text.isBlank c = true
  covers : ∀ token ∈ tokens, ∃ front text back, token.span.Covers source front text back ∧
    token.span.column = front.length + 1 ∧ token.kind.IsWritten text ∧
    (token.kind ≠ .endOfInput → text ≠ [])
  column_lt : ∀ token ∈ tokens, token.span.column < UInt32.size

theorem tokens_eq_append (source : String) : ∃ body, tokens source = body ++
      [⟨.endOfInput, ⟨source.utf8ByteSize, source.utf8ByteSize, source.length + 1⟩⟩] ∧
    ∀ token ∈ body, token.kind ≠ .endOfInput := by
  obtain ⟨body, gap, hsplit, hbody⟩ := Lexeme.exists_endOfInput_split source.toList
  have hsource : body.flatMap Lexeme.chars ++ gap = source.toList := by
    rw [← Lexeme.flatMap_split source.toList, hsplit, List.flatMap_append, List.flatMap_singleton,
      List.append_nil]
    rfl
  refine ⟨Token.locate (.behind []) body, ?_, Token.kind_of_mem_locate (P := (· ≠ _)) hbody⟩
  have hlast : Token.locate (.behind (body.flatMap Lexeme.chars)) [⟨gap, [], .endOfInput⟩] =
      [⟨.endOfInput, (Position.behind source.toList).spanOf []⟩] := by
    rw [Token.locate_behind, hsource]
    rfl
  rw [show tokens source = Token.locate (.behind []) (Lexeme.split source.toList) from rfl, hsplit,
    Token.locate_append, List.nil_append, hlast, ← byteLength_toList, ← String.length_toList]
  rfl

theorem isLossless_tokens {source : String} (h : source.length < UInt32.size - 1) :
    IsLossless source (tokens source) where
  exists_endOfInput := tokens_eq_append source
  pairwise := Token.pairwise_locate _ _
  isChain := by
    have hsource : source.toList = [] ++ (lexemes source).flatMap Lexeme.chars :=
      (Lexeme.flatMap_split source.toList).symm
    exact Token.isChain_locate hsource (Lexeme.gap_split source.toList) rfl
  covers := by
    intro token htoken
    obtain ⟨lexeme, hlexeme, hkind, front, back, hcovers, hcolumn⟩ :=
      covers_tokens source token htoken
    rw [hkind]
    exact ⟨front, lexeme.text, back, hcovers, hcolumn,
      Lexeme.isWritten_split source.toList lexeme hlexeme,
      Lexeme.text_split source.toList lexeme hlexeme⟩
  column_lt := by
    intro token htoken
    obtain ⟨lexeme, -, -, front, back, hcovers, hcolumn⟩ := covers_tokens source token htoken
    have hlength := congrArg List.length hcovers.source_eq
    rw [String.length_toList, List.length_append, List.length_append] at hlength
    omega

theorem isLossless_tokens_accented :
    "é + 'a' ".length < UInt32.size - 1 ∧ IsLossless "é + 'a' " [
      ⟨.name "é", ⟨0, 2, 1⟩⟩,
      ⟨.plus, ⟨3, 4, 3⟩⟩,
      ⟨.string "a", ⟨5, 8, 5⟩⟩,
      ⟨.endOfInput, ⟨9, 9, 9⟩⟩] := by
  have hlength : "é + 'a' ".length < UInt32.size - 1 := by decide +kernel
  have htokens : tokens "é + 'a' " = [⟨.name "é", ⟨0, 2, 1⟩⟩, ⟨.plus, ⟨3, 4, 3⟩⟩,
      ⟨.string "a", ⟨5, 8, 5⟩⟩, ⟨.endOfInput, ⟨9, 9, 9⟩⟩] := by
    decide +kernel
  rw [← htokens]
  exact ⟨hlength, isLossless_tokens hlength⟩

end Questionnaire
