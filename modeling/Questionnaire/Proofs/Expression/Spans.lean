import Questionnaire.Expression.Token
import Questionnaire.Proofs.Expression.Lexing

/-!
This module contains the theory of spans: which text of the source a token covers, and what stands
next to it.
-/

namespace Questionnaire

theorem byteLength_append (cs cs' : List Char) :
    byteLength (cs ++ cs') = byteLength cs + byteLength cs' := by
  induction cs with
  | nil => simp [byteLength]
  | cons c cs ih => rw [List.cons_append, byteLength, byteLength, ih, Nat.add_assoc]

theorem takeBytes_append (cs cs' : List Char) : takeBytes (byteLength cs) (cs ++ cs') = cs := by
  induction cs with
  | nil => cases cs' <;> rfl
  | cons c cs ih =>
    have hpos := c.utf8Size_pos
    rw [List.cons_append, takeBytes, byteLength, if_neg (by omega), Nat.add_sub_cancel_left, ih]

theorem dropBytes_append (cs cs' : List Char) : dropBytes (byteLength cs) (cs ++ cs') = cs' := by
  induction cs with
  | nil => cases cs' <;> rfl
  | cons c cs ih =>
    have hpos := c.utf8Size_pos
    rw [List.cons_append, dropBytes, byteLength, if_neg (by omega), Nat.add_sub_cancel_left, ih]

namespace Span

def charBefore? (span : Span) (source : String) : Option Char :=
  (takeBytes span.start source.toList).getLast?

def charBehind? (span : Span) (source : String) : Option Char :=
  (dropBytes span.stop source.toList).head?

/--
Whether a span covers `text` in a source that has `front` before it and `back` behind it.
-/
structure Covers (span : Span) (source : String) (front text back : List Char) : Prop where
  source_eq : source.toList = front ++ text ++ back
  start_eq : span.start = byteLength front
  stop_eq : span.stop = byteLength (front ++ text)

variable {span : Span} {source : String} {front text back : List Char}

theorem Covers.dropBytes_stop (h : span.Covers source front text back) :
    dropBytes span.stop source.toList = back := by
  rw [h.source_eq, h.stop_eq, dropBytes_append]

theorem Covers.charBefore?_eq (h : span.Covers source front text back) :
    span.charBefore? source = front.getLast? := by
  rw [charBefore?, h.source_eq, h.start_eq, List.append_assoc, takeBytes_append]

theorem Covers.charBehind?_eq (h : span.Covers source front text back) :
    span.charBehind? source = back.head? := by
  rw [charBehind?, h.dropBytes_stop]

theorem Covers.textIn_eq (h : span.Covers source front text back) :
    span.textIn source = String.ofList text := by
  have hlength : span.stop - span.start = byteLength text := by
    rw [h.start_eq, h.stop_eq, byteLength_append, Nat.add_sub_cancel_left]
  rw [textIn, hlength, h.source_eq, h.start_eq, List.append_assoc, dropBytes_append,
    takeBytes_append]

end Span

theorem Position.covers_spanOf {position : Position} {source : String} {front back : List Char}
    {lexeme : Lexeme} (hsource : source.toList = front ++ (lexeme.chars ++ back))
    (hposition : position.offset = byteLength front) :
    ((position.advance lexeme.gap).spanOf lexeme.text).Covers source (front ++ lexeme.gap)
      lexeme.text back where
  source_eq := by
    rw [hsource, Lexeme.chars]
    simp
  start_eq := by
    rw [byteLength_append, ← hposition]
    rfl
  stop_eq := by
    rw [byteLength_append, byteLength_append, ← hposition]
    rfl

theorem Position.offset_advance {position : Position} {front : List Char} {lexeme : Lexeme}
    (hposition : position.offset = byteLength front) :
    ((position.advance lexeme.gap).advance lexeme.text).offset =
      byteLength (front ++ lexeme.chars) := by
  rw [Lexeme.chars, ← List.append_assoc, byteLength_append, byteLength_append, ← hposition]
  rfl

def Position.behind (front : List Char) : Position :=
  ⟨byteLength front, front.length + 1⟩

theorem Position.advance_behind (front cs : List Char) :
    (behind front).advance cs = behind (front ++ cs) := by
  rw [behind, advance, behind, byteLength_append, List.length_append, Nat.add_right_comm]

theorem Position.covers_behind {source : String} {front back : List Char} {lexeme : Lexeme}
    (hsource : source.toList = front ++ lexeme.chars ++ back) :
    ((behind (front ++ lexeme.gap)).spanOf lexeme.text).Covers source (front ++ lexeme.gap)
      lexeme.text back := by
  have hoffset : (behind front).offset = byteLength front := rfl
  rw [List.append_assoc] at hsource
  rw [← advance_behind]
  exact covers_spanOf hsource hoffset

theorem Token.locate_behind (front : List Char) (lexeme : Lexeme) (lexemes : List Lexeme) :
    locate (.behind front) (lexeme :: lexemes) =
      ⟨lexeme.kind, (Position.behind (front ++ lexeme.gap)).spanOf lexeme.text⟩ ::
        locate (.behind (front ++ lexeme.chars)) lexemes := by
  rw [locate, Position.advance_behind, Position.advance_behind, Lexeme.chars, List.append_assoc]

theorem Token.covers_locate {source : String} {lexemes : List Lexeme} {front : List Char}
    (hsource : source.toList = front ++ lexemes.flatMap Lexeme.chars) :
    ∀ token ∈ locate (.behind front) lexemes, ∃ lexeme ∈ lexemes, token.kind = lexeme.kind ∧
      ∃ front back, token.span.Covers source front lexeme.text back ∧
        token.span.column = front.length + 1 := by
  induction lexemes generalizing front with
  | nil => simp [locate]
  | cons lexeme lexemes ih =>
    rw [List.flatMap_cons, ← List.append_assoc] at hsource
    intro token htoken
    rw [locate_behind] at htoken
    rcases List.mem_cons.1 htoken with rfl | htoken
    · exact ⟨lexeme, List.mem_cons_self, rfl, _, _, Position.covers_behind hsource, rfl⟩
    · obtain ⟨lexeme', hlexeme', hcovers⟩ := ih hsource token htoken
      exact ⟨lexeme', List.mem_cons_of_mem _ hlexeme', hcovers⟩

theorem covers_tokens (source : String) :
    ∀ token ∈ tokens source, ∃ lexeme ∈ lexemes source, token.kind = lexeme.kind ∧
      ∃ front back, token.span.Covers source front lexeme.text back ∧
        token.span.column = front.length + 1 := by
  have hsource : source.toList = [] ++ (lexemes source).flatMap Lexeme.chars :=
    (Lexeme.flatMap_split source.toList).symm
  exact Token.covers_locate hsource

theorem textIn_tokens (source : String) :
    ∀ token ∈ tokens source, ∃ lexeme ∈ lexemes source, token.kind = lexeme.kind ∧
      token.span.textIn source = String.ofList lexeme.text := by
  intro token htoken
  obtain ⟨lexeme, hlexeme, hkind, front, back, hcovers, -⟩ := covers_tokens source token htoken
  exact ⟨lexeme, hlexeme, hkind, hcovers.textIn_eq⟩

end Questionnaire
