import Questionnaire.Expression.Lexeme

/-!
This module contains the tokens of an expression: its lexemes with the places where they stand.
-/

namespace Questionnaire

/--
A part of a source between two byte offsets, with the column of its start. Columns of a source with
fewer than `2 ^ 32 - 1` characters fit into 32 bits, which `IsLossless.column_lt` states, and no
column is ever reduced to them.
-/
structure Span where
  start : Nat
  stop : Nat
  column : Nat
deriving DecidableEq, Inhabited

namespace Span

def atStart : Span := ⟨0, 0, 1⟩

end Span

def Span.to (first last : Span) : Span :=
  ⟨first.start, last.stop, first.column⟩

def byteLength : List Char → Nat
  | [] => 0
  | c :: cs => c.utf8Size + byteLength cs

def dropBytes (n : Nat) : List Char → List Char
  | [] => []
  | c :: cs => if n = 0 then c :: cs else dropBytes (n - c.utf8Size) cs

def takeBytes (n : Nat) : List Char → List Char
  | [] => []
  | c :: cs => if n = 0 then [] else c :: takeBytes (n - c.utf8Size) cs

def Span.textIn (span : Span) (source : String) : String :=
  String.ofList (takeBytes (span.stop - span.start) (dropBytes span.start source.toList))

structure Position where
  offset : Nat := 0
  column : Nat := 1
deriving DecidableEq, Inhabited

namespace Position

def advance (position : Position) (cs : List Char) : Position :=
  ⟨position.offset + byteLength cs, position.column + cs.length⟩

def spanOf (position : Position) (cs : List Char) : Span :=
  ⟨position.offset, position.offset + byteLength cs, position.column⟩

end Position

structure Token where
  kind : TokenKind
  span : Span
deriving DecidableEq, Inhabited

namespace Token

def locate (position : Position) : List Lexeme → List Token
  | [] => []
  | lexeme :: lexemes =>
    let start := position.advance lexeme.gap
    ⟨lexeme.kind, start.spanOf lexeme.text⟩ :: locate (start.advance lexeme.text) lexemes

end Token

def tokens (source : String) : List Token :=
  Token.locate {} (lexemes source)

end Questionnaire
