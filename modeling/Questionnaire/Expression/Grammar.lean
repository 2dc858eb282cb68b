import Questionnaire.Expression.Formula
import Questionnaire.Expression.Function
import Questionnaire.Failure

/-!
This module contains the reading of expressions. From the loosest to the tightest, the operators
bind as in

    or       := and (`or` and)*
    and      := equality (`and` equality)*
    equality := relation ((`=` | `!=`) relation)*
    relation := additive ((`<` | `<=` | `>` | `>=`) additive)*
    additive := multiply ((`+` | `-`) multiply)*
    multiply := unary ((`*` | `div` | `mod`) unary)*
    unary    := `-` unary | union
    union    := primary (`|` primary)*
    primary  := number | string | reference | path | call | `(` or `)`
-/

namespace Questionnaire

inductive SyntaxFault where
  | empty
  | noOperand (kind : TokenKind)
  | trailing (kind : TokenKind)
  | unclosed (found : TokenKind)
  | bareName (name : String)
  | unknownFunction (name : String)
  | wrongCount (name : String) (arity : Arity) (count : Nat)
deriving DecidableEq, Inhabited

def SyntaxFault.message : SyntaxFault → String
  | empty => "empty expression"
  | noOperand .endOfInput => "unexpected end of input"
  | noOperand (.malformed fault) => fault.message
  | noOperand kind => "unexpected " ++ kind.describe
  | trailing kind => "unexpected " ++ kind.describe
  | unclosed found => "expected ')', found " ++ found.describe
  | bareName name =>
    "bare name `" ++ name ++ "`; reference questions as $\x7b" ++ name ++ "\x7d"
  | unknownFunction name => "unknown function `" ++ name ++ "`"
  | wrongCount name arity count =>
    "`" ++ name ++ "` takes " ++ arity.describe ++ " argument(s), got " ++ toString count

structure SyntaxError where
  fault : SyntaxFault
  column : Nat
deriving DecidableEq, Inhabited

namespace Formula

def looseLevels : List (List Operator) :=
  [[.or], [.and], [.equal, .notEqual], [.less, .lessEqual, .greater, .greaterEqual],
    [.add, .subtract], [.multiply, .divide, .modulo]]

def tightLevel : List Operator :=
  [.union]

def operator? : TokenKind → Option Operator
  | .name "or" => some .or
  | .name "and" => some .and
  | .name "div" => some .divide
  | .name "mod" => some .modulo
  | .equal => some .equal
  | .notEqual => some .notEqual
  | .less => some .less
  | .lessEqual => some .lessEqual
  | .greater => some .greater
  | .greaterEqual => some .greaterEqual
  | .plus => some .add
  | .minus => some .subtract
  | .star => some .multiply
  | .pipe => some .union
  | _ => none

abbrev Reader (α : Type) := List Token → Except SyntaxError (α × List Token)

def nextKind : List Token → TokenKind
  | [] => .endOfInput
  | token :: _ => token.kind

def nextSpan : List Token → Span
  | [] => .atStart
  | token :: _ => token.span

def join (operator : Operator) (left right : Formula) : Formula :=
  .binary operator left right (left.span.to right.span)

def readChainRest (operators : List Operator) (readOperand : Reader Formula) :
    Nat → Formula → Reader Formula
  | 0, left, tokens => .ok (left, tokens)
  | limit + 1, left, tokens =>
    match (operator? (nextKind tokens)).filter (operators.contains ·) with
    | none => .ok (left, tokens)
    | some operator => do
      let (right, rest) ← readOperand tokens.tail
      readChainRest operators readOperand limit (join operator left right) rest

def readChain (limit : Nat) (operators : List Operator) (readOperand : Reader Formula) :
    Reader Formula := fun tokens => do
  let (left, rest) ← readOperand tokens
  readChainRest operators readOperand limit left rest

def readUnary (readOperand : Reader Formula) : Reader Formula
  | [] => readOperand []
  | token :: rest =>
    match token.kind with
    | .minus => do
      let (operand, rest') ← readUnary readOperand rest
      .ok (.negate operand (token.span.to operand.span), rest')
    | _ => readOperand (token :: rest)

def readClose : Reader Span := fun tokens =>
  match nextKind tokens with
  | .rightParen => .ok (nextSpan tokens, tokens.tail)
  | found => .error ⟨.unclosed found, (nextSpan tokens).column⟩

def readMoreArguments (read : Reader Formula) : Nat → Reader (List Formula)
  | 0, tokens => .ok ([], tokens)
  | limit + 1, tokens =>
    match nextKind tokens with
    | .comma => do
      let (argument, rest) ← read tokens.tail
      let (arguments, rest') ← readMoreArguments read limit rest
      .ok (argument :: arguments, rest')
    | _ => .ok ([], tokens)

def readArguments (limit : Nat) (read : Reader Formula) : Reader (List Formula) := fun tokens =>
  match nextKind tokens with
  | .rightParen => .ok ([], tokens)
  | _ => do
    let (argument, rest) ← read tokens
    let (arguments, rest') ← readMoreArguments read limit rest
    .ok (argument :: arguments, rest')

def readCall (limit : Nat) (read : Reader Formula) (name : String) (span : Span) : Reader Formula :=
  fun tokens =>
    match nextKind tokens with
    | .leftParen =>
      match arity? name with
      | none => .error ⟨.unknownFunction name, span.column⟩
      | some arity => do
        let (arguments, rest) ← readArguments limit read tokens.tail
        let (close, rest') ← readClose rest
        if arity.accepts arguments.length then .ok (.call name arguments (span.to close), rest')
        else .error ⟨.wrongCount name arity arguments.length, span.column⟩
    | _ => .error ⟨.bareName name, span.column⟩

def readPrimary (limit : Nat) (read : Reader Formula) : Reader Formula := fun tokens =>
  let span := nextSpan tokens
  let rest := tokens.tail
  match nextKind tokens with
  | .number text => .ok (.number text span, rest)
  | .string text => .ok (.string text span, rest)
  | .reference name => .ok (.reference name span, rest)
  | .path text => .ok (.path text span, rest)
  | .name name => readCall limit read name span rest
  | .leftParen => do
    let (inner, rest') ← read rest
    let (close, rest'') ← readClose rest'
    .ok (.group inner (span.to close), rest'')
  | kind => .error ⟨.noOperand kind, span.column⟩

def read : Nat → Reader Formula
  | 0 => fun tokens => .error ⟨.noOperand (nextKind tokens), (nextSpan tokens).column⟩
  | limit + 1 =>
    let primary := readPrimary limit (read limit)
    let unary := readUnary (readChain limit tightLevel primary)
    looseLevels.foldr (readChain limit) unary

def ofTokens (tokens : List Token) : Except SyntaxError Formula :=
  match nextKind tokens with
  | .endOfInput => .error ⟨.empty, (nextSpan tokens).column⟩
  | _ => do
    let (formula, rest) ← read tokens.length tokens
    match nextKind rest with
    | .endOfInput => .ok formula
    | kind => .error ⟨.trailing kind, (nextSpan rest).column⟩

def parse (source : String) : Except Failure Formula :=
  match ofTokens (tokens source) with
  | .ok formula => .ok formula
  | .error error =>
    .error (Cause.expressionSyntax error.fault.message source error.column).failure

end Formula

end Questionnaire
