import Questionnaire.Expression.Grammar
import Questionnaire.Localized
import Questionnaire.SymbolTable

/-!
This module contains the compilation of expressions. In a workbook an expression names nodes by
references such as `${age}`; in a form it names them by paths relative to its owner. The two
forms differ in these lexemes only, and all other text is kept.
-/

namespace Questionnaire

structure Reference where
  name : String
  path : String
  scope : Scope
deriving DecidableEq, Inhabited

structure Expression where
  source : String
  canonical : String
  references : List Reference
deriving DecidableEq, Inhabited

namespace Expression

def names (expression : Expression) : List String :=
  ascending (expression.references.map Reference.name)

def unresolved {α : Type} (mention source : String) : Except Failure α :=
  .error (Cause.unresolvedReference mention source).failure

/--
The node that a path in an expression leads to from its owner. The path `.` and paths to the root
stand for no declared node, on purpose.
-/
def pathTarget? (root : String) (owner : NodePath) (path source : String) :
    Except Failure (Option NodePath) :=
  if path = "." then .ok none
  else
    let target :=
      if path.toList.head? == some '/' then NodePath.ofAbsolute? root path else owner.resolve? path
    match target with
    | none => unresolved path source
    | some [] => .ok none
    | some target => .ok (some target)

def target? (table : SymbolTable) (owner : NodePath) (source : String) :
    TokenKind → Except Failure (Option NodePath)
  | .reference name =>
    match table.lookup? name with
    | none => unresolved name source
    | some symbol => .ok (some symbol.path)
  | .path path => pathTarget? table.root owner path source
  | _ => .ok none

def reference? (table : SymbolTable) (owner : NodePath) (source : String) (kind : TokenKind) :
    Except Failure (Option Reference) := do
  match ← target? table owner source kind with
  | none => .ok none
  | some target =>
    match table.nameAt? target with
    | none => unresolved target.text source
    | some name =>
      let relative := owner.relativeTo target
      .ok (some ⟨name, relative.text, relative.scope⟩)

def flatName? (table : SymbolTable) (owner : NodePath) (source : String) :
    TokenKind → Except Failure (Option String)
  | .path path => do
    match ← pathTarget? table.root owner path source with
    | none => .ok none
    | some target =>
      match table.nameAt? target with
      | none => unresolved path source
      | some name => .ok (some name)
  | _ => .ok none

def annotate {α : Type} (step : TokenKind → Except Failure (Option α)) :
    List Lexeme → Except Failure (List (Lexeme × Option α))
  | [] => .ok []
  | lexeme :: lexemes => do
    let result ← step lexeme.kind
    let results ← annotate step lexemes
    .ok ((lexeme, result) :: results)

def nextChar? {α : Type} : List (Lexeme × α) → Option Char
  | [] => none
  | (lexeme, _) :: _ => (lexeme.gap ++ lexeme.text).head?

def guardSpace (neighbour : Option Char) : List Char :=
  if neighbour.any Text.isNameChar then [' '] else []

/--
The text of lexemes in which references are replaced by their relative paths. `last` is the
character before the text. A path is kept apart from name characters by spaces.
-/
def spliceRelative (last : Option Char) : List (Lexeme × Option Reference) → List Char
  | [] => []
  | (lexeme, none) :: lexemes =>
    let text := lexeme.gap ++ lexeme.text
    text ++ spliceRelative (text.getLast?.or last) lexemes
  | (lexeme, some reference) :: lexemes =>
    let path :=
      guardSpace (lexeme.gap.getLast?.or last) ++ reference.path.toList ++
        guardSpace (nextChar? lexemes)
    lexeme.gap ++ path ++ spliceRelative path.getLast? lexemes

def referenceText (name : String) : List Char :=
  '$' :: '{' :: name.toList ++ ['}']

def spliceNames : List (Lexeme × Option String) → List Char
  | [] => []
  | (lexeme, none) :: lexemes => lexeme.gap ++ lexeme.text ++ spliceNames lexemes
  | (lexeme, some name) :: lexemes => lexeme.gap ++ referenceText name ++ spliceNames lexemes

def compile (table : SymbolTable) (source : String) (owner : NodePath) :
    Except Failure Expression := do
  let _ ← Formula.parse source
  let linked ← annotate (reference? table owner source) (lexemes source)
  .ok ⟨source, String.ofList (spliceRelative none linked), linked.filterMap Prod.snd⟩

def flatten (table : SymbolTable) (source : String) (owner : NodePath) : Except Failure String := do
  let _ ← Formula.parse source
  let named ← annotate (flatName? table owner source) (lexemes source)
  .ok (String.ofList (spliceNames named))

def compileTree (table : SymbolTable) (source : String) (owner : NodePath) :
    Except Failure Expression := do
  let compiled ← compile table source owner
  let flat ← flatten table compiled.canonical owner
  .ok { compiled with source := flat }

end Expression

end Questionnaire
