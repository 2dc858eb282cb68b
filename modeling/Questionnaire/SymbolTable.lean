import Questionnaire.Failure
import Questionnaire.NodePath
import Questionnaire.QuestionType.Spelling

/-!
This module contains the names of a survey. All nodes share one space of names, however deep they
lie.
-/

namespace Questionnaire

inductive SymbolKind where
  | question
  | block (kind : BlockKind)
deriving DecidableEq, Inhabited

structure Symbol where
  path : NodePath
  kind : SymbolKind
deriving DecidableEq, Inhabited

structure SymbolTable where
  root : String
  symbols : List Symbol
deriving DecidableEq, Inhabited

namespace SymbolTable

def empty (root : String) : SymbolTable :=
  ⟨root, []⟩

def lookup? (table : SymbolTable) (name : String) : Option Symbol :=
  table.symbols.find? (·.path.name? == some name)

def nameAt? (table : SymbolTable) (path : NodePath) : Option String := do
  let name ← path.name?
  let symbol ← table.lookup? name
  if symbol.path = path then some name else none

def declare (table : SymbolTable) (path : NodePath) (kind : SymbolKind) :
    Except Failure SymbolTable :=
  match path.name? with
  | none => .error (Cause.nesting "cannot declare the survey root").failure
  | some name =>
    if (table.lookup? name).isSome then .error (Cause.duplicateName name).failure
    else .ok { table with symbols := table.symbols ++ [⟨path, kind⟩] }

theorem lookup?_declare {table table' : SymbolTable} {path : NodePath} {kind : SymbolKind}
    (h : table.declare path kind = .ok table') (name : String) :
    table'.lookup? name =
      if path.name? = some name then some ⟨path, kind⟩ else table.lookup? name := by
  unfold declare at h
  split at h
  · cases h
  · rename_i own hown
    split at h
    · cases h
    · rename_i hfree
      cases h
      simp only [lookup?, List.find?_append]
      by_cases hname : own = name
      · subst hname
        have : table.symbols.find? (·.path.name? == some own) = none := by
          simpa [lookup?] using hfree
        simp [this, hown]
      · have : (some own == some name) = false := by simpa using hname
        simp [hown, hname, this]

end SymbolTable

end Questionnaire
