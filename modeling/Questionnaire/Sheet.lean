import Questionnaire.OrderedMap
import Questionnaire.Text.Blank

/-!
This module contains the tabular form of a questionnaire: rows of named cells, and the workbook of
three sheets.
-/

namespace Questionnaire

/--
A row of a sheet: the cells by the names of their columns. A blank cell counts as absent.
-/
abbrev Row := OrderedMap String

namespace Row

def cell? (row : Row) (column : String) : Option String :=
  (row.get? column).filter (!Text.isBlankText ·)

def cells (row : Row) : List (String × String) :=
  row.entries.filter fun (_, value) => !Text.isBlankText value

def isBlank (row : Row) : Bool :=
  row.cells.isEmpty

end Row

structure Column where
  base : String
  language : Option String
deriving DecidableEq, Inhabited

namespace Column

def splitDoubleColon : List Char → Option (List Char × List Char)
  | [] => none
  | ':' :: ':' :: rest => some ([], rest)
  | c :: rest => (splitDoubleColon rest).map fun (before, after) => (c :: before, after)

def ofHeading (heading : String) : Column :=
  match splitDoubleColon heading.toList with
  | some (base, language) =>
    ⟨Text.trim (String.ofList base), some (Text.trim (String.ofList language))⟩
  | none => ⟨Text.trim heading, none⟩

def heading (column : Column) : String :=
  match column.language with
  | none => column.base
  | some language => column.base ++ "::" ++ language

end Column

structure Workbook where
  survey : List Row
  choices : List Row
  settings : Option Row
deriving DecidableEq, Inhabited

end Questionnaire
