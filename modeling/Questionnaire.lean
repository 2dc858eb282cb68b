import Questionnaire.Element
import Questionnaire.Expression.Compilation
import Questionnaire.Expression.Formula
import Questionnaire.Expression.Function
import Questionnaire.Expression.Grammar
import Questionnaire.Expression.Lexeme
import Questionnaire.Expression.Token
import Questionnaire.Failure
import Questionnaire.Localized
import Questionnaire.NodePath
import Questionnaire.Options
import Questionnaire.OrderedMap
import Questionnaire.Proofs.Earlier
import Questionnaire.Proofs.Expression.Canonical
import Questionnaire.Proofs.Expression.Climbing
import Questionnaire.Proofs.Expression.Derivation
import Questionnaire.Proofs.Expression.Flat
import Questionnaire.Proofs.Expression.Fragment
import Questionnaire.Proofs.Expression.Lexing
import Questionnaire.Proofs.Expression.Linking
import Questionnaire.Proofs.Expression.Mention
import Questionnaire.Proofs.Expression.Naming
import Questionnaire.Proofs.Expression.Neighbours
import Questionnaire.Proofs.Expression.Parsing
import Questionnaire.Proofs.Expression.PathText
import Questionnaire.Proofs.Expression.Phrase
import Questionnaire.Proofs.Expression.Relinking
import Questionnaire.Proofs.Expression.Renaming
import Questionnaire.Proofs.Expression.Restoring
import Questionnaire.Proofs.Expression.Spans
import Questionnaire.Proofs.Expression.Spelling
import Questionnaire.Proofs.Expression.Splicing
import Questionnaire.Proofs.Expression.Subformula
import Questionnaire.Proofs.Expression.Tidy
import Questionnaire.Proofs.Expression.Tokens
import Questionnaire.Proofs.Fallible
import Questionnaire.Proofs.Localized
import Questionnaire.Proofs.NodePath
import Questionnaire.Proofs.OrderedMap
import Questionnaire.Proofs.Sheet.Alike
import Questionnaire.Proofs.Sheet.CellOrder
import Questionnaire.Proofs.Sheet.Cells
import Questionnaire.Proofs.Sheet.Choices
import Questionnaire.Proofs.Sheet.Fitting
import Questionnaire.Proofs.Sheet.Flattening
import Questionnaire.Proofs.Sheet.Grouping
import Questionnaire.Proofs.Sheet.Keeping
import Questionnaire.Proofs.Sheet.Nesting
import Questionnaire.Proofs.Sheet.Outline
import Questionnaire.Proofs.Sheet.Places
import Questionnaire.Proofs.Sheet.Presentation
import Questionnaire.Proofs.Sheet.Reading
import Questionnaire.Proofs.Sheet.Rearranging
import Questionnaire.Proofs.Sheet.Rebuilding
import Questionnaire.Proofs.Sheet.Refusal
import Questionnaire.Proofs.Sheet.RoundTrip
import Questionnaire.Proofs.Sheet.Rows
import Questionnaire.Proofs.Sheet.Steps
import Questionnaire.Proofs.Sheet.TypeCells
import Questionnaire.Proofs.Sheet.UnknownColumns
import Questionnaire.Proofs.Source
import Questionnaire.Proofs.Survey.Alike
import Questionnaire.Proofs.Survey.Assembly
import Questionnaire.Proofs.Survey.Authored
import Questionnaire.Proofs.Survey.Declaring
import Questionnaire.Proofs.Survey.Drafting
import Questionnaire.Proofs.Survey.Formed
import Questionnaire.Proofs.Survey.Identity
import Questionnaire.Proofs.Survey.Reading
import Questionnaire.Proofs.Survey.Similarity
import Questionnaire.Proofs.Survey.Validation
import Questionnaire.Proofs.Survey.Walk
import Questionnaire.Proofs.Text
import Questionnaire.Proofs.TypeCell
import Questionnaire.Proofs.Writing
import Questionnaire.Proofs.XForm.Alignment
import Questionnaire.Proofs.XForm.Alike
import Questionnaire.Proofs.XForm.Hierarchy
import Questionnaire.Proofs.XForm.Layout
import Questionnaire.Proofs.XForm.Lists
import Questionnaire.Proofs.XForm.Nodes
import Questionnaire.Proofs.XForm.Parts
import Questionnaire.Proofs.XForm.Questions
import Questionnaire.Proofs.XForm.Reading
import Questionnaire.Proofs.XForm.Rearranging
import Questionnaire.Proofs.XForm.Recovery
import Questionnaire.Proofs.XForm.References
import Questionnaire.Proofs.XForm.RoundTrip
import Questionnaire.Proofs.XForm.Sections
import Questionnaire.Proofs.XForm.Shown
import Questionnaire.Proofs.XForm.Stability
import Questionnaire.Proofs.XForm.Tabulating
import Questionnaire.Proofs.XForm.Texts
import Questionnaire.Proofs.XForm.Tied
import Questionnaire.Proofs.XForm.Translations
import Questionnaire.Proofs.XForm.Vocabulary
import Questionnaire.QuestionType
import Questionnaire.QuestionType.Spelling
import Questionnaire.Sheet
import Questionnaire.Sheet.ChoiceRow
import Questionnaire.Sheet.Outline
import Questionnaire.Sheet.Reading
import Questionnaire.Sheet.RowFault
import Questionnaire.Sheet.SettingsRow
import Questionnaire.Sheet.SurveyRow
import Questionnaire.Sheet.Writing
import Questionnaire.Survey.Basic
import Questionnaire.Survey.ChoiceList
import Questionnaire.Survey.Draft
import Questionnaire.Survey.Node
import Questionnaire.Survey.Settings
import Questionnaire.Survey.Similarity
import Questionnaire.Survey.Walk
import Questionnaire.SymbolTable
import Questionnaire.Text.Blank
import Questionnaire.Text.CharClass
import Questionnaire.Text.Letter
import Questionnaire.Text.Lowercase
import Questionnaire.Text.Name
import Questionnaire.Text.Quoted
import Questionnaire.XForm.Form
import Questionnaire.XForm.Reading
import Questionnaire.XForm.Vocabulary
import Questionnaire.XForm.Writing
