import Spreadsheet.Book.Cells
import Spreadsheet.Book.DefinedName
import Spreadsheet.Book.Mutation
import Spreadsheet.Book.Sheet
import Spreadsheet.Book.SheetName
import Spreadsheet.Book.Workbook
import Spreadsheet.Cell.Content
import Spreadsheet.Cell.Error
import Spreadsheet.Date.Calendar
import Spreadsheet.Date.Serial
import Spreadsheet.Date.Text
import Spreadsheet.Evaluation.Context
import Spreadsheet.Evaluation.Error
import Spreadsheet.Evaluation.Evaluate
import Spreadsheet.Evaluation.Reference
import Spreadsheet.Formula.Expr
import Spreadsheet.Formula.Parse
import Spreadsheet.Formula.Render
import Spreadsheet.Formula.Scan
import Spreadsheet.Formula.SheetRef
import Spreadsheet.Formula.Token
import Spreadsheet.Function.Aggregate
import Spreadsheet.Function.Argument
import Spreadsheet.Function.Catalog
import Spreadsheet.Function.Date
import Spreadsheet.Function.Scalar
import Spreadsheet.Grid.Address
import Spreadsheet.Grid.Position
import Spreadsheet.Grid.Range
import Spreadsheet.Number.Binary
import Spreadsheet.Number.Decimal
import Spreadsheet.Number.Format
import Spreadsheet.Number.Numeral
import Spreadsheet.Proofs.Book.CellWrites
import Spreadsheet.Proofs.Book.Cells
import Spreadsheet.Proofs.Book.DefinedName
import Spreadsheet.Proofs.Book.Mutation
import Spreadsheet.Proofs.Book.NameEdits
import Spreadsheet.Proofs.Book.Sheet
import Spreadsheet.Proofs.Book.SheetEdits
import Spreadsheet.Proofs.Book.SheetName
import Spreadsheet.Proofs.Book.Workbook
import Spreadsheet.Proofs.Date.Calendar
import Spreadsheet.Proofs.Date.Overflow
import Spreadsheet.Proofs.Date.Parts
import Spreadsheet.Proofs.Date.Serial
import Spreadsheet.Proofs.Date.Systems
import Spreadsheet.Proofs.Date.Text
import Spreadsheet.Proofs.Date.WorkingDays
import Spreadsheet.Proofs.Evaluation.Agreement
import Spreadsheet.Proofs.Evaluation.CellReference
import Spreadsheet.Proofs.Evaluation.DefinedName
import Spreadsheet.Proofs.Evaluation.Intersection
import Spreadsheet.Proofs.Evaluation.LeftOut
import Spreadsheet.Proofs.Evaluation.Locality
import Spreadsheet.Proofs.Evaluation.Mode
import Spreadsheet.Proofs.Evaluation.Moved
import Spreadsheet.Proofs.Evaluation.NameDepth
import Spreadsheet.Proofs.Evaluation.Pointwise
import Spreadsheet.Proofs.Evaluation.ReadAlike
import Spreadsheet.Proofs.Evaluation.Reference
import Spreadsheet.Proofs.Evaluation.SheetByName
import Spreadsheet.Proofs.Evaluation.SingleCell
import Spreadsheet.Proofs.Evaluation.Sound
import Spreadsheet.Proofs.Evaluation.StoredResult
import Spreadsheet.Proofs.Evaluation.Substitution
import Spreadsheet.Proofs.Evaluation.Termination
import Spreadsheet.Proofs.Evaluation.Union
import Spreadsheet.Proofs.Formula.AsWritten
import Spreadsheet.Proofs.Formula.Completeness
import Spreadsheet.Proofs.Formula.Courses
import Spreadsheet.Proofs.Formula.DefinedName
import Spreadsheet.Proofs.Formula.Descent
import Spreadsheet.Proofs.Formula.Grammar
import Spreadsheet.Proofs.Formula.LeftUnions
import Spreadsheet.Proofs.Formula.Necessity
import Spreadsheet.Proofs.Formula.NumberLiteral
import Spreadsheet.Proofs.Formula.Openings
import Spreadsheet.Proofs.Formula.Operands
import Spreadsheet.Proofs.Formula.Operation
import Spreadsheet.Proofs.Formula.Parentheses
import Spreadsheet.Proofs.Formula.Parsed
import Spreadsheet.Proofs.Formula.Reading
import Spreadsheet.Proofs.Formula.Rendering
import Spreadsheet.Proofs.Formula.RoundTrip
import Spreadsheet.Proofs.Formula.ScannedTokens
import Spreadsheet.Proofs.Formula.Scanning
import Spreadsheet.Proofs.Formula.SheetText
import Spreadsheet.Proofs.Formula.Soundness
import Spreadsheet.Proofs.Formula.Spelling
import Spreadsheet.Proofs.Formula.Subformula
import Spreadsheet.Proofs.Formula.Substitution
import Spreadsheet.Proofs.Formula.WellFormed
import Spreadsheet.Proofs.Formula.Words
import Spreadsheet.Proofs.Function.Aggregate
import Spreadsheet.Proofs.Function.Alike
import Spreadsheet.Proofs.Function.BlankHolidays
import Spreadsheet.Proofs.Function.Correspondence
import Spreadsheet.Proofs.Function.Date
import Spreadsheet.Proofs.Function.DateList
import Spreadsheet.Proofs.Function.DateParts
import Spreadsheet.Proofs.Function.DateSystems
import Spreadsheet.Proofs.Function.DateText
import Spreadsheet.Proofs.Function.Given
import Spreadsheet.Proofs.Function.Padding
import Spreadsheet.Proofs.Function.Sound
import Spreadsheet.Proofs.Function.WorkingDays
import Spreadsheet.Proofs.Grid.Address
import Spreadsheet.Proofs.Grid.Notation
import Spreadsheet.Proofs.Grid.Overflow
import Spreadsheet.Proofs.Grid.Range
import Spreadsheet.Proofs.Grid.RangeCells
import Spreadsheet.Proofs.Number.Floor
import Spreadsheet.Proofs.Number.General
import Spreadsheet.Proofs.Number.Layout
import Spreadsheet.Proofs.Number.NotANumber
import Spreadsheet.Proofs.Number.Numeral
import Spreadsheet.Proofs.Number.Order
import Spreadsheet.Proofs.Number.Rounding
import Spreadsheet.Proofs.Number.Sign
import Spreadsheet.Proofs.Number.Whole
import Spreadsheet.Proofs.Number.Written
import Spreadsheet.Proofs.Outcome
import Spreadsheet.Proofs.Text.Order
import Spreadsheet.Proofs.Text.Pieces
import Spreadsheet.Proofs.Text.UpperCase
import Spreadsheet.Proofs.Unicode.Character
import Spreadsheet.Proofs.Unicode.WhiteSpace
import Spreadsheet.Proofs.Value.Alike
import Spreadsheet.Proofs.Value.Area
import Spreadsheet.Proofs.Value.Broadcast
import Spreadsheet.Proofs.Value.Construction
import Spreadsheet.Proofs.Value.Elementwise
import Spreadsheet.Proofs.Value.Given
import Spreadsheet.Proofs.Value.Moved
import Spreadsheet.Proofs.Value.Order
import Spreadsheet.Proofs.Value.Pointwise
import Spreadsheet.Proofs.Value.Resolve
import Spreadsheet.Proofs.Value.Sound
import Spreadsheet.Proofs.Value.Stored
import Spreadsheet.Text.Case
import Spreadsheet.Text.Cut
import Spreadsheet.Text.Quoted
import Spreadsheet.Unicode.Alphabetic
import Spreadsheet.Unicode.CaseMapping
import Spreadsheet.Unicode.CodeRanges
import Spreadsheet.Unicode.Hidden
import Spreadsheet.Unicode.WhiteSpace
import Spreadsheet.Value.Area
import Spreadsheet.Value.Basic
import Spreadsheet.Value.Broadcast
import Spreadsheet.Value.Operand
import Spreadsheet.Value.Operator
import Spreadsheet.Value.Order
