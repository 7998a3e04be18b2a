import SqlText.Build
import SqlText.Calendar
import SqlText.Clause.Aggregate
import SqlText.Clause.CaseExpr
import SqlText.Clause.Columns
import SqlText.Clause.Join
import SqlText.Clause.OrderBy
import SqlText.Clause.Paging
import SqlText.Clause.RecursiveCte
import SqlText.Clause.SubQuery
import SqlText.Fault
import SqlText.Literal
import SqlText.Log.Channel
import SqlText.Log.Files
import SqlText.Log.Handler
import SqlText.Log.Level
import SqlText.Log.Levels
import SqlText.Log.Record
import SqlText.Log.Severity
import SqlText.Log.Template
import SqlText.Number.Decimal
import SqlText.Number.Double
import SqlText.Number.Exact
import SqlText.Number.Numeral
import SqlText.Number.Shortest
import SqlText.Proofs.ActiveSettings
import SqlText.Proofs.Aliases
import SqlText.Proofs.AlignedRows
import SqlText.Proofs.AlikeCases
import SqlText.Proofs.BuiltRecords
import SqlText.Proofs.CamelCase
import SqlText.Proofs.CaseMarks
import SqlText.Proofs.CaseReadBack
import SqlText.Proofs.ClauseOutcomes
import SqlText.Proofs.ClosedClauses
import SqlText.Proofs.Coercions
import SqlText.Proofs.ColumnItems
import SqlText.Proofs.Composition
import SqlText.Proofs.Coupling
import SqlText.Proofs.DataIndependence
import SqlText.Proofs.DiagnosticFaults
import SqlText.Proofs.Diagnostics
import SqlText.Proofs.DirectionCodes
import SqlText.Proofs.Dispatch
import SqlText.Proofs.Endings
import SqlText.Proofs.ErrorRecords
import SqlText.Proofs.ExactOrder
import SqlText.Proofs.Guards
import SqlText.Proofs.InputFaults
import SqlText.Proofs.InsertReadBack
import SqlText.Proofs.Interchange
import SqlText.Proofs.ItemLists
import SqlText.Proofs.JoinChains
import SqlText.Proofs.JoinKeys
import SqlText.Proofs.JsonStrings
import SqlText.Proofs.LiteralTexts
import SqlText.Proofs.MappingEntries
import SqlText.Proofs.OptionNames
import SqlText.Proofs.OrderingLeaves
import SqlText.Proofs.Outcomes
import SqlText.Proofs.Parts
import SqlText.Proofs.Quoting
import SqlText.Proofs.ReadVariables
import SqlText.Proofs.Recording
import SqlText.Proofs.Remarks
import SqlText.Proofs.RequestFaults
import SqlText.Proofs.RequiredInputs
import SqlText.Proofs.RowBounds
import SqlText.Proofs.SelectAssembly
import SqlText.Proofs.SelectItems
import SqlText.Proofs.SettingsIndependence
import SqlText.Proofs.Skeletons
import SqlText.Proofs.SortEndings
import SqlText.Proofs.Spellings
import SqlText.Proofs.StoredTexts
import SqlText.Proofs.StrictSource
import SqlText.Proofs.StringLiterals
import SqlText.Proofs.Trimming
import SqlText.Proofs.TupleScan
import SqlText.Proofs.UpdateAssignments
import SqlText.Proofs.UsableLevels
import SqlText.Session
import SqlText.Settings.Basic
import SqlText.Settings.Environment
import SqlText.Settings.VariableFile
import SqlText.Settings.Variables
import SqlText.Sorting.Merging
import SqlText.Sorting.Runs
import SqlText.Sorting.Search
import SqlText.Statement.Delete
import SqlText.Statement.Insert
import SqlText.Statement.Report
import SqlText.Statement.Request
import SqlText.Statement.Select
import SqlText.Statement.Update
import SqlText.Text.Blank
import SqlText.Text.Hex
import SqlText.Text.Integer
import SqlText.Text.JsonString
import SqlText.Text.Letters
import SqlText.Text.LineEnd
import SqlText.Text.Printable
import SqlText.Text.Quoted
import SqlText.Text.Word
import SqlText.Value.Access
import SqlText.Value.Basic
import SqlText.Value.Inspect
import SqlText.Value.Order
import SqlText.Verb
