import GridQuery.Text.Basic
import GridQuery.Text.Bytes
import GridQuery.Text.Lowercase
import GridQuery.Text.Quoted
import GridQuery.Decimal.Layout
import GridQuery.Decimal.Numeral
import GridQuery.Json.Basic
import GridQuery.Json.Reader
import GridQuery.Bindings
import GridQuery.Fragment
import GridQuery.Script.Program
import GridQuery.Filter.Array
import GridQuery.Filter.Scanner
import GridQuery.Filter.Condition
import GridQuery.Source.Directory
import GridQuery.Request.Body
import GridQuery.Request.QueryString
import GridQuery.Batch.Basic
import GridQuery.Toml.Document
import GridQuery.Main
import GridQuery.Proofs.Condition.Run
import GridQuery.Proofs.Condition.Text
import GridQuery.Proofs.Batch.Assembly
import GridQuery.Proofs.Batch.Shape
import GridQuery.Proofs.Batch.Lines
import GridQuery.Proofs.Batch.Placeholders
import GridQuery.Proofs.Expression.Token
import GridQuery.Proofs.Expression.Grammar
import GridQuery.Proofs.Condition.Meaning
import GridQuery.Proofs.FilterText.Grammar
import GridQuery.Proofs.FilterText.Token
import GridQuery.Proofs.FilterText.Complete
import GridQuery.Proofs.FilterText.Step
import GridQuery.Proofs.FilterText.Sound
import GridQuery.Proofs.FilterText.Spelling
import GridQuery.Proofs.FilterArray.Shape
import GridQuery.Proofs.FilterArray.Written
import GridQuery.Proofs.FilterText.Written
import GridQuery.Proofs.Request.Overlay
import GridQuery.Proofs.Text.Places
import GridQuery.Proofs.Batch.Slots
import GridQuery.Proofs.Batch.SlotLines
import GridQuery.Proofs.Batch.Confined
import GridQuery.Proofs.Script.Action
import GridQuery.Proofs.Script.Continued
import GridQuery.Proofs.Script.Nesting
import GridQuery.Proofs.Batch.Clauses
import GridQuery.Proofs.Batch.Total
import GridQuery.Proofs.Condition.Failure
import GridQuery.Proofs.Literal.Reading
import GridQuery.Proofs.Text.Rebroken
import GridQuery.Proofs.Script.Adds
import GridQuery.Proofs.Table.Rows
import GridQuery.Proofs.Table.Faults
import GridQuery.Proofs.Condition.Depth
import GridQuery.Proofs.FilterArray.Chain
import GridQuery.Proofs.Request.LastPair
import GridQuery.Proofs.Table.Guarded
import GridQuery.Proofs.Condition.Search
import GridQuery.Proofs.Settings.Directory
import GridQuery.Proofs.Settings.PageSize
import GridQuery.Proofs.CommandLine.Shown
import GridQuery.Proofs.Text.Delimited
import GridQuery.Proofs.Literal.RowList
import GridQuery.Proofs.Condition.Columns
import GridQuery.Proofs.Assoc
import GridQuery.Proofs.Request.Fields
import GridQuery.Proofs.Request.Written
import GridQuery.Proofs.Request.Built
import GridQuery.Proofs.Source.Resolution
import GridQuery.Proofs.Bindings
import GridQuery.Proofs.FilterText.Groups
import GridQuery.Proofs.Text.Words
import GridQuery.Proofs.ColumnType
import GridQuery.Proofs.Request.SortText
