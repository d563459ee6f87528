import ObservationSql.Query.Statement
import ObservationSql.Result.Export
import ObservationSql.Result.Extremes
import ObservationSql.Proofs.Query.Join.Admission
import ObservationSql.Proofs.Query.Join.Grouping
import ObservationSql.Proofs.Query.Join.Invariant
import ObservationSql.Proofs.Query.Join.Growth
import ObservationSql.Proofs.Text.Blank
import ObservationSql.Proofs.Filter.OperatorSet
import ObservationSql.Proofs.Query.Join.Interleaving
import ObservationSql.Proofs.Decimal.Numeral
import ObservationSql.Proofs.Sql.Literal
import ObservationSql.Proofs.Query.Join.Conditions
import ObservationSql.Proofs.Result.Invariant
import ObservationSql.Proofs.FileTree
import ObservationSql.Proofs.Schema.Loading
import ObservationSql.Proofs.Binary.Format
import ObservationSql.Proofs.Decimal.Shortest
import ObservationSql.Proofs.Decimal.Nearest
import ObservationSql.Proofs.Decimal.Reading
import ObservationSql.Proofs.Calendar.Reading
import ObservationSql.Proofs.Sql.Reading
import ObservationSql.Proofs.Sql.Group
import ObservationSql.Proofs.Query.Latest.Stations
import ObservationSql.Proofs.Schema.ColumnFilter
import ObservationSql.Proofs.Query.Latest.Columns
import ObservationSql.Proofs.Query.Join.Caseless
import ObservationSql.Proofs.Query.Join.Dialects
import ObservationSql.Proofs.Query.Join.Ordering
import ObservationSql.Proofs.Query.Join.History
import ObservationSql.Proofs.Query.Latest.Projection
import ObservationSql.Proofs.Binary.Word
import ObservationSql.Proofs.Binary.Number
import ObservationSql.Proofs.Query.Extent
import ObservationSql.Proofs.Query.Bounds
import ObservationSql.Proofs.Result.Extremes
import ObservationSql.Proofs.Sql.Mask
import ObservationSql.Proofs.Query.Instants
import ObservationSql.Proofs.Query.Join.SelectList
import ObservationSql.Proofs.Query.Latest.Requirement
import ObservationSql.Proofs.Query.Join.Operands
import ObservationSql.Proofs.Schema.Declaration
import ObservationSql.Proofs.Schema.Lookup
import ObservationSql.Proofs.Query.Join.Warnings
import ObservationSql.Proofs.Calendar.Order
import ObservationSql.Proofs.Query.Latest.Chronology
import ObservationSql.Proofs.Result.Export
import ObservationSql.Proofs.Settings
