import ObservationSql.Filter.Operator
import ObservationSql.Sql.Literal

namespace ObservationSql

open Calendar Binary

/-- A table declaration, or a directory of them, that cannot be used. -/
inductive ConfigFault where
  | invalidDocument
  | unnamedTable
  | noFields (table : String)
  | unnamedField (index : Nat) (table : String)
  | tableName (table : String)
  | fieldName (field table : String)
  | duplicateField (field table : String)
  | noActiveFields (table : String)
  | missingDirectory (path : String)
  | notDirectory (path : String)
  deriving DecidableEq, Repr

/-- The wording of a fault of a declaration, with the names that it is about. -/
def ConfigFault.message : ConfigFault → String
  | invalidDocument => "invalid schema document"
  | unnamedTable => "schema is missing the table 'name'"
  | noFields table => "table '" ++ table ++ "' declares no fields"
  | unnamedField index table =>
      "field entry " ++ Decimal.ofNat index ++ " of table '" ++ table ++ "' has no 'name'"
  | tableName table =>
      "table name '" ++ table ++ "' must start with an alphabetic character"
  | fieldName field table =>
      "field name '" ++ field ++ "' of table '" ++ table
        ++ "' must start with an alphabetic character"
  | duplicateField field table =>
      "duplicate field name '" ++ field ++ "' in table '" ++ table ++ "'"
  | noActiveFields table => "table '" ++ table ++ "' has no active fields"
  | missingDirectory path => "schema directory '" ++ path ++ "' does not exist"
  | notDirectory path => "schema path '" ++ path ++ "' is not a directory"

/-- An argument that breaks the rules of the call it was given to. -/
inductive ValidationFault where
  | nonFiniteOperand (operator : Operator) (literal : Value)
  | emptyListOperand (operator : Operator)
  | nonPositiveStep (operator : Operator)
  | invertedTimes (start stop : Timestamp)
  | invertedX (xMin xMax : Double)
  | invertedY (yMin yMax : Double)
  | outsideBounds (xMin yMin xMax yMax : Double)
  | timeFormat (format : String)
  | notATime
  | noPrimaryTable
  | undeclaredField (field : String)
  | joinWithoutFields (table : String)
  | repeatedTable (table : String)
  | joinField (field table : String)
  | joinKind (token : String)
  | sortDirection (token : String)
  | duplicateOrder (field : String)
  | noMessageTable
  | noStations
  | noSelectNames
  | noTimeRange
  | columnIndex (column count : Nat)
  | columnName (name : String)
  deriving DecidableEq

def coordinate (x : Double) : String :=
  Decimal.shortest .binary64 x.datum

/-- The wording of a refused argument, with the argument. -/
def ValidationFault.message : ValidationFault → String
  | nonFiniteOperand operator literal =>
      operator.name ++ " requires a finite number, got " ++ Sql.plainText literal
  | emptyListOperand operator => operator.name ++ " requires a non-empty list operand"
  | nonPositiveStep operator => operator.name ++ " requires a positive minute step"
  | invertedTimes start stop =>
      "begin time " ++ start.exactText ++ " is later than end time " ++ stop.exactText
  | invertedX xMin xMax =>
      "bounding box x_min " ++ coordinate xMin ++ " is greater than x_max " ++ coordinate xMax
  | invertedY yMin yMax =>
      "bounding box y_min " ++ coordinate yMin ++ " is greater than y_max " ++ coordinate yMax
  | outsideBounds xMin yMin xMax yMax =>
      "bounding box (" ++ coordinate xMin ++ ", " ++ coordinate yMin ++ ", " ++ coordinate xMax
        ++ ", " ++ coordinate yMax ++ ") is outside WGS84 bounds"
  | timeFormat format =>
      "unsupported time format '" ++ format ++ "', only '" ++ Sql.timeMask ++ "' is supported"
  | notATime => "cannot format an invalid time value"
  | noPrimaryTable => "join query requires a primary table schema"
  | undeclaredField field =>
      "field '" ++ field ++ "' is not declared by any participating table"
  | joinWithoutFields table => "join with table '" ++ table ++ "' has no fields"
  | repeatedTable table => "table '" ++ table ++ "' already takes part in the query"
  | joinField field table =>
      "join field '" ++ field ++ "' is not declared by table '" ++ table ++ "'"
  | joinKind token => "invalid join type '" ++ token ++ "'"
  | sortDirection token =>
      "invalid sort direction '" ++ token ++ "', expected ASC or DESC"
  | duplicateOrder field => "duplicate order-by field '" ++ field ++ "'"
  | noMessageTable => "latest message query requires a table schema"
  | noStations => "latest message query requires at least one station id"
  | noSelectNames => "latest message query requires at least one select name"
  | noTimeRange => "latest message query requires a time range"
  | columnIndex column count =>
      "column index " ++ Decimal.ofNat column ++ " out of range, result has "
        ++ Decimal.ofNat count ++ " columns"
  | columnName name => "result has no column named '" ++ name ++ "'"

/-- What an operand or a stored value should have been. -/
inductive Expected where
  | literalValue
  | list
  | integer
  | string
  | scalar
  | kind (kind : ValueKind)
  deriving DecidableEq, Repr

def Expected.name : Expected → String
  | literalValue => "literal value"
  | list => "list"
  | integer => "integer"
  | string => "string"
  | scalar => "scalar"
  | .kind exact => exact.name

/-- What can go wrong, by cause. The wording of a cause is made from what the cause carries, so a
caller can tell the causes apart without reading it. -/
inductive Fault where
  | config (cause : ConfigFault)
  | validation (cause : ValidationFault)
  | operationNotFound (name : String)
  | typeMismatch (expected : Expected) (found : ValueKind)
  | unsupportedType (kind : ValueKind)
  | emptyStatement
  | unreadableFile
  | malformedYaml
  deriving DecidableEq

def Fault.message : Fault → String
  | config cause => "Configuration error: " ++ cause.message
  | validation cause => "Validation error: " ++ cause.message
  | operationNotFound name => "Operation not found: " ++ name
  | typeMismatch expected found =>
      "Type mismatch: expected " ++ expected.name ++ ", found " ++ found.name
  | unsupportedType kind => "Unsupported type: cannot convert " ++ kind.name ++ " to string"
  | emptyStatement => "Driver error: empty statement"
  | unreadableFile => "I/O error"
  | malformedYaml => "YAML error"

/-- A value, or the fault that there is instead of one. -/
abbrev Result := Except Fault

theorem bind_eq_ok_iff {α β : Type} {result : Result α} {next : α → Result β} {answer : β} :
    (result >>= next) = .ok answer ↔ ∃ first, result = .ok first ∧ next first = .ok answer := by
  cases result with
  | ok first =>
      change next first = .ok answer ↔ _
      simp
  | error fault => exact iff_of_false (fun h => nomatch h) fun ⟨_, h, _⟩ => nomatch h

end ObservationSql
