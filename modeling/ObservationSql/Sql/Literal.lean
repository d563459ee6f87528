import ObservationSql.Decimal.Fixed
import ObservationSql.Sql.Dialect
import ObservationSql.Value.Basic

/-!
Values as SQL literals. A text stands between quotes with each quote inside it written twice, an
instant is written as its dialect reads it, to the second, and a list stands in parentheses.
-/

namespace ObservationSql.Sql

open Calendar

def doubleQuotes : List Char → List Char
  | [] => []
  | c :: rest => if c = '\'' then '\'' :: '\'' :: doubleQuotes rest else c :: doubleQuotes rest

def quote (text : String) : String :=
  String.ofList ('\'' :: doubleQuotes text.toList ++ ['\''])

def timeMask : String := "YYYY-MM-DD HH24:MI:SS"

/-- An instant as a literal, to the second. -/
def timestampLiteral (time : Timestamp) : Dialect → String
  | .oracle => "TO_DATE('" ++ time.text " " ++ "','" ++ timeMask ++ "')"
  | .postgresql => "'" ++ time.text "T" ++ "'"

def plainScalar : (kind : ScalarKind) → kind.Carrier → String
  | .integer _, n => Decimal.ofInt (IntegerKind.Number.value n)
  | .float, x => Decimal.shortest .binary32 (Binary.Single.datum x)
  | .double, x => Decimal.shortest .binary64 (Binary.Double.datum x)
  | .string, text => text
  | .timestamp, time => Timestamp.text " " time

/-- The text of a value without any SQL around it; the items of a list are parted by commas. -/
def plainText : Value → String
  | .scalar kind item => plainScalar kind item
  | .list kind items => Text.joinWith "," (items.map (plainScalar kind))
  | .empty => ""

/-- A scalar as a literal. Texts stand between quotes, and numbers as they are. -/
def renderScalar (dialect : Dialect) : (kind : ScalarKind) → kind.Carrier → String
  | .string, text => quote text
  | .timestamp, time => timestampLiteral time dialect
  | kind, item => plainScalar kind item

/-- A value as a literal. A list stands in parentheses. -/
def render (dialect : Dialect) : Value → String
  | .scalar kind item => renderScalar dialect kind item
  | .list kind items =>
      "(" ++ Text.joinWith "," (items.map (renderScalar dialect kind)) ++ ")"
  | .empty => "NULL"

end ObservationSql.Sql
