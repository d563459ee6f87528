import ObservationSql.Warning

namespace ObservationSql

/-- One comparison of a WHERE clause. Its literal is checked when it is built, so writing it as SQL
cannot fail. -/
structure Predicate where
  operator : Operator
  field : String
  literal : Value
  deriving DecidableEq

namespace Predicate

/-- Checks the shape of a literal against what an operator asks for. Comparisons take every
shape. -/
def checkShape (operator : Operator) (literal : Value) : Result Unit :=
  match operator, literal with
  | .isIn, .list _ _ | .isNotIn, .list _ _ => .ok ()
  | .isIn, other | .isNotIn, other => .error (.typeMismatch .list other.kind)
  | .minuteStep, .scalar (.integer _) step =>
      if 0 < IntegerKind.Number.value step then .ok ()
      else .error (.validation (.nonPositiveStep .minuteStep))
  | .minuteStep, other => .error (.typeMismatch .integer other.kind)
  | .isBetween, .scalar .string _ => .ok ()
  | .isBetween, other => .error (.typeMismatch .string other.kind)
  | .isLike, .scalar _ _ => .ok ()
  | .isLike, other => .error (.typeMismatch .scalar other.kind)
  | _, _ => .ok ()

/-- Whether the operator can take the literal. The null tests ignore theirs. All others need a
value, finite numbers, a list that is not empty, and then the shape that they ask for. -/
def checkOperand (operator : Operator) (literal : Value) : Result Unit :=
  if operator.isNullTest then .ok ()
  else if literal.isEmpty then .error (.typeMismatch .literalValue literal.kind)
  else if !literal.isFinite then .error (.validation (.nonFiniteOperand operator literal))
  else
    match literal with
    | .list _ [] => .error (.validation (.emptyListOperand operator))
    | _ => checkShape operator literal

/-- The predicate, if the operator takes the literal. -/
def build (operator : Operator) (field : String) (literal : Value) : Result Predicate := do
  checkOperand operator literal
  return ⟨operator, field, literal⟩

/-- The category that the column should have. The step of a minute test is an integer, but the
column that it samples holds instants. -/
def inferredCategory (predicate : Predicate) : Category :=
  match predicate.operator, predicate.literal.category with
  | .minuteStep, .int => .timestamp
  | _, category => category

/-- The number of the minute of the day that a column holds, in a dialect. -/
def minuteOfDay (column : String) : Sql.Dialect → String
  | .oracle =>
      "TO_NUMBER(TO_CHAR(" ++ column ++ ",'HH24'))*60+TO_NUMBER(TO_CHAR(" ++ column ++ ",'MI'))"
  | .postgresql =>
      "CAST(EXTRACT(HOUR FROM " ++ column ++ ") AS INTEGER)*60+CAST(EXTRACT(MINUTE FROM "
        ++ column ++ ") AS INTEGER)"

/-- The predicate as SQL about the table known as `qualifier`. A pattern and a range are written
as the caller gave them. -/
def toSql (predicate : Predicate) (qualifier : String) (dialect : Sql.Dialect) : String :=
  let column := qualifier ++ "." ++ predicate.field
  match predicate.operator with
  | .isNull | .isNotNull => column ++ " " ++ predicate.operator.token
  | .isLike => column ++ " LIKE '%" ++ Sql.plainText predicate.literal ++ "%'"
  | .isBetween => column ++ " BETWEEN " ++ Sql.plainText predicate.literal
  | .minuteStep =>
      "MOD(" ++ minuteOfDay column dialect ++ "," ++ Sql.plainText predicate.literal ++ ") = 0"
  | operator => column ++ " " ++ operator.token ++ " " ++ Sql.render dialect predicate.literal

end Predicate

end ObservationSql
