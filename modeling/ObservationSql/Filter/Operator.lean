import ObservationSql.Text.Ascii
import ObservationSql.Text.Blank

namespace ObservationSql

/-- A layer of operators: binary comparisons; tests for null, patterns and ranges; steps of minutes
and lists. -/
inductive OperatorClass where
  | minimal
  | standard
  | extended
  deriving DecidableEq, Repr

def OperatorClass.level : OperatorClass → Nat
  | minimal => 0
  | standard => 1
  | extended => 2

def OperatorClass.name : OperatorClass → String
  | minimal => "minimal"
  | standard => "standard"
  | extended => "extended"

/-- A comparison of a column with a literal. -/
inductive Operator where
  | equalTo
  | notEqualTo
  | lessThan
  | lessThanOrEqualTo
  | greaterThan
  | greaterThanOrEqualTo
  | isNull
  | isNotNull
  | isNil
  | isLike
  | isBetween
  | minuteStep
  | isIn
  | isNotIn
  deriving DecidableEq, Repr

namespace Operator

def all : List Operator :=
  [equalTo, notEqualTo, lessThan, lessThanOrEqualTo, greaterThan, greaterThanOrEqualTo,
    isNull, isNotNull, isNil, isLike, isBetween, minuteStep, isIn, isNotIn]

def name : Operator → String
  | equalTo => "PropertyIsEqualTo"
  | notEqualTo => "PropertyIsNotEqualTo"
  | lessThan => "PropertyIsLessThan"
  | lessThanOrEqualTo => "PropertyIsLessThanOrEqualTo"
  | greaterThan => "PropertyIsGreaterThan"
  | greaterThanOrEqualTo => "PropertyIsGreaterThanOrEqualTo"
  | isNull => "PropertyIsNull"
  | isNotNull => "PropertyIsNotNull"
  | isNil => "PropertyIsNil"
  | isLike => "PropertyIsLike"
  | isBetween => "PropertyIsBetween"
  | minuteStep => "MinuteValueModuloIsEqualToZero"
  | isIn => "PropertyIsIn"
  | isNotIn => "PropertyIsNotIn"

/-- The SQL spelling. A nil test compares with the value that a column holds in place of a missing
one, so it is an equality. -/
def token : Operator → String
  | equalTo | isNil => "="
  | notEqualTo => "<>"
  | lessThan => "<"
  | lessThanOrEqualTo => "<="
  | greaterThan => ">"
  | greaterThanOrEqualTo => ">="
  | isNull => "IS NULL"
  | isNotNull => "IS NOT NULL"
  | isLike => "LIKE"
  | isBetween => "BETWEEN"
  | minuteStep => "MOD"
  | isIn => "IN"
  | isNotIn => "NOT IN"

def lowestClass : Operator → OperatorClass
  | equalTo | notEqualTo | lessThan | lessThanOrEqualTo | greaterThan | greaterThanOrEqualTo =>
      .minimal
  | isNull | isNotNull | isNil | isLike | isBetween => .standard
  | minuteStep | isIn | isNotIn => .extended

/-- Whether the operator tests for null and so ignores its literal. -/
def isNullTest : Operator → Bool
  | isNull | isNotNull => true
  | _ => false

/-- The operator of that name, but for white space around it and the case of ASCII letters. -/
def ofName? (name : String) : Option Operator :=
  all.find? fun operator => Text.eqFold operator.name (Text.trim name)

theorem mem_all (operator : Operator) : operator ∈ all := by
  cases operator <;> decide

end Operator

/-- The operators of a class, those of the classes below it included. -/
def OperatorClass.operators (layer : OperatorClass) : List Operator :=
  Operator.all.filter fun operator => operator.lowestClass.level ≤ layer.level

end ObservationSql
