import ObservationSql.Binary.Word
import ObservationSql.Calendar.Timestamp
import ObservationSql.Value.Kind

/-!
Values: one scalar, a list of scalars of one kind, or nothing at all. The kind of a scalar fixes the
type that carries it, so a list cannot mix kinds. Values compare as numbers where they are numbers:
a NaN differs from itself and the two zeros are equal.
-/

namespace ObservationSql

namespace ScalarKind

def Carrier : ScalarKind → Type
  | integer kind => kind.Number
  | float => Binary.Single
  | double => Binary.Double
  | string => String
  | timestamp => Calendar.Timestamp

instance : (kind : ScalarKind) → DecidableEq kind.Carrier
  | integer kind => inferInstanceAs (DecidableEq kind.Number)
  | float => inferInstanceAs (DecidableEq Binary.Single)
  | double => inferInstanceAs (DecidableEq Binary.Double)
  | string => inferInstanceAs (DecidableEq String)
  | timestamp => inferInstanceAs (DecidableEq Calendar.Timestamp)

/-- Equality of scalars, numeric on floating-point numbers. -/
def same : (kind : ScalarKind) → kind.Carrier → kind.Carrier → Bool
  | integer _, x, y => decide (x = y)
  | float, x, y => Binary.Single.same x y
  | double, x, y => Binary.Double.same x y
  | string, x, y => decide (x = y)
  | timestamp, x, y => decide (x = y)

/-- Neither an infinity nor a NaN. -/
def isFinite : (kind : ScalarKind) → kind.Carrier → Bool
  | float, x => (Binary.Single.datum x).isFinite
  | double, x => (Binary.Double.datum x).isFinite
  | _, _ => true

end ScalarKind

/-- A literal operand or a stored result. -/
inductive Value where
  | scalar (kind : ScalarKind) (item : kind.Carrier)
  | list (kind : ScalarKind) (items : List kind.Carrier)
  | empty
  deriving DecidableEq

namespace Value

def integer (kind : IntegerKind) (n : kind.Number) : Value :=
  scalar (.integer kind) n

def float (x : Binary.Single) : Value :=
  scalar .float x

def double (x : Binary.Double) : Value :=
  scalar .double x

def string (text : String) : Value :=
  scalar .string text

def timestamp (time : Calendar.Timestamp) : Value :=
  scalar .timestamp time

/-- The exact kind of a value. A list has the kind of its items even where it is empty. -/
def kind : Value → ValueKind
  | scalar kind _ => .scalar kind
  | list kind _ => .list kind
  | empty => .empty

def category (value : Value) : Category :=
  value.kind.category

def isEmpty : Value → Bool
  | empty => true
  | _ => false

def isFinite : Value → Bool
  | scalar kind item => kind.isFinite item
  | list kind items => items.all kind.isFinite
  | empty => true

/-- The number of a floating-point scalar, a single being made wider. -/
def asDouble? : Value → Option Binary.Double
  | scalar .float x => some (Binary.Single.widen x)
  | scalar .double x => some x
  | _ => none

def asText? : Value → Option String
  | scalar .string text => some text
  | _ => none

def sameItems (kind : ScalarKind) : List kind.Carrier → List kind.Carrier → Bool
  | [], [] => true
  | x :: xs, y :: ys => kind.same x y && sameItems kind xs ys
  | _, _ => false

/-- Equality of values. Values of different kinds differ, even where they are one number. -/
def same : Value → Value → Bool
  | scalar kind x, scalar kind' y => if h : kind' = kind then kind.same x (h ▸ y) else false
  | list kind xs, list kind' ys => if h : kind' = kind then sameItems kind xs (h ▸ ys) else false
  | empty, empty => true
  | _, _ => false

def items : Value → List Value
  | list kind items => items.map (scalar kind)
  | _ => []

end Value

end ObservationSql
