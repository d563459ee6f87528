import ObservationSql.Text.Ascii
import ObservationSql.Text.Blank

namespace ObservationSql

inductive IntegerKind where
  | int16
  | int32
  | int64
  | uint16
  | uint32
  | uint64
  deriving DecidableEq, Repr

namespace IntegerKind

def least : IntegerKind → Int
  | int16 => -32768
  | int32 => -2147483648
  | int64 => -9223372036854775808
  | uint16 | uint32 | uint64 => 0

def greatest : IntegerKind → Int
  | int16 => 32767
  | int32 => 2147483647
  | int64 => 9223372036854775807
  | uint16 => 65535
  | uint32 => 4294967295
  | uint64 => 18446744073709551615

def name : IntegerKind → String
  | int16 => "int16"
  | int32 => "int32"
  | int64 => "int64"
  | uint16 => "uint16"
  | uint32 => "uint32"
  | uint64 => "uint64"

/-- An integer that a kind can hold. -/
structure Number (kind : IntegerKind) where
  value : Int
  mem : kind.least ≤ value ∧ value ≤ kind.greatest
  deriving DecidableEq, Repr

def number? (kind : IntegerKind) (n : Int) : Option kind.Number :=
  if h : kind.least ≤ n ∧ n ≤ kind.greatest then some ⟨n, h⟩ else none

end IntegerKind

inductive ScalarKind where
  | integer (kind : IntegerKind)
  | float
  | double
  | string
  | timestamp
  deriving DecidableEq, Repr

/-- What a column is declared to hold, or what a literal is taken to be. The integers of all widths
are one here, which are kinds of their own otherwise. -/
inductive Category where
  | int
  | uint
  | float
  | double
  | string
  | timestamp
  | unknown
  deriving DecidableEq, Repr

namespace Category

def name : Category → String
  | int => "int"
  | uint => "uint"
  | float => "float"
  | double => "double"
  | string => "string"
  | timestamp => "timestamp"
  | unknown => "unknown"

/-- The category that a declaration names. White space around the name and the case of its letters
do not matter; all other texts declare nothing. -/
def parse (declared : String) : Category :=
  match Text.lower (Text.trim declared) with
  | "int" => int
  | "uint" => uint
  | "float" => float
  | "double" => double
  | "string" => string
  | "timestamp" => timestamp
  | _ => unknown

/-- Whether a literal of category `inferred` fits a column of the declared category. An undeclared
column takes everything, and literals have no unsigned category of their own. -/
def accepts : Category → Category → Bool
  | unknown, _ => true
  | uint, int => true
  | declared, inferred => declared == inferred

end Category

namespace ScalarKind

def name : ScalarKind → String
  | integer kind => kind.name
  | float => "float"
  | double => "double"
  | string => "string"
  | timestamp => "timestamp"

/-- The category of the kind. Integers of all widths are `int`. -/
def category : ScalarKind → Category
  | integer _ => .int
  | float => .float
  | double => .double
  | string => .string
  | timestamp => .timestamp

def isInteger : ScalarKind → Bool
  | integer _ => true
  | _ => false

end ScalarKind

/-- The exact kind of a value. -/
inductive ValueKind where
  | scalar (kind : ScalarKind)
  | list (kind : ScalarKind)
  | empty
  deriving DecidableEq, Repr

namespace ValueKind

def name : ValueKind → String
  | scalar kind => kind.name
  | list kind => "list<" ++ kind.name ++ ">"
  | empty => "empty"

/-- The category of the kind. A list has the category of its elements. -/
def category : ValueKind → Category
  | scalar kind | list kind => kind.category
  | empty => .unknown

end ValueKind

end ObservationSql
