import ObservationSql.Update

/-!
Results held column by column. The number of columns is fixed at the start. The first value of a
column that is not empty fixes the kind of the column, and values of other kinds are refused from
then on; empty values fit everywhere.
-/

namespace ObservationSql

/-- A container of columns. Its three lists have one entry for each column: the rows, the kind that
the rows are fixed to, and the name. -/
structure ResultSet where
  columns : List (List Value)
  kinds : List (Option ValueKind)
  names : List String
  deriving DecidableEq

namespace ResultSet

/-- The container of that many columns, without rows, kinds or names. -/
def ofWidth (width : Nat) : ResultSet where
  columns := List.replicate width []
  kinds := List.replicate width none
  names := List.replicate width ""

def width (set : ResultSet) : Nat :=
  set.columns.length

/-- The rows of a column; a column that does not exist has none. -/
def rows (set : ResultSet) (index : Nat) : List Value :=
  set.columns[index]?.getD []

def kind? (set : ResultSet) (index : Nat) : Option ValueKind :=
  set.kinds[index]?.getD none

def name? (set : ResultSet) (index : Nat) : Option String :=
  set.names[index]?

def checkIndex (set : ResultSet) (index : Nat) : Result Unit :=
  if index < set.width then .ok () else .error (.validation (.columnIndex index set.width))

/-- Fixes the kind of a column. A kind that is fixed already has to be the same one. -/
def fixKind (index : Nat) (kind : ValueKind) : Update ResultSet Unit := do
  match (← Update.current).kind? index with
  | none => Update.change fun set => { set with kinds := set.kinds.set index (some kind) }
  | some fixed => if fixed ≠ kind then throw (.typeMismatch (.kind fixed) kind)

/-- Puts a value behind the rows of a column. The kind is fixed before the value is there. -/
def append (index : Nat) (value : Value) : Update ResultSet Unit := do
  (← Update.current).checkIndex index
  if !value.isEmpty then fixKind index value.kind
  Update.change fun set => { set with columns := set.columns.modify index (· ++ [value]) }

def rename (index : Nat) (name : String) : Update ResultSet Unit := do
  (← Update.current).checkIndex index
  Update.change fun set => { set with names := set.names.set index name }

/-- Takes over the contents of a container, list by list, if it has as many columns; the answer is
whether it has. -/
def replaceWith (other : ResultSet) : Update ResultSet Bool := do
  if other.width ≠ (← Update.current).width then return false
  Update.change fun set => { set with columns := other.columns }
  Update.change fun set => { set with kinds := other.kinds }
  Update.change fun set => { set with names := other.names }
  return true

/-- The index of the first column of that name, but for the case of ASCII letters. -/
def indexOf? (set : ResultSet) (name : String) : Option Nat :=
  set.names.findIdx? fun other => Text.eqFold other name

def rowCount (set : ResultSet) (index : Nat) : Nat :=
  (set.rows index).length

def values (set : ResultSet) (index : Nat) : Result (List Value) := do
  set.checkIndex index
  return set.rows index

def valuesOf (set : ResultSet) (name : String) : Result (List Value) :=
  match set.indexOf? name with
  | some index => set.values index
  | none => .error (.validation (.columnName name))

def value? (set : ResultSet) (index row : Nat) : Option Value :=
  (set.rows index)[row]?

/-- Whether two columns have equally many rows and numerically equal ones. -/
def sameRows : List Value → List Value → Bool
  | [], [] => true
  | x :: xs, y :: ys => x.same y && sameRows xs ys
  | _, _ => false

def sameColumns : List (List Value) → List (List Value) → Bool
  | [], [] => true
  | x :: xs, y :: ys => sameRows x y && sameColumns xs ys
  | _, _ => false

/-- Equality of containers, numeric on floating-point numbers: a NaN makes a container differ from
itself. -/
def same (left right : ResultSet) : Bool :=
  sameColumns left.columns right.columns && left.kinds == right.kinds && left.names == right.names

end ResultSet

end ObservationSql
