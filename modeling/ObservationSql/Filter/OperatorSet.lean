import ObservationSql.Filter.Predicate

namespace ObservationSql

/-- The operators that a query lets its callers use, in the order of their registration. -/
structure OperatorSet where
  operators : List Operator
  deriving DecidableEq, Repr

namespace OperatorSet

def ofClass (layer : OperatorClass) : OperatorSet :=
  ⟨layer.operators⟩

def empty : OperatorSet :=
  ⟨[]⟩

/-- The set of a query when no other is given: all operators. -/
def full : OperatorSet :=
  ofClass .extended

def contains (set : OperatorSet) (operator : Operator) : Bool :=
  set.operators.contains operator

/-- The set with one more operator, and whether it is new. An operator that is there already is
refused with a warning. -/
def register (set : OperatorSet) (operator : Operator) : Noted (OperatorSet × Bool) :=
  if set.contains operator then ⟨(set, false), [.alreadyRegistered operator]⟩
  else ⟨(⟨set.operators ++ [operator]⟩, true), []⟩

def names (set : OperatorSet) : List String :=
  set.operators.map Operator.name

/-- The operator of that name, which has to be in the set. A name that is of no operator and one of
an operator outside the set are refused alike. -/
def find (set : OperatorSet) (name : String) : Result Operator :=
  match Operator.ofName? name with
  | some operator =>
      if set.contains operator then .ok operator else .error (.operationNotFound name)
  | none => .error (.operationNotFound name)

/-- A predicate with an operator of the set. The operator is looked up before the literal is
checked. -/
def create (set : OperatorSet) (name field : String) (literal : Value) : Result Predicate := do
  let operator ← set.find name
  Predicate.build operator field literal

end OperatorSet

end ObservationSql
