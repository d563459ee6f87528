import ObservationSql.Fault

namespace ObservationSql

/-- Events that a caller should hear of though the call went through. They are handed back as values
beside the result, in the order in which they came up. What is recorded only to follow a program,
such as the text of a statement or a name that was refused, is left out. -/
inductive Warning where
  | alreadyRegistered (operator : Operator)
  | kindConflict (inferred : Category) (table field : String) (declared : Category)
  | filterWithoutTable
  | unprintable (column : Nat) (fault : Fault)
  | skippedFile (path : String) (fault : Fault)
  deriving DecidableEq

def Warning.message : Warning → String
  | alreadyRegistered operator => "Operator " ++ operator.name ++ " is already registered"
  | kindConflict inferred table field declared =>
      "Literal of kind " ++ inferred.name ++ " compared with field " ++ table ++ "." ++ field
        ++ " declared as " ++ declared.name
  | filterWithoutTable =>
      "Name filter created without a table schema; all names will be rejected"
  | unprintable column fault => "Column " ++ Decimal.ofNat column ++ ": " ++ fault.message
  | skippedFile path fault => "Skipping schema file " ++ path ++ ": " ++ fault.message

/-- A result with the warnings that came up on the way to it. -/
structure Noted (α : Type) where
  value : α
  warnings : List Warning

end ObservationSql
