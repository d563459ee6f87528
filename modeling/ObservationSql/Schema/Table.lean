import ObservationSql.Fault
import ObservationSql.Text.Alphabetic

namespace ObservationSql

/-- A column of a table: its name, the accessor that its values are read through, if there is one,
and the category that it is declared to hold. -/
structure Field where
  name : String
  method : Option String := none
  kind : Category := .unknown
  deriving DecidableEq, Repr

/-- A table with the columns that a query may use. -/
structure Table where
  name : String
  fields : List Field
  deriving DecidableEq, Repr

/-- Whether a text can name a column of the table, given the names of the columns before it. -/
def checkFieldName (table : String) (earlier : List String) (name : String) : Result Unit :=
  if !Text.startsAlphabetic name then .error (.config (.fieldName name table))
  else if earlier.contains name then .error (.config (.duplicateField name table))
  else .ok ()

/-- Whether some texts, in this order, can name the columns of the table. -/
def checkFieldNames (table : String) (earlier : List String) : List String → Result Unit
  | [] => .ok ()
  | name :: rest => do
      checkFieldName table earlier name
      checkFieldNames table (name :: earlier) rest

namespace Table

/-- A table from its parts. Its name and those of its columns begin with a letter, no two columns
have one name, and there is at least one column. -/
def build (name : String) (fields : List Field) : Result Table := do
  if !Text.startsAlphabetic name then throw (.config (.tableName name))
  checkFieldNames name [] (fields.map Field.name)
  if fields.isEmpty then throw (.config (.noActiveFields name))
  return ⟨name, fields⟩

def fieldNames (table : Table) : List String :=
  table.fields.map Field.name

/-- Whether two names are of one column, by a rule of case that knows ASCII letters only. -/
def sameName (caseSensitive : Bool) (left right : String) : Bool :=
  if caseSensitive then left == right else Text.eqFold left right

/-- Whether a column of that name is declared. -/
def declares (table : Table) (name : String) (caseSensitive : Bool := false) : Bool :=
  table.fields.any fun field => sameName caseSensitive field.name name

/-- The column of exactly that name or else the first one that folds to it. -/
def find? (table : Table) (name : String) : Option Field :=
  (table.fields.find? fun field => field.name == name).or
    (table.fields.find? fun field => Text.eqFold field.name name)

def kind? (table : Table) (name : String) : Option Category :=
  (table.find? name).map Field.kind

def method? (table : Table) (name : String) : Option String :=
  (table.find? name).bind Field.method

end Table

end ObservationSql
