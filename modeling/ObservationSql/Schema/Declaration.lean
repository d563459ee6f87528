import ObservationSql.Schema.Table
import ObservationSql.Yaml.Decode

namespace ObservationSql

structure FieldDeclaration where
  name : Option String := none
  active : Option Bool := none
  method : Option String := none
  kind : Option String := none
  deriving DecidableEq, Repr

/-- A table as a document declares it. Everything may be left out; what makes it a table is checked
afterwards. -/
structure TableDeclaration where
  name : Option String := none
  fields : Option (List FieldDeclaration) := none
  deriving DecidableEq, Repr

namespace FieldDeclaration

/-- Whether the column is active. It is unless the entry says otherwise. -/
def isActive (entry : FieldDeclaration) : Bool :=
  entry.active.getD true

/-- The column with that name. An accessor that is empty is none. -/
def toField (entry : FieldDeclaration) (name : String) : Field where
  name
  method := entry.method.filter fun method => !method.isEmpty
  kind := (entry.kind.map Category.parse).getD .unknown

/-- Reads the declaration of a column from a mapping. Other entries are passed over. -/
def decode (node : Yaml.Node) : Yaml.Decode FieldDeclaration := do
  let fields ← Yaml.Decode.record node
  return {
    name := ← Yaml.Decode.optionalField fields "name" Yaml.Decode.text
    active := ← Yaml.Decode.optionalField fields "active" Yaml.Decode.flag
    method := ← Yaml.Decode.optionalField fields "method" Yaml.Decode.text
    kind := ← Yaml.Decode.optionalField fields "type" Yaml.Decode.text }

end FieldDeclaration

/-- The active columns of some entries, of which `index` entries with the names `earlier` came
before. The others are checked like them and then left out. -/
def activeFields (table : String) (index : Nat) (earlier : List String) :
    List FieldDeclaration → Result (List Field)
  | [] => .ok []
  | entry :: rest =>
      match entry.name with
      | none => .error (.config (.unnamedField index table))
      | some name => do
          checkFieldName table earlier name
          let fields ← activeFields table (index + 1) (name :: earlier) rest
          return if entry.isActive then entry.toField name :: fields else fields

namespace TableDeclaration

/-- The table that is declared. The name is asked for first, then the columns, each in its turn. -/
def toTable (declaration : TableDeclaration) : Result Table :=
  match declaration.name with
  | none => .error (.config .unnamedTable)
  | some name =>
      match declaration.fields.getD [] with
      | [] => .error (.config (.noFields name))
      | entries => do Table.build name (← activeFields name 0 [] entries)

def decode (node : Yaml.Node) : Yaml.Decode TableDeclaration := do
  let fields ← Yaml.Decode.record node
  return {
    name := ← Yaml.Decode.optionalField fields "name" Yaml.Decode.text
    fields :=
      ← Yaml.Decode.optionalField fields "fields" (Yaml.Decode.items FieldDeclaration.decode) }

end TableDeclaration

/-- The table that a document declares. A document that cannot be read is a fault of its own. -/
def Table.ofYaml (document : String) : Result Table :=
  match Yaml.decode? TableDeclaration.decode document with
  | some declaration => declaration.toTable
  | none => .error (.config .invalidDocument)

end ObservationSql
