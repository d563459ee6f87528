import ObservationSql.Schema.Declaration

namespace ObservationSql

/-- The tables that queries may use, in the order in which they were registered. -/
structure Registry where
  tables : List Table := []
  deriving DecidableEq, Repr

namespace Registry

/-- The registry with one more table, whose name may be there already. -/
def insert (registry : Registry) (table : Table) : Registry :=
  ⟨registry.tables ++ [table]⟩

/-- The first table of exactly that name. -/
def lookup? (registry : Registry) (name : String) : Option Table :=
  registry.tables.find? fun table => table.name == name

def names (registry : Registry) : List String :=
  registry.tables.map Table.name

/-- The registry of the tables that some documents declare, one each. -/
def ofYaml (documents : List String) : Result Registry := do
  return ⟨← documents.mapM Table.ofYaml⟩

end Registry

end ObservationSql
