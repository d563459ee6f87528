import ObservationSql.Schema.Table
import ObservationSql.Text.Uppercase
import ObservationSql.Warning

namespace ObservationSql

/-- A filter for the column names that a caller asks for: the names that it knows, by their keys,
and those that it has let through, in the spelling of the caller. -/
structure ColumnFilter where
  known : List String
  caseSensitive : Bool
  accepted : List String := []
  deriving DecidableEq, Repr

namespace ColumnFilter

/-- What two names have in common if they are one: the name itself, or its form in capitals. -/
def key (caseSensitive : Bool) (name : String) : String :=
  if caseSensitive then name else Text.upper name

/-- The filter for the columns of a table. Without a table it lets nothing through, which is worth a
warning. -/
def ofTable? (table : Option Table) (caseSensitive : Bool) : Noted ColumnFilter :=
  match table with
  | some table => ⟨{ known := table.fieldNames.map (key caseSensitive), caseSensitive }, []⟩
  | none => ⟨{ known := [], caseSensitive }, [.filterWithoutTable]⟩

/-- Whether the table of the filter declares a name, by the rule of case of the filter. -/
def admits (filter : ColumnFilter) (name : String) : Bool :=
  filter.known.contains (key filter.caseSensitive name)

/-- The filter after a name has been offered to it, and whether it let the name through. -/
def add (filter : ColumnFilter) (name : String) : ColumnFilter × Bool :=
  if filter.admits name then ({ filter with accepted := filter.accepted ++ [name] }, true)
  else (filter, false)

end ColumnFilter

end ObservationSql
