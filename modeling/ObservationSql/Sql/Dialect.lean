import ObservationSql.Text.Ascii
import ObservationSql.Text.Blank

namespace ObservationSql.Sql

inductive Dialect where
  | oracle
  | postgresql
  deriving DecidableEq, Repr

namespace Dialect

/-- The dialect where no other is asked for. -/
def primary : Dialect := oracle

def name : Dialect → String
  | oracle => "oracle"
  | postgresql => "postgresql"

/-- The dialect that a setting names, but for white space around the name and the case of its
letters. An unknown name means the primary dialect. -/
def ofName (name : String) : Dialect :=
  match Text.lower (Text.trim name) with
  | "postgresql" | "postgres" | "postgis" | "pgsql" => postgresql
  | _ => primary

end Dialect

end ObservationSql.Sql
