import ObservationSql.Query.Join.Clauses
import ObservationSql.Query.Latest.Statement
import ObservationSql.Result.ResultSet
import ObservationSql.Settings

/-!
What both kinds of queries have in common: each is a statement in some dialect, and a source runs it
and puts the rows into a container for results. A source answers at once here. That it may take its
time, be shared, and be closed in the end belongs to its contract with a host, and is left out.
-/

namespace ObservationSql

inductive Query where
  | join (query : JoinQuery)
  | latest (query : LatestQuery)
  deriving DecidableEq

namespace Query

def extent : Query → Extent
  | join query => query.extent
  | latest query => query.extent

/-- The statement of a query in a dialect. A query over joined tables always has one. -/
def sql (query : Query) (dialect : Sql.Dialect := .primary) : Result String :=
  match query with
  | join query => .ok (query.sql dialect)
  | latest query => query.sql dialect

def configuredSql (query : Query) (settings : Settings) : Result String :=
  query.sql settings.dialect

end Query

/-- A source of observations: its name, the dialect that it speaks, and how it answers the text of a
statement by putting rows into a container. -/
structure Source where
  name : String
  dialect : Sql.Dialect := .primary
  answer : String → Update ResultSet Unit

namespace Source

/-- Runs a query: its statement in the dialect of the source, if there is one, is what the source
answers. -/
def execute (source : Source) (query : Query) : Update ResultSet Unit := do
  source.answer (← query.sql source.dialect)

/-- A source without observations, which answers each statement with its own text. -/
def echo (name : String) (dialect : Sql.Dialect := .primary) : Source where
  name
  dialect
  answer text := do
    if text.isEmpty then throw .emptyStatement
    ResultSet.append 0 (.string text)

end Source

end ObservationSql
