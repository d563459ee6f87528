import ObservationSql.Query.Extent
import ObservationSql.Schema.ColumnFilter

namespace ObservationSql

/-- A query for the messages of some stations in a time window, either all of them or the newest one
of each station. It is about one table, and only columns of that table can be selected. -/
structure LatestQuery where
  table : Table
  select : ColumnFilter
  stations : List String := []
  onlyLatest : Bool := false
  extent : Extent := {}
  deriving DecidableEq

namespace LatestQuery

/-- The query about a table, with a rule of case for the names of its columns. -/
def ofTable? (table : Option Table) (caseSensitive : Bool := false) : Result LatestQuery :=
  match table with
  | some table =>
      .ok { table, select := (ColumnFilter.ofTable? (some table) caseSensitive).value }
  | none => .error (.validation .noMessageTable)

/-- The query with one more column, and whether the table declares it. -/
def addColumn (query : LatestQuery) (name : String) : LatestQuery × Bool :=
  let (select, added) := query.select.add name
  ({ query with select }, added)

/-- The query about one more station. A station may be given more than once. -/
def addStation (query : LatestQuery) (station : String) : LatestQuery :=
  { query with stations := query.stations ++ [station] }

/-- The query for the newest message of each station. There is no way back. -/
def returnOnlyLatest (query : LatestQuery) : LatestQuery :=
  { query with onlyLatest := true }

def onExtent (update : Update Extent Unit) : Update LatestQuery Unit :=
  update.within extent fun query extent => { query with extent }

theorem state_onExtent (query : LatestQuery) (update : Update Extent Unit) :
    ((onExtent update).perform query).state
      = { query with extent := (update.perform query.extent).state } :=
  Outcome.state_within ..

end LatestQuery

/-- The calls that build a query, each with its arguments as the caller gives them. -/
inductive LatestCall where
  | column (name : String)
  | station (name : String)
  | onlyLatest
  | window (start stop : Calendar.Timestamp)
  | box (xMin yMin xMax yMax : Binary.Double)
  deriving DecidableEq

/-- What a call does. That a column is refused shows in its answer only. -/
def LatestCall.update : LatestCall → Update LatestQuery Unit
  | column name => Update.change fun query => (query.addColumn name).1
  | station name => Update.change fun query => query.addStation name
  | onlyLatest => Update.change fun query => query.returnOnlyLatest
  | window start stop => LatestQuery.onExtent (Extent.setWindow start stop)
  | box xMin yMin xMax yMax => LatestQuery.onExtent (Extent.setBox xMin yMin xMax yMax)

namespace LatestQuery

def perform (query : LatestQuery) (call : LatestCall) : Outcome LatestQuery Unit :=
  call.update.perform query

def step (query : LatestQuery) (call : LatestCall) : LatestQuery :=
  (query.perform call).state

def run (query : LatestQuery) (calls : List LatestCall) : LatestQuery :=
  calls.foldl step query

end LatestQuery

end ObservationSql
