import ObservationSql.Query.Latest.Basic

/-!
A query for messages as SQL. Which messages count is fixed: they are of two types and valid. The
newest message of each station is the first row of a statement of its own, and these statements are
put together with UNION ALL.
-/

namespace ObservationSql.LatestQuery

open Calendar

def qualifier : String := "data"

def qualified (column : String) : String :=
  qualifier ++ "." ++ column

/-- The types of the messages that count: originals and corrections. -/
def messageTypes : List Nat := [1, 2]

/-- What a message has to be besides being of a type that counts: complete and without an error. -/
def validity : String :=
  qualified "iwxxm_status" ++ " = 1 and " ++ qualified "iwxxm_errcode" ++ " = 0 and "
    ++ qualified "iwxxm_content" ++ " IS NOT NULL"

/-- The newest message first, and a correction before its original. -/
def newestFirst : String := "message_time DESC, message_type DESC"

/-- The oldest message first, and an original before its correction. -/
def oldestFirst : String := "message_time ASC, message_type ASC, station_id ASC"

/-- An instant as a literal. The two instants that stand for "not a time" have none. -/
def timeLiteral (time : Timestamp) (dialect : Sql.Dialect) : Result String := do
  let _ ← formatTime time Sql.timeMask
  return Sql.timestampLiteral time dialect

def columnsText (query : LatestQuery) : String :=
  Text.joinWith ", " (query.select.accepted.map qualified)

def anyOf (conditions : List String) : String :=
  "(" ++ Text.joinWith " or " conditions ++ ")"

/-- The condition that a message is from one of some stations. -/
def stationsText (stations : List String) : String :=
  anyOf (stations.map fun station => qualified "station_id" ++ " = " ++ Sql.quote station)

def messageTypesText : String :=
  anyOf (messageTypes.map fun type => qualified "message_type" ++ " = " ++ Decimal.ofNat type)

/-- All conditions of a statement. They take a window, and the first instant that has no literal is
the fault. -/
def conditions (query : LatestQuery) (stations : List String) (dialect : Sql.Dialect) :
    Result String :=
  match query.extent.window with
  | none => .error (.validation .noTimeRange)
  | some (start, stop) => do
      let start ← timeLiteral start dialect
      let stop ← timeLiteral stop dialect
      return stationsText stations ++ " and " ++ messageTypesText ++ " and " ++ validity ++ " and "
        ++ qualified "message_time" ++ " >= " ++ start ++ " and "
        ++ qualified "message_time" ++ " <= " ++ stop

/-- The statement for the messages of some stations, in no order. -/
def selection (query : LatestQuery) (stations : List String) (dialect : Sql.Dialect) :
    Result String := do
  return "SELECT " ++ query.columnsText ++ " FROM " ++ query.table.name ++ " " ++ qualifier
    ++ " WHERE " ++ (← query.conditions stations dialect)

/-- The first row of an ordered statement. One dialect limits it from outside, since rows are
counted before they are sorted. -/
def firstRow (selection : String) : Sql.Dialect → String
  | .oracle => "(SELECT * FROM (" ++ selection ++ ") WHERE ROWNUM = 1)"
  | .postgresql => "(" ++ selection ++ " LIMIT 1)"

/-- The statement for the newest message of one station. -/
def newestOf (query : LatestQuery) (dialect : Sql.Dialect) (station : String) : Result String := do
  return firstRow ((← query.selection [station] dialect) ++ " ORDER BY " ++ newestFirst) dialect

/-- The statement. It takes a station, a column and a time window. -/
def sql (query : LatestQuery) (dialect : Sql.Dialect) : Result String := do
  if query.stations.isEmpty then throw (.validation .noStations)
  if query.select.accepted.isEmpty then throw (.validation .noSelectNames)
  if query.onlyLatest then
    let newest ← query.stations.mapM (query.newestOf dialect)
    return "SELECT * FROM (" ++ Text.joinWith " UNION ALL " newest
      ++ ") latest ORDER BY STATION_ID ASC"
  else
    return (← query.selection query.stations dialect) ++ " ORDER BY " ++ oldestFirst

end ObservationSql.LatestQuery
