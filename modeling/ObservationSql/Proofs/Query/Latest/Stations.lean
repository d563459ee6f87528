import Mathlib.Data.List.Forall2
import ObservationSql.Proofs.Query.Latest.Selection

namespace ObservationSql

open Scanner Sql Text

def LatestCall.station? : LatestCall → Option String
  | station name => some name
  | _ => none

namespace LatestQuery

theorem mem_stations_iff {calls : List LatestCall} {name : String} :
    name ∈ calls.filterMap LatestCall.station? ↔ .station name ∈ calls := by
  rw [List.mem_filterMap]
  constructor
  · rintro ⟨call, hcall, hname⟩
    cases call with
    | station other => rwa [← Option.some.inj hname]
    | _ => nomatch hname
  · intro hcall
    exact ⟨_, hcall, rfl⟩

theorem step_stations (query : LatestQuery) (call : LatestCall) :
    (query.step call).stations = query.stations ++ call.station?.toList := by
  cases call with
  | station name => rfl
  | window start stop =>
      exact (congrArg stations (query.state_onExtent _)).trans (List.append_nil _).symm
  | box xMin yMin xMax yMax =>
      exact (congrArg stations (query.state_onExtent _)).trans (List.append_nil _).symm
  | _ => exact (List.append_nil _).symm

theorem run_stations (query : LatestQuery) (calls : List LatestCall) :
    (query.run calls).stations = query.stations ++ calls.filterMap LatestCall.station? := by
  induction calls generalizing query with
  | nil => exact (List.append_nil _).symm
  | cons call calls ih =>
      have hrest := ih (query.step call)
      rw [step_stations, List.append_assoc] at hrest
      refine hrest.trans ?_
      rw [List.filterMap_cons]
      cases call.station? <;> rfl

theorem eq_of_ofTable? {table : Option Table} {caseSensitive : Bool} {query : LatestQuery}
    (h : ofTable? table caseSensitive = .ok query) :
    ∃ known, query =
      { table := known, select := (ColumnFilter.ofTable? (some known) caseSensitive).value } := by
  cases table with
  | none => exact absurd h (by simp [ofTable?])
  | some known => exact ⟨known, (Except.ok.inj h).symm⟩

theorem stations_of_ofTable? {table : Option Table} {caseSensitive : Bool} {query : LatestQuery}
    (h : ofTable? table caseSensitive = .ok query) : query.stations = [] := by
  obtain ⟨known, rfl⟩ := eq_of_ofTable? h
  rfl

theorem sql_of_no_station {query : LatestQuery} (hstations : query.stations = [])
    (dialect : Dialect) : query.sql dialect = .error (.validation .noStations) := by
  simp [sql, hstations, throw, throwThe, MonadExceptOf.throw, bind, Except.bind]

theorem sql_of_no_column {query : LatestQuery} (hstations : query.stations ≠ [])
    (hcolumns : query.select.accepted = []) (dialect : Dialect) :
    query.sql dialect = .error (.validation .noSelectNames) := by
  simp [sql, hstations, hcolumns, throw, throwThe, MonadExceptOf.throw, bind, Except.bind]

theorem selection_of_sql {query : LatestQuery} {dialect : Dialect} {statement : String}
    (h : query.sql dialect = .ok statement) :
    query.stations ≠ [] ∧ query.select.accepted ≠ [] ∧
      ∃ stations text, query.selection stations dialect = .ok text := by
  by_cases hstations : query.stations = []
  · rw [sql_of_no_station hstations] at h
    cases h
  by_cases hcolumns : query.select.accepted = []
  · rw [sql_of_no_column hstations hcolumns] at h
    cases h
  refine ⟨hstations, hcolumns, ?_⟩
  simp only [sql] at h
  rw [if_neg (by simpa using hstations), if_neg (by simpa using hcolumns)] at h
  split at h
  · cases hlist : query.stations with
    | nil => exact absurd hlist hstations
    | cons station later =>
        rw [hlist, List.mapM_cons] at h
        cases htext : query.selection [station] dialect with
        | error fault => exact absurd h (by simp [newestOf, htext, bind, Except.bind])
        | ok text => exact ⟨[station], text, htext⟩
  · cases htext : query.selection query.stations dialect with
    | error fault => exact absurd h (by simp [htext, bind, Except.bind])
    | ok text => exact ⟨_, text, htext⟩

theorem sql_of_selection {query : LatestQuery} {dialect : Dialect} {selected : List String → String}
    (hselection : ∀ stations, query.selection stations dialect = .ok (selected stations))
    (hstations : query.stations ≠ []) (hcolumns : query.select.accepted ≠ []) :
    query.sql dialect = .ok (if query.onlyLatest then
        "SELECT * FROM (" ++ joinWith " UNION ALL " (query.stations.map fun station =>
            firstRow (selected [station] ++ " ORDER BY " ++ newestFirst) dialect)
          ++ ") latest ORDER BY STATION_ID ASC"
      else selected query.stations ++ " ORDER BY " ++ oldestFirst) := by
  have hnewest : query.newestOf dialect = fun station =>
      pure (firstRow (selected [station] ++ " ORDER BY " ++ newestFirst) dialect) := by
    funext station
    rw [newestOf, hselection]
    rfl
  simp only [sql, hselection, hnewest, List.mapM_pure]
  rw [if_neg (by simpa using hstations), if_neg (by simpa using hcolumns)]
  split <;> rfl

theorem firstRow_eq_parens (selection : String) (dialect : Dialect) :
    ∃ inside, firstRow selection dialect = "(" ++ inside ++ ")" ∧
      (Closed selection → Closed inside) := by
  cases dialect with
  | oracle =>
      refine ⟨"SELECT * FROM " ++ ("(" ++ selection ++ ")") ++ " WHERE ROWNUM = 1", ?_, ?_⟩
      · change "(SELECT * FROM (" ++ selection ++ ") WHERE ROWNUM = 1)" = _
        simp only [String.append_assoc]
        rfl
      · intro h
        exact ((closed_of_isPlain (by decide)).append h.parens).append (closed_of_isPlain (by decide))
  | postgresql =>
      refine ⟨selection ++ " LIMIT 1", ?_, ?_⟩
      · change "(" ++ selection ++ " LIMIT 1)" = _
        simp only [String.append_assoc]
        rfl
      · intro h
        exact h.append (closed_of_isPlain (by decide))

/-- Whether a text is the statement of one station: what the listing of that station alone selects,
the newest message first, cut off behind the first row. -/
def IsNewestOf (query : LatestQuery) (dialect : Dialect) (branch station : String) : Prop :=
  ∃ selection,
    { query with stations := [station], onlyLatest := false }.sql dialect
        = .ok (selection ++ " ORDER BY message_time ASC, message_type ASC, station_id ASC") ∧
      stationIds? selection = some [station] ∧
      branch = match dialect with
        | .oracle => "(SELECT * FROM ("
            ++ (selection ++ " ORDER BY message_time DESC, message_type DESC")
            ++ ") WHERE ROWNUM = 1)"
        | .postgresql => "("
            ++ (selection ++ " ORDER BY message_time DESC, message_type DESC")
            ++ " LIMIT 1)"

theorem Plain.isNewestOf {query : LatestQuery} (hplain : query.Plain)
    (hcolumns : query.select.accepted ≠ []) {start stop : Calendar.Timestamp} {dialect : Dialect}
    (hselection : ∀ stations,
      query.selection stations dialect = .ok (query.selectionText start stop dialect stations))
    (station : String) :
    query.IsNewestOf dialect
      (firstRow (query.selectionText start stop dialect [station] ++ " ORDER BY " ++ newestFirst)
        dialect) station := by
  let alone : LatestQuery := { query with stations := [station], onlyLatest := false }
  have halone : alone.sql dialect
      = .ok (query.selectionText start stop dialect [station] ++ " ORDER BY " ++ oldestFirst) :=
    sql_of_selection hselection (List.cons_ne_nil station []) hcolumns
  have hids := hplain.stationIds?_selectionText start stop dialect [station] ""
  rw [String.append_empty] at hids
  refine ⟨_, ?_, hids, ?_⟩
  · rw [String.append_assoc] at halone
    exact halone
  · rw [String.append_assoc]
    cases dialect with
    | oracle => rfl
    | postgresql => rfl

theorem Plain.split_newest {query : LatestQuery} (hplain : query.Plain)
    (start stop : Calendar.Timestamp) (dialect : Dialect) :
    let branch (station : String) : String :=
      firstRow (query.selectionText start stop dialect [station] ++ " ORDER BY " ++ newestFirst)
        dialect
    split " UNION ALL " (joinWith " UNION ALL " (query.stations.map branch))
      = some (query.stations.map branch) := by
  apply split_joinWith_of_uncut (by decide) (by decide)
  intro piece hpiece
  obtain ⟨station, -, rfl⟩ := List.mem_map.mp hpiece
  have horder : Closed (" ORDER BY " ++ newestFirst) :=
    (closed_of_isPlain (by decide)).append (closed_of_isPlain (by decide +kernel))
  have hordered := (hplain.closed_selectionText start stop dialect [station]).append horder
  rw [← String.append_assoc] at hordered
  obtain ⟨inside, hparens, hclosed⟩ := firstRow_eq_parens _ dialect
  rw [hparens]
  exact ⟨by simp, (hclosed hordered).uncut_parens (by decide) (by decide)⟩

/-- A statement asks for the stations of the calls, each once for every call and in their order,
whatever their names are: a listing in its first group of conditions, and the newest messages in one
statement for each of them. -/
theorem sql_stations {table : Option Table} {caseSensitive : Bool} {initial query : LatestQuery}
    {calls : List LatestCall} (hinitial : ofTable? table caseSensitive = .ok initial)
    (hquery : initial.run calls = query) (htable : isPlain query.table.name = true)
    (hcolumns : ∀ column ∈ query.select.accepted, isPlain column = true)
    {dialect : Dialect} {statement : String} (hsql : query.sql dialect = .ok statement) :
    (query.onlyLatest = true → ∃ inner branches,
        statement = "SELECT * FROM (" ++ inner ++ ") latest ORDER BY STATION_ID ASC" ∧
        split " UNION ALL " inner = some branches ∧
        List.Forall₂ (query.IsNewestOf dialect) branches
          (calls.filterMap LatestCall.station?)) ∧
      (query.onlyLatest = false →
        stationIds? statement = some (calls.filterMap LatestCall.station?)) := by
  have hplain : query.Plain := ⟨htable, hcolumns⟩
  have hcalls : query.stations = calls.filterMap LatestCall.station? := by
    rw [← hquery, run_stations, stations_of_ofTable? hinitial, List.nil_append]
  obtain ⟨hstations, haccepted, stations, text, htext⟩ := selection_of_sql hsql
  obtain ⟨start, stop, hselection⟩ := selection_eq_ok htext
  rw [sql_of_selection hselection hstations haccepted] at hsql
  have hstatement := (Except.ok.inj hsql).symm
  rw [← hcalls]
  refine ⟨fun hlatest => ?_, fun hlisting => ?_⟩
  · rw [if_pos hlatest] at hstatement
    refine ⟨_, _, hstatement, hplain.split_newest start stop dialect, ?_⟩
    rw [List.forall₂_map_left_iff, List.forall₂_same]
    intro station _
    exact hplain.isNewestOf haccepted hselection station
  · rw [if_neg (by simp [hlisting]), String.append_assoc] at hstatement
    rw [hstatement]
    exact hplain.stationIds?_selectionText start stop dialect query.stations _

theorem exists_eq_ok {α : Type} {result : Result α} (h : result.isOk = true) :
    ∃ item, result = .ok item := by
  cases result with
  | ok item => exact ⟨item, rfl⟩
  | error fault => nomatch h

/-- Station names that would end their literals, their groups and their branches if they could. -/
theorem sql_stations_hostile :
    let messages : Table := { name := "MESSAGES", fields := [{ name := "MESSAGE" }] }
    let day : Calendar.Timestamp := ⟨2024, 2, 1, 0, 0, 0, 0, by decide, by decide, by decide,
      by decide⟩
    let stations := ["x') UNION ALL ('", "a' or 'b", "", "x') UNION ALL ('"]
    let calls := .column "MESSAGE" :: .window day day :: stations.map LatestCall.station
    ∃ initial listing newest, ofTable? (some messages) = .ok initial ∧
      isPlain messages.name = true ∧
      (initial.run calls).select.accepted = ["MESSAGE"] ∧ isPlain "MESSAGE" = true ∧
      (initial.run calls).sql .oracle = .ok listing ∧
      (initial.run (calls ++ [.onlyLatest])).sql .postgresql = .ok newest ∧
      stationIds? listing = some stations ∧
      ∃ inner branches, newest = "SELECT * FROM (" ++ inner ++ ") latest ORDER BY STATION_ID ASC" ∧
        split " UNION ALL " inner = some branches ∧ branches.length = 4 := by
  intro messages day stations calls
  let initial : LatestQuery :=
    { table := messages, select := (ColumnFilter.ofTable? (some messages) false).value }
  have hinitial : ofTable? (some messages) = .ok initial := rfl
  have hcolumns : ∀ column ∈ (initial.run calls).select.accepted, isPlain column = true := by
    decide +kernel
  have hcolumns' : ∀ column ∈ (initial.run (calls ++ [.onlyLatest])).select.accepted,
      isPlain column = true := by decide +kernel
  obtain ⟨listing, hlisting⟩ :=
    exists_eq_ok (show ((initial.run calls).sql .oracle).isOk = true by decide +kernel)
  obtain ⟨newest, hnewest⟩ := exists_eq_ok
    (show ((initial.run (calls ++ [.onlyLatest])).sql .postgresql).isOk = true by decide +kernel)
  have hstations := (sql_stations hinitial rfl (by decide +kernel) hcolumns hlisting).2
    (by decide +kernel)
  obtain ⟨inner, branches, hinner, hsplit, hbranches⟩ :=
    (sql_stations hinitial rfl (by decide +kernel) hcolumns' hnewest).1 (by decide +kernel)
  exact ⟨initial, listing, newest, hinitial, by decide, by decide +kernel, by decide, hlisting,
    hnewest, hstations, inner, branches, hinner, hsplit, hbranches.length_eq⟩

end LatestQuery

end ObservationSql
