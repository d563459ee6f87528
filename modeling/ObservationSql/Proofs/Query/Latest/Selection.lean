import ObservationSql.Proofs.Sql.Group
import ObservationSql.Proofs.Sql.Reading
import ObservationSql.Query.Latest.Statement

namespace ObservationSql.LatestQuery

open Scanner Sql Text

def readStation : Reader String := do
  Reader.exactly "data.station_id = "
  readQuoted

/-- The stations that a statement asks for: those of the first group of its text, which has to stand
right behind WHERE. -/
def stationIds? (statement : String) : Option (List String) := do
  let (before, conditions) ← firstGroup? statement
  if " WHERE ".toList.isSuffixOf before.toList then
    (← split " or " conditions).mapM readStation.whole?
  else none

def stationText (station : String) : String :=
  "data.station_id" ++ " = " ++ quote station

theorem stationsText_eq (stations : List String) :
    stationsText stations = "(" ++ joinWith " or " (stations.map stationText) ++ ")" :=
  rfl

theorem stationText_toList (station : String) :
    (stationText station).toList = "data.station_id = ".toList ++ (quote station).toList :=
  String.toList_append

theorem stationText_ne_empty (station : String) : stationText station ≠ "" := by
  intro h
  have hlist := congrArg String.toList h
  rw [stationText_toList] at hlist
  exact absurd hlist (by simp)

theorem passes_stationText (station : String) (depth : Nat) :
    Passes (stationText station) (depth, false) (depth, false) := by
  have hcolumn : Passes "data.station_id" (depth, false) (depth, false) := passes_word rfl depth
  have hequals : Passes " = " (depth, false) (depth, depth == 0) := passes_of_code rfl rfl
  exact (hcolumn.append hequals).append (passes_quote station depth _)

theorem readStation_stationText (station : String) :
    readStation.whole? (stationText station) = some station := by
  have hread : Reads readStation (stationText station).toList station isQuote := by
    rw [stationText_toList]
    exact (Reads.exactly _).bind_never (reads_quoted station)
  exact hread.whole?

theorem readStation_stationTexts (stations : List String) :
    (stations.map stationText).mapM readStation.whole? = some stations := by
  induction stations with
  | nil => rfl
  | cons station stations ih =>
      rw [List.map_cons, List.mapM_cons, readStation_stationText, ih]
      rfl

theorem split_stations (stations : List String) :
    split " or " (joinWith " or " (stations.map stationText)) = some (stations.map stationText) := by
  apply split_joinWith (.inr rfl)
  intro piece hpiece
  obtain ⟨station, -, rfl⟩ := List.mem_map.mp hpiece
  exact ⟨stationText_ne_empty station, passes_stationText station 0⟩

theorem closed_stations (stations : List String) :
    Closed (joinWith " or " (stations.map stationText)) := by
  apply closed_joinWith (closed_of_isPlain (by decide))
  intro piece hpiece
  obtain ⟨station, -, rfl⟩ := List.mem_map.mp hpiece
  exact (passes_stationText station 0).closed

theorem stationIds?_eq {before : String} (hbefore : isPlain before = true)
    (hwhere : " WHERE ".toList.isSuffixOf before.toList = true) (stations : List String)
    (tail : String) : stationIds? (before ++ stationsText stations ++ tail) = some stations := by
  have hgroup := firstGroup?_eq hbefore (closed_stations stations) tail
  rw [stationIds?, stationsText_eq, hgroup]
  simp only [Option.bind_eq_bind, Option.bind_some, if_pos hwhere, split_stations,
    readStation_stationTexts]

theorem timeLiteral_of_isSentinel {time : Calendar.Timestamp} (h : time.isSentinel = true)
    (dialect : Dialect) : timeLiteral time dialect = .error (.validation .notATime) := by
  simp [timeLiteral, formatTime, h, bind, Except.bind]

theorem timeLiteral_of_not_isSentinel {time : Calendar.Timestamp} (h : time.isSentinel = false)
    (dialect : Dialect) : timeLiteral time dialect = .ok (timestampLiteral time dialect) := by
  simp [timeLiteral, formatTime, h, bind, Except.bind, pure, Except.pure]

/-- The conditions that every station has to meet. -/
def sharedText (start stop : Calendar.Timestamp) (dialect : Dialect) : String :=
  " and " ++ messageTypesText ++ " and " ++ validity ++ " and "
    ++ (qualified "message_time" ++ " >= " ++ timestampLiteral start dialect) ++ " and "
    ++ (qualified "message_time" ++ " <= " ++ timestampLiteral stop dialect)

theorem closed_timestampLiteral (time : Calendar.Timestamp) (dialect : Dialect) :
    Closed (timestampLiteral time dialect) :=
  (passes_timestampLiteral time dialect 0 false).closed

theorem closed_sharedText (start stop : Calendar.Timestamp) (dialect : Dialect) :
    Closed (sharedText start stop dialect) := by
  have hand : Closed " and " := closed_of_isPlain (by decide)
  have htypes : Closed messageTypesText := (closed_of_isPlain (by decide +kernel)).parens
  have hvalidity : Closed validity := closed_of_isPlain (by decide +kernel)
  have hstart : Closed (qualified "message_time" ++ " >= " ++ timestampLiteral start dialect) :=
    (closed_of_isPlain (by decide +kernel)).append (closed_timestampLiteral start dialect)
  have hstop : Closed (qualified "message_time" ++ " <= " ++ timestampLiteral stop dialect) :=
    (closed_of_isPlain (by decide +kernel)).append (closed_timestampLiteral stop dialect)
  exact (((((hand.append htypes).append hand).append hvalidity).append hand).append hstart
    |>.append hand).append hstop

def headText (query : LatestQuery) : String :=
  "SELECT " ++ query.columnsText ++ " FROM " ++ query.table.name ++ " " ++ qualifier ++ " WHERE "

/-- What a query needs for its stations to be found again: a table and columns whose names delimit
nothing. -/
def Plain (query : LatestQuery) : Prop :=
  isPlain query.table.name = true ∧ ∀ column ∈ query.select.accepted, isPlain column = true

theorem isPlain_qualified {column : String} (h : isPlain column = true) :
    isPlain (qualified column) = true :=
  isPlain_append (show isPlain "data." = true by decide) h

theorem Plain.headText {query : LatestQuery} (h : query.Plain) :
    isPlain query.headText = true := by
  obtain ⟨htable, hcolumns⟩ := h
  have hselect : isPlain query.columnsText = true := by
    apply isPlain_joinWith (by decide)
    intro piece hpiece
    obtain ⟨column, hcolumn, rfl⟩ := List.mem_map.mp hpiece
    exact isPlain_qualified (hcolumns column hcolumn)
  have hfrom := isPlain_append (isPlain_append (show isPlain "SELECT " = true by decide) hselect)
    (show isPlain " FROM " = true by decide)
  have hname := isPlain_append (isPlain_append hfrom htable) (show isPlain " " = true by decide)
  exact isPlain_append (isPlain_append hname (by decide)) (by decide)

theorem where_isSuffixOf_headText (query : LatestQuery) :
    " WHERE ".toList.isSuffixOf query.headText.toList = true := by
  rw [List.isSuffixOf_iff_suffix, headText, String.toList_append]
  exact List.suffix_append _ _

/-- The text that a query selects by, for some stations and a window. -/
def selectionText (query : LatestQuery) (start stop : Calendar.Timestamp) (dialect : Dialect)
    (stations : List String) : String :=
  query.headText ++ stationsText stations ++ sharedText start stop dialect

section Window

variable {query : LatestQuery} {start stop : Calendar.Timestamp}

theorem selection_of_no_window (hwindow : query.extent.window = none) (dialect : Dialect)
    (stations : List String) :
    query.selection stations dialect = .error (.validation .noTimeRange) := by
  simp [selection, conditions, hwindow, bind, Except.bind]

theorem selection_of_sentinel (hwindow : query.extent.window = some (start, stop))
    (h : start.isSentinel = true ∨ stop.isSentinel = true) (dialect : Dialect)
    (stations : List String) :
    query.selection stations dialect = .error (.validation .notATime) := by
  cases hstart : start.isSentinel with
  | true =>
      simp [selection, conditions, hwindow, timeLiteral_of_isSentinel hstart, bind, Except.bind]
  | false =>
      have hstop : stop.isSentinel = true := by simpa [hstart] using h
      simp [selection, conditions, hwindow, timeLiteral_of_not_isSentinel hstart,
        timeLiteral_of_isSentinel hstop, bind, Except.bind]

theorem selection_of_instants (hwindow : query.extent.window = some (start, stop))
    (hstart : start.isSentinel = false) (hstop : stop.isSentinel = false) (dialect : Dialect)
    (stations : List String) :
    query.selection stations dialect = .ok (query.selectionText start stop dialect stations) := by
  simp only [selection, conditions, hwindow, timeLiteral_of_not_isSentinel hstart,
    timeLiteral_of_not_isSentinel hstop, selectionText, headText, sharedText, String.append_assoc]
  rfl

end Window

theorem exists_window {query : LatestQuery} {dialect : Dialect} {stations : List String}
    {text : String} (h : query.selection stations dialect = .ok text) :
    ∃ start stop, query.extent.window = some (start, stop) ∧
      (start.isSentinel = false ∧ stop.isSentinel = false) ∧ ∀ stations,
        query.selection stations dialect
          = .ok (query.selectionText start stop dialect stations) := by
  cases hwindow : query.extent.window with
  | none =>
      rw [selection_of_no_window hwindow] at h
      cases h
  | some window =>
      obtain ⟨start, stop⟩ := window
      by_cases hsentinel : start.isSentinel = true ∨ stop.isSentinel = true
      · rw [selection_of_sentinel hwindow hsentinel] at h
        cases h
      · have hinstants : start.isSentinel = false ∧ stop.isSentinel = false := by
          simpa using hsentinel
        exact ⟨start, stop, rfl, hinstants,
          selection_of_instants hwindow hinstants.1 hinstants.2 dialect⟩

theorem selection_eq_ok {query : LatestQuery} {dialect : Dialect} {stations : List String}
    {text : String} (h : query.selection stations dialect = .ok text) :
    ∃ start stop, ∀ stations,
      query.selection stations dialect
        = .ok (query.selectionText start stop dialect stations) := by
  obtain ⟨start, stop, -, -, hselection⟩ := exists_window h
  exact ⟨start, stop, hselection⟩

namespace Plain

variable {query : LatestQuery} (h : query.Plain) (start stop : Calendar.Timestamp)
  (dialect : Dialect) (stations : List String)

include h

theorem closed_selectionText : Closed (query.selectionText start stop dialect stations) :=
  ((closed_of_isPlain h.headText).append (closed_stations stations).parens).append
    (closed_sharedText start stop dialect)

theorem stationIds?_selectionText (tail : String) :
    stationIds? (query.selectionText start stop dialect stations ++ tail) = some stations := by
  rw [selectionText, String.append_assoc]
  exact stationIds?_eq h.headText (where_isSuffixOf_headText query) stations _

end Plain

end ObservationSql.LatestQuery
