import ObservationSql.Proofs.Calendar.Order
import ObservationSql.Proofs.Query.Latest.Stations
import ObservationSql.Proofs.Query.Latest.Window
import ObservationSql.Proofs.Sql.Mask

namespace ObservationSql

open Calendar Decimal Sql Text

/-- The digits that show an instant, each part with its number of places. -/
def Calendar.Timestamp.digits (time : Timestamp) : List Char :=
  paddedDigits 4 time.year.natAbs ++ paddedDigits 2 time.month ++ paddedDigits 2 time.day
    ++ paddedDigits 2 time.hour ++ paddedDigits 2 time.minute ++ paddedDigits 2 time.shownSecond

/-- The digits of the instant in a literal. Those of a mask are not among them. -/
def literalDigits (dialect : Dialect) (literal : String) : Option (List Char) := do
  let (_, text) ← (readMasked dialect).whole? literal
  return text.toList.filter Char.isDigit

theorem filter_isDigit_paddedDigits (width n : Nat) :
    (paddedDigits width n).filter Char.isDigit = paddedDigits width n :=
  List.filter_eq_self.mpr isDigit_of_mem_paddedDigits

theorem filter_isDigit_yearText (year : Int) :
    (Timestamp.yearText year).toList.filter Char.isDigit = paddedDigits 4 year.natAbs := by
  have hdigits : (padded 4 year.natAbs).toList.filter Char.isDigit = paddedDigits 4 year.natAbs := by
    rw [padded, String.toList_ofList, filter_isDigit_paddedDigits]
  unfold Timestamp.yearText
  split
  · rw [String.toList_append, List.filter_append, hdigits]
    rfl
  · split
    · exact hdigits
    · rw [String.toList_append, List.filter_append, hdigits]
      rfl

theorem literalDigits_timestampLiteral (dialect : Dialect) (time : Timestamp) :
    literalDigits dialect (timestampLiteral time dialect) = some time.digits := by
  have hseparator : (String.singleton (timeSeparator dialect)).toList.filter Char.isDigit = [] := by
    cases dialect <;> decide
  have hdash : "-".toList.filter Char.isDigit = [] := by decide
  have hcolon : ":".toList.filter Char.isDigit = [] := by decide
  rw [literalDigits, (reads_masked dialect time).whole?]
  simp only [Option.bind_eq_bind, Option.bind_some, Option.pure_def, time.text_toList,
    List.filter_append, filter_isDigit_yearText, filter_isDigit_paddedDigits, hseparator, hdash,
    hcolon, List.nil_append, Timestamp.digits, List.append_assoc]

theorem timestampLiteral_lt_iff {time time' : Timestamp} (h : time.HasPlainYear)
    (h' : time'.HasPlainYear) (dialect : Dialect) :
    timestampLiteral time dialect < timestampLiteral time' dialect ↔ time.ShowsBefore time' := by
  rw [String.lt_iff_toList_lt]
  cases dialect with
  | oracle =>
      simp only [timestampLiteral, String.toList_append, List.append_assoc]
      rw [append_lt_append_iff, Timestamp.text_append_lt_iff h h']
  | postgresql =>
      simp only [timestampLiteral, String.toList_append, List.append_assoc]
      rw [append_lt_append_iff, Timestamp.text_append_lt_iff h h']

theorem timestampLiteral_le_of_le {time time' : Timestamp} (h : time.HasPlainYear)
    (h' : time'.HasPlainYear) (hle : time ≤ time') (dialect : Dialect) :
    timestampLiteral time dialect ≤ timestampLiteral time' dialect := by
  rw [← not_lt, timestampLiteral_lt_iff h' h]
  exact Timestamp.not_showsBefore_of_le hle

theorem timestampLiteral_eq_iff {time time' : Timestamp} (h : time.HasPlainYear)
    (h' : time'.HasPlainYear) (dialect : Dialect) :
    timestampLiteral time dialect = timestampLiteral time' dialect ↔ time.ShowsAs time' := by
  rw [Timestamp.showsAs_iff, ← timestampLiteral_lt_iff h h' dialect,
    ← timestampLiteral_lt_iff h' h dialect, not_lt, not_lt, and_comm]
  exact le_antisymm_iff

namespace LatestQuery

def windowedText (query : LatestQuery) (lower upper : String) (stations : List String) : String :=
  query.headText ++ stationsText stations ++ " and " ++ messageTypesText ++ " and " ++ validity
    ++ " and data.message_time >= " ++ lower ++ " and data.message_time <= " ++ upper

/-- The statement of a query with a window between two literals. -/
def windowedStatement (query : LatestQuery) (lower upper : String) (dialect : Dialect) : String :=
  if query.onlyLatest then
    "SELECT * FROM (" ++ joinWith " UNION ALL " (query.stations.map fun station =>
        firstRow (query.windowedText lower upper [station]
          ++ " ORDER BY message_time DESC, message_type DESC") dialect)
      ++ ") latest ORDER BY STATION_ID ASC"
  else query.windowedText lower upper query.stations
    ++ " ORDER BY message_time ASC, message_type ASC, station_id ASC"

theorem selectionText_eq_windowedText (query : LatestQuery) (start stop : Timestamp)
    (dialect : Dialect) :
    query.selectionText start stop dialect
      = query.windowedText (timestampLiteral start dialect) (timestampLiteral stop dialect) := by
  funext stations
  have hand : " and data.message_time >= " = " and " ++ (qualified "message_time" ++ " >= ") := rfl
  have hand' : " and data.message_time <= " = " and " ++ (qualified "message_time" ++ " <= ") := rfl
  rw [selectionText, sharedText, windowedText, hand, hand']
  simp only [String.append_assoc]

theorem sql_eq_windowedStatement {query : LatestQuery} {start stop : Timestamp} {dialect : Dialect}
    {statement : String} (hwindow : query.extent.window = some (start, stop))
    (hsql : query.sql dialect = .ok statement) :
    statement = query.windowedStatement (timestampLiteral start dialect)
      (timestampLiteral stop dialect) dialect := by
  obtain ⟨hstations, hcolumns, stations, text, htext⟩ := selection_of_sql hsql
  obtain ⟨start', stop', hwindow', -, hselection⟩ := exists_window htext
  rw [hwindow, Option.some.injEq, Prod.mk.injEq] at hwindow'
  obtain ⟨rfl, rfl⟩ := hwindow'
  rw [sql_of_selection hselection hstations hcolumns, selectionText_eq_windowedText] at hsql
  rw [← Except.ok.inj hsql, windowedStatement]
  simp only [String.append_assoc]
  rfl

end LatestQuery

end ObservationSql
