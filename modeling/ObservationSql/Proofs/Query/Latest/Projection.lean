import ObservationSql.Proofs.Query.Latest.Columns
import ObservationSql.Proofs.Query.Latest.Stations

namespace ObservationSql.LatestQuery

open ColumnFilter Sql Text

def endsColumn (c : Char) : Bool :=
  c == ',' || c == ' '

def readColumn : Reader String := do
  Reader.exactly "data."
  let name ← Reader.run fun c => !endsColumn c
  return String.ofList name

/-- The columns up to FROM. There are no more of them than characters are left. -/
def readColumns : Nat → Reader (List String)
  | 0 => Reader.ofOption none
  | steps + 1 => do
      let first ← readColumn
      let mark ← Reader.take 1
      if mark = [','] then
        Reader.exactly " "
        let rest ← readColumns steps
        return first :: rest
      else
        Reader.exactly "FROM "
        return [first]

/-- What stands in front of the columns in the statement of one station. -/
def branchOpening : Dialect → String
  | .oracle => "(SELECT * FROM (SELECT "
  | .postgresql => "(SELECT "

def projection? (dialect : Dialect) (branch : String) : Option (List String) := do
  let (_, input) ← Reader.exactly (branchOpening dialect) branch.toList
  let (columns, _) ← readColumns input.length input
  return columns

/-- Whether a name can be told from what stands around it in a projection. -/
def isBare (name : String) : Bool :=
  name.toList.all fun c => !endsColumn c

theorem reads_column {name : String} (h : isBare name = true) :
    Reads readColumn (qualified name).toList name fun c => !endsColumn c := by
  have hname : (qualified name).toList = "data.".toList ++ name.toList := String.toList_append
  rw [hname]
  refine (Reads.exactly "data.").bind_never ?_
  have hrun := (Reads.run (List.all_eq_true.mp h)).returned (f := String.ofList)
  rw [String.ofList_toList] at hrun
  exact hrun

theorem reads_columns {first : String} {rest : List String}
    (h : ∀ name ∈ first :: rest, isBare name = true) {steps : Nat} (hsteps : rest.length < steps) :
    Reads (readColumns steps)
      (joinWith ", " ((first :: rest).map qualified) ++ " FROM ").toList (first :: rest) never := by
  induction rest generalizing first steps with
  | nil =>
      obtain ⟨steps, rfl⟩ := Nat.exists_eq_succ_of_ne_zero (Nat.ne_of_gt hsteps)
      rw [String.toList_append]
      refine (reads_column (h first (by simp))).bind_of_ne_nil ?_ (by decide) rfl
      refine (Reads.take [' ']).bind_never ?_
      rw [if_neg (by decide)]
      exact (Reads.exactly "FROM ").returned (f := fun _ => [first])
  | cons next rest ih =>
      obtain ⟨steps, rfl⟩ := Nat.exists_eq_succ_of_ne_zero (Nat.ne_of_gt (Nat.zero_lt_of_lt hsteps))
      have hrest := ih (fun name hname => h name (List.mem_cons_of_mem first hname))
        (Nat.lt_of_succ_lt_succ hsteps)
      rw [List.map_cons, List.map_cons, joinWith, ← List.map_cons, String.append_assoc,
        String.append_assoc, String.toList_append, String.toList_append]
      refine (reads_column (h first (by simp))).bind_of_ne_nil ?_ (by simp) rfl
      refine (Reads.take [',']).bind_never ?_
      rw [if_pos rfl]
      exact (Reads.exactly " ").bind_never hrest.returned

theorem projection?_eq {names : List String} (h : ∀ name ∈ names, isBare name = true)
    (hnames : names ≠ []) (dialect : Dialect) (tail : String) :
    projection? dialect (branchOpening dialect
      ++ (joinWith ", " (names.map qualified) ++ " FROM " ++ tail)) = some names := by
  obtain ⟨first, rest, rfl⟩ := List.exists_cons_of_ne_nil hnames
  have hseparator : ", ".toList ≠ [] := by decide
  have hlength := length_le_joinWith hseparator (qualified first) (rest.map qualified)
  have hopening := Reads.exactly (branchOpening dialect)
    (joinWith ", " ((first :: rest).map qualified) ++ " FROM " ++ tail).toList
    (beginsWith_never _)
  rw [projection?, String.toList_append, hopening]
  simp only [Option.bind_eq_bind, Option.bind_some]
  rw [String.toList_append, reads_columns h ?_ tail.toList (beginsWith_never _)]
  · rfl
  · rw [List.length_map] at hlength
    rw [String.toList_append, List.length_append, List.length_append, List.map_cons]
    have hfrom : 0 < " FROM ".toList.length := by decide
    omega

theorem firstRow_eq_opening (selection : String) (dialect : Dialect) :
    ∃ tail, firstRow ("SELECT " ++ selection) dialect
      = branchOpening dialect ++ (selection ++ tail) := by
  cases dialect with
  | oracle =>
      refine ⟨") WHERE ROWNUM = 1)", ?_⟩
      change "(SELECT * FROM (" ++ ("SELECT " ++ selection) ++ ") WHERE ROWNUM = 1)" = _
      rw [← String.append_assoc, ← String.append_assoc]
      rfl
  | postgresql =>
      refine ⟨" LIMIT 1)", ?_⟩
      change "(" ++ ("SELECT " ++ selection) ++ " LIMIT 1)" = _
      rw [← String.append_assoc, ← String.append_assoc]
      rfl

/-- Whether a branch projects a column of this name, up to the case of ASCII letters. -/
def Projects (dialect : Dialect) (branch column : String) : Prop :=
  ∃ projected, projection? dialect branch = some projected ∧
    ∃ name ∈ projected, eqFold name column = true

theorem projects_iff {dialect : Dialect} {branch column : String} {names : List String}
    (h : projection? dialect branch = some names) :
    Projects dialect branch column ↔ ∃ name ∈ names, eqFold name column = true := by
  constructor
  · rintro ⟨projected, hprojected, hcolumn⟩
    rw [h] at hprojected
    obtain rfl := Option.some.inj hprojected
    exact hcolumn
  · intro hcolumn
    exact ⟨names, h, hcolumn⟩

theorem branch_eq (query : LatestQuery) (start stop : Calendar.Timestamp) (dialect : Dialect)
    (station : String) :
    ∃ tail,
      firstRow (query.selectionText start stop dialect [station] ++ " ORDER BY " ++ newestFirst)
        dialect
      = branchOpening dialect
        ++ (joinWith ", " (query.select.accepted.map qualified) ++ " FROM " ++ tail) := by
  simp only [selectionText, headText, columnsText, String.append_assoc]
  obtain ⟨tail, htail⟩ := firstRow_eq_opening _ dialect
  rw [htail]
  simp only [String.append_assoc]
  exact ⟨_, rfl⟩

/-- The newest messages are sorted by STATION_ID whatever is selected. Each of the statements that
are put together, one for each station, projects the names that the filter has let through, in the
order of the calls, and so the column to sort by is among them just when one of these names is its
own. -/
theorem sql_projected {table : Table} {caseSensitive : Bool} {initial query : LatestQuery}
    {calls : List LatestCall} (hinitial : ofTable? (some table) caseSensitive = .ok initial)
    (hquery : initial.run calls = query) (hlatest : query.onlyLatest = true) {dialect : Dialect}
    {statement : String} (hsql : query.sql dialect = .ok statement) :
    let filter := (ColumnFilter.ofTable? (some table) caseSensitive).value
    let columns := (calls.filterMap LatestCall.column?).filter filter.admits
    ∃ branches,
      statement = "SELECT * FROM (" ++ joinWith " UNION ALL " branches
        ++ ") latest ORDER BY STATION_ID ASC" ∧
      branches.length = (calls.filterMap LatestCall.station?).length ∧
      branches ≠ [] ∧ columns ≠ [] ∧
      (∀ branch ∈ branches, ∃ tail, branch = branchOpening dialect
        ++ (joinWith ", " (columns.map fun column => "data." ++ column) ++ " FROM " ++ tail)) ∧
      ((∀ column ∈ columns, isBare column = true) → ∀ branch ∈ branches,
        projection? dialect branch = some columns ∧
        (Projects dialect branch "STATION_ID" ↔
          ∃ name, .column name ∈ calls ∧ filter.admits name = true ∧
            eqFold name "STATION_ID" = true)) := by
  intro filter columns
  -- what is written depends on the calls through the accepted names and the stations only
  have hcalls : query.stations = calls.filterMap LatestCall.station? := by
    rw [← hquery, run_stations, stations_of_ofTable? hinitial, List.nil_append]
  have hcolumns : query.select.accepted = columns := hquery ▸ accepted_run hinitial calls
  obtain ⟨hstations, haccepted, stations, text, htext⟩ := selection_of_sql hsql
  obtain ⟨start, stop, hselection⟩ := selection_eq_ok htext
  rw [sql_of_selection hselection hstations haccepted, if_pos hlatest] at hsql
  have hbranch := query.branch_eq start stop dialect
  rw [hcolumns] at hbranch haccepted
  refine ⟨_, (Except.ok.inj hsql).symm, ?_, ?_, haccepted, ?_, ?_⟩
  · rw [List.length_map, hcalls]
  · simpa using hstations
  · intro branch hmem
    obtain ⟨station, -, rfl⟩ := List.mem_map.mp hmem
    exact hbranch station
  · intro hbare branch hmem
    obtain ⟨station, -, rfl⟩ := List.mem_map.mp hmem
    obtain ⟨tail, htail⟩ := hbranch station
    rw [htail]
    have hprojection := projection?_eq hbare haccepted dialect tail
    refine ⟨hprojection, ?_⟩
    rw [projects_iff hprojection]
    constructor
    · rintro ⟨name, hname, hsame⟩
      obtain ⟨hasked, hadmits⟩ := List.mem_filter.mp hname
      exact ⟨name, mem_asked_iff.mp hasked, hadmits, hsame⟩
    · rintro ⟨name, hasked, hadmits, hsame⟩
      exact ⟨name, List.mem_filter.mpr ⟨mem_asked_iff.mpr hasked, hadmits⟩, hsame⟩

theorem sql_projected_sorted :
    let messages : Table :=
      { name := "AVIDB_MESSAGES", fields := [{ name := "STATION_ID" }, { name := "MESSAGE_TIME" }] }
    let day : Calendar.Timestamp := ⟨2024, 2, 1, 0, 0, 0, 0, by decide, by decide, by decide,
      by decide⟩
    let calls : List LatestCall := [.column "MESSAGE_TIME", .column "MESSAGE",
      .column "station_id", .window day day, .station "EFHK", .station "EFTU", .onlyLatest]
    ∃ initial statement branches, ofTable? (some messages) = .ok initial ∧
      (initial.run calls).onlyLatest = true ∧
      (initial.run calls).sql .oracle = .ok statement ∧
      statement = "SELECT * FROM (" ++ joinWith " UNION ALL " branches
        ++ ") latest ORDER BY STATION_ID ASC" ∧
      branches.length = 2 ∧ ∀ branch ∈ branches,
        projection? .oracle branch = some ["MESSAGE_TIME", "station_id"] ∧
        Projects .oracle branch "STATION_ID" := by
  intro messages day calls
  let initial : LatestQuery :=
    { table := messages, select := (ColumnFilter.ofTable? (some messages) false).value }
  have hinitial : ofTable? (some messages) = .ok initial := rfl
  have hlatest : (initial.run calls).onlyLatest = true := rfl
  obtain ⟨statement, hsql⟩ :=
    exists_eq_ok (show ((initial.run calls).sql .oracle).isOk = true by decide +kernel)
  obtain ⟨branches, hstatement, hlength, -, -, -, hprojected⟩ :=
    sql_projected hinitial rfl hlatest hsql
  have hcolumns : (calls.filterMap LatestCall.column?).filter
      (ColumnFilter.ofTable? (some messages) false).value.admits
        = ["MESSAGE_TIME", "station_id"] := by decide +kernel
  rw [hcolumns] at hprojected
  refine ⟨initial, statement, branches, hinitial, hlatest, hsql, hstatement, hlength, ?_⟩
  intro branch hbranch
  obtain ⟨hprojection, hsorted⟩ := hprojected (by decide) branch hbranch
  refine ⟨hprojection, hsorted.mpr ⟨"station_id", ?_, ?_, ?_⟩⟩
  · decide
  · decide +kernel
  · decide

/-- Nothing makes a query select the column by which its newest messages are sorted, even where the
table has it. -/
theorem sort_column_not_projected :
    let messages : Table := { name := "AVIDB_MESSAGES", fields :=
      [{ name := "STATION_ID" }, { name := "MESSAGE" }, { name := "MESSAGE_TIME" },
        { name := "MESSAGE_TYPE" }] }
    let start : Calendar.Timestamp := ⟨2024, 2, 1, 0, 0, 0, 0, by decide, by decide, by decide,
      by decide⟩
    let stop : Calendar.Timestamp := ⟨2024, 2, 1, 6, 0, 0, 0, by decide, by decide, by decide,
      by decide⟩
    let calls : List LatestCall :=
      [.window start stop, .column "MESSAGE_TIME", .station "EFHK", .onlyLatest]
    let branch := "(SELECT " ++ ("data.MESSAGE_TIME" ++ " FROM " ++ ("AVIDB_MESSAGES data"
      ++ " WHERE (data.station_id = 'EFHK') and (data.message_type = 1 or data.message_type = 2)"
      ++ " and data.iwxxm_status = 1 and data.iwxxm_errcode = 0 and data.iwxxm_content IS NOT NULL"
      ++ " and data.message_time >= '2024-02-01T00:00:00'"
      ++ " and data.message_time <= '2024-02-01T06:00:00'"
      ++ " ORDER BY message_time DESC, message_type DESC LIMIT 1)"))
    Table.build messages.name messages.fields = .ok messages ∧
      ∃ initial, ofTable? (some messages) = .ok initial ∧
        (initial.run calls).onlyLatest = true ∧
        (initial.run calls).sql .postgresql
          = .ok ("SELECT * FROM (" ++ branch ++ ") latest ORDER BY STATION_ID ASC") ∧
        projection? .postgresql branch = some ["MESSAGE_TIME"] ∧
        ¬Projects .postgresql branch "STATION_ID" := by
  intro messages start stop calls branch
  have hbare : ∀ name ∈ ["MESSAGE_TIME"], isBare name = true := by decide
  have hcolumns : joinWith ", " (["MESSAGE_TIME"].map qualified) = "data.MESSAGE_TIME" := by
    decide +kernel
  have hread : ∀ tail, projection? .postgresql
      ("(SELECT " ++ ("data.MESSAGE_TIME" ++ " FROM " ++ tail)) = some ["MESSAGE_TIME"] := by
    intro tail
    have hnames := projection?_eq hbare (by decide) .postgresql tail
    rwa [hcolumns] at hnames
  have hprojection : projection? .postgresql branch = some ["MESSAGE_TIME"] := hread _
  have hsort : ¬∃ name ∈ ["MESSAGE_TIME"], eqFold name "STATION_ID" = true := by decide
  exact ⟨by decide +kernel, _, rfl, by decide +kernel, by decide +kernel, hprojection,
    fun hprojects => hsort ((projects_iff hprojection).mp hprojects)⟩

end ObservationSql.LatestQuery
