import ObservationSql.Proofs.Query.Latest.Columns
import ObservationSql.Proofs.Query.Latest.Stations
import ObservationSql.Proofs.Query.Latest.Window

namespace ObservationSql

open Calendar ColumnFilter Sql

/-- What a statement for messages takes. -/
inductive Requirement where
  | station
  | column
  | window
  | instants
  deriving DecidableEq

namespace Requirement

/-- The requirements in the order in which a query is checked for them. -/
def inOrder : List Requirement :=
  [station, column, window, instants]

theorem mem_inOrder (requirement : Requirement) : requirement ∈ inOrder := by
  cases requirement <;> decide

/-- Why a query that falls short of a requirement is refused. -/
def cause : Requirement → ValidationFault
  | station => .noStations
  | column => .noSelectNames
  | window => .noTimeRange
  | instants => .notATime

/-- Whether the calls on a fresh query meet a requirement: a station was added, a column was added
and let through, a window was set, and neither end of the one that was set last stands for "not a
time". -/
def MetBy (initial : LatestQuery) (calls : List LatestCall) : Requirement → Prop
  | station => ∃ name, .station name ∈ calls
  | column => ∃ earlier name later, calls = earlier ++ .column name :: later ∧
      ((initial.run earlier).addColumn name).2 = true
  | window => ∃ start stop, LatestCall.lastWindow? calls = some (start, stop)
  | instants => ∀ start stop, LatestCall.lastWindow? calls = some (start, stop) →
      start ∉ [Timestamp.earliest, Timestamp.latest] ∧
        stop ∉ [Timestamp.earliest, Timestamp.latest]

end Requirement

namespace LatestQuery

def meets (query : LatestQuery) : Requirement → Bool
  | .station => !query.stations.isEmpty
  | .column => !query.select.accepted.isEmpty
  | .window => query.extent.window.isSome
  | .instants => query.extent.window.all fun (start, stop) => !start.isSentinel && !stop.isSentinel

/-- The first requirement that a query falls short of. -/
def missing? (query : LatestQuery) : Option Requirement :=
  Requirement.inOrder.find? fun requirement => !query.meets requirement

theorem missing?_eq_none_iff {query : LatestQuery} :
    query.missing? = none ↔ ∀ requirement, query.meets requirement = true := by
  rw [missing?, List.find?_eq_none]
  constructor
  · intro h requirement
    simpa using h requirement requirement.mem_inOrder
  · intro h requirement _
    simp [h requirement]

theorem missing?_eq_some_iff {query : LatestQuery} {requirement : Requirement} :
    query.missing? = some requirement ↔ ¬query.meets requirement = true ∧
      ∃ earlier later, Requirement.inOrder = earlier ++ requirement :: later ∧
        ∀ other ∈ earlier, query.meets other = true := by
  simp [missing?, List.find?_eq_some_iff_append]

/-- How the statement of a query comes out, its text apart. -/
def verdict (query : LatestQuery) (dialect : Dialect) : Result Unit :=
  (query.sql dialect).map fun _ => ()

theorem sql_of_refused_selection {query : LatestQuery} {dialect : Dialect} {fault : Fault}
    (hselection : ∀ stations, query.selection stations dialect = .error fault)
    (hstations : query.stations ≠ []) (hcolumns : query.select.accepted ≠ []) :
    query.sql dialect = .error fault := by
  obtain ⟨station, later, hlist⟩ := List.exists_cons_of_ne_nil hstations
  simp only [sql]
  rw [if_neg (by simpa using hstations), if_neg (by simpa using hcolumns), hselection, hlist,
    List.mapM_cons, newestOf, hselection]
  split <;> rfl

theorem missing?_eq (query : LatestQuery) :
    query.missing? =
      if query.stations = [] then some .station
      else if query.select.accepted = [] then some .column
      else match query.extent.window with
        | none => some .window
        | some (start, stop) =>
            if start.isSentinel = true ∨ stop.isSentinel = true then some .instants else none := by
  by_cases hstations : query.stations = []
  · simp [missing?, Requirement.inOrder, meets, hstations]
  by_cases hcolumns : query.select.accepted = []
  · simp [missing?, Requirement.inOrder, meets, hstations, hcolumns]
  cases hwindow : query.extent.window with
  | none => simp [missing?, Requirement.inOrder, meets, hstations, hcolumns, hwindow]
  | some window =>
      obtain ⟨start, stop⟩ := window
      cases hstart : start.isSentinel <;> cases hstop : stop.isSentinel <;>
        simp [missing?, Requirement.inOrder, meets, hstations, hcolumns, hwindow, hstart, hstop]

/-- The first thing that a query lacks decides how its statement comes out. Neither the dialect nor
the mode is among these things. -/
theorem verdict_eq (query : LatestQuery) (dialect : Dialect) :
    query.verdict dialect = match query.missing? with
      | none => .ok ()
      | some requirement => .error (.validation requirement.cause) := by
  rw [missing?_eq, verdict]
  by_cases hstations : query.stations = []
  · rw [if_pos hstations, sql_of_no_station hstations]
    rfl
  by_cases hcolumns : query.select.accepted = []
  · rw [if_neg hstations, if_pos hcolumns, sql_of_no_column hstations hcolumns]
    rfl
  rw [if_neg hstations, if_neg hcolumns]
  cases hwindow : query.extent.window with
  | none =>
      rw [sql_of_refused_selection (selection_of_no_window hwindow dialect) hstations hcolumns]
      rfl
  | some window =>
      obtain ⟨start, stop⟩ := window
      by_cases hsentinel : start.isSentinel = true ∨ stop.isSentinel = true
      · rw [sql_of_refused_selection (selection_of_sentinel hwindow hsentinel dialect) hstations
          hcolumns]
        simp only [if_pos hsentinel]
        rfl
      · obtain ⟨hstart, hstop⟩ : start.isSentinel = false ∧ stop.isSentinel = false := by
          simpa using hsentinel
        rw [sql_of_selection (selection_of_instants hwindow hstart hstop dialect) hstations
          hcolumns]
        simp only [if_neg hsentinel]
        rfl

theorem sql_eq_ok_iff {query : LatestQuery} {dialect : Dialect} :
    (∃ statement, query.sql dialect = .ok statement) ↔
      ∀ requirement, query.meets requirement = true := by
  have hverdict : query.verdict dialect = .ok () ↔ query.missing? = none := by
    rw [verdict_eq]
    cases query.missing? <;> simp
  rw [← missing?_eq_none_iff, ← hverdict, verdict]
  cases query.sql dialect <;> simp [Except.map]

theorem sql_eq_error_iff {query : LatestQuery} {dialect : Dialect} {fault : Fault} :
    query.sql dialect = .error fault ↔
      ∃ requirement, query.missing? = some requirement ∧
        fault = .validation requirement.cause := by
  have hverdict : query.verdict dialect = .error fault ↔
      ∃ requirement, query.missing? = some requirement ∧
        fault = .validation requirement.cause := by
    rw [verdict_eq]
    cases query.missing? <;> simp [eq_comm]
  rw [← hverdict, verdict]
  cases query.sql dialect <;> simp [Except.map]

theorem not_isSentinel_iff {time : Timestamp} :
    time.isSentinel = false ↔ time ∉ [Timestamp.earliest, Timestamp.latest] := by
  simp [Timestamp.isSentinel]

theorem addColumn_run (initial : LatestQuery) (calls : List LatestCall) (name : String) :
    ((initial.run calls).addColumn name).2 = initial.select.admits name := by
  -- The filter never learns from what it was asked.
  obtain ⟨_, _, _, hrun⟩ := run_eq initial calls
  rw [hrun]
  exact (add_snd _ _).trans (admits_offer _ _ _)

theorem column_metBy_iff {initial : LatestQuery} {calls : List LatestCall} :
    Requirement.column.MetBy initial calls ↔
      ∃ name, .column name ∈ calls ∧ initial.select.admits name = true := by
  simp only [Requirement.MetBy, addColumn_run]
  constructor
  · rintro ⟨earlier, name, later, rfl, hadmits⟩
    exact ⟨name, by simp, hadmits⟩
  · rintro ⟨name, hcall, hadmits⟩
    obtain ⟨earlier, later, rfl⟩ := List.append_of_mem hcall
    exact ⟨earlier, name, later, rfl, hadmits⟩

theorem meets_run_iff {table : Option Table} {caseSensitive : Bool} {initial : LatestQuery}
    (hinitial : ofTable? table caseSensitive = .ok initial) (calls : List LatestCall)
    (requirement : Requirement) :
    (initial.run calls).meets requirement = true ↔ requirement.MetBy initial calls := by
  have hfresh : initial.stations = [] ∧ initial.select.accepted = [] ∧
      initial.extent.window = none := by
    obtain ⟨known, rfl⟩ := eq_of_ofTable? hinitial
    exact ⟨rfl, rfl, rfl⟩
  obtain ⟨hstations, haccepted, hwindow⟩ := hfresh
  have hset : (initial.run calls).extent.window = LatestCall.lastWindow? calls := by
    rw [window_run, hwindow, Option.or_none]
  cases requirement with
  | station =>
      rw [meets, run_stations, hstations, List.nil_append, Bool.not_eq_true',
        List.isEmpty_eq_false_iff_exists_mem]
      exact exists_congr fun name => mem_stations_iff
  | column =>
      rw [meets, accepted_run_eq, haccepted, List.nil_append, Bool.not_eq_true',
        List.isEmpty_eq_false_iff_exists_mem, column_metBy_iff]
      exact exists_congr fun name => by rw [List.mem_filter, mem_asked_iff]
  | window =>
      rw [meets, hset, Option.isSome_iff_exists, Prod.exists]
      rfl
  | instants =>
      rw [meets, hset, Option.all_eq_true, Prod.forall]
      simp only [Bool.and_eq_true, Bool.not_eq_true', not_isSentinel_iff]
      rfl

/-- The statement for messages exists exactly if the calls met all requirements, and otherwise it is
refused for the first of them that they did not meet. How it comes out is the same in both dialects,
for a listing and for the newest messages, for any stations as long as there are some, and with or
without a box. -/
theorem sql_requirements {table : Option Table} {caseSensitive : Bool} {initial : LatestQuery}
    (hinitial : ofTable? table caseSensitive = .ok initial) (calls : List LatestCall) :
    let query := initial.run calls
    (∀ dialect, (∃ statement, query.sql dialect = .ok statement) ↔
        ∀ requirement : Requirement, requirement.MetBy initial calls) ∧
      (∀ dialect fault, query.sql dialect = .error fault ↔
        ∃ requirement : Requirement, fault = .validation requirement.cause ∧
          ¬requirement.MetBy initial calls ∧
          ∃ earlier later, Requirement.inOrder = earlier ++ requirement :: later ∧
            ∀ other ∈ earlier, other.MetBy initial calls) ∧
      ∀ dialect dialect' onlyLatest stations box,
        stations.isEmpty = query.stations.isEmpty →
        { query with onlyLatest, stations, extent.box := box }.verdict dialect'
          = query.verdict dialect := by
  intro query
  have hmet : ∀ requirement : Requirement,
      query.meets requirement = true ↔ requirement.MetBy initial calls :=
    meets_run_iff hinitial calls
  refine ⟨fun dialect => ?_, fun dialect fault => ?_, ?_⟩
  · rw [sql_eq_ok_iff]
    exact forall_congr' hmet
  · rw [sql_eq_error_iff]
    refine exists_congr fun requirement => ?_
    rw [missing?_eq_some_iff, hmet, and_comm]
    simp only [hmet]
  · -- of the parts that differ only the stations enter a requirement, by whether there are any
    intro dialect dialect' onlyLatest stations box hstations
    have hmeets : { query with onlyLatest, stations, extent.box := box }.meets = query.meets := by
      funext requirement
      cases requirement with
      | station => exact congrArg (!·) hstations
      | _ => rfl
    rw [verdict_eq, verdict_eq, missing?, missing?, hmeets]

theorem sql_requirements_sentinel :
    let messages : Table := { name := "MESSAGES", fields := [{ name := "MESSAGE" }] }
    let day : Timestamp := ⟨2024, 2, 1, 0, 0, 0, 0, by decide, by decide, by decide, by decide⟩
    let calls : List LatestCall := [.station "EFHK", .column "message", .window day day]
    let later : List LatestCall := [.onlyLatest, .window day .latest, .window day .earliest]
    let box : Option BoundingBox := some ⟨.ofInt 19, .ofInt 59, .ofInt 32, .ofInt 71⟩
    ∃ initial, ofTable? (some messages) = .ok initial ∧
      (∀ dialect, ∃ statement, (initial.run calls).sql dialect = .ok statement) ∧
      (∀ dialect, (initial.run (calls ++ later)).sql dialect = .error (.validation .notATime)) ∧
      { initial.run calls with
          onlyLatest := true, stations := ["EFTU", "EFHK"], extent.box := box }.verdict .oracle
        = (initial.run calls).verdict .postgresql := by
  intro messages day calls later box
  let initial : LatestQuery :=
    { table := messages, select := (ColumnFilter.ofTable? (some messages) false).value }
  have hinitial : ofTable? (some messages) = .ok initial := rfl
  have hday : day ∉ [Timestamp.earliest, Timestamp.latest] := by decide
  have hset : LatestCall.lastWindow? calls = some (day, day) := by decide +kernel
  have hreset : LatestCall.lastWindow? (calls ++ later) = some (day, .latest) := by decide +kernel
  have hadded : ((initial.run [.station "EFHK"]).addColumn "message").2 = true := by decide +kernel
  obtain ⟨hexists, -, hsame⟩ := sql_requirements hinitial calls
  refine ⟨initial, hinitial, fun dialect => ?_, fun dialect => ?_, ?_⟩
  · refine (hexists dialect).mpr fun requirement => ?_
    cases requirement with
    | station => exact ⟨"EFHK", by simp [calls]⟩
    | column => exact ⟨[.station "EFHK"], "message", _, rfl, hadded⟩
    | window => exact ⟨day, day, hset⟩
    | instants =>
        intro start stop hwindow
        rw [hset, Option.some.injEq, Prod.mk.injEq] at hwindow
        rw [← hwindow.1, ← hwindow.2]
        exact ⟨hday, hday⟩
  · refine ((sql_requirements hinitial (calls ++ later)).2.1 dialect _).mpr
      ⟨.instants, rfl, fun hmet => (hmet day .latest hreset).2 (by simp),
        [.station, .column, .window], [], rfl, ?_⟩
    intro other hother
    cases other with
    | station => exact ⟨"EFHK", by simp [calls]⟩
    | column => exact ⟨[.station "EFHK"], "message", _, rfl, hadded⟩
    | window => exact ⟨day, .latest, hreset⟩
    | instants => exact absurd hother (by decide)
  · exact hsame .postgresql .oracle true ["EFTU", "EFHK"] box (by decide +kernel)

end LatestQuery

end ObservationSql
