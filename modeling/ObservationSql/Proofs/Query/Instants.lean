import ObservationSql.Proofs.Query.Join.History
import ObservationSql.Proofs.Query.Latest.Stations
import ObservationSql.Proofs.Query.Latest.Window
import ObservationSql.Proofs.Sql.Mask
import ObservationSql.Query.Statement

namespace ObservationSql

open Calendar Sql Text

/-- Some items whose texts stand in a text one behind the other. -/
inductive InOrder {α : Type} (shown : α → String) : List α → String → Prop where
  | nil (text : String) : InOrder shown [] text
  | cons (before : String) (item : α) {items : List α} {rest : String}
      (h : InOrder shown items rest) : InOrder shown (item :: items) (before ++ shown item ++ rest)

namespace InOrder

variable {α : Type} {shown : α → String} {items items' : List α} {text text' : String}

theorem single (shown : α → String) (item : α) : InOrder shown [item] (shown item) := by
  have h := cons "" item (nil "" : InOrder shown [] "")
  rwa [String.empty_append, String.append_empty] at h

theorem prepend (before : String) (h : InOrder shown items text) :
    InOrder shown items (before ++ text) := by
  cases h with
  | nil text => exact nil _
  | cons between item h =>
      rw [String.append_assoc, ← String.append_assoc, ← String.append_assoc]
      exact cons _ item h

theorem append (h : InOrder shown items text) (h' : InOrder shown items' text') :
    InOrder shown (items ++ items') (text ++ text') := by
  induction h with
  | nil text => exact h'.prepend text
  | cons before item _ ih =>
      rw [String.append_assoc]
      exact cons before item ih

theorem followed (h : InOrder shown items text) (rest : String) :
    InOrder shown items (text ++ rest) := by
  have happend := h.append (nil rest)
  rwa [List.append_nil] at happend

theorem joinWith {β : Type} (separator : String) {pieces : β → List α} {shownPiece : β → String} :
    ∀ {whole : List β}, (∀ piece ∈ whole, InOrder shown (pieces piece) (shownPiece piece)) →
      InOrder shown (whole.flatMap pieces) (Text.joinWith separator (whole.map shownPiece))
  | [], _ => nil ""
  | [piece], h => by
      rw [List.flatMap_singleton]
      exact h piece (List.mem_singleton_self piece)
  | piece :: next :: rest, h => by
      have hrest := joinWith separator fun other hother =>
        h other (List.mem_cons_of_mem piece hother)
      exact ((h piece List.mem_cons_self).followed separator).append hrest

end InOrder

def Value.instants : Value → List Timestamp
  | .scalar .timestamp time => [time]
  | .list .timestamp times => times
  | _ => []

/-- The instants that a predicate compares with. Tests for null ignore their operands; patterns,
ranges and steps are no instants. -/
def Predicate.instants (predicate : Predicate) : List Timestamp :=
  match predicate.operator with
  | .isNull | .isNotNull | .isLike | .isBetween | .minuteStep => []
  | _ => predicate.literal.instants

def PredicateGroup.instants (group : PredicateGroup) : List Timestamp :=
  group.predicates.flatMap fun filed => filed.predicate.instants

/-- The instants of a statement. A query that selects nothing has none. -/
def JoinQuery.instants (query : JoinQuery) : List Timestamp :=
  if query.fields.isEmpty then [] else query.groups.flatMap PredicateGroup.instants

/-- The ends of the window, once for a listing and once for each station otherwise. -/
def LatestQuery.instants (query : LatestQuery) : List Timestamp :=
  let window := query.extent.window.elim [] fun (start, stop) => [start, stop]
  if query.onlyLatest then query.stations.flatMap fun _ => window else window

def Query.instants : Query → List Timestamp
  | .join query => query.instants
  | .latest query => query.instants

def JoinCall.instants : JoinCall → List Timestamp
  | .predicate _ _ _ literal => literal.instants
  | _ => []

def LatestCall.instants : LatestCall → List Timestamp
  | .window start stop => [start, stop]
  | _ => []

/-- The queries that calls build up, and the instants that the calls named. -/
inductive Query.Naming : Query → List Timestamp → Prop where
  | join (primary : Table) (calls : List JoinCall) :
      Naming (.join ((JoinQuery.ofPrimary primary).run calls)) (calls.flatMap JoinCall.instants)
  | latest {table : Option Table} {caseSensitive : Bool} {initial : LatestQuery}
      (hinitial : LatestQuery.ofTable? table caseSensitive = .ok initial)
      (calls : List LatestCall) :
      Naming (.latest (initial.run calls)) (calls.flatMap LatestCall.instants)

section Literals

variable (dialect : Dialect)

theorem inOrder_times (times : List Timestamp) :
    InOrder (timestampLiteral · dialect) times
      (Text.joinWith "," (times.map (timestampLiteral · dialect))) := by
  have htimes := InOrder.joinWith "," fun (time : Timestamp) (_ : time ∈ times) =>
    InOrder.single (timestampLiteral · dialect) time
  rwa [List.flatMap_singleton'] at htimes

theorem inOrder_render (literal : Value) :
    InOrder (timestampLiteral · dialect) literal.instants (render dialect literal) := by
  cases literal with
  | empty => exact .nil _
  | scalar kind item =>
      cases kind with
      | timestamp => exact .single _ item
      | _ => exact .nil _
  | list kind items =>
      cases kind with
      | timestamp => exact ((inOrder_times dialect items).prepend "(").followed ")"
      | _ => exact .nil _

theorem inOrder_toSql (predicate : Predicate) (qualifier : String) :
    InOrder (timestampLiteral · dialect) predicate.instants
      (predicate.toSql qualifier dialect) := by
  have hliteral := inOrder_render dialect predicate.literal
  unfold Predicate.instants Predicate.toSql
  cases predicate.operator with
  | isNull | isNotNull | isLike | isBetween | minuteStep => exact .nil _
  | _ => exact hliteral.prepend _

theorem inOrder_groupText (group : PredicateGroup) :
    InOrder (timestampLiteral · dialect) group.instants (JoinQuery.groupText dialect group) := by
  have hpredicates : InOrder (timestampLiteral · dialect) group.instants
      (Text.joinWith " or " (group.predicates.map (JoinQuery.predicateText dialect))) :=
    .joinWith " or " fun filed _ => inOrder_toSql dialect filed.predicate filed.table
  exact (hpredicates.prepend "(").followed ")"

theorem inOrder_clauseText {items : List Timestamp} {clause : String} (keyword : String)
    (h : InOrder (timestampLiteral · dialect) items clause) :
    InOrder (timestampLiteral · dialect) items (JoinQuery.clauseText keyword clause) := by
  unfold JoinQuery.clauseText
  split
  · next hempty =>
    rw [String.isEmpty_iff.mp hempty] at h
    exact h
  · exact h.prepend keyword

theorem JoinQuery.inOrder_sql (query : JoinQuery) :
    InOrder (timestampLiteral · dialect) query.instants (query.sql dialect) := by
  have hwhere : InOrder (timestampLiteral · dialect) (query.groups.flatMap PredicateGroup.instants)
      (query.whereClause dialect) :=
    .joinWith " and " fun group _ => inOrder_groupText dialect group
  unfold instants sql
  split
  · exact .nil _
  · exact ((inOrder_clauseText dialect " WHERE " hwhere).prepend _).followed _

namespace LatestQuery

theorem inOrder_selectionText (query : LatestQuery) (start stop : Timestamp)
    (stations : List String) :
    InOrder (timestampLiteral · dialect) [start, stop]
      (query.selectionText start stop dialect stations) := by
  have hstart : InOrder (timestampLiteral · dialect) [start] (timestampLiteral start dialect) :=
    .single _ start
  have hstop : InOrder (timestampLiteral · dialect) [stop] (timestampLiteral stop dialect) :=
    .single _ stop
  have hshared := (((hstart.prepend (qualified "message_time" ++ " >= ")).prepend
    (" and " ++ messageTypesText ++ " and " ++ validity ++ " and ")).followed " and ").append
    (hstop.prepend (qualified "message_time" ++ " <= "))
  exact hshared.prepend _

theorem inOrder_firstRow {items : List Timestamp} {selection : String}
    (h : InOrder (timestampLiteral · dialect) items selection) :
    InOrder (timestampLiteral · dialect) items (firstRow selection dialect) := by
  cases dialect with
  | oracle => exact (h.prepend "(SELECT * FROM (").followed ") WHERE ROWNUM = 1)"
  | postgresql => exact (h.prepend "(").followed " LIMIT 1)"

theorem inOrder_sql {query : LatestQuery} {statement : String}
    (h : query.sql dialect = .ok statement) :
    InOrder (timestampLiteral · dialect) query.instants statement ∧
      ∃ start stop, query.extent.window = some (start, stop) ∧
        start.isSentinel = false ∧ stop.isSentinel = false := by
  obtain ⟨hstations, hcolumns, stations, text, htext⟩ := selection_of_sql h
  obtain ⟨start, stop, hwindow, hinstants, hselection⟩ := exists_window htext
  rw [sql_of_selection hselection hstations hcolumns] at h
  obtain rfl := Except.ok.inj h
  refine ⟨?_, start, stop, hwindow, hinstants⟩
  have hselected := query.inOrder_selectionText dialect start stop
  simp only [instants, hwindow, Option.elim_some]
  split
  · have hbranches := InOrder.joinWith " UNION ALL " fun station (_ : station ∈ query.stations) =>
      inOrder_firstRow dialect
        (((hselected [station]).followed " ORDER BY ").followed newestFirst)
    exact (hbranches.prepend "SELECT * FROM (").followed ") latest ORDER BY STATION_ID ASC"
  · exact ((hselected query.stations).followed " ORDER BY ").followed oldestFirst

end LatestQuery

end Literals

theorem Predicate.instants_eq (predicate : Predicate) :
    predicate.instants = [] ∨ predicate.instants = predicate.literal.instants := by
  unfold instants
  cases predicate.operator <;> simp

theorem Predicate.mem_instants {predicate : Predicate} {time : Timestamp}
    (h : time ∈ predicate.instants) : time ∈ predicate.literal.instants := by
  rcases predicate.instants_eq with hnone | hsame
  · rw [hnone] at h
    exact absurd h List.not_mem_nil
  · rwa [hsame] at h

namespace JoinQuery

theorem predicate_called {primary : Table} {calls : List JoinCall} {group : PredicateGroup}
    {filed : FiledPredicate} (hgroup : group ∈ ((ofPrimary primary).run calls).groups)
    (hfiled : filed ∈ group.predicates) :
    ∃ token, .predicate group.name filed.predicate.field token filed.predicate.literal ∈ calls := by
  rw [groups_run, Filing.grouped] at hgroup
  obtain ⟨name, -, rfl⟩ := List.mem_map.mp hgroup
  obtain ⟨filing, hfiling, rfl⟩ := List.mem_map.mp hfiled
  obtain ⟨hfiling, hname⟩ := List.mem_filter.mp hfiling
  obtain ⟨call, hcall, hfiles⟩ := List.mem_filterMap.mp hfiling
  obtain rfl := of_decide_eq_true hname
  cases files_of_filing? hfiles with
  | intro hoperator howner => exact ⟨_, mem_of_mem_admitted hcall⟩

theorem instant_called {primary : Table} {calls : List JoinCall} {time : Timestamp}
    (h : time ∈ ((ofPrimary primary).run calls).instants) :
    time ∈ calls.flatMap JoinCall.instants := by
  unfold instants at h
  split at h
  · exact absurd h List.not_mem_nil
  · obtain ⟨group, hgroup, hgroupTime⟩ := List.mem_flatMap.mp h
    obtain ⟨filed, hfiled, htime⟩ := List.mem_flatMap.mp hgroupTime
    obtain ⟨token, hcall⟩ := predicate_called hgroup hfiled
    exact List.mem_flatMap.mpr ⟨_, hcall, Predicate.mem_instants htime⟩

end JoinQuery

namespace LatestQuery

theorem run_window {query : LatestQuery} {calls : List LatestCall} {start stop : Timestamp}
    (h : (query.run calls).extent.window = some (start, stop)) :
    query.extent.window = some (start, stop) ∨ .window start stop ∈ calls := by
  rw [window_run, Option.or_eq_some_iff] at h
  rcases h with hset | ⟨-, hearlier⟩
  · exact .inr (LatestCall.mem_of_lastWindow? hset)
  · exact .inl hearlier

theorem mem_instants {query : LatestQuery} {start stop time : Timestamp}
    (hwindow : query.extent.window = some (start, stop)) (h : time ∈ query.instants) :
    time = start ∨ time = stop := by
  simp only [instants, hwindow, Option.elim_some] at h
  split at h
  · obtain ⟨_, -, htime⟩ := List.mem_flatMap.mp h
    simpa using htime
  · simpa using h

end LatestQuery

/-- The instants of a statement stand in it in order, each of them named by a call. A literal fits
its mask unless its instant is in a year of more or less than four digits or in a leap second that a
clock shows as second sixty. An instant that stands for "not a time" never comes into a statement
for messages. -/
theorem Query.sql_instants {query : Query} {named : List Timestamp} (h : query.Naming named)
    {dialect : Dialect} {statement : String} (hsql : query.sql dialect = .ok statement) :
    InOrder (timestampLiteral · dialect) query.instants statement ∧
      ∀ time ∈ query.instants,
        time ∈ named ∧
        (literalFits dialect (timestampLiteral time dialect) = true ↔
          0 ≤ time.year ∧ time.year ≤ 9999 ∧ time.shownSecond ≤ 59) ∧
        (time.isSentinel = true → ∃ join, query = .join join) := by
  cases h with
  | join primary calls =>
      obtain rfl := Except.ok.inj hsql
      refine ⟨JoinQuery.inOrder_sql dialect _, fun time htime => ?_⟩
      exact ⟨JoinQuery.instant_called htime, literalFits_iff dialect time, fun _ => ⟨_, rfl⟩⟩
  | latest hinitial calls =>
      obtain ⟨horder, start, stop, hwindow, hstart, hstop⟩ := LatestQuery.inOrder_sql dialect hsql
      refine ⟨horder, fun time htime => ?_⟩
      have hends := LatestQuery.mem_instants hwindow htime
      -- a fresh query has no window, so the one there is was set by a call
      have hcall : .window start stop ∈ calls := by
        rcases LatestQuery.run_window hwindow with hearlier | hcall
        · obtain ⟨known, rfl⟩ := LatestQuery.eq_of_ofTable? hinitial
          cases hearlier
        · exact hcall
      refine ⟨List.mem_flatMap.mpr ⟨_, hcall, ?_⟩, literalFits_iff dialect time, ?_⟩
      · simpa [LatestCall.instants] using hends
      · intro hsentinel
        rcases hends with rfl | rfl
        · rw [hstart] at hsentinel
          cases hsentinel
        · rw [hstop] at hsentinel
          cases hsentinel

/-- A list of instants and a nil test, and a text that looks like an instant. One of the instants is
in a leap second behind the fourth second of its minute, which is shown as the fifth. -/
theorem Query.sql_instants_list :
    let observations : Table :=
      { name := "OBSERVATION_V1", fields := [{ name := "OBS_TIME", kind := .timestamp },
          { name := "REMARK", kind := .string }] }
    let first : Timestamp := ⟨2024, 2, 29, 23, 59, 59, 999999999, by decide, by decide, by decide,
      by decide⟩
    let leap : Timestamp := ⟨2016, 7, 8, 23, 56, 4, 1333333333, by decide, by decide, by decide,
      by decide⟩
    let last : Timestamp := ⟨0, 1, 1, 0, 0, 0, 0, by decide, by decide, by decide, by decide⟩
    let calls : List JoinCall := [.field "OBS_TIME" "",
      .predicate "times" "OBS_TIME" "PropertyIsIn" (.list .timestamp [first, leap]),
      .predicate "remarks" "REMARK" "PropertyIsEqualTo" (.string "2024-02-30T99:00:00"),
      .predicate "times" "OBS_TIME" "PropertyIsNil" (.timestamp last)]
    let query := Query.join ((JoinQuery.ofPrimary observations).run calls)
    ∃ statement, query.sql .postgresql = .ok statement ∧ query.instants = [first, leap, last] ∧
      InOrder (timestampLiteral · .postgresql) [first, leap, last] statement ∧
      ∀ time ∈ [first, leap, last],
        literalFits .postgresql (timestampLiteral time .postgresql) = true := by
  intro observations first leap last calls query
  have hnaming : query.Naming (calls.flatMap JoinCall.instants) := .join observations calls
  have hinstants : query.instants = [first, leap, last] := by decide +kernel
  obtain ⟨horder, htimes⟩ := Query.sql_instants hnaming (rfl : query.sql .postgresql = .ok _)
  rw [hinstants] at horder htimes
  refine ⟨_, rfl, hinstants, horder, fun time htime => ?_⟩
  rw [(htimes time htime).2.1]
  have hregular : ∀ time ∈ [first, leap, last],
      0 ≤ time.year ∧ time.year ≤ 9999 ∧ time.shownSecond ≤ 59 := by decide
  exact hregular time htime

/-- "Not a time" in a comparison, where a query for messages would refuse it, and a leap second in a
window. -/
theorem Query.sql_instants_unreadable :
    let observations : Table :=
      { name := "OBSERVATION_V1", fields := [{ name := "OBS_TIME", kind := .timestamp }] }
    let calls : List JoinCall := [.field "OBS_TIME" "",
      .predicate "time" "OBS_TIME" "PropertyIsEqualTo" (.timestamp .earliest)]
    let query := Query.join ((JoinQuery.ofPrimary observations).run calls)
    let leap : Timestamp := ⟨2016, 12, 31, 23, 59, 59, 1000000000, by decide, by decide, by decide,
      by decide⟩
    let messageCalls : List LatestCall :=
      [.column "OBS_TIME", .station "EFHK", .window leap leap]
    (query.sql .oracle = .ok ("SELECT OBSERVATION_V1.OBS_TIME FROM OBSERVATION_V1 OBSERVATION_V1"
          ++ " WHERE (OBSERVATION_V1.OBS_TIME = "
          ++ "TO_DATE('-262143-01-01 00:00:00','YYYY-MM-DD HH24:MI:SS'))") ∧
        query.instants = [.earliest] ∧ Timestamp.earliest.isSentinel = true ∧
        literalFits .oracle (timestampLiteral .earliest .oracle) = false) ∧
      ∃ initial, LatestQuery.ofTable? (some observations) = .ok initial ∧
        ((initial.run messageCalls).sql .postgresql).isOk = true ∧
        (initial.run messageCalls).instants = [leap, leap] ∧
        timestampLiteral leap .postgresql = "'2016-12-31T23:59:60'" ∧
        literalFits .postgresql (timestampLiteral leap .postgresql) = false := by
  refine ⟨⟨by decide +kernel, by decide +kernel, by decide, by decide +kernel⟩, _, rfl,
    by decide +kernel, by decide +kernel, by decide +kernel, by decide +kernel⟩

end ObservationSql
