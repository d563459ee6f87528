import ObservationSql.Proofs.Query.Join.Spelling

namespace ObservationSql

theorem Text.lower_join (texts : List String) :
    lower (String.join texts) = String.join (texts.map lower) := by
  induction texts with
  | nil => rfl
  | cons text rest ih => rw [String.join_cons, lower_append, ih, List.map_cons, String.join_cons]

theorem lookup_map_key {β : Type} (f : String → String) {entries : List (String × β)} {key : String}
    (hkey : ∀ entry ∈ entries, f entry.1 = f key → entry.1 = key) :
    (entries.map fun entry => (f entry.1, entry.2)).lookup (f key) = entries.lookup key := by
  induction entries with
  | nil => rfl
  | cons entry rest ih =>
      have hrest := ih fun other hother => hkey other (List.mem_cons_of_mem _ hother)
      rw [List.map_cons, List.lookup_cons, List.lookup_cons, hrest]
      by_cases hsame : key = entry.1
      · subst hsame
        simp
      · have hdiffer : f key ≠ f entry.1 := by
          intro h
          exact hsame (hkey entry List.mem_cons_self h.symm).symm
        rw [beq_false_of_ne hsame, beq_false_of_ne hdiffer]

namespace Predicate

theorem lower_minuteOfDay {column column' : String} (h : Text.lower column = Text.lower column')
    (dialect : Sql.Dialect) :
    Text.lower (minuteOfDay column dialect) = Text.lower (minuteOfDay column' dialect) := by
  unfold minuteOfDay
  cases dialect <;> simp only [Text.lower_append, h]

theorem lower_toSql (predicate : Predicate) (qualifier : String) (dialect : Sql.Dialect) :
    Text.lower (predicate.lower.toSql qualifier dialect)
      = Text.lower (predicate.toSql qualifier dialect) := by
  obtain ⟨operator, field, literal⟩ := predicate
  have hcolumn : Text.lower (qualifier ++ "." ++ Text.lower field)
      = Text.lower (qualifier ++ "." ++ field) := by
    rw [Text.lower_append, Text.lower_lower, ← Text.lower_append]
  unfold toSql Predicate.lower
  cases operator <;> simp only [Text.lower_append, hcolumn, lower_minuteOfDay hcolumn dialect]

end Predicate

namespace JoinQuery

/-- No two selected columns differ in the case of letters only. -/
theorem WellFormed.eq_of_eqFold {query : JoinQuery} (h : query.WellFormed)
    {left right : SelectedField} (hleft : left ∈ query.fields) (hright : right ∈ query.fields)
    (hsame : Text.eqFold left.field right.field = true) : left = right := by
  by_contra hne
  have : Std.Symm fun left right : SelectedField => Text.eqFold left.field right.field = false :=
    ⟨fun left right hdistinct => (Text.eqFold_comm _ _).trans hdistinct⟩
  have hdistinct := h.fields_distinct.forall hleft hright hne
  rw [hsame] at hdistinct
  cases hdistinct

theorem WellFormed.label?_lower {query : JoinQuery} (h : query.WellFormed)
    {selected : SelectedField} (hselected : selected ∈ query.fields) :
    query.lower.label? (Text.lower selected.field) = query.label? selected.field := by
  refine lookup_map_key Text.lower fun entry hentry hsame => ?_
  obtain ⟨labelled, hlabelled, hspelling⟩ := h.labels_selected entry hentry
  rw [← hspelling] at hsame ⊢
  rw [h.eq_of_eqFold hlabelled hselected (Text.eqFold_iff_lower_eq.mpr hsame)]

theorem WellFormed.lower_columnText {query : JoinQuery} (h : query.WellFormed)
    {selected : SelectedField} (hselected : selected ∈ query.fields) :
    Text.lower (query.lower.columnText selected.lower)
      = Text.lower (query.columnText selected) := by
  have hlabel : query.lower.label? selected.lower.field = query.label? selected.field :=
    h.label?_lower hselected
  have htable : selected.lower.table = selected.table := rfl
  have hfield : Text.lower selected.lower.field = Text.lower selected.field := Text.lower_lower _
  simp only [columnText, hlabel, htable, Text.lower_append, hfield]

theorem WellFormed.lower_selectClause {query : JoinQuery} (h : query.WellFormed) :
    Text.lower query.lower.selectClause = Text.lower query.selectClause := by
  have hcolumns : (query.lower.fields.map query.lower.columnText).map Text.lower
      = (query.fields.map query.columnText).map Text.lower := by
    simp only [JoinQuery.lower, List.map_map]
    exact List.map_congr_left fun selected hselected => h.lower_columnText hselected
  have hempty : query.lower.fields.isEmpty = query.fields.isEmpty := List.isEmpty_map
  have hdistinct : query.lower.isDistinct = query.isDistinct := rfl
  rw [selectClause, selectClause, hempty, hdistinct]
  split
  · rfl
  · rw [Text.lower_append, Text.lower_append, Text.lower_joinWith, Text.lower_joinWith, hcolumns]

theorem lower_conditionsText (join : Join) (word : String) (fields : List String) :
    Text.lower (conditionsText join.lower word (fields.map Text.lower))
      = Text.lower (conditionsText join word fields) := by
  induction fields generalizing word with
  | nil => rfl
  | cons field rest ih =>
      simp only [List.map_cons, conditionsText, Text.lower_append, ih, Text.lower_lower]
      rfl

theorem lower_joinText (join : Join) :
    Text.lower (joinText join.lower) = Text.lower (joinText join) := by
  have hcondition : Text.lower (conditionsText join.lower "ON" join.lower.fields)
      = Text.lower (conditionsText join "ON" join.fields) :=
    lower_conditionsText join "ON" join.fields
  have hkind : join.lower.kind = join.kind := rfl
  have hjoined : join.lower.joined = join.joined := rfl
  rw [joinText, joinText, hkind, hjoined]
  split
  · rw [Text.lower_append, hcondition, ← Text.lower_append]
  · rfl

theorem lower_fromClause (query : JoinQuery) :
    Text.lower query.lower.fromClause = Text.lower query.fromClause := by
  have hjoins : (query.lower.joins.map joinText).map Text.lower
      = (query.joins.map joinText).map Text.lower := by
    simp only [JoinQuery.lower, List.map_map]
    exact List.map_congr_left fun join _ => lower_joinText join
  rw [fromClause, fromClause, Text.lower_append, Text.lower_join, hjoins, ← Text.lower_join,
    primary_lower, ← Text.lower_append]

theorem lower_groupText (dialect : Sql.Dialect) (group : PredicateGroup) :
    Text.lower (groupText dialect group.lower) = Text.lower (groupText dialect group) := by
  have hpredicates : (group.lower.predicates.map (predicateText dialect)).map Text.lower
      = (group.predicates.map (predicateText dialect)).map Text.lower := by
    simp only [PredicateGroup.lower, List.map_map]
    exact List.map_congr_left fun filed _ => filed.predicate.lower_toSql filed.table dialect
  simp only [groupText, Text.lower_append, Text.lower_joinWith, hpredicates]

theorem lower_whereClause (query : JoinQuery) (dialect : Sql.Dialect) :
    Text.lower (query.lower.whereClause dialect) = Text.lower (query.whereClause dialect) := by
  have hgroups : (query.lower.groups.map (groupText dialect)).map Text.lower
      = (query.groups.map (groupText dialect)).map Text.lower := by
    simp only [JoinQuery.lower, List.map_map]
    exact List.map_congr_left fun group _ => lower_groupText dialect group
  rw [whereClause, whereClause, Text.lower_joinWith, Text.lower_joinWith, hgroups]

theorem lower_orderClause (query : JoinQuery) :
    Text.lower query.lower.orderClause = Text.lower query.orderClause := by
  simp [orderClause, Text.lower_joinWith, JoinQuery.lower, Function.comp_def]

theorem lower_clauseText (keyword : String) {clause clause' : String}
    (h : Text.lower clause = Text.lower clause') :
    Text.lower (clauseText keyword clause) = Text.lower (clauseText keyword clause') := by
  have hempty : clause.isEmpty = clause'.isEmpty := by
    rw [Bool.eq_iff_iff, String.isEmpty_iff, String.isEmpty_iff, ← Text.lower_eq_empty_iff, h,
      Text.lower_eq_empty_iff]
  rw [clauseText, clauseText, hempty]
  split
  · rfl
  · rw [Text.lower_append, Text.lower_append, h]

theorem WellFormed.lower_sql {query : JoinQuery} (h : query.WellFormed) (dialect : Sql.Dialect) :
    Text.lower (query.lower.sql dialect) = Text.lower (query.sql dialect) := by
  have hempty : query.lower.fields.isEmpty = query.fields.isEmpty := List.isEmpty_map
  have hwhere := lower_clauseText " WHERE " (lower_whereClause query dialect)
  have horder := lower_clauseText " ORDER BY " (lower_orderClause query)
  rw [sql, sql, hempty]
  split
  · rfl
  · simp only [Text.lower_append, h.lower_selectClause, lower_fromClause, hwhere, horder]

/-- Two runs whose calls differ only in the case of ASCII letters, in the names of columns and
operators and the words for joins and directions: call for call they end alike, and the queries and
their statements differ only in the case of letters too. -/
theorem run_ignores_case (primary : Table) {calls calls' : List JoinCall}
    (h : calls.map JoinCall.lower = calls'.map JoinCall.lower) :
    let query := (ofPrimary primary).run calls
    let query' := (ofPrimary primary).run calls'
    (ofPrimary primary).verdicts calls = (ofPrimary primary).verdicts calls' ∧
      query.tables = query'.tables ∧ query.lower = query'.lower ∧
      ∀ dialect, Text.eqFold (query.sql dialect) (query'.sql dialect) = true := by
  intro query query'
  have hquery : query.WellFormed := (wellFormed_ofPrimary primary).run calls
  have hquery' : query'.WellFormed := (wellFormed_ofPrimary primary).run calls'
  have hlower : query.lower = query'.lower := by
    rw [← run_lower, h, run_lower]
  refine ⟨?_, ?_, hlower, ?_⟩
  · rw [← verdicts_lower, h, verdicts_lower]
  · rw [← tables_lower, hlower, tables_lower]
  · intro dialect
    rw [Text.eqFold_iff_lower_eq, ← hquery.lower_sql, hlower, hquery'.lower_sql]

theorem run_ignores_case_mixed :
    let observations : Table :=
      { name := "OBSERVATION", fields := [{ name := "STATION_ID" }, { name := "VALUE" }] }
    let stations : Table :=
      { name := "STATION", fields := [{ name := "STATION_ID" }, { name := "NAME" }] }
    let calls : List JoinCall := [.join stations ["STATION_ID"] "LEFT OUTER",
      .field "NAME" "label", .field "name" "other",
      .predicate "place" "NAME" "PropertyIsEqualTo" (.string "Oulu"), .order "VALUE" "DESC"]
    let calls' : List JoinCall := [.join stations ["Station_Id"] "Left Outer",
      .field "Name" "label", .field "NAME" "other",
      .predicate "place" "name" "propertyIsEqualTo" (.string "Oulu"), .order "value" "desc"]
    let query := (ofPrimary observations).run calls
    let query' := (ofPrimary observations).run calls'
    query.sql .oracle = "SELECT STATION.NAME as label FROM OBSERVATION OBSERVATION"
        ++ " LEFT OUTER JOIN STATION STATION ON OBSERVATION.STATION_ID = STATION.STATION_ID"
        ++ " WHERE (STATION.NAME = 'Oulu') ORDER BY VALUE DESC" ∧
      Text.eqFold (query.sql .oracle) (query'.sql .oracle) = true ∧
      (ofPrimary observations).verdicts calls' = List.replicate 5 (.ok ()) := by
  intro observations stations calls calls' query query'
  have hcalls : calls.map JoinCall.lower = calls'.map JoinCall.lower := by decide +kernel
  obtain ⟨hverdicts, -, -, hsql⟩ := run_ignores_case observations hcalls
  refine ⟨by decide +kernel, hsql .oracle, ?_⟩
  rw [← hverdicts]
  decide +kernel

end JoinQuery

end ObservationSql
