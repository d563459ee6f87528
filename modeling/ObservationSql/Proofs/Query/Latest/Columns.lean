import ObservationSql.Proofs.Schema.ColumnFilter
import ObservationSql.Query.Latest.Statement

namespace ObservationSql

open ColumnFilter

def LatestCall.column? : LatestCall → Option String
  | column name => some name
  | _ => none

namespace LatestQuery

theorem step_eq (query : LatestQuery) (call : LatestCall) :
    ∃ stations onlyLatest extent, query.step call =
      { query with
        select := query.select.offer call.column?.toList
        stations, onlyLatest, extent } := by
  cases call with
  | window start stop => exact ⟨_, _, _, query.state_onExtent _⟩
  | box xMin yMin xMax yMax => exact ⟨_, _, _, query.state_onExtent _⟩
  | _ => exact ⟨_, _, _, rfl⟩

theorem run_eq (query : LatestQuery) (calls : List LatestCall) :
    ∃ stations onlyLatest extent, query.run calls =
      { query with
        select := query.select.offer (calls.filterMap LatestCall.column?)
        stations, onlyLatest, extent } := by
  induction calls generalizing query with
  | nil => exact ⟨_, _, _, rfl⟩
  | cons call calls ih =>
      obtain ⟨_, _, _, hstep⟩ := step_eq query call
      obtain ⟨stations, onlyLatest, extent, hrun⟩ := ih (query.step call)
      refine ⟨stations, onlyLatest, extent, hrun.trans ?_⟩
      rw [hstep, List.filterMap_cons]
      cases call.column? <;> rfl

theorem mem_asked_iff {calls : List LatestCall} {name : String} :
    name ∈ calls.filterMap LatestCall.column? ↔ .column name ∈ calls := by
  rw [List.mem_filterMap]
  constructor
  · rintro ⟨call, hcall, hname⟩
    cases call with
    | column other => rwa [← Option.some.inj hname]
    | _ => nomatch hname
  · intro hcall
    exact ⟨_, hcall, rfl⟩

theorem accepted_run_eq (query : LatestQuery) (calls : List LatestCall) :
    (query.run calls).select.accepted = query.select.accepted
      ++ (calls.filterMap LatestCall.column?).filter query.select.admits := by
  obtain ⟨_, _, _, hrun⟩ := run_eq query calls
  rw [hrun, accepted_offer, answered_eq_filter]

theorem accepted_run {table : Table} {caseSensitive : Bool} {initial : LatestQuery}
    (hinitial : LatestQuery.ofTable? (some table) caseSensitive = .ok initial)
    (calls : List LatestCall) :
    (initial.run calls).select.accepted = (calls.filterMap LatestCall.column?).filter
      (ColumnFilter.ofTable? (some table) caseSensitive).value.admits := by
  obtain rfl := Except.ok.inj hinitial
  exact accepted_run_eq _ calls

/-- A filter passes every column of its table, whatever it was asked before, and keeps what it has
passed in order and as it was spelled. Where case tells names apart alike for both, it passes
nothing else, and so a query for messages selects columns of its table only. -/
theorem columns_declared (table : Table) (caseSensitive : Bool) :
    let fresh := (ColumnFilter.ofTable? (some table) caseSensitive).value
    (∀ (earlier : List String) (name : String),
      (fresh.offer earlier).accepted = fresh.answered earlier ∧
      (table.declares name caseSensitive = true → ((fresh.offer earlier).add name).2 = true) ∧
      (Agrees table caseSensitive name →
        ((fresh.offer earlier).add name).2 = table.declares name caseSensitive)) ∧
    ∀ (initial : LatestQuery) (calls : List LatestCall),
      LatestQuery.ofTable? (some table) caseSensitive = .ok initial →
      (∀ name ∈ calls.filterMap LatestCall.column?, Agrees table caseSensitive name) →
      ∀ name ∈ (initial.run calls).select.accepted,
        (initial.run calls).table.declares name caseSensitive = true ∧
        (initial.run calls).table.declares name = true := by
  intro fresh
  refine ⟨fun earlier name => ⟨?_, ?_, ?_⟩, ?_⟩
  · rw [accepted_offer]
    exact List.nil_append _
  · intro hdeclares
    rw [add_snd, admits_offer]
    exact admits_of_declares hdeclares
  · intro hagrees
    rw [add_snd, admits_offer, Bool.eq_iff_iff]
    exact admits_iff_declares hagrees
  · intro initial calls hinitial hagrees name hname
    obtain rfl := Except.ok.inj hinitial
    obtain ⟨_, _, _, hrun⟩ := run_eq { table, select := fresh } calls
    rw [hrun] at hname ⊢
    rw [accepted_offer] at hname
    obtain ⟨hcalled, hadmits⟩ := mem_answered_iff.mp hname
    have hdeclares := (admits_iff_declares (hagrees name hcalled)).mp hadmits
    refine ⟨hdeclares, ?_⟩
    cases caseSensitive with
    | false => exact hdeclares
    | true => exact Table.declares_of_declares_exactly hdeclares

theorem columns_declared_mixed_case :
    let messages : Table :=
      { name := "AVIDB_MESSAGES", fields := [{ name := "STATION_ID" }, { name := "MESSAGE" }] }
    let fresh := (ColumnFilter.ofTable? (some messages) false).value
    let calls : List LatestCall := [.column "Message", .column "nope", .column "station_id"]
    ∃ initial, LatestQuery.ofTable? (some messages) = .ok initial ∧
      (initial.run calls).select.accepted = ["Message", "station_id"] ∧
      ((fresh.offer ["MESSAGE"]).add "message").2 = messages.declares "message" ∧
      (initial.run calls).table.declares "station_id" = true := by
  intro messages fresh calls
  let initial : LatestQuery := { table := messages, select := fresh }
  have hinitial : LatestQuery.ofTable? (some messages) = .ok initial := rfl
  have hfields : ∀ field ∈ messages.fields, Text.isAscii field.name = true := by decide
  have hagrees : ∀ name ∈ calls.filterMap LatestCall.column?, Agrees messages false name := by
    intro name hname
    have hascii : ∀ name ∈ calls.filterMap LatestCall.column?, Text.isAscii name = true := by decide
    exact .inr ⟨hascii name hname, hfields⟩
  have haccepted : (initial.run calls).select.accepted = ["Message", "station_id"] := by
    decide +kernel
  refine ⟨initial, hinitial, haccepted, ?_, ?_⟩
  · exact ((columns_declared messages false).1 ["MESSAGE"] "message").2.2
      (.inr ⟨by decide, hfields⟩)
  · exact ((columns_declared messages false).2 initial calls hinitial hagrees "station_id"
      (by rw [haccepted]; simp)).2

/-- Beyond ASCII a filter takes a name for a column that its table does not declare, and the query
selects it: the capitals of `ß` are two letters. -/
theorem column_undeclared_sharp_s :
    let messages : Table := { name := "AVIDB_MESSAGES", fields := [{ name := "STRASSE" }] }
    let fresh := (ColumnFilter.ofTable? (some messages) false).value
    Table.build messages.name messages.fields = .ok messages ∧
      (fresh.add "straße").2 = true ∧ messages.declares "straße" = false ∧
      ∃ initial, LatestQuery.ofTable? (some messages) = .ok initial ∧
        (initial.run [.column "straße"]).columnsText = "data.straße" := by
  refine ⟨by decide +kernel, by decide +kernel, by decide +kernel, _, rfl, by decide +kernel⟩

end LatestQuery

end ObservationSql
