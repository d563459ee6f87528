import ObservationSql.Proofs.Query.Extent
import ObservationSql.Query.Latest.Basic

namespace ObservationSql

open Calendar

/-- What a call on a query asks of its extent. -/
def LatestCall.extent? : LatestCall → Option ExtentCall
  | window start stop => some (.window start stop)
  | box xMin yMin xMax yMax => some (.box xMin yMin xMax yMax)
  | _ => none

theorem LatestQuery.extent_step (query : LatestQuery) (call : LatestCall) :
    (query.step call).extent = call.extent?.elim query.extent query.extent.step := by
  cases call with
  | window start stop => exact congrArg extent (query.state_onExtent _)
  | box xMin yMin xMax yMax => exact congrArg extent (query.state_onExtent _)
  | _ => rfl

def LatestCall.window? : LatestCall → Option (Timestamp × Timestamp)
  | window start stop => if start ≤ stop then some (start, stop) else none
  | _ => none

/-- The window that the last of the calls to set one has set. -/
def LatestCall.lastWindow? (calls : List LatestCall) : Option (Timestamp × Timestamp) :=
  (calls.filterMap LatestCall.window?).getLast?

theorem LatestCall.eq_of_window? {call : LatestCall} {start stop : Timestamp}
    (h : call.window? = some (start, stop)) : call = .window start stop := by
  cases call with
  | window start' stop' =>
      rw [window?] at h
      split at h
      · cases h
        rfl
      · nomatch h
  | _ => nomatch h

theorem LatestCall.mem_of_lastWindow? {calls : List LatestCall} {start stop : Timestamp}
    (h : lastWindow? calls = some (start, stop)) : .window start stop ∈ calls := by
  obtain ⟨call, hcall, hwindow⟩ := List.mem_filterMap.mp (List.mem_of_getLast? h)
  rwa [eq_of_window? hwindow] at hcall

theorem LatestCall.le_of_window? {call : LatestCall} {start stop : Timestamp}
    (h : call.window? = some (start, stop)) : start ≤ stop := by
  cases call with
  | window start' stop' =>
      rw [window?] at h
      split at h
      · next hle =>
        cases h
        exact hle
      · nomatch h
  | _ => nomatch h

theorem LatestCall.le_of_lastWindow? {calls : List LatestCall} {start stop : Timestamp}
    (h : lastWindow? calls = some (start, stop)) : start ≤ stop := by
  obtain ⟨call, -, hwindow⟩ := List.mem_filterMap.mp (List.mem_of_getLast? h)
  exact le_of_window? hwindow

namespace LatestQuery

theorem window_step (query : LatestQuery) (call : LatestCall) :
    (query.step call).extent.window = call.window?.or query.extent.window := by
  rw [extent_step]
  cases call with
  | window start stop =>
      have hvalid : ExtentCall.Valid (.window start stop) ↔ start ≤ stop := Iff.rfl
      rw [LatestCall.extent?, Option.elim_some, LatestCall.window?]
      by_cases hle : start ≤ stop
      · rw [Extent.step_of_valid (hvalid.mpr hle), if_pos hle]
        rfl
      · rw [Extent.step_of_not_valid (mt hvalid.mp hle), if_neg hle]
        rfl
  | box xMin yMin xMax yMax =>
      rw [LatestCall.extent?, Option.elim_some]
      by_cases hvalid : ExtentCall.Valid (.box xMin yMin xMax yMax)
      · rw [Extent.step_of_valid hvalid]
        rfl
      · rw [Extent.step_of_not_valid hvalid]
        rfl
  | _ => rfl

theorem window_run (query : LatestQuery) (calls : List LatestCall) :
    (query.run calls).extent.window
      = (LatestCall.lastWindow? calls).or query.extent.window := by
  induction calls generalizing query with
  | nil => rfl
  | cons call rest ih =>
      rw [run, List.foldl_cons, ← run, ih, window_step, LatestCall.lastWindow?,
        LatestCall.lastWindow?, getLast?_filterMap_cons_or]

end LatestQuery

end ObservationSql
