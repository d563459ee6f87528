import ObservationSql.Proofs.Query.Join.Admission
import ObservationSql.Proofs.Query.Latest.Stations
import ObservationSql.Proofs.Query.Latest.Window

namespace ObservationSql

theorem Extent.run_of_step {σ κ : Type} {extent : σ → Extent} {step : σ → κ → σ}
    {extent? : κ → Option ExtentCall}
    (hstep : ∀ state call,
      extent (step state call) = (extent? call).elim (extent state) (extent state).step)
    (state : σ) (calls : List κ) :
    extent (calls.foldl step state) = (extent state).run (calls.filterMap extent?) := by
  induction calls generalizing state with
  | nil => rfl
  | cons call rest ih =>
      rw [List.foldl_cons, ih, hstep, List.filterMap_cons]
      cases extent? call <;> rfl

theorem JoinQuery.extent_run (query : JoinQuery) (calls : List JoinCall) :
    (query.run calls).extent = query.extent.run (calls.filterMap JoinCall.extent?) :=
  Extent.run_of_step extent_step query calls

theorem LatestQuery.extent_run (query : LatestQuery) (calls : List LatestCall) :
    (query.run calls).extent = query.extent.run (calls.filterMap LatestCall.extent?) :=
  Extent.run_of_step extent_step query calls

theorem LatestQuery.extent_of_ofTable? {table : Option Table} {caseSensitive : Bool}
    {query : LatestQuery} (h : ofTable? table caseSensitive = .ok query) : query.extent = {} := by
  obtain ⟨known, rfl⟩ := eq_of_ofTable? h
  rfl

/-- After any calls, refused ones included, both ends of the window are there or neither is, in
order, and a box that is there is valid. Each half is the last one that was accepted. A call is
accepted just when its arguments are valid, so never with a NaN, and a refused one changes nothing.
This is the extent of every query of either kind that has had these calls among others. -/
theorem Extent.run_last_accepted (calls : List ExtentCall) :
    let extent := run {} calls
    (extent.start? = none ∧ extent.stop? = none ∨
        ∃ start stop, extent.start? = some start ∧ extent.stop? = some stop ∧ start ≤ stop) ∧
      (∀ box, extent.box = some box → box.Valid) ∧
      extent.window = ((accepted {} calls).filterMap ExtentCall.window?).getLast? ∧
      extent.box = ((accepted {} calls).filterMap ExtentCall.box?).getLast? ∧
      (∀ call, (extent.perform call).isOk = true ↔ call.Valid) ∧
      (∀ call fault noted, extent.perform call = .error fault noted →
        noted = ⟨extent, []⟩ ∧ ∃ cause, fault = .validation cause) ∧
      (∀ xMin yMin xMax yMax,
        (xMin.isNan || yMin.isNan || xMax.isNan || yMax.isNan) = true →
          (extent.perform (.box xMin yMin xMax yMax)).isOk = false) ∧
      (∀ primary joinCalls, joinCalls.filterMap JoinCall.extent? = calls →
        ((JoinQuery.ofPrimary primary).run joinCalls).extent = extent) ∧
      ∀ table caseSensitive initial latestCalls,
        LatestQuery.ofTable? table caseSensitive = .ok initial →
        latestCalls.filterMap LatestCall.extent? = calls →
          (initial.run latestCalls).extent = extent := by
  intro extent
  have hformed : extent.WellFormed := WellFormed.empty.run calls
  have hrun : extent = _ := run_eq {} calls
  refine ⟨?_, hformed.box, (congrArg Extent.window hrun).trans Option.or_none,
    (congrArg Extent.box hrun).trans Option.or_none, fun call => isOk_perform_iff,
    fun call fault noted => perform_error, ?_, ?_, ?_⟩
  · unfold start? stop?
    cases hwindow : extent.window with
    | none => exact .inl ⟨rfl, rfl⟩
    | some window => exact .inr ⟨_, _, rfl, rfl, hformed.window _ _ hwindow⟩
  · intro xMin yMin xMax yMax hnan
    rw [Bool.eq_false_iff, ne_eq, isOk_perform_iff]
    exact BoundingBox.not_valid_of_isNan hnan
  · rintro primary joinCalls rfl
    exact (JoinQuery.ofPrimary primary).extent_run joinCalls
  · rintro table caseSensitive initial latestCalls hinitial rfl
    rw [initial.extent_run, LatestQuery.extent_of_ofTable? hinitial]

end ObservationSql
