import ObservationSql.Proofs.Binary.Number
import ObservationSql.Query.Extent

namespace ObservationSql

open Calendar Binary

theorem getLast?_filterMap_cons_or {α β : Type} (given : α → Option β) (first : α) (rest : List α)
    (before : Option β) :
    ((first :: rest).filterMap given).getLast?.or before
      = (rest.filterMap given).getLast?.or ((given first).or before) := by
  rw [List.filterMap_cons]
  cases given first with
  | none => rfl
  | some value =>
      rw [List.getLast?_cons]
      cases (rest.filterMap given).getLast? <;> rfl

/-- Two doubles that are numbers, not less than `-bound`, not more than `bound`, and the first not
more than the second. -/
def Spans (bound : Int) (low high : Double) : Prop :=
  ∃ a b, low.number? = some a ∧ high.number? = some b ∧ -(bound : ℚ) ≤ a ∧ a ≤ b ∧ b ≤ bound

theorem withinDegrees_iff {bound : Int} {x : Double}
    (hbound : bound.natAbs < twoTo Format.binary64.precision) :
    withinDegrees bound x = true ↔ ∃ a, x.number? = some a ∧ -(bound : ℚ) ≤ a ∧ a ≤ bound := by
  have hlow : (Double.ofInt (-bound)).number? = some (-(bound : ℚ)) := by
    rw [Double.number?_ofInt (by rwa [Int.natAbs_neg]), Int.cast_neg]
  rw [withinDegrees, Bool.and_eq_true]
  exact Double.between_iff hlow (Double.number?_ofInt hbound)

theorem spans_iff {bound : Int} {low high : Double}
    (hbound : bound.natAbs < twoTo Format.binary64.precision) :
    Spans bound low high ↔ high.lt low = false ∧ withinDegrees bound low = true ∧
      withinDegrees bound high = true := by
  rw [withinDegrees_iff hbound, withinDegrees_iff hbound, Bool.eq_false_iff, ne_eq]
  constructor
  · rintro ⟨a, b, hlow, hhigh, hfirst, hle, hlast⟩
    rw [Double.lt_iff_number hhigh hlow, not_lt]
    exact ⟨hle, ⟨a, hlow, hfirst, hle.trans hlast⟩, b, hhigh, hfirst.trans hle, hlast⟩
  -- A NaN is in no order, so that the two are numbers has to come from the bounds.
  · rintro ⟨horder, ⟨a, hlow, hfirst, -⟩, b, hhigh, -, hlast⟩
    rw [Double.lt_iff_number hhigh hlow, not_lt] at horder
    exact ⟨a, b, hlow, hhigh, hfirst, horder, hlast⟩

/-- A box whose sides are numbers in order, on the globe. -/
structure BoundingBox.Valid (box : BoundingBox) : Prop where
  longitude : Spans 180 box.xMin box.xMax
  latitude : Spans 90 box.yMin box.yMax

theorem BoundingBox.valid_iff {box : BoundingBox} :
    box.Valid ↔ box.xMax.lt box.xMin = false ∧ box.yMax.lt box.yMin = false ∧
      (withinDegrees 180 box.xMin && withinDegrees 180 box.xMax
        && withinDegrees 90 box.yMin && withinDegrees 90 box.yMax) = true := by
  constructor
  · rintro ⟨hlongitude, hlatitude⟩
    obtain ⟨hx, hxMin, hxMax⟩ := (spans_iff (by decide)).mp hlongitude
    obtain ⟨hy, hyMin, hyMax⟩ := (spans_iff (by decide)).mp hlatitude
    rw [hxMin, hxMax, hyMin, hyMax]
    exact ⟨hx, hy, rfl⟩
  · rintro ⟨hx, hy, hbounds⟩
    simp only [Bool.and_eq_true] at hbounds
    obtain ⟨⟨⟨hxMin, hxMax⟩, hyMin⟩, hyMax⟩ := hbounds
    exact ⟨(spans_iff (by decide)).mpr ⟨hx, hxMin, hxMax⟩,
      (spans_iff (by decide)).mpr ⟨hy, hyMin, hyMax⟩⟩

theorem BoundingBox.not_valid_of_isNan {box : BoundingBox}
    (h : (box.xMin.isNan || box.yMin.isNan || box.xMax.isNan || box.yMax.isNan) = true) :
    ¬box.Valid := by
  rintro ⟨⟨_, _, hxMin, hxMax, -⟩, _, _, hyMin, hyMax, -⟩
  rw [Double.isNan_of_number? hxMin, Double.isNan_of_number? hxMax,
    Double.isNan_of_number? hyMin, Double.isNan_of_number? hyMax] at h
  cases h

inductive ExtentCall where
  | window (start stop : Timestamp)
  | box (xMin yMin xMax yMax : Double)
  deriving DecidableEq

namespace ExtentCall

def update : ExtentCall → Update Extent Unit
  | window start stop => Extent.setWindow start stop
  | box xMin yMin xMax yMax => Extent.setBox xMin yMin xMax yMax

/-- A call whose arguments are in order and, for a box, on the globe. -/
def Valid : ExtentCall → Prop
  | window start stop => start ≤ stop
  | box xMin yMin xMax yMax => BoundingBox.Valid ⟨xMin, yMin, xMax, yMax⟩

/-- The window that a call gives, whether it is accepted or not. -/
def window? : ExtentCall → Option (Timestamp × Timestamp)
  | window start stop => some (start, stop)
  | box _ _ _ _ => none

def box? : ExtentCall → Option BoundingBox
  | window _ _ => none
  | box xMin yMin xMax yMax => some ⟨xMin, yMin, xMax, yMax⟩

end ExtentCall

namespace Extent

variable {extent : Extent} {call : ExtentCall}

def perform (extent : Extent) (call : ExtentCall) : Outcome Extent Unit :=
  call.update.perform extent

def step (extent : Extent) (call : ExtentCall) : Extent :=
  (extent.perform call).state

def run (extent : Extent) (calls : List ExtentCall) : Extent :=
  calls.foldl step extent

/-- Those of the calls that are accepted, each where it stands among the others. -/
def accepted : Extent → List ExtentCall → List ExtentCall
  | _, [] => []
  | extent, call :: rest =>
      if (extent.perform call).isOk then call :: accepted (extent.step call) rest
      else accepted (extent.step call) rest

theorem perform_of_valid (h : call.Valid) (extent : Extent) :
    extent.perform call
      = .ok () ⟨⟨call.window?.or extent.window, call.box?.or extent.box⟩, []⟩ := by
  cases call with
  | window start stop =>
      have hle : start ≤ stop := h
      simp [perform, Update.perform, ExtentCall.update, setWindow, hle, ExtentCall.window?,
        ExtentCall.box?]
  | box xMin yMin xMax yMax =>
      obtain ⟨hx, hy, hbounds⟩ := BoundingBox.valid_iff.mp h
      simp [perform, Update.perform, ExtentCall.update, setBox, hx, hy, hbounds,
        ExtentCall.window?, ExtentCall.box?]

theorem perform_of_not_valid (h : ¬call.Valid) (extent : Extent) :
    ∃ cause, extent.perform call = .error (.validation cause) ⟨extent, []⟩ := by
  cases call with
  | window start stop =>
      have hle : ¬start ≤ stop := h
      refine ⟨.invertedTimes start stop, ?_⟩
      simp [perform, Update.perform, ExtentCall.update, setWindow, hle]
  | box xMin yMin xMax yMax =>
      have hvalid := mt BoundingBox.valid_iff.mpr h
      simp only [perform, Update.perform, ExtentCall.update, setBox]
      cases hx : xMax.lt xMin with
      | true => exact ⟨_, rfl⟩
      | false =>
          cases hy : yMax.lt yMin with
          | true => exact ⟨_, rfl⟩
          | false =>
              cases hbounds : (withinDegrees 180 xMin && withinDegrees 180 xMax
                  && withinDegrees 90 yMin && withinDegrees 90 yMax) with
              | true => exact absurd ⟨hx, hy, hbounds⟩ hvalid
              | false => exact ⟨_, rfl⟩

theorem isOk_perform_iff : (extent.perform call).isOk = true ↔ call.Valid := by
  by_cases hvalid : call.Valid
  · rw [perform_of_valid hvalid extent]
    exact iff_of_true rfl hvalid
  · obtain ⟨cause, hrefused⟩ := perform_of_not_valid hvalid extent
    rw [hrefused]
    exact iff_of_false Bool.false_ne_true hvalid

theorem perform_error {fault : Fault} {noted : Noted Extent}
    (h : extent.perform call = .error fault noted) :
    noted = ⟨extent, []⟩ ∧ ∃ cause, fault = .validation cause := by
  by_cases hvalid : call.Valid
  · rw [perform_of_valid hvalid] at h
    cases h
  · obtain ⟨cause, hrefused⟩ := perform_of_not_valid hvalid extent
    rw [hrefused] at h
    cases h
    exact ⟨rfl, cause, rfl⟩

theorem step_of_valid (h : call.Valid) (extent : Extent) :
    extent.step call = ⟨call.window?.or extent.window, call.box?.or extent.box⟩ := by
  rw [step, perform_of_valid h extent]
  rfl

theorem step_of_not_valid (h : ¬call.Valid) (extent : Extent) : extent.step call = extent := by
  obtain ⟨cause, hrefused⟩ := perform_of_not_valid h extent
  rw [step, hrefused]
  rfl

/-- What the calls leave: of each half, what the last accepted call for it gave. -/
theorem run_eq (extent : Extent) (calls : List ExtentCall) :
    extent.run calls =
      ⟨((extent.accepted calls).filterMap ExtentCall.window?).getLast?.or extent.window,
        ((extent.accepted calls).filterMap ExtentCall.box?).getLast?.or extent.box⟩ := by
  induction calls generalizing extent with
  | nil => rfl
  | cons call rest ih =>
      rw [run, List.foldl_cons, ← run, ih, accepted]
      by_cases hvalid : call.Valid
      · rw [if_pos (isOk_perform_iff.mpr hvalid), getLast?_filterMap_cons_or,
          getLast?_filterMap_cons_or, step_of_valid hvalid]
      · rw [if_neg (mt isOk_perform_iff.mp hvalid), step_of_not_valid hvalid]

/-- Each half is absent or valid. -/
structure WellFormed (extent : Extent) : Prop where
  window : ∀ start stop, extent.window = some (start, stop) → start ≤ stop
  box : ∀ box, extent.box = some box → box.Valid

theorem WellFormed.empty : WellFormed {} where
  window := fun _ _ h => nomatch h
  box := fun _ h => nomatch h

theorem WellFormed.step (h : extent.WellFormed) (call : ExtentCall) :
    (extent.step call).WellFormed := by
  by_cases hvalid : call.Valid
  · rw [step_of_valid hvalid]
    cases call with
    | window start stop =>
        refine ⟨?_, h.box⟩
        rintro start stop ⟨⟩
        exact hvalid
    | box xMin yMin xMax yMax =>
        refine ⟨h.window, ?_⟩
        rintro box ⟨⟩
        exact hvalid
  · rwa [step_of_not_valid hvalid]

theorem WellFormed.run (h : extent.WellFormed) (calls : List ExtentCall) :
    (extent.run calls).WellFormed := by
  induction calls generalizing extent with
  | nil => exact h
  | cons call rest ih => exact ih (h.step call)

example :
    let globe : BoundingBox := ⟨.ofInt (-180), .ofInt (-90), .ofInt 180, .ofInt 90⟩
    let nan : Double := ⟨0xFFF8000000000001⟩
    run {} [.box globe.xMin globe.yMin globe.xMax globe.yMax, .box nan nan nan nan,
      .box (.ofInt 0) (.ofInt 0) (.ofInt 0) Double.largest] = ⟨none, some globe⟩ := by
  decide +kernel

end Extent

end ObservationSql
