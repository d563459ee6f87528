import ObservationSql.Update

namespace ObservationSql

open Calendar Binary

structure BoundingBox where
  xMin : Double
  yMin : Double
  xMax : Double
  yMax : Double
  deriving DecidableEq, Repr

def BoundingBox.crs : String := "EPSG:4326"

/-- Whether a coordinate lies between `-bound` and `bound`. A NaN does not. -/
def withinDegrees (bound : Int) (x : Double) : Bool :=
  (Double.ofInt (-bound)).le x && x.le (Double.ofInt bound)

/-- Where and when a query looks. Each half is there or not, and a refused one leaves the other
alone. -/
structure Extent where
  window : Option (Timestamp × Timestamp) := none
  box : Option BoundingBox := none
  deriving DecidableEq

namespace Extent

/-- Sets the window, unless its ends are the wrong way round. A refused window leaves the one
before. -/
def setWindow (start stop : Timestamp) : Update Extent Unit := do
  if ¬start ≤ stop then throw (.validation (.invertedTimes start stop))
  Update.change fun extent => { extent with window := some (start, stop) }

/-- Sets the box. A NaN is in no order, so it fails the test of the bounds. -/
def setBox (xMin yMin xMax yMax : Double) : Update Extent Unit := do
  if xMax.lt xMin then throw (.validation (.invertedX xMin xMax))
  if yMax.lt yMin then throw (.validation (.invertedY yMin yMax))
  if !(withinDegrees 180 xMin && withinDegrees 180 xMax
      && withinDegrees 90 yMin && withinDegrees 90 yMax) then
    throw (.validation (.outsideBounds xMin yMin xMax yMax))
  Update.change fun extent => { extent with box := some ⟨xMin, yMin, xMax, yMax⟩ }

def start? (extent : Extent) : Option Timestamp :=
  extent.window.map (·.1)

def stop? (extent : Extent) : Option Timestamp :=
  extent.window.map (·.2)

def crs? (extent : Extent) : Option String :=
  extent.box.map fun _ => BoundingBox.crs

end Extent

/-- An instant in the one supported format. The two instants that stand for "not a time" have no
text. -/
def formatTime (time : Timestamp) (format : String) : Result String :=
  if format != Sql.timeMask then .error (.validation (.timeFormat format))
  else if time.isSentinel then .error (.validation .notATime)
  else .ok (time.text " ")

end ObservationSql
