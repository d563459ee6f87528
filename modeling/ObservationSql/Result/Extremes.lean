import ObservationSql.Result.ResultSet

namespace ObservationSql

open Binary

/-- The lesser of two doubles, and the first one where neither is less. -/
def lesser (x y : Double) : Double :=
  if y.lt x then y else x

def greater (x y : Double) : Double :=
  if x.lt y then y else x

/-- The answer for no rows at all: the largest number as the least, the smallest as the greatest. -/
def noExtremes : Double × Double :=
  (.largest, .smallest)

/-- The extremes with one more number taken in. A NaN is passed over. -/
def widenExtremes (extremes : Double × Double) (x : Double) : Double × Double :=
  if x.isNan then extremes else (lesser extremes.1 x, greater extremes.2 x)

def isFloating : Option ValueKind → Bool
  | some (.scalar .float) | some (.scalar .double) => true
  | _ => false

/-- The least and the greatest number of the rows from `start` up to and without `stop`. A column
of any other kind has no numbers. -/
def ResultSet.extremes (set : ResultSet) (index start stop : Nat) : Double × Double :=
  if isFloating (set.kind? index) then
    ((((set.rows index).take stop).drop start).filterMap Value.asDouble?).foldl widenExtremes
      noExtremes
  else noExtremes

end ObservationSql
