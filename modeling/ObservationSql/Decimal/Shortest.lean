import ObservationSql.Binary.Word
import ObservationSql.Decimal.Digits

/-!
The shortest decimal numeral of a binary floating-point number: the fewest digits that lie nearer to
it than to any other number of its format, and of those the nearest ones, upwards in a tie. It is
found by trying finer and finer decimal grids in exact arithmetic. Numerals are positional at every
size and have no fraction when the number is whole.
-/

namespace ObservationSql.Decimal

open ObservationSql.Binary

/-- The numbers that round to one datum: those between `low` and `high`, `scale` parts to a whole,
ends included when `closed`. -/
structure Basin where
  low : Nat
  value : Nat
  high : Nat
  scale : Nat
  closed : Bool

namespace Basin

/-- The basin of a positive datum, in quarters of a unit. Below a power of two the neighbours lie
half as far apart as above it. -/
def of (format : Format) (significand shift : Nat) : Basin :=
  let gap := twoTo shift
  let value := 4 * significand * gap
  let under := if significand = format.hidden ∧ shift ≠ 0 then gap else 2 * gap
  { low := value - under
    value
    high := value + 2 * gap
    scale := 4 * twoTo format.unitPower
    closed := significand % 2 == 0 }

/-- Whether a decimal lies in the basin. Both are brought to one denominator first, so whole numbers
are compared. -/
def holds (basin : Basin) (count : Nat) (exponent : Int) : Bool :=
  let point := count * tenTo exponent.toNat * basin.scale
  let low := basin.low * tenTo (-exponent).toNat
  let high := basin.high * tenTo (-exponent).toNat
  if basin.closed then low ≤ point && point ≤ high else low < point && point < high

/-- The nearest point in the basin of the grid of multiples of `10 ^ exponent`, as a multiple. -/
def onGrid? (basin : Basin) (exponent : Int) : Option Nat :=
  let value := basin.value * tenTo (-exponent).toNat
  let cell := basin.scale * tenTo exponent.toNat
  let under := value / cell
  match basin.holds under exponent, basin.holds (under + 1) exponent with
  | true, true => some (if 2 * value < (2 * under + 1) * cell then under else under + 1)
  | true, false => some under
  | false, true => some (under + 1)
  | false, false => none

/-- The first grid from `exponent` down that has a point in the basin, with that point. -/
def search (basin : Basin) : Nat → Int → Nat × Int
  | 0, exponent => ((basin.onGrid? exponent).getD 0, exponent)
  | steps + 1, exponent =>
      match basin.onGrid? exponent with
      | some count => (count, exponent)
      | none => basin.search steps (exponent - 1)

/-- The shortest decimal of the basin, as a number of powers of ten. The grid of the last step
has the value itself. -/
def shortest (basin : Basin) (format : Format) : Nat × Int :=
  let whole := (digits (basin.value / basin.scale)).length
  basin.search (whole + format.unitPower) whole

end Basin

/-- The digits of a decimal without an exponent: zeros behind a large one, a point in a small
one. -/
def positional (count : Nat) (exponent : Int) : List Char :=
  if exponent < 0 then withPoint count exponent.natAbs
  else digits count ++ List.replicate exponent.natAbs '0'

def shortestSize (format : Format) (significand shift : Nat) : List Char :=
  if significand = 0 then ['0']
  else
    let found := (Basin.of format significand shift).shortest format
    positional found.1 found.2

def sign (negative : Bool) : List Char :=
  if negative then ['-'] else []

/-- The shortest numeral of a datum. A negative zero keeps its sign. -/
def shortest (format : Format) : Datum → String
  | .nan => "NaN"
  | .infinite negative => String.ofList (sign negative ++ "inf".toList)
  | .finite negative significand shift =>
      String.ofList (sign negative ++ shortestSize format significand shift)

example : shortest .binary64 (Double.mk 0x3FD3333333333334).datum = "0.30000000000000004" := by
  decide +kernel
example : shortest .binary32 (Single.mk 0x7F7FFFFF).datum
    = "340282350000000000000000000000000000000" := by decide +kernel
example : shortest .binary64 (Double.mk 0x8000000000000000).datum = "-0" := by decide +kernel

end ObservationSql.Decimal
