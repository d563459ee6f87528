import ObservationSql.Power

/-!
Binary floating-point data of two widths, read from their bits. Every finite datum is a whole number
of *units*, the smallest positive datum of its format, so sizes compare and scale as natural numbers
and nothing here rounds.
-/

namespace ObservationSql.Binary

/-- A binary interchange format: bits of the significand, the hidden one included, and bits of the
exponent field. -/
structure Format where
  precision : Nat
  exponentBits : Nat

namespace Format

/-- Singles: 24 bits of significand, the hidden one among them, and 8 of exponent. -/
def binary32 : Format := ⟨24, 8⟩

/-- Doubles: 53 bits of significand, the hidden one among them, and 11 of exponent. -/
def binary64 : Format := ⟨53, 11⟩

/-- The least significand of a datum with a hidden bit. -/
def hidden (format : Format) : Nat :=
  twoTo (format.precision - 1)

/-- The exponent field of the infinities and the NaNs. -/
def topExponent (format : Format) : Nat :=
  twoTo format.exponentBits - 1

/-- One unit is two to the minus this power. -/
def unitPower (format : Format) : Nat :=
  twoTo (format.exponentBits - 1) + format.precision - 3

/-- More units than any finite datum has. -/
def beyond (format : Format) : Nat :=
  twoTo (format.precision + format.topExponent)

end Format

/-- What the bits of a datum stand for. A finite one is `significand * 2 ^ shift` units. -/
inductive Datum where
  | nan
  | infinite (negative : Bool)
  | finite (negative : Bool) (significand shift : Nat)
  deriving DecidableEq, Repr

/-- The datum that some bits stand for. The topmost exponent is that of the infinities and of what
is not a number; at the lowest one there is no hidden bit. -/
def Format.decode (format : Format) (bits : Nat) : Datum :=
  let fraction := bits % format.hidden
  let exponent := bits / format.hidden % (format.topExponent + 1)
  let negative := bits / (format.hidden * (format.topExponent + 1)) % 2 == 1
  if exponent = format.topExponent then
    if fraction = 0 then .infinite negative else .nan
  else if exponent = 0 then .finite negative fraction 0
  else .finite negative (format.hidden + fraction) (exponent - 1)

/-- The bits of the finite datum of that many units, where there is one. -/
def Format.encode (format : Format) (negative : Bool) (units : Nat) : Nat :=
  let sign := if negative then format.hidden * (format.topExponent + 1) else 0
  if units < format.hidden then sign + units
  else
    let shift := units.log2 + 1 - format.precision
    sign + format.hidden * (shift + 1) + (units / twoTo shift - format.hidden)

/-- The bits of an infinity: the topmost exponent and no fraction. -/
def Format.infinity (format : Format) (negative : Bool) : Nat :=
  format.encode negative 0 + format.hidden * format.topExponent

def Format.quietNan (format : Format) : Nat :=
  format.hidden * format.topExponent + format.hidden / 2

namespace Datum

def isFinite : Datum → Bool
  | finite _ _ _ => true
  | _ => false

def isNan : Datum → Bool
  | nan => true
  | _ => false

/-- A size with a sign. Both zeros come out as the one zero. -/
def signed (negative : Bool) (size : Nat) : Int :=
  if negative then -(size : Int) else size

/-- The signed number of units; infinities lie beyond every finite datum, and a NaN has none. -/
def units? (format : Format) : Datum → Option Int
  | nan => none
  | infinite negative => some (signed negative format.beyond)
  | finite negative significand shift => some (signed negative (significand * twoTo shift))

end Datum

end ObservationSql.Binary
