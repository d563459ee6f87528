import ObservationSql.Binary.Format

namespace ObservationSql.Binary

/-- A floating-point number of thirty-two bits. -/
structure Single where
  bits : UInt32
  deriving DecidableEq, Repr

/-- A floating-point number of sixty-four bits. Two are equal when their bits agree; the comparisons
below are those of numbers. -/
structure Double where
  bits : UInt64
  deriving DecidableEq, Repr

namespace Single

def datum (x : Single) : Datum :=
  Format.binary32.decode x.bits.toNat

/-- Numeric equality: the two zeros are the same, and a NaN is not even the same as itself. -/
def same (x y : Single) : Bool :=
  match x.datum.units? .binary32, y.datum.units? .binary32 with
  | some a, some b => a == b
  | _, _ => false

/-- The double of the same value. Every single has one. -/
def widen (x : Single) : Double :=
  match x.datum with
  | .nan => ⟨Format.binary64.quietNan.toUInt64⟩
  | .infinite negative => ⟨(Format.binary64.infinity negative).toUInt64⟩
  | .finite negative significand shift =>
      let gap := Format.binary64.unitPower - Format.binary32.unitPower
      ⟨(Format.binary64.encode negative (significand * twoTo (shift + gap))).toUInt64⟩

end Single

namespace Double

def datum (x : Double) : Datum :=
  Format.binary64.decode x.bits.toNat

/-- The signed number of units, none for a NaN. -/
def units? (x : Double) : Option Int :=
  x.datum.units? .binary64

def same (x y : Double) : Bool :=
  match x.units?, y.units? with
  | some a, some b => a == b
  | _, _ => false

/-- At most, as numbers; false when either is a NaN. -/
def le (x y : Double) : Bool :=
  match x.units?, y.units? with
  | some a, some b => a ≤ b
  | _, _ => false

def lt (x y : Double) : Bool :=
  match x.units?, y.units? with
  | some a, some b => a < b
  | _, _ => false

def isNan (x : Double) : Bool :=
  x.datum.isNan

/-- The finite double that is `n`, for a whole number of at most fifty-three bits. -/
def ofInt (n : Int) : Double :=
  ⟨(Format.binary64.encode (n < 0) (n.natAbs * twoTo Format.binary64.unitPower)).toUInt64⟩

def largest : Double := ⟨0x7FEFFFFFFFFFFFFF⟩

def smallest : Double := ⟨0xFFEFFFFFFFFFFFFF⟩

end Double

example : (Single.mk 0x3E99999A).widen = ⟨0x3FD3333340000000⟩ := by decide +kernel
example : (Single.mk 0x00000001).widen = ⟨0x36A0000000000000⟩ := by decide +kernel
example : (Single.mk 0xFF800000).widen = ⟨0xFFF0000000000000⟩ := by decide +kernel
example : Double.ofInt (-180) = ⟨0xC066800000000000⟩ := by decide +kernel
example : Double.same ⟨0⟩ ⟨0x8000000000000000⟩ = true := by decide +kernel

end ObservationSql.Binary
