import ObservationSql.Decimal.Shortest

namespace ObservationSql.Decimal

open ObservationSql.Binary

/-- The whole number nearest to `num / den`, a half going to the even neighbour. -/
def roundHalfEven (num den : Nat) : Nat :=
  let under := num / den
  let twice := 2 * (num % den)
  if twice < den then under
  else if twice > den then under + 1
  else under + under % 2

/-- The numeral of a finite size with `places` digits behind the point. Only zeros stand behind the
last place of the exact value, and they are not computed. -/
def fixedSize (format : Format) (places significand shift : Nat) : List Char :=
  let computed := min places format.unitPower
  withPoint
      (roundHalfEven (significand * twoTo shift * tenTo computed) (twoTo format.unitPower)) computed
    ++ List.replicate (places - computed) '0'

/-- The numeral of a datum with `places` digits behind the point. A negative number keeps its sign
even when it rounds to zero. -/
def fixed (format : Format) (places : Nat) : Datum → String
  | .finite negative significand shift =>
      String.ofList (sign negative ++ fixedSize format places significand shift)
  | datum => shortest format datum

example : fixed .binary64 1 (Double.mk 0x3FD0000000000000).datum = "0.2" := by decide +kernel
example : fixed .binary64 0 (Double.mk 0xBFA999999999999A).datum = "-0" := by decide +kernel

end ObservationSql.Decimal
