namespace ObservationSql.Decimal

/-- The decimal digits of `n`, the highest first; zero has one. -/
def digits (n : Nat) : List Char :=
  Nat.toDigits 10 n

/-- The digits of `n` behind as many zeros as it takes to have `width` of them. -/
def paddedDigits (width n : Nat) : List Char :=
  List.replicate (width - (digits n).length) '0' ++ digits n

def ofNat (n : Nat) : String :=
  String.ofList (digits n)

/-- The decimal numeral of `n` with at least `width` digits. -/
def padded (width n : Nat) : String :=
  String.ofList (paddedDigits width n)

/-- The decimal numeral of an integer, with a minus sign if it is negative. -/
def ofInt (n : Int) : String :=
  if n < 0 then "-" ++ ofNat n.natAbs else ofNat n.natAbs

/-- The numeral of `n / 10 ^ places`, with exactly that many digits behind the point. -/
def withPoint (n places : Nat) : List Char :=
  if places = 0 then digits n
  else
    let all := paddedDigits (places + 1) n
    all.take (all.length - places) ++ '.' :: all.drop (all.length - places)

end ObservationSql.Decimal
