namespace ObservationSql

/-- Powers of two, the base in which numbers are stored. -/
def twoTo (exponent : Nat) : Nat :=
  Nat.pow 2 exponent

/-- Powers of ten, the base in which numbers are written. -/
def tenTo (exponent : Nat) : Nat :=
  Nat.pow 10 exponent

end ObservationSql
