import ObservationSql.Result.ResultSet

namespace ObservationSql

/-- The text of a scalar with that many places behind the point of a floating-point number. -/
def scalarText (places : Nat) : (kind : ScalarKind) → kind.Carrier → String
  | .integer _, n => Decimal.ofInt (IntegerKind.Number.value n)
  | .float, x => Decimal.fixed .binary32 places (Binary.Single.datum x)
  | .double, x => Decimal.fixed .binary64 places (Binary.Double.datum x)
  | .string, text => text
  | .timestamp, time => Calendar.Timestamp.text "T" time ++ "Z"

/-- A value as a text, floating-point numbers with a number of places. Nothing at all is the empty
text, and a list has none. -/
def exportText (places : Nat) (value : Value) : Result String :=
  match value with
  | .scalar kind item => .ok (scalarText places kind item)
  | .empty => .ok ""
  | .list _ _ => .error (.unsupportedType value.kind)

/-- The texts of some rows of a column. A value that has none becomes an empty text, and the first
such value comes with a warning; `warned` says whether there was one before these rows. -/
def exportRows (index places : Nat) : Bool → List Value → Noted (List String)
  | _, [] => ⟨[], []⟩
  | warned, value :: rest =>
      match exportText places value with
      | .ok text =>
          let later := exportRows index places warned rest
          { later with value := text :: later.value }
      | .error fault =>
          let later := exportRows index places true rest
          { value := "" :: later.value
            warnings :=
              if warned then later.warnings else .unprintable index fault :: later.warnings }

/-- The texts of a column, with a warning about the first value that has none. -/
def ResultSet.columnTexts (set : ResultSet) (index places : Nat) :
    Result (Noted (List String)) := do
  return exportRows index places false (← set.values index)

end ObservationSql
