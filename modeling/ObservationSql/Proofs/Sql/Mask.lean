import ObservationSql.Proofs.Sql.Reading

namespace ObservationSql.Sql

open Text Decimal Calendar

/-- A part of a mask: a number of so many digits between two bounds, or a character as it is. -/
inductive MaskPart where
  | number (width low high : Nat)
  | mark (c : Char)
  deriving DecidableEq

/-- The parts of a mask. What does not stand for a number stands for itself. -/
def maskParts : List Char → List MaskPart
  | [] => []
  | 'Y' :: 'Y' :: 'Y' :: 'Y' :: rest => .number 4 0 9999 :: maskParts rest
  | 'M' :: 'M' :: rest => .number 2 1 12 :: maskParts rest
  | 'D' :: 'D' :: rest => .number 2 1 31 :: maskParts rest
  | 'H' :: 'H' :: '2' :: '4' :: rest => .number 2 0 23 :: maskParts rest
  | 'M' :: 'I' :: rest => .number 2 0 59 :: maskParts rest
  | 'S' :: 'S' :: rest => .number 2 0 59 :: maskParts rest
  | c :: rest => .mark c :: maskParts rest

/-- Whether a text has the shape that the parts of a mask ask for. -/
def fits : List MaskPart → List Char → Bool
  | [], text => text.isEmpty
  | .number width low high :: parts, text =>
      let found := text.take width
      found.length == width && found.all Char.isDigit && low ≤ value found && value found ≤ high
        && fits parts (text.drop width)
  | .mark c :: parts, text => text.head? == some c && fits parts text.tail

theorem fits_number {width n : Nat} (hwidth : 0 < width) (hn : n < 10 ^ width) (low high : Nat)
    (parts : List MaskPart) (text : List Char) :
    fits (.number width low high :: parts) (paddedDigits width n ++ text)
      = (decide (low ≤ n) && decide (n ≤ high) && fits parts text) := by
  have hlength := length_paddedDigits hwidth hn
  have hall : (paddedDigits width n).all Char.isDigit = true :=
    List.all_eq_true.mpr isDigit_of_mem_paddedDigits
  rw [fits, List.take_left' hlength, List.drop_left' hlength]
  simp [hlength, hall]

theorem fits_mark (c : Char) (parts : List MaskPart) (text : List Char) :
    fits (.mark c :: parts) ([c] ++ text) = fits parts text := by
  simp [fits]

theorem fits_number_sign {c : Char} (hc : c.isDigit = false) (width low high : Nat)
    (parts : List MaskPart) (text : List Char) :
    fits (.number (width + 1) low high :: parts) (c :: text) = false := by
  simp [fits, hc]

/-- What both masks ask for, but for the character between the date and the time of day. -/
def timeParts (separator : Char) : List MaskPart :=
  [.number 4 0 9999, .mark '-', .number 2 1 12, .mark '-', .number 2 1 31, .mark separator,
    .number 2 0 23, .mark ':', .number 2 0 59, .mark ':', .number 2 0 59]

theorem fits_behind_year (separator : Char) (time : Timestamp) :
    fits (timeParts separator).tail
      ("-".toList ++ (paddedDigits 2 time.month ++ ("-".toList ++ (paddedDigits 2 time.day
      ++ ([separator] ++ (paddedDigits 2 time.hour ++ (":".toList ++ (paddedDigits 2 time.minute
      ++ (":".toList ++ paddedDigits 2 time.shownSecond)))))))))
      = decide (time.shownSecond ≤ 59) := by
  obtain ⟨hhour, hminute, -⟩ := time.clock_mem
  have hmonth := time.month_le
  have hday := time.day_le
  have hsecond := time.shownSecond_le
  have hlast := fits_number (by decide : 0 < 2) (by omega : time.shownSecond < 10 ^ 2) 0 59 [] []
  rw [List.append_nil] at hlast
  have hdash : "-".toList = ['-'] := rfl
  have hcolon : ":".toList = [':'] := rfl
  rw [timeParts, List.tail_cons, hdash, hcolon, fits_mark, fits_number (by decide) (by omega),
    fits_mark, fits_number (by decide) (by omega), fits_mark, fits_number (by decide) (by omega),
    fits_mark, fits_number (by decide) (by omega), fits_mark, hlast]
  simp [fits, hmonth, hday, time.one_le_month, time.day_mem.1, Nat.le_of_lt_succ hhour,
    Nat.le_of_lt_succ hminute]

theorem fits_year (year : Int) (parts : List MaskPart) (text : List Char) :
    fits (.number 4 0 9999 :: parts) ((Timestamp.yearText year).toList ++ text)
      = (decide (0 ≤ year ∧ year ≤ 9999) && fits parts text) := by
  unfold Timestamp.yearText
  split
  -- A year of more or less than four digits has a sign, and a sign is no digit.
  · next hnegative =>
    have hout : ¬(0 ≤ year ∧ year ≤ 9999) := by omega
    rw [String.toList_append, List.append_assoc, decide_eq_false hout, Bool.false_and]
    exact fits_number_sign (by decide) 3 0 9999 parts _
  · split
    · next hnonnegative hsmall =>
      have hin : 0 ≤ year ∧ year ≤ 9999 := by omega
      have hdigits : year.natAbs < 10 ^ 4 := by omega
      have hbound : year.natAbs ≤ 9999 := by omega
      rw [padded, String.toList_ofList, fits_number (by decide) hdigits, decide_eq_true hin,
        decide_eq_true hbound]
      simp
    · next hlarge =>
      have hout : ¬(0 ≤ year ∧ year ≤ 9999) := by omega
      rw [String.toList_append, List.append_assoc, decide_eq_false hout, Bool.false_and]
      exact fits_number_sign (by decide) 3 0 9999 parts _

theorem fits_text_iff (separator : Char) (time : Timestamp) :
    fits (timeParts separator) (time.text (String.singleton separator)).toList = true ↔
      0 ≤ time.year ∧ time.year ≤ 9999 ∧ time.shownSecond ≤ 59 := by
  have hseparator : (String.singleton separator).toList = [separator] := by simp
  have hparts : timeParts separator = .number 4 0 9999 :: (timeParts separator).tail := rfl
  rw [time.text_toList, hseparator, hparts, fits_year, fits_behind_year]
  simp [and_assoc]

/-- The mask of the literals of a dialect. PostgreSQL reads a `T` where Oracle reads a blank. -/
def literalMask : Dialect → String
  | .oracle => timeMask
  | .postgresql => "YYYY-MM-DDTHH24:MI:SS"

/-- The mask by which the literal of an instant is to be read, and its text. For Oracle the literal
has its mask with it. -/
def readMasked : Dialect → Reader (String × String)
  | .oracle => do
      Reader.exactly "TO_DATE("
      let text ← readQuoted
      Reader.exactly ","
      let mask ← readQuoted
      Reader.exactly ")"
      return (mask, text)
  | .postgresql => do
      let text ← readQuoted
      return (literalMask .postgresql, text)

/-- Whether the text of a literal for an instant fits the mask that the literal is read by. -/
def literalFits (dialect : Dialect) (literal : String) : Bool :=
  match (readMasked dialect).whole? literal with
  | some (mask, text) => fits (maskParts mask.toList) text.toList
  | none => false

def timeSeparator : Dialect → Char
  | .oracle => ' '
  | .postgresql => 'T'

theorem maskParts_literalMask (dialect : Dialect) :
    maskParts (literalMask dialect).toList = timeParts (timeSeparator dialect) := by
  cases dialect <;> decide +kernel

theorem reads_masked (dialect : Dialect) (time : Timestamp) :
    Reads (readMasked dialect) (timestampLiteral time dialect).toList
      (literalMask dialect, time.text (String.singleton (timeSeparator dialect))) isQuote := by
  cases dialect with
  | oracle =>
      rw [timestampLiteral_oracle_toList]
      refine (Reads.exactly "TO_DATE(").bind_never ?_
      refine (reads_quoted (time.text " ")).bind_of_ne_nil ?_ (by simp) rfl
      refine (Reads.exactly ",").bind_never ?_
      refine (reads_quoted timeMask).bind_of_ne_nil ?_ (by simp) rfl
      exact (Reads.exactly ")").of_never.returned (f := fun _ => (timeMask, time.text " "))
  | postgresql =>
      rw [Scanner.timestampLiteral_postgresql]
      exact (reads_quoted (time.text "T")).returned

theorem literalFits_iff (dialect : Dialect) (time : Timestamp) :
    literalFits dialect (timestampLiteral time dialect) = true ↔
      0 ≤ time.year ∧ time.year ≤ 9999 ∧ time.shownSecond ≤ 59 := by
  rw [literalFits, (reads_masked dialect time).whole?]
  simp only [maskParts_literalMask]
  exact fits_text_iff (timeSeparator dialect) time

end ObservationSql.Sql
