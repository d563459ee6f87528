import ObservationSql.Proofs.Decimal.Nearest
import ObservationSql.Proofs.Decimal.Numeral
import ObservationSql.Proofs.Text.Reader
import ObservationSql.Value.Basic

namespace ObservationSql.Decimal

open Text Binary

/-- The number that a row of decimal digits stands for. -/
def value (text : List Char) : Nat :=
  Nat.ofDigitChars 10 text 0

def isSign (c : Char) : Bool :=
  c == '-' || c == '+'

def isDigitOrPoint (c : Char) : Bool :=
  c.isDigit || c == '.'

/-- What must not come right behind a number. -/
def continuesNumber (c : Char) : Bool :=
  c.isDigit || c == '.' || c.isAlpha || c == '\''

def readSign : Reader Bool
  | '-' :: rest => some (true, rest)
  | '+' :: rest => some (false, rest)
  | input => some (false, input)

def readDigits : Reader (List Char) := do
  let found ← Reader.run Char.isDigit
  Reader.ofOption (if found.isEmpty then none else some found)

def readFixed (width : Nat) : Reader Nat := do
  let found ← Reader.take width
  Reader.ofOption (if found.all Char.isDigit then some (value found) else none)

/-- Reads the digits behind a point. Without a point there are none. -/
def readPlaces : Reader (List Char)
  | '.' :: rest => readDigits rest
  | input => some ([], input)

/-- A decimal without a sign: all its digits as a number, and how many stand behind the point. -/
def readDecimal : Reader (Nat × Nat) := do
  let whole ← readDigits
  let places ← readPlaces
  return (value (whole ++ places), places.length)

def readInteger : Reader Int := do
  let negative ← readSign
  let found ← readDigits
  return if negative then -value found else value found

/-- Reads an integer of a kind, which no more of a numeral may follow. -/
def readNumber (kind : IntegerKind) : Reader kind.Number := do
  let n ← readInteger
  Reader.notBefore continuesNumber
  Reader.ofOption (kind.number? n)

def readDatum (format : Format) : Reader Nat := do
  let negative ← readSign
  let (n, places) ← readDecimal
  Reader.notBefore continuesNumber
  Reader.ofOption (format.ofDecimal? negative n places)

@[simp] theorem value_digits (n : Nat) : value (digits n) = n :=
  Nat.ofDigitChars_toDigits (by decide) (by decide)

@[simp] theorem value_paddedDigits (width n : Nat) : value (paddedDigits width n) = n := by
  rw [value, paddedDigits, Nat.ofDigitChars_append, Nat.ofDigitChars_replicate_zero, Nat.mul_zero]
  exact value_digits n

theorem value_append_zeros (text : List Char) (count : Nat) :
    value (text ++ List.replicate count '0') = value text * tenTo count := by
  rw [value, Nat.ofDigitChars_append, Nat.ofDigitChars_replicate_zero, Nat.mul_comm]
  rfl

theorem isDigit_of_mem_digits {n : Nat} : ∀ c ∈ digits n, c.isDigit = true :=
  fun _ => Nat.isDigit_of_mem_toDigits (by decide) (by decide)

theorem isDigit_of_mem_zeros {count : Nat} : ∀ c ∈ List.replicate count '0', c.isDigit = true := by
  intro c hc
  rw [List.eq_of_mem_replicate hc]
  rfl

theorem isDigit_of_mem_paddedDigits {width n : Nat} :
    ∀ c ∈ paddedDigits width n, c.isDigit = true := by
  intro c hc
  rcases List.mem_append.mp hc with hc | hc
  · exact isDigit_of_mem_zeros c hc
  · exact isDigit_of_mem_digits c hc

theorem digits_ne_nil (n : Nat) : digits n ≠ [] :=
  Nat.toDigits_ne_nil

theorem length_paddedDigits {width n : Nat} (hwidth : 0 < width) (h : n < 10 ^ width) :
    (paddedDigits width n).length = width := by
  have hdigits : (digits n).length ≤ width :=
    (Nat.length_toDigits_le_iff (by decide) hwidth).mpr h
  rw [paddedDigits, List.length_append, List.length_replicate, Nat.sub_add_cancel hdigits]

theorem width_le_length_paddedDigits (width n : Nat) : width ≤ (paddedDigits width n).length := by
  rw [paddedDigits, List.length_append, List.length_replicate]
  omega

theorem reads_digits {text : List Char} (htext : text ≠ [])
    (hdigits : ∀ c ∈ text, c.isDigit = true) : Reads readDigits text text Char.isDigit :=
  (Reads.run hdigits).checked (if_neg (by simpa using htext))

theorem reads_fixed {width n : Nat} (hwidth : 0 < width) (h : n < 10 ^ width) :
    Reads (readFixed width) (paddedDigits width n) n never := by
  have htake := Reads.take (paddedDigits width n)
  rw [length_paddedDigits hwidth h] at htake
  refine htake.checked ?_
  rw [value_paddedDigits]
  exact if_pos (List.all_eq_true.mpr isDigit_of_mem_paddedDigits)

theorem reads_sign (negative : Bool) : Reads readSign (sign negative) negative isSign := by
  intro rest hrest
  cases negative with
  | true => rfl
  | false =>
      change readSign rest = some (false, rest)
      cases rest with
      | nil => rfl
      | cons c rest =>
          rw [readSign]
          · rintro tail ⟨⟩
            simp [beginsWith, isSign] at hrest
          · rintro tail ⟨⟩
            simp [beginsWith, isSign] at hrest

theorem reads_places {text : List Char} (htext : text ≠ [])
    (hdigits : ∀ c ∈ text, c.isDigit = true) :
    Reads readPlaces ('.' :: text) text Char.isDigit :=
  fun rest hrest => reads_digits htext hdigits rest hrest

theorem reads_no_places : Reads readPlaces [] [] (· == '.') := by
  intro rest hrest
  rw [List.nil_append, readPlaces]
  rintro tail rfl
  simp [beginsWith] at hrest

theorem reads_decimal {whole places text : List Char} (hne : whole ≠ [])
    (hwhole : ∀ c ∈ whole, c.isDigit = true) (hplaces : Reads readPlaces text places isDigitOrPoint)
    (hclear : ∀ rest, beginsWith isDigitOrPoint rest = false →
      beginsWith Char.isDigit (text ++ rest) = false) :
    Reads readDecimal (whole ++ text) (value (whole ++ places), places.length) isDigitOrPoint :=
  (reads_digits hne hwhole).bind hplaces.returned hclear

theorem reads_whole {text : List Char} (htext : text ≠ [])
    (hdigits : ∀ c ∈ text, c.isDigit = true) :
    Reads readDecimal text (value text, 0) isDigitOrPoint := by
  have hplaces : Reads readPlaces [] [] isDigitOrPoint :=
    reads_no_places.mono fun c hc => by rw [isDigitOrPoint, hc, Bool.or_true]
  have h := reads_decimal htext hdigits hplaces fun rest hrest =>
    beginsWith_mono (fun c hc => by rw [isDigitOrPoint, hc, Bool.true_or]) hrest
  rw [List.append_nil] at h
  exact h

theorem reads_withPoint (n places : Nat) :
    Reads readDecimal (withPoint n places) (n, places) isDigitOrPoint := by
  unfold withPoint
  split
  · next hplaces =>
    have h := reads_whole (digits_ne_nil n) isDigit_of_mem_digits
    rw [value_digits] at h
    rw [hplaces]
    exact h
  · next hplaces =>
    have hlength := width_le_length_paddedDigits (places + 1) n
    generalize hall : paddedDigits (places + 1) n = all at hlength
    have hdigits : ∀ c ∈ all, c.isDigit = true := hall ▸ isDigit_of_mem_paddedDigits
    have hbehind : (all.drop (all.length - places)).length = places := by
      rw [List.length_drop]
      omega
    have hwhole : all.take (all.length - places) ≠ [] := by
      rw [← List.length_pos_iff, List.length_take]
      omega
    have hpoint : Reads readPlaces ('.' :: all.drop (all.length - places))
        (all.drop (all.length - places)) isDigitOrPoint := by
      refine (reads_places ?_ fun c hc => hdigits c (List.mem_of_mem_drop hc)).mono
        fun c hc => by rw [isDigitOrPoint, hc, Bool.true_or]
      rw [← List.length_pos_iff, hbehind]
      exact Nat.pos_of_ne_zero hplaces
    have h := reads_decimal hwhole (fun c hc => hdigits c (List.mem_of_mem_take hc)) hpoint
      fun _ _ => rfl
    rw [List.take_append_drop, hbehind, ← hall, value_paddedDigits, hall] at h
    exact h

theorem reads_positional (count : Nat) (exponent : Int) :
    Reads readDecimal (positional count exponent)
      (count * tenTo exponent.toNat, (-exponent).toNat) isDigitOrPoint := by
  unfold positional
  split
  · next hnegative =>
    have hplaces : exponent.natAbs = (-exponent).toNat := by omega
    have hpower : exponent.toNat = 0 := by omega
    rw [hplaces, hpower, tenTo_zero, Nat.mul_one]
    exact reads_withPoint count _
  · next hwhole =>
    have hpower : exponent.natAbs = exponent.toNat := by omega
    have hplaces : (-exponent).toNat = 0 := by omega
    have hvalue := value_append_zeros (digits count) exponent.toNat
    rw [value_digits] at hvalue
    rw [hpower, hplaces, ← hvalue]
    apply reads_whole
    · exact List.append_ne_nil_of_left_ne_nil (digits_ne_nil count) _
    · intro c hc
      rcases List.mem_append.mp hc with hc | hc
      · exact isDigit_of_mem_digits c hc
      · exact isDigit_of_mem_zeros c hc

theorem reads_shortestSize {format : Format} (hprecision : 0 < format.precision) {bits : Nat}
    (hbits : bits < 2 * (format.hidden * (format.topExponent + 1))) {negative : Bool}
    {significand shift : Nat} (hdatum : format.decode bits = .finite negative significand shift) :
    ∃ n places, Reads readDecimal (shortestSize format significand shift) (n, places) isDigitOrPoint ∧
      format.ofDecimal? negative n places = some bits := by
  unfold shortestSize
  split
  · next hzero =>
    subst hzero
    exact ⟨0, 0, reads_whole (by simp) (by simp), ofDecimal?_zero hprecision hbits hdatum⟩
  · next hpos =>
    exact ⟨_, _, reads_positional _ _, ofDecimal?_shortest hprecision hbits hdatum hpos⟩

theorem ofInt_toList (n : Int) : (ofInt n).toList = sign (n < 0) ++ digits n.natAbs := by
  unfold ofInt
  split
  · next hnegative => simp [sign, ofNat, hnegative]
  · next hnatural => simp [sign, ofNat, hnatural]

theorem continuesNumber_of_isDigit : ∀ c, c.isDigit = true → continuesNumber c = true := by
  intro c hc
  simp [continuesNumber, hc]

theorem continuesNumber_of_isDigitOrPoint :
    ∀ c, isDigitOrPoint c = true → continuesNumber c = true := by
  intro c hc
  rw [isDigitOrPoint] at hc
  simp [continuesNumber, hc]

theorem beginsWith_sign_of_reads {text : List Char} {item : Nat × Nat} {barred : Char → Bool}
    (h : Reads readDecimal text item barred) : text ≠ [] ∧ beginsWith isSign text = false := by
  have hread := h [] rfl
  rw [List.append_nil, readDecimal] at hread
  have hdigits : readDigits text ≠ none := fun hnone => by
    rw [Reader.bind_eq_none hnone] at hread
    exact absurd hread (by simp)
  cases text with
  | nil => exact absurd rfl hdigits
  | cons c rest =>
      refine ⟨List.cons_ne_nil c rest, ?_⟩
      by_contra hsign
      have hc : c = '-' ∨ c = '+' := by simpa [beginsWith, isSign, ← or_iff_not_imp_left] using hsign
      rcases hc with rfl | rfl
      · exact hdigits rfl
      · exact hdigits rfl

theorem reads_integer (n : Int) : Reads readInteger (ofInt n).toList n Char.isDigit := by
  have hdigits := reads_digits (digits_ne_nil n.natAbs) isDigit_of_mem_digits
  have hclear : beginsWith isSign (digits n.natAbs) = false :=
    (beginsWith_sign_of_reads (reads_whole (digits_ne_nil _) isDigit_of_mem_digits)).2
  have hvalue : (if decide (n < 0) then -(value (digits n.natAbs) : Int)
      else value (digits n.natAbs)) = n := by
    rw [value_digits]
    simp only [decide_eq_true_eq]
    split <;> omega
  have h := hdigits.returned (f := fun found => if decide (n < 0) then -(value found : Int)
    else value found)
  rw [hvalue] at h
  rw [ofInt_toList]
  exact (reads_sign (n < 0)).bind_of_ne_nil h (digits_ne_nil _) hclear

theorem reads_number {kind : IntegerKind} (n : kind.Number) :
    Reads (readNumber kind) (ofInt n.value).toList n continuesNumber := by
  have hfound : kind.number? n.value = some n := dif_pos n.mem
  exact (reads_integer n.value).bind_nil ((Reads.notBefore continuesNumber).checked hfound)
    continuesNumber_of_isDigit

theorem reads_datum {format : Format} (hprecision : 0 < format.precision) {bits : Nat}
    (hbits : bits < 2 * (format.hidden * (format.topExponent + 1)))
    (hfinite : (format.decode bits).isFinite = true) :
    Reads (readDatum format) (shortest format (format.decode bits)).toList bits
      continuesNumber := by
  cases hdatum : format.decode bits with
  | nan =>
      rw [hdatum] at hfinite
      exact absurd hfinite (by decide)
  | infinite negative =>
      rw [hdatum] at hfinite
      exact absurd hfinite (by simp [Datum.isFinite])
  | finite negative significand shift =>
      obtain ⟨n, places, hdecimal, hfound⟩ := reads_shortestSize hprecision hbits hdatum
      obtain ⟨hne, hclear⟩ := beginsWith_sign_of_reads hdecimal
      rw [shortest, String.toList_ofList]
      refine (reads_sign negative).bind_of_ne_nil ?_ hne hclear
      exact hdecimal.bind_nil ((Reads.notBefore continuesNumber).checked hfound)
        continuesNumber_of_isDigitOrPoint

end ObservationSql.Decimal
