import Mathlib.Data.String.Basic
import ObservationSql.Proofs.Calendar.Reading

namespace ObservationSql.Decimal

theorem value_cons (c : Char) (text : List Char) :
    value (c :: text) = 10 ^ text.length * (c.toNat - '0'.toNat) + value text := by
  rw [value, Nat.ofDigitChars_cons, Nat.mul_zero, Nat.zero_add,
    Nat.ofDigitChars_eq_ofDigitChars_zero]
  rfl

theorem digit_bounds {c : Char} (h : c.isDigit = true) : '0'.toNat ≤ c.toNat ∧ c.toNat ≤ '9'.toNat := by
  simpa [Char.isDigit, UInt32.le_iff_toNat_le] using h

theorem value_lt {text : List Char} (h : ∀ c ∈ text, c.isDigit = true) :
    value text < 10 ^ text.length := by
  induction text with
  | nil => exact Nat.one_pos
  | cons c text ih =>
      obtain ⟨hc, htext⟩ := List.forall_mem_cons.mp h
      have hdigit := digit_bounds hc
      have hrest := ih htext
      have hplaces : 10 ^ text.length * (c.toNat - '0'.toNat) ≤ 10 ^ text.length * 9 :=
        Nat.mul_le_mul_left _ (Nat.sub_le_iff_le_add.mpr hdigit.2)
      rw [value_cons, List.length_cons, Nat.pow_succ]
      omega

theorem value_cons_lt {c d : Char} {digits digits' : List Char} (hc : c.isDigit = true) (hcd : c < d)
    (hlength : digits.length = digits'.length) (hdigits : ∀ c ∈ digits, c.isDigit = true) :
    value (c :: digits) < value (d :: digits') := by
  have hless : c.toNat - '0'.toNat + 1 ≤ d.toNat - '0'.toNat := by
    have hzero := (digit_bounds hc).1
    have htoNat : c.toNat < d.toNat := hcd
    omega
  rw [value_cons, value_cons, ← hlength]
  calc 10 ^ digits.length * (c.toNat - '0'.toNat) + value digits
      < 10 ^ digits.length * (c.toNat - '0'.toNat) + 10 ^ digits.length :=
        Nat.add_lt_add_left (value_lt hdigits) _
    _ = 10 ^ digits.length * (c.toNat - '0'.toNat + 1) := (Nat.mul_succ _ _).symm
    _ ≤ 10 ^ digits.length * (d.toNat - '0'.toNat) := Nat.mul_le_mul_left _ hless
    _ ≤ _ := Nat.le_add_right _ _

theorem digits_append_lt_iff {digits digits' : List Char} (hlength : digits.length = digits'.length)
    (h : ∀ c ∈ digits, c.isDigit = true) (h' : ∀ c ∈ digits', c.isDigit = true)
    (rest rest' : List Char) :
    digits ++ rest < digits' ++ rest' ↔
      value digits < value digits' ∨ value digits = value digits' ∧ rest < rest' := by
  induction digits generalizing digits' with
  | nil =>
      obtain rfl := List.eq_nil_of_length_eq_zero hlength.symm
      simp
  | cons c digits ih =>
      obtain ⟨d, digits', rfl⟩ := List.exists_cons_of_length_eq_add_one hlength.symm
      obtain ⟨hc, hdigits⟩ := List.forall_mem_cons.mp h
      obtain ⟨hd, hdigits'⟩ := List.forall_mem_cons.mp h'
      have hsame : digits.length = digits'.length := Nat.succ.inj hlength
      rw [List.cons_append, List.cons_append, List.cons_lt_cons_iff]
      rcases lt_trichotomy c d with hless | rfl | hmore
      · exact iff_of_true (.inl hless) (.inl (value_cons_lt hc hless hsame hdigits))
      · rw [ih hsame hdigits hdigits', value_cons, value_cons, hsame, Nat.add_lt_add_iff_left,
          Nat.add_left_cancel_iff]
        simp
      · have hvalue := value_cons_lt hd hmore hsame.symm hdigits'
        refine iff_of_false ?_ ?_
        · rintro (hless | ⟨rfl, -⟩)
          · exact lt_asymm hless hmore
          · exact lt_irrefl c hmore
        · rintro (hless | ⟨hequal, -⟩) <;> omega

theorem paddedDigits_append_lt_iff {width n n' : Nat} (hwidth : 0 < width) (hn : n < 10 ^ width)
    (hn' : n' < 10 ^ width) (rest rest' : List Char) :
    paddedDigits width n ++ rest < paddedDigits width n' ++ rest' ↔
      n < n' ∨ n = n' ∧ rest < rest' := by
  have hlength := (length_paddedDigits hwidth hn).trans (length_paddedDigits hwidth hn').symm
  rw [digits_append_lt_iff hlength isDigit_of_mem_paddedDigits isDigit_of_mem_paddedDigits,
    value_paddedDigits, value_paddedDigits]

end ObservationSql.Decimal

namespace ObservationSql.Calendar

open Decimal

theorem append_lt_append_iff (text rest rest' : List Char) :
    text ++ rest < text ++ rest' ↔ rest < rest' := by
  induction text with
  | nil => rfl
  | cons c text ih => simp [ih]

namespace Timestamp

/-- Whether the year is written with four digits and no sign. -/
def HasPlainYear (time : Timestamp) : Prop :=
  0 ≤ time.year ∧ time.year ≤ 9999

instance (time : Timestamp) : Decidable time.HasPlainYear :=
  inferInstanceAs (Decidable (0 ≤ time.year ∧ time.year ≤ 9999))

theorem yearText_append_lt_iff {time time' : Timestamp} (h : time.HasPlainYear)
    (h' : time'.HasPlainYear) (rest rest' : List Char) :
    (yearText time.year).toList ++ rest < (yearText time'.year).toList ++ rest' ↔
      time.year < time'.year ∨ time.year = time'.year ∧ rest < rest' := by
  obtain ⟨hlow, hhigh⟩ := h
  obtain ⟨hlow', hhigh'⟩ := h'
  have hdigits : time.year.natAbs < 10 ^ 4 := by omega
  have hdigits' : time'.year.natAbs < 10 ^ 4 := by omega
  have hless : time.year.natAbs < time'.year.natAbs ↔ time.year < time'.year := by omega
  have hsame : time.year.natAbs = time'.year.natAbs ↔ time.year = time'.year := by omega
  simp only [yearText, if_neg (Int.not_lt.mpr hlow), if_neg (Int.not_lt.mpr hlow'), if_pos hhigh,
    if_pos hhigh', padded, String.toList_ofList]
  rw [paddedDigits_append_lt_iff (by decide) hdigits hdigits', hless, hsame]

theorem twoDigits_append_lt_iff {n n' : Nat} (hn : n < 100) (hn' : n' < 100)
    (rest rest' : List Char) :
    paddedDigits 2 n ++ rest < paddedDigits 2 n' ++ rest' ↔ n < n' ∨ n = n' ∧ rest < rest' :=
  paddedDigits_append_lt_iff (by decide) hn hn' rest rest'

/-- Whether an instant shows as an earlier one than another, part by part. -/
def ShowsBefore (time time' : Timestamp) : Prop :=
  time.year < time'.year ∨ time.year = time'.year ∧
    (time.month < time'.month ∨ time.month = time'.month ∧
      (time.day < time'.day ∨ time.day = time'.day ∧
        (time.hour < time'.hour ∨ time.hour = time'.hour ∧
          (time.minute < time'.minute ∨ time.minute = time'.minute ∧
            time.shownSecond < time'.shownSecond))))

/-- Texts of one length throughout are compared part by part, and what stands behind them does not
matter if it is the same. -/
theorem text_append_lt_iff {time time' : Timestamp} (h : time.HasPlainYear)
    (h' : time'.HasPlainYear) (separator : String) (tail : List Char) :
    (time.text separator).toList ++ tail < (time'.text separator).toList ++ tail ↔
      time.ShowsBefore time' := by
  obtain ⟨hhour, hminute, -⟩ := time.clock_mem
  obtain ⟨hhour', hminute', -⟩ := time'.clock_mem
  have hmonth := time.month_le
  have hmonth' := time'.month_le
  have hday := time.day_le
  have hday' := time'.day_le
  have hsecond := time.shownSecond_le
  have hsecond' := time'.shownSecond_le
  rw [time.text_toList, time'.text_toList]
  simp only [List.append_assoc]
  rw [yearText_append_lt_iff h h', append_lt_append_iff]
  rw [twoDigits_append_lt_iff (by omega) (by omega), append_lt_append_iff]
  rw [twoDigits_append_lt_iff (by omega) (by omega), append_lt_append_iff]
  rw [twoDigits_append_lt_iff (by omega) (by omega), append_lt_append_iff]
  rw [twoDigits_append_lt_iff (by omega) (by omega), append_lt_append_iff]
  rw [twoDigits_append_lt_iff (by omega) (by omega)]
  simp [ShowsBefore]

theorem seconds_lt_or_of_le {time time' : Timestamp} (h : time ≤ time') :
    time.seconds < time'.seconds ∨ time.seconds = time'.seconds ∧ time.nanos ≤ time'.nanos := by
  have hnanos := time.nanos_mem
  have hnanos' := time'.nanos_mem
  rw [le_def, rank, rank] at h
  omega

theorem not_showsBefore_of_le {time time' : Timestamp} (h : time ≤ time') :
    ¬time'.ShowsBefore time := by
  obtain ⟨hhour, hminute, hsecond⟩ := time.clock_mem
  obtain ⟨hhour', hminute', hsecond'⟩ := time'.clock_mem
  have hmonth := time.month_le
  have hmonth' := time'.month_le
  have hday := time.day_le
  have hday' := time'.day_le
  have hshown := time.shownSecond_cases
  have hshown' := time'.shownSecond_cases
  have hseconds := seconds_lt_or_of_le h
  unfold seconds at hseconds
  unfold ShowsBefore
  omega

theorem showsAs_iff {time time' : Timestamp} :
    time.ShowsAs time' ↔ ¬time.ShowsBefore time' ∧ ¬time'.ShowsBefore time := by
  constructor
  · rintro ⟨hyear, hmonth, hday, hhour, hminute, hsecond⟩
    unfold ShowsBefore
    omega
  · unfold ShowsBefore
    rintro ⟨hbefore, hbehind⟩
    constructor <;> omega

end Timestamp

end ObservationSql.Calendar
