import ObservationSql.Calendar.Timestamp
import ObservationSql.Proofs.Decimal.Reading

/-!
Instants read back from their texts, to the second. The text of an instant is that of a clock, which
shows a leap second as the second after the one that it follows.
-/

namespace ObservationSql.Calendar

open Text Decimal

namespace Timestamp

/-- The same date and the same time of day on a clock. The fraction of a second is not shown, and a
leap second counts as the second after the one that it follows, which is sixty after the
fifty-ninth. -/
structure ShowsAs (time time' : Timestamp) : Prop where
  year : time.year = time'.year
  month : time.month = time'.month
  day : time.day = time'.day
  hour : time.hour = time'.hour
  minute : time.minute = time'.minute
  second : time.shownSecond = time'.shownSecond

/-- The instant that a clock shows: no fraction of a second, and a leap second only where the clock
shows second sixty. -/
def toTheSecond (time : Timestamp) : Timestamp :=
  { time with
    second := min time.shownSecond 59
    nanos := if time.shownSecond = 60 then 1000000000 else 0
    clock_mem := ⟨time.clock_mem.1, time.clock_mem.2.1, by omega⟩
    nanos_mem := by split <;> decide }

/-- The instant of a date and the time of day that a clock shows. -/
def ofShown? (year : Int) (month day hour minute shown : Nat) : Option Timestamp :=
  if shown = 60 then ofParts? year month day hour minute 59 1000000000
  else ofParts? year month day hour minute shown 0

theorem shownSecond_cases (time : Timestamp) :
    time.shownSecond = time.second ∧ time.nanos < 1000000000 ∨
      time.shownSecond = time.second + 1 ∧ 1000000000 ≤ time.nanos := by
  unfold shownSecond
  split <;> omega

theorem shownSecond_le (time : Timestamp) : time.shownSecond ≤ 60 := by
  have hsecond := time.clock_mem.2.2
  have hshown := time.shownSecond_cases
  omega

theorem month_le (time : Timestamp) : time.month ≤ 12 := by
  have hday := time.day_mem
  by_contra hmonth
  have hnone : daysIn time.year time.month = 0 := by
    unfold daysIn
    split <;> omega
  omega

theorem one_le_month (time : Timestamp) : 1 ≤ time.month := by
  have hday := time.day_mem
  by_contra hmonth
  have hnone : daysIn time.year 0 = 0 := rfl
  rw [Nat.lt_one_iff.mp (Nat.not_le.mp hmonth), hnone] at hday
  omega

theorem day_le (time : Timestamp) : time.day ≤ 31 := by
  have hdays : daysIn time.year time.month ≤ 31 := by
    unfold daysIn
    split
    case h_12 => split <;> omega
    all_goals omega
  exact Nat.le_trans time.day_mem.2 hdays

theorem ofShown?_shownSecond (time : Timestamp) :
    ofShown? time.year time.month time.day time.hour time.minute time.shownSecond
      = some time.toTheSecond := by
  obtain ⟨hhour, hminute, -⟩ := time.clock_mem
  have hshown := time.shownSecond_le
  by_cases hleap : time.shownSecond = 60
  · rw [ofShown?, if_pos hleap, ofParts?, dif_pos time.year_mem, dif_pos time.day_mem,
      dif_pos ⟨hhour, hminute, by decide⟩, dif_pos (.inr ⟨rfl, by decide⟩)]
    simp [toTheSecond, hleap]
  · have hsecond : min time.shownSecond 59 = time.shownSecond := by omega
    rw [ofShown?, if_neg hleap, ofParts?, dif_pos time.year_mem, dif_pos time.day_mem,
      dif_pos ⟨hhour, hminute, by omega⟩, dif_pos (.inl (by decide))]
    simp [toTheSecond, hleap, hsecond]

theorem shownSecond_toTheSecond (time : Timestamp) :
    time.toTheSecond.shownSecond = time.shownSecond := by
  have hshown := time.shownSecond_le
  have hsecond : time.toTheSecond.second = min time.shownSecond 59 := rfl
  have hnanos : time.toTheSecond.nanos = if time.shownSecond = 60 then 1000000000 else 0 := rfl
  have hcases := time.toTheSecond.shownSecond_cases
  rw [hsecond, hnanos] at hcases
  split at hcases <;> omega

theorem showsAs_toTheSecond (time : Timestamp) : time.toTheSecond.ShowsAs time where
  year := rfl
  month := rfl
  day := rfl
  hour := rfl
  minute := rfl
  second := time.shownSecond_toTheSecond

theorem nanos_toTheSecond (time : Timestamp) : time.toTheSecond.nanos % 1000000000 = 0 := by
  have hnanos : time.toTheSecond.nanos = if time.shownSecond = 60 then 1000000000 else 0 := rfl
  rw [hnanos]
  split <;> rfl

theorem second_toTheSecond (time : Timestamp)
    (h : time.nanos < 1000000000 ∨ time.second = 59) :
    time.toTheSecond.second = time.second := by
  have hclock := time.clock_mem.2.2
  have hcases := time.shownSecond_cases
  change min time.shownSecond 59 = time.second
  omega

theorem toTheSecond_eq_iff {time time' : Timestamp} :
    time.toTheSecond = time'.toTheSecond ↔ time.ShowsAs time' := by
  constructor
  · intro h
    have hshows := h ▸ time.showsAs_toTheSecond
    have hshows' := time'.showsAs_toTheSecond
    exact ⟨hshows.year ▸ hshows'.year, hshows.month ▸ hshows'.month, hshows.day ▸ hshows'.day,
      hshows.hour ▸ hshows'.hour, hshows.minute ▸ hshows'.minute, hshows.second ▸ hshows'.second⟩
  · rintro ⟨hyear, hmonth, hday, hhour, hminute, hsecond⟩
    simp [toTheSecond, hyear, hmonth, hday, hhour, hminute, hsecond]

end Timestamp

def readYear : Reader Int := do
  let negative ← readSign
  let found ← readDigits
  Reader.ofOption
    (if found.length < 4 then none else some (if negative then -(value found : Int) else value found))

/-- Reads the text of an instant, with a separator between the date and the time of day. -/
def readTime (separator : String) : Reader Timestamp := do
  let year ← readYear
  Reader.exactly "-"
  let month ← readFixed 2
  Reader.exactly "-"
  let day ← readFixed 2
  Reader.exactly separator
  let hour ← readFixed 2
  Reader.exactly ":"
  let minute ← readFixed 2
  Reader.exactly ":"
  let second ← readFixed 2
  Reader.ofOption (Timestamp.ofShown? year month day hour minute second)

theorem reads_signedYear {year : Int} {text : List Char} {negative : Bool}
    (hsign : Reads readSign text negative isSign)
    (hyear : (if negative then -(year.natAbs : Int) else year.natAbs) = year) :
    Reads readYear (text ++ paddedDigits 4 year.natAbs) year Char.isDigit := by
  have hlength := width_le_length_paddedDigits 4 year.natAbs
  have hne : paddedDigits 4 year.natAbs ≠ [] := by
    rw [← List.length_pos_iff]
    omega
  have hclear := (beginsWith_sign_of_reads (reads_whole hne isDigit_of_mem_paddedDigits)).2
  refine hsign.bind_of_ne_nil ?_ hne hclear
  refine (reads_digits hne isDigit_of_mem_paddedDigits).checked ?_
  rw [if_neg (Nat.not_lt.mpr hlength), value_paddedDigits, hyear]

theorem reads_year (year : Int) :
    Reads readYear (Timestamp.yearText year).toList year Char.isDigit := by
  have hplus : Reads readSign "+".toList false isSign := fun _ _ => rfl
  have hminus : Reads readSign "-".toList true isSign := fun _ _ => rfl
  have hnegative (h : year < 0) : (if true then -(year.natAbs : Int) else year.natAbs) = year := by
    rw [if_pos rfl]
    omega
  have hnatural (h : ¬ year < 0) :
      (if false then -(year.natAbs : Int) else year.natAbs) = year := by
    rw [if_neg Bool.false_ne_true]
    omega
  have hdigits : (padded 4 year.natAbs).toList = paddedDigits 4 year.natAbs := String.toList_ofList
  unfold Timestamp.yearText
  split
  · next h =>
    rw [String.toList_append, hdigits]
    exact reads_signedYear hminus (hnegative h)
  · next h =>
    split
    · have hread := reads_signedYear (reads_sign false) (hnatural h)
      rw [sign, if_neg Bool.false_ne_true, List.nil_append] at hread
      rw [hdigits]
      exact hread
    · rw [String.toList_append, hdigits]
      exact reads_signedYear hplus (hnatural h)

theorem Timestamp.text_toList (separator : String) (time : Timestamp) :
    (time.text separator).toList = (yearText time.year).toList
      ++ ("-".toList ++ (paddedDigits 2 time.month ++ ("-".toList ++ (paddedDigits 2 time.day
      ++ (separator.toList ++ (paddedDigits 2 time.hour ++ (":".toList
      ++ (paddedDigits 2 time.minute ++ (":".toList ++ paddedDigits 2 time.shownSecond))))))))) := by
  simp only [text, dateText, clockText, padded, String.toList_append, String.toList_ofList,
    List.append_assoc]

theorem reads_time (separator : String) (time : Timestamp) :
    Reads (readTime separator) (time.text separator).toList time.toTheSecond never := by
  obtain ⟨hhour, hminute, -⟩ := time.clock_mem
  have hmonth := time.month_le
  have hday := time.day_le
  have hsecond := time.shownSecond_le
  rw [time.text_toList]
  refine (reads_year time.year).bind_of_ne_nil ?_ (by simp) rfl
  refine (Reads.exactly "-").bind_never ((reads_fixed (by decide) (by omega)).bind_never ?_)
  refine (Reads.exactly "-").bind_never ((reads_fixed (by decide) (by omega)).bind_never ?_)
  refine (Reads.exactly separator).bind_never ((reads_fixed (by decide) (by omega)).bind_never ?_)
  refine (Reads.exactly ":").bind_never ((reads_fixed (by decide) (by omega)).bind_never ?_)
  refine (Reads.exactly ":").bind_never ((reads_fixed (by decide) (by omega)).checked ?_)
  exact time.ofShown?_shownSecond

end ObservationSql.Calendar
