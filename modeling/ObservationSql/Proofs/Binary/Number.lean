import Mathlib.Algebra.Order.Field.Rat
import Mathlib.Data.Rat.Cast.Order
import ObservationSql.Proofs.Binary.Word

namespace ObservationSql.Binary

theorem Datum.signed_natAbs_mul (n : Int) (scale : Nat) :
    signed (decide (n < 0)) (n.natAbs * scale) = n * scale := by
  rcases Int.lt_or_le n 0 with hneg | hpos
  · have hsize : (n.natAbs : Int) = -n := Int.ofNat_natAbs_of_nonpos (Int.le_of_lt hneg)
    rw [signed, decide_eq_true hneg, if_pos rfl, Int.natCast_mul, hsize, Int.neg_mul, Int.neg_neg]
  · have hsize : (n.natAbs : Int) = n := Int.natAbs_of_nonneg hpos
    rw [signed, decide_eq_false (Int.not_lt.mpr hpos), if_neg Bool.false_ne_true, Int.natCast_mul,
      hsize]

namespace Double

/-- The number that a finite double is. Infinities and NaNs are no numbers. -/
def number? (x : Double) : Option ℚ :=
  match x.datum with
  | .finite negative significand shift =>
      some (Datum.signed negative (significand * twoTo shift) / twoTo Format.binary64.unitPower)
  | _ => none

variable {x low high : Double} {a b : ℚ}

theorem number?_of_datum {negative : Bool} {significand shift : Nat}
    (h : x.datum = .finite negative significand shift) :
    x.number? = some ((Datum.signed negative (significand * twoTo shift) : ℚ)
      / twoTo Format.binary64.unitPower) := by
  rw [number?, h]

theorem number?_eq_some_iff :
    x.number? = some a ↔ x.datum.isFinite = true ∧
      ∃ size, x.units? = some size ∧ (size : ℚ) / twoTo Format.binary64.unitPower = a := by
  constructor
  · intro h
    have hfinite : x.datum.isFinite = true := by
      unfold number? at h
      cases hdatum : x.datum with
      | finite negative significand shift => rfl
      | _ =>
          rw [hdatum] at h
          cases h
    obtain ⟨negative, significand, shift, hdatum⟩ := Datum.exists_of_isFinite hfinite
    have hunits : x.units? = some (Datum.signed negative (significand * twoTo shift)) := by
      rw [units?, hdatum]
      rfl
    rw [number?_of_datum hdatum] at h
    exact ⟨hfinite, _, hunits, Option.some.inj h⟩
  · rintro ⟨hfinite, size, hsize, rfl⟩
    obtain ⟨negative, significand, shift, hdatum⟩ := Datum.exists_of_isFinite hfinite
    rw [units?, hdatum] at hsize
    obtain rfl := Option.some.inj hsize
    exact number?_of_datum hdatum

theorem isNan_of_number? (h : x.number? = some a) : x.isNan = false := by
  obtain ⟨-, size, hsize, -⟩ := number?_eq_some_iff.mp h
  exact isNan_eq_false_iff.mpr ⟨size, hsize⟩

theorem exists_number_of_isFinite (h : x.datum.isFinite = true) : ∃ a, x.number? = some a := by
  obtain ⟨negative, significand, shift, hdatum⟩ := Datum.exists_of_isFinite h
  exact ⟨_, number?_of_datum hdatum⟩

theorem unitsPerOne_pos : (0 : ℚ) < twoTo Format.binary64.unitPower :=
  Nat.cast_pos.mpr (twoTo_pos _)

theorem le_iff_number (hlow : low.number? = some a) (hhigh : high.number? = some b) :
    low.le high = true ↔ a ≤ b := by
  obtain ⟨-, size, hsize, rfl⟩ := number?_eq_some_iff.mp hlow
  obtain ⟨-, size', hsize', rfl⟩ := number?_eq_some_iff.mp hhigh
  rw [le_iff hsize hsize', div_le_div_iff_of_pos_right unitsPerOne_pos, Int.cast_le]

theorem lt_iff_number (hlow : low.number? = some a) (hhigh : high.number? = some b) :
    low.lt high = true ↔ a < b := by
  obtain ⟨-, size, hsize, rfl⟩ := number?_eq_some_iff.mp hlow
  obtain ⟨-, size', hsize', rfl⟩ := number?_eq_some_iff.mp hhigh
  rw [lt_iff hsize hsize', div_lt_div_iff_of_pos_right unitsPerOne_pos, Int.cast_lt]

theorem isFinite_iff (hx : x.isNan = false) :
    x.datum.isFinite = true ↔ smallest.le x = true ∧ x.le largest = true := by
  rw [(bounds_iff hx).1, (bounds_iff hx).2]
  unfold isNan at hx
  cases hdatum : x.datum with
  | nan => rw [hdatum] at hx; cases hx
  | infinite negative => cases negative <;> simp [Datum.isFinite]
  | finite negative significand shift => simp [Datum.isFinite]

theorem between_iff (hlow : low.number? = some a) (hhigh : high.number? = some b) :
    (low.le x = true ∧ x.le high = true) ↔ ∃ c, x.number? = some c ∧ a ≤ c ∧ c ≤ b := by
  constructor
  · rintro ⟨hlowx, hxhigh⟩
    obtain ⟨-, size, -, hsize, -⟩ := exists_of_le hlowx
    have hx : x.isNan = false := isNan_eq_false_iff.mpr ⟨size, hsize⟩
    have hlowest := ((isFinite_iff (isNan_of_number? hlow)).mp (number?_eq_some_iff.mp hlow).1).1
    have hhighest := ((isFinite_iff (isNan_of_number? hhigh)).mp (number?_eq_some_iff.mp hhigh).1).2
    obtain ⟨c, hc⟩ := exists_number_of_isFinite
      ((isFinite_iff hx).mpr ⟨le_trans hlowest hlowx, le_trans hxhigh hhighest⟩)
    exact ⟨c, hc, (le_iff_number hlow hc).mp hlowx, (le_iff_number hc hhigh).mp hxhigh⟩
  · rintro ⟨c, hc, hac, hcb⟩
    exact ⟨(le_iff_number hlow hc).mpr hac, (le_iff_number hc hhigh).mpr hcb⟩

theorem datum_ofInt {n : Int} (h : n.natAbs < twoTo Format.binary64.precision) :
    ∃ significand shift, (ofInt n).datum = .finite (n < 0) significand shift ∧
      significand * twoTo shift = n.natAbs * twoTo Format.binary64.unitPower := by
  have hshift : Format.binary64.unitPower + 1 < Format.binary64.topExponent := by decide
  obtain ⟨hbits, significand, shift, hunits, hdecode⟩ :=
    Format.decode_encode_mul_twoTo (decide (n < 0)) (by decide) h hshift
  refine ⟨significand, shift, ?_, hunits⟩
  rw [← hdecode, datum, ofInt]
  exact congrArg _ (UInt64.toNat_ofNat_of_lt hbits)

theorem number?_ofInt {n : Int} (h : n.natAbs < twoTo Format.binary64.precision) :
    (ofInt n).number? = some (n : ℚ) := by
  obtain ⟨significand, shift, hdatum, hunits⟩ := datum_ofInt h
  rw [number?_of_datum hdatum, hunits, Datum.signed_natAbs_mul, Int.cast_mul, Int.cast_natCast,
    mul_div_cancel_right₀ _ unitsPerOne_pos.ne']

end Double

end ObservationSql.Binary
