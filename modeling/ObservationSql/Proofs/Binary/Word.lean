import ObservationSql.Binary.Word
import ObservationSql.Proofs.Binary.Format

namespace ObservationSql.Binary

namespace Format

variable {format : Format} {significand shift : Nat}

/-- The units of the largest finite datum. -/
def greatest (format : Format) : Nat :=
  (2 * format.hidden - 1) * twoTo (format.topExponent - 2)

theorem Canonical.units_le (h : format.Canonical significand shift) :
    significand * twoTo shift ≤ format.greatest :=
  Nat.mul_le_mul (Nat.le_pred_of_lt h.significand_lt)
    (Nat.pow_le_pow_right (by decide) h.shift_le)

theorem Canonical.units_lt_beyond (h : format.Canonical significand shift)
    (hprecision : 0 < format.precision) : significand * twoTo shift < format.beyond := by
  have hshift : twoTo shift ≤ twoTo format.topExponent :=
    Nat.pow_le_pow_right (by decide) (Nat.le_trans h.shift_le (Nat.sub_le _ _))
  have hsignificand := h.significand_lt
  rw [two_mul_hidden hprecision] at hsignificand
  rw [beyond, twoTo_add]
  exact Nat.mul_lt_mul_of_lt_of_le hsignificand hshift (twoTo_pos _)

theorem greatest_lt_beyond (hprecision : 0 < format.precision) :
    format.greatest < format.beyond := by
  have hhidden := format.hidden_pos
  have hcanonical : format.Canonical (2 * format.hidden - 1) (format.topExponent - 2) :=
    ⟨by omega, fun _ => by omega, Nat.le_refl _⟩
  exact hcanonical.units_lt_beyond hprecision

end Format

theorem Datum.exists_of_isFinite {datum : Datum} (h : datum.isFinite = true) :
    ∃ negative significand shift, datum = .finite negative significand shift := by
  cases datum with
  | finite negative significand shift => exact ⟨negative, significand, shift, rfl⟩
  | _ => cases h

theorem Datum.signed_inj {negative negative' : Bool} {size size' : Nat}
    (h : signed negative size = signed negative' size') (hne : signed negative' size' ≠ 0) :
    negative = negative' ∧ size = size' := by
  unfold signed at h hne
  cases negative <;> cases negative' <;> simp at h hne ⊢ <;> omega

namespace Double

theorem isNan_eq_false_iff {x : Double} : x.isNan = false ↔ ∃ size, x.units? = some size := by
  unfold isNan units?
  cases x.datum with
  | nan => simp [Datum.isNan, Datum.units?]
  | infinite negative => simp [Datum.isNan, Datum.units?]
  | finite negative significand shift => simp [Datum.isNan, Datum.units?]

theorem le_iff {x y : Double} {a b : Int} (hx : x.units? = some a) (hy : y.units? = some b) :
    x.le y = true ↔ a ≤ b := by
  simp [le, hx, hy]

theorem lt_iff {x y : Double} {a b : Int} (hx : x.units? = some a) (hy : y.units? = some b) :
    x.lt y = true ↔ a < b := by
  simp [lt, hx, hy]

theorem exists_of_le {x y : Double} (h : x.le y = true) :
    ∃ a b, x.units? = some a ∧ y.units? = some b ∧ a ≤ b := by
  unfold le at h
  split at h
  · exact ⟨_, _, ‹_›, ‹_›, of_decide_eq_true h⟩
  · exact absurd h Bool.false_ne_true

theorem le_refl {x : Double} (hx : x.isNan = false) : x.le x = true := by
  obtain ⟨a, ha⟩ := isNan_eq_false_iff.mp hx
  exact (le_iff ha ha).mpr (Int.le_refl a)

theorem le_of_lt {x y : Double} (h : x.lt y = true) : x.le y = true := by
  unfold lt at h
  split at h
  · exact (le_iff ‹_› ‹_›).mpr (Int.le_of_lt (of_decide_eq_true h))
  · cases h

theorem le_of_lt_eq_false {x y : Double} (hx : x.isNan = false) (hy : y.isNan = false)
    (h : x.lt y = false) : y.le x = true := by
  obtain ⟨a, ha⟩ := isNan_eq_false_iff.mp hx
  obtain ⟨b, hb⟩ := isNan_eq_false_iff.mp hy
  rw [Bool.eq_false_iff, ne_eq, lt_iff ha hb] at h
  exact (le_iff hb ha).mpr (Int.not_lt.mp h)

theorem le_trans {x y z : Double} (hxy : x.le y = true) (hyz : y.le z = true) :
    x.le z = true := by
  obtain ⟨a, b, ha, hb, hab⟩ := exists_of_le hxy
  obtain ⟨b', c, hb', hc, hbc⟩ := exists_of_le hyz
  rw [hb] at hb'
  obtain rfl := Option.some.inj hb'
  exact (le_iff ha hc).mpr (Int.le_trans hab hbc)

theorem bits_lt (x : Double) :
    x.bits.toNat < 2 * (Format.binary64.hidden * (Format.binary64.topExponent + 1)) :=
  x.bits.toNat_lt

theorem eq_of_units?_eq {x y : Double} {size : Int} (hx : x.units? = some size)
    (hy : y.units? = some size) (hfinite : y.datum.isFinite = true) (hsize : size ≠ 0) : x = y := by
  have hprecision : 0 < Format.binary64.precision := by decide
  obtain ⟨negative, significand, shift, hdatum⟩ := Datum.exists_of_isFinite hfinite
  have hbeyond := (Format.canonical_of_decode hdatum).units_lt_beyond hprecision
  have hencode := Format.encode_of_decode hprecision y.bits_lt hdatum
  unfold units? at hx hy
  rw [hdatum] at hy
  obtain rfl := Option.some.inj hy
  cases hdatum' : x.datum with
  | nan =>
      rw [hdatum'] at hx
      cases hx
  | infinite negative' =>
      rw [hdatum'] at hx
      obtain ⟨-, hbeyond'⟩ := Datum.signed_inj (Option.some.inj hx) hsize
      exact absurd hbeyond'.symm (Nat.ne_of_lt hbeyond)
  | finite negative' significand' shift' =>
      rw [hdatum'] at hx
      obtain ⟨rfl, hunits⟩ := Datum.signed_inj (Option.some.inj hx) hsize
      have hencode' := Format.encode_of_decode hprecision x.bits_lt hdatum'
      rw [hunits, hencode] at hencode'
      cases x
      cases y
      exact congrArg Double.mk (UInt64.toNat_inj.mp hencode'.symm)

theorem eq_of_le_of_le {x y : Double} (hfinite : y.datum.isFinite = true)
    (hsize : y.units? ≠ some 0) (hxy : x.le y = true) (hyx : y.le x = true) : x = y := by
  obtain ⟨a, b, ha, hb, hab⟩ := exists_of_le hxy
  rw [le_iff hb ha] at hyx
  obtain rfl := Int.le_antisymm hab hyx
  exact eq_of_units?_eq ha hb hfinite fun hzero => hsize (hzero ▸ hb)

theorem largest_units : largest.units? = some (Format.binary64.greatest : Int) := by
  decide +kernel

theorem smallest_units : smallest.units? = some (-(Format.binary64.greatest : Int)) := by
  decide +kernel

theorem infinite_or_bounded {x : Double} (hx : x.isNan = false) :
    (∃ negative, x.datum = .infinite negative ∧
        x.units? = some (Datum.signed negative Format.binary64.beyond)) ∨
      x.datum.isFinite = true ∧ ∃ size, x.units? = some size ∧
        -(Format.binary64.greatest : Int) ≤ size ∧ size ≤ Format.binary64.greatest := by
  unfold units?
  cases hdatum : x.datum with
  | nan => rw [isNan, hdatum] at hx; cases hx
  | infinite negative => exact .inl ⟨negative, rfl, rfl⟩
  | finite negative significand shift =>
      have hbound := (Format.canonical_of_decode hdatum).units_le
      refine .inr ⟨rfl, _, rfl, ?_⟩
      generalize Format.binary64.greatest = bound at hbound ⊢
      unfold Datum.signed
      split <;> omega

theorem bounds_iff {x : Double} (hx : x.isNan = false) :
    (x.le largest = true ↔ x.datum ≠ .infinite false) ∧
      (smallest.le x = true ↔ x.datum ≠ .infinite true) := by
  rcases infinite_or_bounded hx with ⟨negative, hdatum, hunits⟩ | ⟨hfinite, size, hunits, hsize⟩
  · have hbeyond : Format.binary64.greatest < Format.binary64.beyond :=
      Format.greatest_lt_beyond (by decide)
    rw [le_iff hunits largest_units, le_iff smallest_units hunits, hdatum]
    generalize Format.binary64.greatest = bound at hbeyond ⊢
    generalize Format.binary64.beyond = above at hbeyond ⊢
    cases negative <;> simp [Datum.signed] <;> omega
  · have hne : ∀ negative, x.datum ≠ .infinite negative := by
      intro negative hdatum
      rw [hdatum] at hfinite
      cases hfinite
    rw [le_iff hunits largest_units, le_iff smallest_units hunits]
    exact ⟨iff_of_true hsize.2 (hne false), iff_of_true hsize.1 (hne true)⟩

end Double

namespace Single

/-- The same number, with its sign. A unit of doubles goes into one of singles that many times. -/
def SameNumber (x : Single) (y : Double) : Prop :=
  match x.datum, y.datum with
  | .nan, .nan => True
  | .infinite negative, .infinite negative' => negative = negative'
  | .finite negative significand shift, .finite negative' significand' shift' =>
      negative = negative' ∧
        significand' * twoTo shift' = significand * twoTo shift * twoTo 925
  | _, _ => False

theorem widen_of_finite {x : Single} {negative : Bool} {significand shift : Nat}
    (h : x.datum = .finite negative significand shift) :
    ∃ significand' shift', x.widen.datum = .finite negative significand' shift' ∧
      significand' * twoTo shift' = significand * twoTo shift * twoTo 925 := by
  have hgap : Format.binary64.unitPower - Format.binary32.unitPower = 925 := rfl
  have hcanonical := Format.canonical_of_decode h
  have hsignificand : significand < 2 * Format.binary64.hidden :=
    Nat.lt_trans hcanonical.significand_lt (by decide)
  have hshift : shift + 925 + 1 < Format.binary64.topExponent := by
    have hlow : shift ≤ 253 := hcanonical.shift_le
    have htop : Format.binary64.topExponent = 2047 := rfl
    omega
  obtain ⟨hbits, significand', shift', hunits, hdecode⟩ :=
    Format.decode_encode_mul_twoTo negative (by decide) hsignificand hshift
  have hword : x.widen.bits.toNat
      = Format.binary64.encode negative (significand * twoTo (shift + 925)) := by
    simp only [widen, h, hgap]
    exact UInt64.toNat_ofNat_of_lt hbits
  refine ⟨significand', shift', ?_, ?_⟩
  · rw [Double.datum, hword, hdecode]
  · rw [hunits, twoTo_add, Nat.mul_assoc]

theorem widen_sameNumber (x : Single) : x.SameNumber x.widen := by
  unfold SameNumber
  cases hdatum : x.datum with
  | nan =>
      have hnan : x.widen.datum = .nan := by
        rw [widen, hdatum]
        decide +kernel
      rw [hnan]
      trivial
  | infinite negative =>
      have hinfinite : x.widen.datum = .infinite negative := by
        rw [widen, hdatum]
        cases negative <;> decide +kernel
      rw [hinfinite]
  | finite negative significand shift =>
      obtain ⟨significand', shift', hdatum', hunits⟩ := widen_of_finite hdatum
      rw [hdatum']
      exact ⟨rfl, hunits⟩

end Single

end ObservationSql.Binary
