import ObservationSql.Decimal.Fixed
import ObservationSql.Proofs.Decimal.Shortest

namespace ObservationSql.Binary.Format

open Decimal

/-- The units of the datum nearest to `num / den` units. A number that is rounded up out of its
binade is the first one of the next. -/
def nearest (format : Format) (num den : Nat) : Nat :=
  let gap := twoTo (format.binade (num / den))
  roundHalfEven num (den * gap) * gap

/-- The bits of the finite datum nearest to `n / 10 ^ places`. Sizes that are rounded beyond the
largest datum have none. -/
def ofDecimal? (format : Format) (negative : Bool) (n places : Nat) : Option Nat :=
  let units := format.nearest (n * twoTo format.unitPower) (tenTo places)
  if units < 2 * format.hidden * twoTo (format.topExponent - 2) then
    some (format.encode negative units)
  else none

end ObservationSql.Binary.Format

namespace ObservationSql.Decimal

open ObservationSql.Binary

theorem roundHalfEven_eq {num den count : Nat} (hlow : 2 * (count * den) ≤ 2 * num + den)
    (hhigh : 2 * num ≤ 2 * (count * den) + den)
    (htie : count % 2 = 0 ∨ 2 * (count * den) < 2 * num + den ∧ 2 * num < 2 * (count * den) + den)
    (hden : 0 < den) : roundHalfEven num den = count := by
  have hdiv : num / den * den + num % den = num := Nat.div_add_mod' num den
  have hmod : num % den < den := Nat.mod_lt num hden
  have hbelow : count ≤ num / den + 1 := by
    by_contra hcount
    have := Nat.mul_le_mul_right den (show num / den + 2 ≤ count by omega)
    rw [Nat.add_mul] at this
    omega
  have habove : num / den ≤ count := by
    by_contra hcount
    have := Nat.mul_le_mul_right den (show count + 1 ≤ num / den by omega)
    rw [Nat.add_mul] at this
    omega
  have hcases : count = num / den ∨ count = num / den + 1 := by omega
  -- the remainder decides which of the two it is, and parity does when it is a half
  simp only [roundHalfEven]
  rcases hcases with hcount | hcount
  · rw [hcount] at hlow hhigh htie ⊢
    split
    · rfl
    · split
      · omega
      · omega
  · rw [hcount] at hlow hhigh htie ⊢
    simp only [Nat.add_mul, Nat.one_mul] at hlow hhigh htie
    split
    · omega
    · split
      · rfl
      · omega

variable {format : Format}

theorem binade_div {num den shift : Nat} (hprecision : 0 < format.precision) (hden : 0 < den)
    (hlow : format.hidden * (den * twoTo shift) ≤ num)
    (hhigh : num < 2 * (format.hidden * (den * twoTo shift))) :
    format.binade (num / den) = shift := by
  have hcell : format.hidden * (den * twoTo shift) = format.hidden * twoTo shift * den := by ring
  rw [hcell] at hlow hhigh
  apply Format.binade_eq hprecision
  · exact (Nat.le_div_iff_mul_le hden).mpr hlow
  · rw [Nat.div_lt_iff_lt_mul hden, Nat.mul_assoc, Nat.mul_assoc]
    rw [Nat.mul_assoc] at hhigh
    exact hhigh

theorem nearest_eq {num den shift count : Nat} (hbinade : format.binade (num / den) = shift)
    (hround : roundHalfEven num (den * twoTo shift) = count) :
    format.nearest num den = count * twoTo shift := by
  simp only [Format.nearest, hbinade, hround]

/-- What it is for `num / den` units to be in the basin of a datum: to be at most half a gap off, or
a quarter of one below the lowest datum of a binade. -/
structure Near (format : Format) (significand shift num den : Nat) : Prop where
  low : 4 * (significand * (den * twoTo shift)) ≤ 4 * num
    + if significand = format.hidden ∧ shift ≠ 0 then den * twoTo shift
      else 2 * (den * twoTo shift)
  high : 4 * num ≤ 4 * (significand * (den * twoTo shift)) + 2 * (den * twoTo shift)
  tie : significand % 2 = 0 ∨
    2 * (significand * (den * twoTo shift)) < 2 * num + den * twoTo shift ∧
      2 * num < 2 * (significand * (den * twoTo shift)) + den * twoTo shift

namespace Near

variable {significand shift num den : Nat} (h : Near format significand shift num den)
  (hcanonical : format.Canonical significand shift) (hprecision : 0 < format.precision)
  (hden : 0 < den)

include h hden

theorem roundHalfEven_eq : roundHalfEven num (den * twoTo shift) = significand := by
  have hlow := h.low
  have hhigh := h.high
  apply Decimal.roundHalfEven_eq
  · split at hlow <;> omega
  · omega
  · exact h.tie
  · exact Nat.mul_pos hden (twoTo_pos shift)

include hcanonical in
theorem lt_next : num < 2 * (format.hidden * (den * twoTo shift)) := by
  have hcell : 0 < den * twoTo shift := Nat.mul_pos hden (twoTo_pos shift)
  have hnext := Nat.mul_le_mul_right (den * twoTo shift) hcanonical.significand_lt
  have hhigh := h.high
  rw [Nat.succ_mul, Nat.mul_assoc] at hnext
  omega

include hcanonical hprecision

theorem nearest_within (hwithin : shift = 0 ∨ format.hidden * (den * twoTo shift) ≤ num) :
    format.nearest num den = significand * twoTo shift := by
  have hnext := h.lt_next hcanonical hden
  refine nearest_eq ?_ (h.roundHalfEven_eq hden)
  rcases hwithin with rfl | hwithin
  · apply Format.binade_of_lt hprecision
    rw [Nat.div_lt_iff_lt_mul hden, Nat.mul_assoc]
    rw [twoTo_zero, Nat.mul_one] at hnext
    exact hnext
  · exact binade_div hprecision hden hwithin hnext

theorem nearest_below (hshift : shift ≠ 0) (hbelow : num < format.hidden * (den * twoTo shift)) :
    format.nearest num den = significand * twoTo shift := by
  have hcell : 0 < den * twoTo shift := Nat.mul_pos hden (twoTo_pos shift)
  have hlow := h.low
  have hlowest : significand = format.hidden := by
    by_contra hsignificand
    have hleast : format.hidden + 1 ≤ significand := by
      have := hcanonical.hidden_le hshift
      omega
    have habove := Nat.mul_le_mul_right (den * twoTo shift) hleast
    rw [if_neg fun hlowest => hsignificand hlowest.1] at hlow
    rw [Nat.succ_mul] at habove
    omega
  -- Below the lowest datum of a binade the rounding is that of the binade underneath, where the datum
  -- is twice the least significand.
  subst hlowest
  obtain ⟨below, rfl⟩ := Nat.exists_eq_succ_of_ne_zero hshift
  have hdouble : den * twoTo (below + 1) = 2 * (den * twoTo below) := by
    rw [twoTo_succ]
    ring
  rw [if_pos ⟨rfl, hshift⟩] at hlow
  rw [hdouble, Nat.mul_left_comm _ 2] at hlow hbelow
  have hleast := Nat.le_mul_of_pos_left (den * twoTo below) format.hidden_pos
  have hbinade : format.binade (num / den) = below :=
    binade_div hprecision hden (by omega) hbelow
  have hround : roundHalfEven num (den * twoTo below) = 2 * format.hidden := by
    refine Decimal.roundHalfEven_eq ?_ ?_ (.inl (Nat.mul_mod_right 2 _))
      (Nat.mul_pos hden (twoTo_pos below))
    · rw [Nat.mul_assoc]
      omega
    · rw [Nat.mul_assoc]
      omega
  rw [nearest_eq hbinade hround, twoTo_succ]
  ring

theorem nearest_eq : format.nearest num den = significand * twoTo shift := by
  by_cases hwithin : shift = 0 ∨ format.hidden * (den * twoTo shift) ≤ num
  · exact h.nearest_within hcanonical hprecision hden hwithin
  · rw [not_or, Nat.not_le] at hwithin
    exact h.nearest_below hcanonical hprecision hden hwithin.1 hwithin.2

end Near

theorem near_of_holds {significand shift count : Nat} {exponent : Int} (hpos : significand ≠ 0)
    (h : (Basin.of format significand shift).holds count exponent = true) :
    Near format significand shift (count * tenTo exponent.toNat * twoTo format.unitPower)
      (tenTo (-exponent).toNat) := by
  generalize hnum : count * tenTo exponent.toNat * twoTo format.unitPower = num
  generalize hden : tenTo (-exponent).toNat = den
  obtain ⟨under, hunder, hbottom⟩ : ∃ under,
      under = (if significand = format.hidden ∧ shift ≠ 0 then twoTo shift else 2 * twoTo shift) ∧
        (Basin.of format significand shift).low = 4 * significand * twoTo shift - under :=
    ⟨_, rfl, rfl⟩
  have hpoint : count * tenTo exponent.toNat * (Basin.of format significand shift).scale
      = 4 * num := by
    rw [← hnum]
    change _ * (4 * twoTo format.unitPower) = _
    ring
  have hlow : (Basin.of format significand shift).low * den + under * den
      = 4 * (significand * (den * twoTo shift)) := by
    have hleast := Nat.le_mul_of_pos_left (twoTo shift) (Nat.pos_of_ne_zero hpos)
    have hle : under ≤ 4 * significand * twoTo shift := by
      rw [hunder, Nat.mul_assoc]
      split <;> omega
    rw [hbottom, ← Nat.add_mul, Nat.sub_add_cancel hle]
    ring
  have hhigh : (Basin.of format significand shift).high * den
      = 4 * (significand * (den * twoTo shift)) + 2 * (den * twoTo shift) := by
    change (4 * significand * twoTo shift + 2 * twoTo shift) * den = _
    ring
  have hbelow : under * den = if significand = format.hidden ∧ shift ≠ 0 then den * twoTo shift
      else 2 * (den * twoTo shift) := by
    rw [hunder]
    split <;> ring
  simp only [Basin.holds, hpoint, hden, hhigh] at h
  rw [hbelow] at hlow
  split at h
  · next hclosed =>
    simp only [Bool.and_eq_true, decide_eq_true_eq] at h
    refine ⟨by omega, h.2, .inl ?_⟩
    exact beq_iff_eq.mp hclosed
  · simp only [Bool.and_eq_true, decide_eq_true_eq] at h
    refine ⟨by omega, by omega, .inr ⟨?_, by omega⟩⟩
    split at hlow <;> omega

theorem ofDecimal?_of_nearest {bits significand shift n places : Nat} {negative : Bool}
    (hprecision : 0 < format.precision)
    (hbits : bits < 2 * (format.hidden * (format.topExponent + 1)))
    (hdatum : format.decode bits = .finite negative significand shift)
    (h : format.nearest (n * twoTo format.unitPower) (tenTo places) = significand * twoTo shift) :
    format.ofDecimal? negative n places = some bits := by
  have hcanonical := Format.canonical_of_decode hdatum
  have hlimit : significand * twoTo shift
      < 2 * format.hidden * twoTo (format.topExponent - 2) :=
    Nat.mul_lt_mul_of_lt_of_le hcanonical.significand_lt
      (Nat.pow_le_pow_right (by decide) hcanonical.shift_le) (twoTo_pos _)
  simp only [Format.ofDecimal?, h, if_pos hlimit,
    Format.encode_of_decode hprecision hbits hdatum]

/-- The shortest decimal of a datum is read back as the datum. -/
theorem ofDecimal?_shortest {bits significand shift : Nat} {negative : Bool}
    (hprecision : 0 < format.precision)
    (hbits : bits < 2 * (format.hidden * (format.topExponent + 1)))
    (hdatum : format.decode bits = .finite negative significand shift) (hpos : significand ≠ 0) :
    let found := (Basin.of format significand shift).shortest format
    format.ofDecimal? negative (found.1 * tenTo found.2.toNat) (-found.2).toNat = some bits := by
  apply ofDecimal?_of_nearest hprecision hbits hdatum
  have hnear := near_of_holds hpos (Basin.shortest_holds format hpos shift)
  exact hnear.nearest_eq (Format.canonical_of_decode hdatum) hprecision (tenTo_pos _)

theorem ofDecimal?_zero {bits shift : Nat} {negative : Bool} (hprecision : 0 < format.precision)
    (hbits : bits < 2 * (format.hidden * (format.topExponent + 1)))
    (hdatum : format.decode bits = .finite negative 0 shift) :
    format.ofDecimal? negative 0 0 = some bits := by
  apply ofDecimal?_of_nearest hprecision hbits hdatum
  have hround : ∀ den, roundHalfEven 0 den = 0 := by simp [roundHalfEven]
  simp only [Format.nearest, Nat.zero_mul, hround]

end ObservationSql.Decimal
