import ObservationSql.Decimal.Shortest
import ObservationSql.Proofs.Binary.Format
import Mathlib.Tactic.Ring

namespace ObservationSql.Decimal

open ObservationSql.Binary

theorem tenTo_pos (exponent : Nat) : 0 < tenTo exponent :=
  Nat.pow_pos (by decide)

theorem tenTo_zero : tenTo 0 = 1 :=
  rfl

theorem tenTo_eq_twoTo_mul (exponent : Nat) : tenTo exponent = twoTo exponent * 5 ^ exponent :=
  Nat.mul_pow 2 5 exponent

namespace Basin

theorem holds_of_lt {basin : Basin} {count : Nat} {exponent : Int}
    (hlow : basin.low * tenTo (-exponent).toNat < count * tenTo exponent.toNat * basin.scale)
    (hhigh : count * tenTo exponent.toNat * basin.scale < basin.high * tenTo (-exponent).toNat) :
    basin.holds count exponent = true := by
  unfold holds
  split
  · simp only [Bool.and_eq_true, decide_eq_true_eq]
    exact ⟨Nat.le_of_lt hlow, Nat.le_of_lt hhigh⟩
  · simp only [Bool.and_eq_true, decide_eq_true_eq]
    exact ⟨hlow, hhigh⟩

theorem holds_of_onGrid? {basin : Basin} {count : Nat} {exponent : Int}
    (h : basin.onGrid? exponent = some count) : basin.holds count exponent = true := by
  simp only [onGrid?] at h
  split at h
  · next hunder hover =>
    injection h with h
    subst h
    split
    · exact hunder
    · exact hover
  · next hunder _ =>
    injection h with h
    subst h
    exact hunder
  · next _ hover =>
    injection h with h
    subst h
    exact hover
  · exact absurd h (by simp)

theorem search_holds {basin : Basin} {steps : Nat} {exponent : Int}
    (h : basin.onGrid? (exponent - steps) ≠ none) :
    basin.holds (basin.search steps exponent).1 (basin.search steps exponent).2 = true := by
  induction steps generalizing exponent with
  | zero =>
      rw [Nat.cast_zero, Int.sub_zero] at h
      obtain ⟨count, hcount⟩ := Option.ne_none_iff_exists'.mp h
      rw [search, hcount]
      exact holds_of_onGrid? hcount
  | succ steps ih =>
      rw [search]
      cases hgrid : basin.onGrid? exponent with
      | some count => exact holds_of_onGrid? hgrid
      | none =>
          apply ih
          have hfinest : exponent - 1 - steps = exponent - (steps + 1 : Nat) := by
            push_cast
            ring
          rw [hfinest]
          exact h

theorem onGrid?_finest (format : Format) {significand : Nat} (hpos : significand ≠ 0)
    (shift : Nat) :
    (Basin.of format significand shift).onGrid? (-format.unitPower) ≠ none := by
  -- On the grid of the units the value itself is a point.
  let basin := Basin.of format significand shift
  have hgap := twoTo_pos shift
  have hquarters : 4 * twoTo shift ≤ 4 * significand * twoTo shift :=
    Nat.mul_le_mul_right _ (Nat.le_mul_of_pos_right 4 (Nat.pos_of_ne_zero hpos))
  have hlow : basin.low < basin.value := by
    change 4 * significand * twoTo shift - _ < 4 * significand * twoTo shift
    split <;> omega
  have hhigh : basin.value < basin.high := by
    change 4 * significand * twoTo shift < 4 * significand * twoTo shift + 2 * twoTo shift
    omega
  have hscale : 0 < basin.scale := Nat.mul_pos (by decide) (twoTo_pos format.unitPower)
  have hpower : (-(-(format.unitPower : Int))).toNat = format.unitPower := by simp
  have hzero : (-(format.unitPower : Int)).toNat = 0 := by simp
  have hpoint : significand * twoTo shift * 5 ^ format.unitPower * basin.scale
      = basin.value * tenTo format.unitPower := by
    change significand * twoTo shift * 5 ^ format.unitPower * (4 * twoTo format.unitPower)
      = 4 * significand * twoTo shift * tenTo format.unitPower
    rw [tenTo_eq_twoTo_mul]
    ring
  have hunder : basin.value * tenTo (-(-(format.unitPower : Int))).toNat
      / (basin.scale * tenTo (-(format.unitPower : Int)).toNat)
        = significand * twoTo shift * 5 ^ format.unitPower := by
    rw [hpower, hzero, tenTo_zero, Nat.mul_one, ← hpoint,
      Nat.mul_div_cancel _ hscale]
  have hholds : basin.holds (significand * twoTo shift * 5 ^ format.unitPower)
      (-format.unitPower) = true := by
    apply holds_of_lt <;> rw [hpower, hzero, tenTo_zero, Nat.mul_one, hpoint]
    · exact Nat.mul_lt_mul_of_pos_right hlow (tenTo_pos _)
    · exact Nat.mul_lt_mul_of_pos_right hhigh (tenTo_pos _)
  change basin.onGrid? _ ≠ none
  simp only [onGrid?, hunder, hholds]
  split <;> simp_all

theorem shortest_holds (format : Format) {significand : Nat} (hpos : significand ≠ 0)
    (shift : Nat) :
    (Basin.of format significand shift).holds
      ((Basin.of format significand shift).shortest format).1
      ((Basin.of format significand shift).shortest format).2 = true := by
  apply search_holds
  rw [Nat.cast_add, sub_add_cancel_left]
  exact onGrid?_finest format hpos shift

end Basin

end ObservationSql.Decimal
