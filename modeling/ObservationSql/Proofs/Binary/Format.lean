import ObservationSql.Binary.Format

namespace ObservationSql.Binary

theorem twoTo_pos (exponent : Nat) : 0 < twoTo exponent :=
  Nat.pow_pos (by decide)

theorem twoTo_zero : twoTo 0 = 1 :=
  rfl

theorem twoTo_add (a b : Nat) : twoTo (a + b) = twoTo a * twoTo b :=
  Nat.pow_add 2 a b

theorem twoTo_succ (exponent : Nat) : twoTo (exponent + 1) = 2 * twoTo exponent := by
  rw [Nat.add_comm, twoTo_add]
  rfl

namespace Format

variable {format : Format}

theorem hidden_pos (format : Format) : 0 < format.hidden :=
  twoTo_pos _

theorem two_mul_hidden (hprecision : 0 < format.precision) :
    2 * format.hidden = twoTo format.precision := by
  rw [hidden, ← twoTo_succ, Nat.sub_add_cancel hprecision]

/-- What every finite datum of a format meets: only those of the lowest exponent do without the
hidden bit. -/
structure Canonical (format : Format) (significand shift : Nat) : Prop where
  significand_lt : significand < 2 * format.hidden
  hidden_le : shift ≠ 0 → format.hidden ≤ significand
  shift_le : shift ≤ format.topExponent - 2

/-- The exponent of two that spreads the significands over numbers of this size. -/
def binade (format : Format) (units : Nat) : Nat :=
  units.log2 + 1 - format.precision

theorem binade_mul_twoTo_le (hprecision : 0 < format.precision) {significand : Nat}
    (h : significand < 2 * format.hidden) (shift : Nat) :
    format.binade (significand * twoTo shift) ≤ shift := by
  rw [two_mul_hidden hprecision] at h
  -- a zero has no highest bit to count from
  rcases Nat.eq_zero_or_pos significand with rfl | hpos
  · rw [Nat.zero_mul, binade, Nat.log2_zero]
    omega
  · have hunits : significand * twoTo shift ≠ 0 :=
      Nat.mul_ne_zero (Nat.ne_of_gt hpos) (Nat.ne_of_gt (twoTo_pos shift))
    have hsize : significand * twoTo shift < twoTo (format.precision + shift) := by
      rw [twoTo_add]
      exact Nat.mul_lt_mul_of_pos_right h (twoTo_pos shift)
    have hlog : (significand * twoTo shift).log2 < format.precision + shift :=
      (Nat.log2_lt hunits).mpr hsize
    rw [binade]
    omega

theorem binade_of_lt (hprecision : 0 < format.precision) {units : Nat}
    (h : units < 2 * format.hidden) : format.binade units = 0 := by
  have hle := binade_mul_twoTo_le hprecision h 0
  rw [twoTo_zero, Nat.mul_one] at hle
  exact Nat.eq_zero_of_le_zero hle

theorem binade_eq (hprecision : 0 < format.precision) {units shift : Nat}
    (hlow : format.hidden * twoTo shift ≤ units)
    (hhigh : units < 2 * format.hidden * twoTo shift) : format.binade units = shift := by
  rw [two_mul_hidden hprecision, ← twoTo_add] at hhigh
  rw [hidden, ← twoTo_add] at hlow
  have hunits : units ≠ 0 := by
    have := twoTo_pos (format.precision - 1 + shift)
    omega
  have hlog : units.log2 = format.precision - 1 + shift := by
    refine (Nat.log2_eq_iff hunits).mpr ⟨hlow, ?_⟩
    have hexponent : format.precision - 1 + shift + 1 = format.precision + shift := by omega
    rw [hexponent]
    exact hhigh
  rw [binade, hlog]
  omega

theorem Canonical.binade_eq {significand shift : Nat} (h : format.Canonical significand shift)
    (hprecision : 0 < format.precision) :
    format.binade (significand * twoTo shift) = shift := by
  by_cases hshift : shift = 0
  · subst hshift
    apply binade_of_lt hprecision
    rw [twoTo_zero, Nat.mul_one]
    exact h.significand_lt
  · exact Format.binade_eq hprecision (Nat.mul_le_mul_right _ (h.hidden_le hshift))
      (Nat.mul_lt_mul_of_pos_right h.significand_lt (twoTo_pos shift))

theorem canonical_of_decode {bits significand shift : Nat} {negative : Bool}
    (h : format.decode bits = .finite negative significand shift) :
    format.Canonical significand shift := by
  have hfraction : bits % format.hidden < format.hidden := Nat.mod_lt _ format.hidden_pos
  have hexponent : bits / format.hidden % (format.topExponent + 1) < format.topExponent + 1 :=
    Nat.mod_lt _ (Nat.succ_pos _)
  simp only [decode] at h
  split at h
  · split at h <;> simp at h
  · split at h
    · injection h with _ hsignificand hshift
      exact ⟨by omega, by omega, by omega⟩
    · injection h with _ hsignificand hshift
      exact ⟨by omega, by omega, by omega⟩

theorem eq_fields {bits : Nat} (hbits : bits < 2 * (format.hidden * (format.topExponent + 1))) :
    bits = (if bits / (format.hidden * (format.topExponent + 1)) % 2 == 1 then
        format.hidden * (format.topExponent + 1) else 0)
      + format.hidden * (bits / format.hidden % (format.topExponent + 1))
      + bits % format.hidden := by
  have hsign : bits / (format.hidden * (format.topExponent + 1)) < 2 := by
    rw [Nat.div_lt_iff_lt_mul (Nat.mul_pos format.hidden_pos (Nat.succ_pos _))]
    exact hbits
  have hlow := Nat.div_add_mod bits format.hidden
  have hhigh := Nat.div_add_mod (bits / format.hidden) (format.topExponent + 1)
  rw [Nat.div_div_eq_div_mul] at hhigh
  generalize bits / (format.hidden * (format.topExponent + 1)) = sign at hsign hhigh ⊢
  rw [← hhigh, Nat.mul_add, ← Nat.mul_assoc] at hlow
  rcases Nat.lt_succ_iff_lt_or_eq.mp hsign with hzero | rfl
  · obtain rfl : sign = 0 := by omega
    simpa using hlow.symm
  · simpa using hlow.symm

theorem encode_of_decode (hprecision : 0 < format.precision) {bits significand shift : Nat}
    {negative : Bool} (hbits : bits < 2 * (format.hidden * (format.topExponent + 1)))
    (h : format.decode bits = .finite negative significand shift) :
    format.encode negative (significand * twoTo shift) = bits := by
  have hcanonical := canonical_of_decode h
  have hbinade := hcanonical.binade_eq hprecision
  have hfields := eq_fields hbits
  simp only [decode] at h
  split at h
  · split at h <;> simp at h
  · split at h
    · next hexponent =>
      injection h with hnegative hsignificand hshift
      subst hnegative hsignificand hshift
      have hunits : bits % format.hidden * twoTo 0 = bits % format.hidden := Nat.mul_one _
      rw [hexponent, Nat.mul_zero, Nat.add_zero] at hfields
      rw [hunits, encode, if_pos (Nat.mod_lt _ format.hidden_pos)]
      exact hfields.symm
    · next hexponent =>
      injection h with hnegative hsignificand hshift
      subst hnegative hsignificand
      have hunits : ¬ (format.hidden + bits % format.hidden) * twoTo shift < format.hidden := by
        have := Nat.le_mul_of_pos_right (format.hidden + bits % format.hidden) (twoTo_pos shift)
        omega
      rw [binade] at hbinade
      rw [encode, if_neg hunits]
      simp only [hbinade, Nat.mul_div_cancel _ (twoTo_pos shift)]
      rw [← hshift, Nat.sub_add_cancel (Nat.pos_of_ne_zero hexponent), Nat.add_sub_cancel_left]
      exact hfields.symm

/-- The bits that three fields make up. -/
def pack (format : Format) (negative : Bool) (exponent fraction : Nat) : Nat :=
  (if negative then format.hidden * (format.topExponent + 1) else 0)
    + format.hidden * exponent + fraction

theorem pack_lt {exponent fraction : Nat} (negative : Bool)
    (hexponent : exponent ≤ format.topExponent) (hfraction : fraction < format.hidden) :
    format.pack negative exponent fraction < 2 * (format.hidden * (format.topExponent + 1)) := by
  have hfield := Nat.mul_le_mul_left format.hidden hexponent
  rw [pack, Nat.mul_add, Nat.mul_one]
  cases negative with
  | false => rw [if_neg Bool.false_ne_true]; omega
  | true => rw [if_pos rfl]; omega

theorem decode_pack {exponent fraction : Nat} (negative : Bool)
    (hexponent : exponent ≤ format.topExponent) (hfraction : fraction < format.hidden) :
    format.decode (format.pack negative exponent fraction) =
      if exponent = format.topExponent then
        if fraction = 0 then .infinite negative else .nan
      else if exponent = 0 then .finite negative fraction 0
      else .finite negative (format.hidden + fraction) (exponent - 1) := by
  have hpos := format.hidden_pos
  have htop : exponent < format.topExponent + 1 := Nat.lt_succ_of_le hexponent
  have hlow : format.pack negative exponent fraction
      = fraction + format.hidden * ((if negative then format.topExponent + 1 else 0) + exponent) := by
    rw [pack, Nat.add_comm fraction]
    cases negative with
    | false => rw [if_neg Bool.false_ne_true, if_neg Bool.false_ne_true, Nat.zero_add, Nat.zero_add]
    | true => rw [if_pos rfl, if_pos rfl, ← Nat.mul_add]
  have hmod : format.pack negative exponent fraction % format.hidden = fraction := by
    rw [hlow, Nat.add_mul_mod_self_left, Nat.mod_eq_of_lt hfraction]
  have hdiv : format.pack negative exponent fraction / format.hidden
      = (if negative then format.topExponent + 1 else 0) + exponent := by
    rw [hlow, Nat.add_mul_div_left _ _ hpos, Nat.div_eq_of_lt hfraction, Nat.zero_add]
  simp only [decode, ← Nat.div_div_eq_div_mul, hmod, hdiv]
  cases negative with
  | false =>
      simp [Nat.mod_eq_of_lt htop, Nat.div_eq_of_lt htop]
  | true =>
      simp [Nat.mod_eq_of_lt htop, Nat.div_eq_of_lt htop]

theorem significand_mem {units : Nat} (hprecision : 0 < format.precision)
    (hunits : format.hidden ≤ units) :
    format.hidden ≤ units / twoTo (format.binade units) ∧
      units / twoTo (format.binade units) < 2 * format.hidden := by
  have hpos : units ≠ 0 := Nat.ne_of_gt (Nat.lt_of_lt_of_le format.hidden_pos hunits)
  have hlog : format.precision - 1 ≤ units.log2 := (Nat.le_log2 hpos).mpr hunits
  have hlow : twoTo units.log2 ≤ units := Nat.log2_self_le hpos
  have hhigh : units < twoTo (units.log2 + 1) := Nat.lt_log2_self
  have hbottom : format.precision - 1 + format.binade units = units.log2 := by
    rw [binade]
    omega
  constructor
  · rw [Nat.le_div_iff_mul_le (twoTo_pos _), hidden, ← twoTo_add, hbottom]
    exact hlow
  · rw [Nat.div_lt_iff_lt_mul (twoTo_pos _), hidden, ← twoTo_succ, ← twoTo_add]
    rw [← hbottom] at hhigh
    rwa [Nat.add_right_comm] at hhigh

theorem encode_eq_pack (format : Format) (negative : Bool) (units : Nat) :
    format.encode negative units =
      if units < format.hidden then format.pack negative 0 units
      else format.pack negative (format.binade units + 1)
        (units / twoTo (format.binade units) - format.hidden) := by
  by_cases hunits : units < format.hidden
  · rw [encode, if_pos hunits, if_pos hunits]
    rfl
  · rw [encode, if_neg hunits, if_neg hunits]
    rfl

/-- Units that are a multiple of their binade are encoded without loss. -/
theorem decode_encode {units : Nat} (negative : Bool) (hprecision : 0 < format.precision)
    (hexact : twoTo (format.binade units) ∣ units)
    (hrange : format.binade units + 1 < format.topExponent) :
    format.encode negative units < 2 * (format.hidden * (format.topExponent + 1)) ∧
      ∃ significand shift, significand * twoTo shift = units ∧
        format.decode (format.encode negative units) = .finite negative significand shift := by
  rw [encode_eq_pack]
  split
  · next hunits =>
    have htop : (0 : Nat) ≠ format.topExponent := by omega
    refine ⟨pack_lt negative (Nat.zero_le _) hunits, units, 0, Nat.mul_one _, ?_⟩
    rw [decode_pack negative (Nat.zero_le _) hunits, if_neg htop, if_pos rfl]
  · next hunits =>
    obtain ⟨hlow, hhigh⟩ := significand_mem hprecision (Nat.le_of_not_lt hunits)
    have hfraction : units / twoTo (format.binade units) - format.hidden < format.hidden := by omega
    have htop : format.binade units + 1 ≠ format.topExponent := Nat.ne_of_lt hrange
    refine ⟨pack_lt negative (Nat.le_of_lt hrange) hfraction, _, _,
      Nat.div_mul_cancel hexact, ?_⟩
    rw [decode_pack negative (Nat.le_of_lt hrange) hfraction, if_neg htop,
      if_neg (Nat.succ_ne_zero _), Nat.add_sub_cancel' hlow, Nat.add_sub_cancel]

theorem decode_encode_mul_twoTo {significand shift : Nat} (negative : Bool)
    (hprecision : 0 < format.precision) (hsignificand : significand < 2 * format.hidden)
    (hshift : shift + 1 < format.topExponent) :
    format.encode negative (significand * twoTo shift)
        < 2 * (format.hidden * (format.topExponent + 1)) ∧
      ∃ significand' shift', significand' * twoTo shift' = significand * twoTo shift ∧
        format.decode (format.encode negative (significand * twoTo shift))
          = .finite negative significand' shift' := by
  have hbinade := binade_mul_twoTo_le hprecision hsignificand shift
  apply decode_encode negative hprecision
  · exact Nat.dvd_mul_left_of_dvd (Nat.pow_dvd_pow 2 hbinade) significand
  · exact Nat.lt_of_le_of_lt (Nat.succ_le_succ hbinade) hshift

end Format

end ObservationSql.Binary
