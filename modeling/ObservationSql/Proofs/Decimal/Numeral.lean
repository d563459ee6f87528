import ObservationSql.Decimal.Shortest

namespace ObservationSql.Decimal

open ObservationSql.Binary

/-- Whether a character stands in numerals: a digit, a minus sign or a point. -/
def isNumeral (c : Char) : Bool :=
  c.isDigit || c == '-' || c == '.'

/-- The texts that numbers are written as. -/
structure Numeral (text : List Char) : Prop where
  ne_nil : text ≠ []
  forall_mem : ∀ c ∈ text, isNumeral c = true

theorem Numeral.append {text rest : List Char} (htext : Numeral text)
    (hrest : ∀ c ∈ rest, isNumeral c = true) : Numeral (text ++ rest) where
  ne_nil := List.append_ne_nil_of_left_ne_nil htext.ne_nil rest
  forall_mem := by
    intro c hc
    rcases List.mem_append.mp hc with hc | hc
    · exact htext.forall_mem c hc
    · exact hrest c hc

theorem Numeral.minus {text : List Char} (h : Numeral text) : Numeral ('-' :: text) where
  ne_nil := List.cons_ne_nil '-' text
  forall_mem := by
    intro c hc
    rcases List.mem_cons.mp hc with rfl | hc
    · rfl
    · exact h.forall_mem c hc

theorem Numeral.sign {text : List Char} (h : Numeral text) (negative : Bool) :
    Numeral (sign negative ++ text) := by
  cases negative with
  | false => exact h
  | true => exact h.minus

theorem isNumeral_replicate_zero {count : Nat} :
    ∀ c ∈ List.replicate count '0', isNumeral c = true := by
  intro c hc
  rw [List.eq_of_mem_replicate hc]
  rfl

theorem numeral_digits (n : Nat) : Numeral (digits n) where
  ne_nil := Nat.toDigits_ne_nil
  forall_mem := by
    intro c hc
    have hdigit : c.isDigit = true := Nat.isDigit_of_mem_toDigits (by decide) (by decide) hc
    rw [isNumeral, hdigit]
    rfl

theorem isNumeral_paddedDigits {width n : Nat} :
    ∀ c ∈ paddedDigits width n, isNumeral c = true := by
  intro c hc
  rcases List.mem_append.mp hc with hc | hc
  · exact isNumeral_replicate_zero c hc
  · exact (numeral_digits n).forall_mem c hc

theorem numeral_withPoint (n places : Nat) : Numeral (withPoint n places) := by
  unfold withPoint
  split
  · exact numeral_digits n
  · refine ⟨by simp, ?_⟩
    intro c hc
    rcases List.mem_append.mp hc with hc | hc
    · exact isNumeral_paddedDigits c (List.mem_of_mem_take hc)
    · rcases List.mem_cons.mp hc with rfl | hc
      · rfl
      · exact isNumeral_paddedDigits c (List.mem_of_mem_drop hc)

theorem numeral_positional (count : Nat) (exponent : Int) : Numeral (positional count exponent) := by
  unfold positional
  split
  · exact numeral_withPoint count exponent.natAbs
  · exact (numeral_digits count).append isNumeral_replicate_zero

theorem numeral_shortestSize (format : Format) (significand shift : Nat) :
    Numeral (shortestSize format significand shift) := by
  unfold shortestSize
  split
  · exact numeral_digits 0
  · exact numeral_positional _ _

theorem numeral_shortest {datum : Datum} (h : datum.isFinite = true) (format : Format) :
    Numeral (shortest format datum).toList := by
  cases datum with
  | nan => exact absurd h (by decide)
  | infinite negative => exact absurd h (by simp [Datum.isFinite])
  | finite negative significand shift =>
      rw [shortest, String.toList_ofList]
      exact (numeral_shortestSize format significand shift).sign negative

theorem numeral_ofNat (n : Nat) : Numeral (ofNat n).toList := by
  rw [ofNat, String.toList_ofList]
  exact numeral_digits n

theorem numeral_ofInt (n : Int) : Numeral (ofInt n).toList := by
  unfold ofInt
  split
  · rw [String.toList_append]
    exact (numeral_ofNat n.natAbs).minus
  · exact numeral_ofNat n.natAbs

end ObservationSql.Decimal
