import Mathlib.Logic.Basic
import ObservationSql.Filter.Predicate

namespace ObservationSql

open Binary

namespace Value

def floats : Value → List Datum
  | scalar .float x => [Single.datum x]
  | scalar .double x => [Double.datum x]
  | list .float items => items.map Single.datum
  | list .double items => items.map Double.datum
  | _ => []

/-- No number in a value is a NaN or an infinity. -/
def AllFinite (value : Value) : Prop :=
  ∀ number ∈ value.floats, number ≠ .nan ∧ ∀ negative, number ≠ .infinite negative

theorem isFinite_datum_iff {number : Datum} :
    number.isFinite = true ↔ number ≠ .nan ∧ ∀ negative, number ≠ .infinite negative := by
  cases number <;> simp [Datum.isFinite]

theorem isFinite_iff {value : Value} : value.isFinite = true ↔ value.AllFinite := by
  simp only [AllFinite, ← isFinite_datum_iff]
  cases value with
  | scalar kind item => cases kind <;> simp [isFinite, floats, ScalarKind.isFinite]
  | list kind items =>
      cases kind with
      | float | double =>
          rw [isFinite, floats, List.all_eq_true]
          exact (List.forall_mem_map (P := fun number : Datum => number.isFinite = true)).symm
      | _ => simp [isFinite, floats, ScalarKind.isFinite]
  | empty => simp [isFinite, floats]

/-- Whether a value is what an operator expects. -/
def Meets (value : Value) : Expected → Prop
  | .literalValue => value ≠ empty
  | .list => ∃ kind items, value = list kind items
  | .integer => ∃ kind n, value = integer kind n
  | .string => ∃ text, value = string text
  | .scalar => ∃ kind item, value = scalar kind item
  | .kind exact => value.kind = exact

end Value

/-- What an operator expects of its literal, if it does not take every value. -/
def Operator.expected? : Operator → Option Expected
  | isIn | isNotIn => some .list
  | minuteStep => some .integer
  | isBetween => some .string
  | isLike => some .scalar
  | _ => none

namespace Predicate

/-- What a literal has to be for an operator that compares with it. -/
structure Takes (operator : Operator) (literal : Value) : Prop where
  present : literal ≠ .empty
  finite : literal.AllFinite
  filled : ∀ kind, literal ≠ .list kind []
  expected : ∀ expected, operator.expected? = some expected → literal.Meets expected
  positive : operator = .minuteStep →
    ∀ kind (step : IntegerKind.Number kind), literal = .integer kind step → 0 < step.value

/-- The literals that an operator does not take, each with the fault of the first thing that is
wrong with it. -/
inductive Refuses : Operator → Value → Fault → Prop where
  | missing (operator : Operator) : Refuses operator .empty (.typeMismatch .literalValue .empty)
  | notFinite {operator : Operator} {literal : Value} (h : ¬literal.AllFinite) :
      Refuses operator literal (.validation (.nonFiniteOperand operator literal))
  | emptyList (operator : Operator) (kind : ScalarKind) :
      Refuses operator (.list kind []) (.validation (.emptyListOperand operator))
  | unexpected {operator : Operator} {literal : Value} {expected : Expected}
      (hpresent : literal ≠ .empty) (hfinite : literal.AllFinite)
      (hfilled : ∀ kind, literal ≠ .list kind [])
      (hexpected : operator.expected? = some expected) (h : ¬literal.Meets expected) :
      Refuses operator literal (.typeMismatch expected literal.kind)
  | notPositive {kind : IntegerKind} {step : kind.Number} (h : step.value ≤ 0) :
      Refuses .minuteStep (.integer kind step) (.validation (.nonPositiveStep .minuteStep))

section

variable {operator : Operator} {literal : Value}

theorem checkOperand_eq_checkShape (hoperator : operator.isNullTest = false)
    (hpresent : literal ≠ .empty) (hfinite : literal.AllFinite)
    (hfilled : ∀ kind, literal ≠ .list kind []) :
    checkOperand operator literal = checkShape operator literal := by
  have hfinite := Value.isFinite_iff.mpr hfinite
  unfold checkOperand
  rw [hoperator, hfinite]
  cases literal with
  | scalar kind item => rfl
  | list kind items =>
      cases items with
      | nil => exact absurd rfl (hfilled kind)
      | cons first rest => rfl
  | empty => exact absurd rfl hpresent

theorem checkShape_of_unexpected {expected : Expected}
    (hexpected : operator.expected? = some expected) (h : ¬literal.Meets expected) :
    checkShape operator literal = .error (.typeMismatch expected literal.kind) := by
  cases operator with
  | isIn | isNotIn =>
      cases hexpected
      cases literal with
      | list kind items => exact absurd ⟨kind, items, rfl⟩ h
      | _ => rfl
  | minuteStep =>
      cases hexpected
      cases literal with
      | scalar kind item =>
          cases kind with
          | integer width => exact absurd ⟨width, item, rfl⟩ h
          | _ => rfl
      | _ => rfl
  | isBetween =>
      cases hexpected
      cases literal with
      | scalar kind item =>
          cases kind with
          | string => exact absurd ⟨item, rfl⟩ h
          | _ => rfl
      | _ => rfl
  | isLike =>
      cases hexpected
      cases literal with
      | scalar kind item => exact absurd ⟨kind, item, rfl⟩ h
      | _ => rfl
  | _ => nomatch hexpected

theorem checkShape_of_expected
    (hexpected : ∀ expected, operator.expected? = some expected → literal.Meets expected)
    (hpositive : operator = .minuteStep →
      ∀ kind (step : IntegerKind.Number kind), literal = .integer kind step → 0 < step.value) :
    checkShape operator literal = .ok () := by
  cases operator with
  | isIn | isNotIn =>
      obtain ⟨kind, items, rfl⟩ := hexpected .list rfl
      rfl
  | minuteStep =>
      obtain ⟨kind, step, rfl⟩ := hexpected .integer rfl
      exact if_pos (hpositive rfl kind step rfl)
  | isBetween =>
      obtain ⟨text, rfl⟩ := hexpected .string rfl
      rfl
  | isLike =>
      obtain ⟨kind, item, rfl⟩ := hexpected .scalar rfl
      rfl
  | _ => rfl

theorem checkOperand_of_takes (hoperator : operator.isNullTest = false)
    (h : Takes operator literal) : checkOperand operator literal = .ok () := by
  rw [checkOperand_eq_checkShape hoperator h.present h.finite h.filled]
  exact checkShape_of_expected h.expected h.positive

theorem checkOperand_of_refuses (hoperator : operator.isNullTest = false) {fault : Fault}
    (h : Refuses operator literal fault) : checkOperand operator literal = .error fault := by
  cases h with
  | missing => simp [checkOperand, hoperator, Value.isEmpty, Value.kind]
  | notFinite h =>
      have hfinite := Value.isFinite_iff.not.mpr h
      have hpresent : literal.isEmpty = false := by
        cases literal with
        | empty => exact absurd rfl hfinite
        | _ => rfl
      simp [checkOperand, hoperator, hpresent, hfinite]
  | emptyList kind => simp [checkOperand, hoperator, Value.isEmpty, Value.isFinite]
  | unexpected hpresent hfinite hfilled hexpected h =>
      rw [checkOperand_eq_checkShape hoperator hpresent hfinite hfilled]
      exact checkShape_of_unexpected hexpected h
  | notPositive h =>
      exact if_neg (Int.not_lt.mpr h)

theorem takes_of_not_refuses (h : ∀ fault, ¬Refuses operator literal fault) :
    Takes operator literal := by
  have hpresent : literal ≠ .empty := by
    rintro rfl
    exact h _ (.missing operator)
  have hfinite : literal.AllFinite := by_contra fun hinfinite => h _ (.notFinite hinfinite)
  have hfilled : ∀ kind, literal ≠ .list kind [] := by
    rintro kind rfl
    exact h _ (.emptyList operator kind)
  refine ⟨hpresent, hfinite, hfilled, fun expected hexpected => ?_, ?_⟩
  · exact by_contra fun hunmet =>
      h _ (.unexpected hpresent hfinite hfilled hexpected hunmet)
  · rintro rfl kind step rfl
    exact Int.not_le.mp fun hstep => h _ (.notPositive hstep)

theorem checkOperand_eq_ok_iff :
    checkOperand operator literal = .ok () ↔
      operator.isNullTest = true ∨ Takes operator literal := by
  cases hoperator : operator.isNullTest with
  | true => exact iff_of_true (by simp [checkOperand, hoperator]) (.inl rfl)
  | false =>
      rw [or_iff_right Bool.false_ne_true]
      refine ⟨fun h => takes_of_not_refuses fun fault hrefuses => ?_,
        checkOperand_of_takes hoperator⟩
      rw [checkOperand_of_refuses hoperator hrefuses] at h
      nomatch h

theorem checkOperand_eq_error_iff {fault : Fault} :
    checkOperand operator literal = .error fault ↔
      operator.isNullTest = false ∧ Refuses operator literal fault := by
  refine ⟨fun h => ?_, fun ⟨hoperator, hrefuses⟩ => checkOperand_of_refuses hoperator hrefuses⟩
  have hnotTaken : ¬(operator.isNullTest = true ∨ Takes operator literal) := by
    rw [← checkOperand_eq_ok_iff, h]
    exact nofun
  obtain ⟨hoperator, htakes⟩ := not_or.mp hnotTaken
  have hoperator := Bool.not_eq_true _ ▸ hoperator
  obtain ⟨other, hrefuses⟩ : ∃ other, Refuses operator literal other :=
    by_contra fun hnone => htakes (takes_of_not_refuses (not_exists.mp hnone))
  rw [checkOperand_of_refuses hoperator hrefuses] at h
  rw [← Except.error.inj h]
  exact ⟨hoperator, hrefuses⟩

theorem takes_of_checkOperand (hoperator : operator.isNullTest = false)
    (h : checkOperand operator literal = .ok ()) : Takes operator literal :=
  (checkOperand_eq_ok_iff.mp h).resolve_left (Bool.eq_false_iff.mp hoperator)

theorem build_eq_ok_iff {field : String} {predicate : Predicate} :
    build operator field literal = .ok predicate ↔
      predicate = ⟨operator, field, literal⟩ ∧
        (operator.isNullTest = true ∨ Takes operator literal) := by
  rw [← checkOperand_eq_ok_iff, build]
  cases checkOperand operator literal <;> simp [bind, Except.bind, pure, Except.pure, eq_comm]

theorem build_eq_error_iff {field : String} {fault : Fault} :
    build operator field literal = .error fault ↔
      operator.isNullTest = false ∧ Refuses operator literal fault := by
  rw [← checkOperand_eq_error_iff, build]
  cases checkOperand operator literal <;> simp [bind, Except.bind, pure, Except.pure]

end

end Predicate

end ObservationSql
