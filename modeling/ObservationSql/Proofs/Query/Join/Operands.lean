import ObservationSql.Proofs.Decimal.Numeral
import ObservationSql.Proofs.Filter.Operand
import ObservationSql.Proofs.Query.Join.Invariant
import ObservationSql.Query.Join.Clauses

namespace ObservationSql

open Binary Calendar Sql

namespace Sql

/-- The literal of one scalar: a decimal numeral, a text between quotes or an instant. -/
inductive IsScalar (dialect : Dialect) : String → Prop where
  | numeral {text : String} (h : Decimal.Numeral text.toList) : IsScalar dialect text
  | quoted (text : String) : IsScalar dialect (quote text)
  | instant (time : Timestamp) : IsScalar dialect (timestampLiteral time dialect)

/-- The operand of a comparison: the literal of one scalar or a list of at least one of them. -/
inductive IsOperand (dialect : Dialect) : String → Prop where
  | scalar {text : String} (h : IsScalar dialect text) : IsOperand dialect text
  | list {first : String} {rest : List String} (h : ∀ text ∈ first :: rest, IsScalar dialect text) :
      IsOperand dialect ("(" ++ Text.joinWith "," (first :: rest) ++ ")")

/-- The text that a pattern is made of: that of a scalar without quotes around it. -/
inductive IsContent : Value → String → Prop where
  | numeral {kind : ScalarKind} {item : kind.Carrier}
      (h : Decimal.Numeral (plainScalar kind item).toList) :
      IsContent (.scalar kind item) (plainScalar kind item)
  | text (text : String) : IsContent (.string text) text
  | instant (time : Timestamp) : IsContent (.timestamp time) (time.text " ")

/-- The texts of no value, of numbers that are not finite and of a list without items. -/
def voids : List String :=
  ["NULL", "NaN", "inf", "-inf", "()"]

section

variable {dialect : Dialect} {text : String}

theorem not_mem_voids_of_head? {c : Char} (htext : text.toList.head? = some c)
    (hc : some c ∉ voids.map fun void => void.toList.head?) : text ∉ voids := by
  intro hmem
  rw [← htext] at hc
  exact hc (List.mem_map_of_mem hmem)

theorem IsScalar.not_mem_voids (h : IsScalar dialect text) : text ∉ voids := by
  cases h with
  | numeral h =>
      have hvoids : ∀ void ∈ voids, void.toList.all Decimal.isNumeral = false := by decide
      intro hmem
      have hother := hvoids text hmem
      rw [List.all_eq_true.mpr h.forall_mem] at hother
      nomatch hother
  | quoted text => exact not_mem_voids_of_head? (c := '\'') (by simp [quote]) (by decide)
  | instant time =>
      cases dialect with
      | oracle => exact not_mem_voids_of_head? (c := 'T') (by simp [timestampLiteral]) (by decide)
      | postgresql =>
          exact not_mem_voids_of_head? (c := '\'') (by simp [timestampLiteral]) (by decide)

theorem IsScalar.ne_empty (h : IsScalar dialect text) : text ≠ "" := by
  cases h with
  | numeral h =>
      rintro rfl
      exact h.ne_nil rfl
  | quoted text => simp [quote]
  | instant time => cases dialect <;> simp [timestampLiteral]

theorem joinWith_ne_empty {separator first : String} (h : first ≠ "") (rest : List String) :
    Text.joinWith separator (first :: rest) ≠ "" := by
  cases rest with
  | nil => exact h
  | cons next rest => simp [Text.joinWith, h]

theorem IsOperand.not_mem_voids (h : IsOperand dialect text) : text ∉ voids := by
  cases h with
  | scalar h => exact h.not_mem_voids
  | @list first rest h =>
      -- only the list without items begins as a list does
      have hvoids : ∀ void ∈ voids, void.toList.head? = some '(' → void = "()" := by decide
      intro hmem
      have hempty := hvoids _ hmem (by simp)
      have hjoined : Text.joinWith "," (first :: rest) = "" := by
        have hlist := congrArg String.toList hempty
        simpa using hlist
      exact joinWith_ne_empty (h first List.mem_cons_self).ne_empty rest hjoined

theorem isScalar_renderScalar {kind : ScalarKind} {item : kind.Carrier}
    (h : kind.isFinite item = true) : IsScalar dialect (renderScalar dialect kind item) := by
  cases kind with
  | integer width => exact .numeral (Decimal.numeral_ofInt _)
  | float => exact .numeral (Decimal.numeral_shortest h _)
  | double => exact .numeral (Decimal.numeral_shortest h _)
  | string => exact .quoted item
  | timestamp => exact .instant item

theorem isOperand_render {literal : Value} (hpresent : literal ≠ .empty)
    (hfinite : literal.AllFinite) (hfilled : ∀ kind, literal ≠ .list kind []) :
    IsOperand dialect (render dialect literal) := by
  have hfinite := Value.isFinite_iff.mpr hfinite
  cases literal with
  | scalar kind item => exact .scalar (isScalar_renderScalar hfinite)
  | list kind items =>
      obtain ⟨first, rest, rfl⟩ := List.exists_cons_of_ne_nil fun hnil => hfilled kind (hnil ▸ rfl)
      refine .list fun text htext => ?_
      rw [← List.map_cons] at htext
      obtain ⟨item, hitem, rfl⟩ := List.mem_map.mp htext
      exact isScalar_renderScalar (List.all_eq_true.mp hfinite item hitem)
  | empty => exact absurd rfl hpresent

theorem isContent_plainScalar {kind : ScalarKind} {item : kind.Carrier}
    (h : kind.isFinite item = true) :
    IsContent (.scalar kind item) (plainText (.scalar kind item)) := by
  cases kind with
  | integer width => exact .numeral (Decimal.numeral_ofInt _)
  | float => exact .numeral (Decimal.numeral_shortest h _)
  | double => exact .numeral (Decimal.numeral_shortest h _)
  | string => exact .text item
  | timestamp => exact .instant item

end

end Sql

namespace Predicate

/-- A predicate about a column as it is written, if it is no null test. A range is the text of its
literal as the caller gave it. -/
inductive Written (column : String) (dialect : Dialect) (predicate : Predicate) : String → Prop where
  | comparison
      (hexpected : predicate.operator.expected? = none ∨
        predicate.operator.expected? = some .list)
      (hoperand : IsOperand dialect (render dialect predicate.literal)) :
      Written column dialect predicate
        (column ++ " " ++ predicate.operator.token ++ " " ++ render dialect predicate.literal)
  | pattern {content : String} (hoperator : predicate.operator = .isLike)
      (hcontent : IsContent predicate.literal content) :
      Written column dialect predicate (column ++ " LIKE '%" ++ content ++ "%'")
  | range {text : String} (hoperator : predicate.operator = .isBetween)
      (hliteral : predicate.literal = .string text) :
      Written column dialect predicate (column ++ " BETWEEN " ++ text)
  | step {kind : IntegerKind} {step : kind.Number} {divisor : Nat}
      (hoperator : predicate.operator = .minuteStep)
      (hliteral : predicate.literal = .integer kind step) (hstep : step.value = divisor)
      (hdivisor : 1 ≤ divisor) :
      Written column dialect predicate
        ("MOD(" ++ minuteOfDay column dialect ++ "," ++ Decimal.ofNat divisor ++ ") = 0")

theorem plainText_step {kind : IntegerKind} {step : kind.Number} (h : 0 < step.value) :
    plainText (.integer kind step) = Decimal.ofNat step.value.toNat := by
  have habs : step.value.natAbs = step.value.toNat := by omega
  rw [← habs]
  exact if_neg (by omega)

theorem written {predicate : Predicate} (hoperator : predicate.operator.isNullTest = false)
    (h : Takes predicate.operator predicate.literal) (qualifier : String) (dialect : Dialect) :
    Written (qualifier ++ "." ++ predicate.field) dialect predicate
      (predicate.toSql qualifier dialect) := by
  obtain ⟨operator, field, literal⟩ := predicate
  have hoperand : IsOperand dialect (render dialect literal) :=
    isOperand_render h.present h.finite h.filled
  cases operator with
  | isNull | isNotNull => nomatch hoperator
  | isLike =>
      obtain ⟨kind, item, rfl⟩ := h.expected .scalar rfl
      exact .pattern rfl (isContent_plainScalar (Value.isFinite_iff.mpr h.finite))
  | isBetween =>
      obtain ⟨text, rfl⟩ := h.expected .string rfl
      exact .range rfl rfl
  | minuteStep =>
      obtain ⟨kind, step, rfl⟩ := h.expected .integer rfl
      have hstep := h.positive rfl kind step rfl
      unfold toSql
      simp only [plainText_step hstep]
      exact .step rfl rfl (Int.toNat_of_nonneg (Int.le_of_lt hstep)).symm (by omega)
  | isIn | isNotIn => exact .comparison (.inr rfl) hoperand
  | _ => exact .comparison (.inl rfl) hoperand

end Predicate

/-- A predicate is built of a null test or of an operator and a literal that it takes, and otherwise
the first thing that is wrong with the literal is what it is refused for. So the predicates of a
query are written with operands that stand for values, whatever alias and dialect they are written
with. -/
theorem JoinQuery.predicates_written :
    (∀ operator field literal predicate,
      Predicate.build operator field literal = .ok predicate ↔
        predicate = ⟨operator, field, literal⟩ ∧
          (operator.isNullTest = true ∨ Predicate.Takes operator literal)) ∧
      (∀ operator field literal fault,
        Predicate.build operator field literal = .error fault ↔
          operator.isNullTest = false ∧ Predicate.Refuses operator literal fault) ∧
      (∀ primary calls, ∀ group ∈ ((ofPrimary primary).run calls).groups,
        ∀ filed ∈ group.predicates, filed.predicate.operator.isNullTest = false →
          ∀ qualifier dialect,
            Predicate.Written (qualifier ++ "." ++ filed.predicate.field) dialect filed.predicate
              (filed.predicate.toSql qualifier dialect)) ∧
      ∀ dialect operand, IsOperand dialect operand → operand ∉ voids := by
  refine ⟨fun _ _ _ _ => Predicate.build_eq_ok_iff, fun _ _ _ _ => Predicate.build_eq_error_iff,
    fun primary calls group hgroup filed hfiled hoperator qualifier dialect => ?_,
    fun _ _ hoperand => hoperand.not_mem_voids⟩
  have hformed := (wellFormed_ofPrimary primary).run calls
  have hchecked := hformed.predicates_checked group hgroup filed hfiled
  exact Predicate.written hoperator (Predicate.takes_of_checkOperand hoperator hchecked) qualifier
    dialect

end ObservationSql
