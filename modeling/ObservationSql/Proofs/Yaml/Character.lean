import Mathlib
import ObservationSql.Yaml.Writer

namespace ObservationSql.Yaml

theorem isReadable_of_isPrintable {c : Char} (h : isPrintable c = true) : isReadable c = true := by
  simp only [isPrintable, isReadable, Bool.or_eq_true, Bool.and_eq_true] at h ⊢
  tauto

theorem unifyBreaks_of_isPrintable {text : List Char} (h : ∀ c ∈ text, isPrintable c = true) :
    unifyBreaks text = text := by
  fun_induction unifyBreaks text with
  | case1 => rfl
  | case2 rest => exact absurd (h '\r' List.mem_cons_self) (by decide)
  | case3 c rest _ ih =>
      rw [List.forall_mem_cons] at h
      rw [ih h.2, if_neg]
      rintro (rfl | rfl)
      · exact absurd h.1 (by decide)
      · exact absurd h.1 (by decide)

theorem isBlank_of_isPrintable {c : Char} (h : isPrintable c = true) :
    isBlank c = (c == ' ') := by
  have htab : c ≠ '\t' := by
    rintro rfl
    exact absurd h (by decide)
  rw [isBlank, beq_false_of_ne htab, Bool.or_false]

theorem eq_nil_or_getLast?_eq_space {blanks : List Char} (h : ∀ c ∈ blanks, c = ' ') :
    blanks = [] ∨ blanks.getLast? = some ' ' := by
  cases hlast : blanks.getLast? with
  | none => exact .inl (List.getLast?_eq_none_iff.mp hlast)
  | some c => exact .inr (congrArg some (h c (List.mem_of_getLast? hlast)))

theorem hasPair_eq_false_iff {first second : Char → Bool} {text : List Char} :
    hasPair first second text = false ↔
      text.IsChain fun c d => first c = true → second d = false := by
  induction text with
  | nil => simp [hasPair]
  | cons c rest ih =>
      cases rest with
      | nil => simp [hasPair]
      | cons d rest =>
          rw [hasPair, Bool.or_eq_false_iff, ih, List.isChain_cons_cons, Bool.and_eq_false_imp]

theorem foldl_past (text : List Char) (mark : Mark) :
    text.foldl Mark.past mark =
      { mark with
        column := mark.column + text.length
        octet := mark.octet + (text.map Char.utf8Size).sum } := by
  induction text generalizing mark with
  | nil => rfl
  | cons c rest ih =>
      rw [List.foldl_cons, ih, List.length_cons, List.map_cons, List.sum_cons]
      simp only [Mark.past, Nat.add_assoc, Nat.add_comm 1]

/-! ### Letters and digits -/

section Alphanumeric

variable {c : Char}

theorem ne_of_isAlphanum {d : Char} (hc : c.isAlphanum = true) (hd : d.isAlphanum = false) :
    c ≠ d := by
  rintro rfl
  rw [hc] at hd
  exact absurd hd (by decide)

theorem isBreak_of_isAlphanum (h : c.isAlphanum = true) : isBreak c = false := by
  simp only [isBreak, Bool.or_eq_false_iff, beq_eq_false_iff_ne]
  exact ⟨⟨ne_of_isAlphanum h rfl, ne_of_isAlphanum h rfl⟩, ne_of_isAlphanum h rfl⟩

theorem isBlank_of_isAlphanum (h : c.isAlphanum = true) : isBlank c = false := by
  simp only [isBlank, Bool.or_eq_false_iff, beq_eq_false_iff_ne]
  exact ⟨ne_of_isAlphanum h rfl, ne_of_isAlphanum h rfl⟩

theorem isPrintable_of_isAlphanum (h : c.isAlphanum = true) : isPrintable c = true := by
  have hrange : 0x20 ≤ c.toNat ∧ c.toNat ≤ 0x7E := by
    simp only [Char.isAlphanum, Char.isAlpha, Char.isUpper, Char.isLower, Char.isDigit,
      Bool.or_eq_true, Bool.and_eq_true, decide_eq_true_eq, ge_iff_le, UInt32.le_iff_toNat_le] at h
    simp only [Char.toNat]
    grind
  simp [isPrintable, hrange]

theorem isIndicator_of_isAlphanum (h : c.isAlphanum = true) : isIndicator c = false := by
  let indicators := [',', '[', ']', '{', '}'] ++ "#&*!|>'\"%@`".toList
  have hnone : indicators.any Char.isAlphanum = false := by decide
  have hother : ∀ d ∈ indicators, c ≠ d := fun d hd =>
    ne_of_isAlphanum h (Bool.eq_false_iff.mpr (List.any_eq_false.mp hnone d hd))
  simpa [indicators, isIndicator, isFlowIndicator, and_assoc] using hother

theorem atDocumentMark_of_isAlphanum (h : c.isAlphanum = true) (rest : List Char) :
    atDocumentMark (c :: rest) = false := by
  unfold atDocumentMark
  split
  case h_1 heq => exact absurd (List.cons.inj heq).1 (ne_of_isAlphanum h rfl)
  case h_2 heq => exact absurd (List.cons.inj heq).1 (ne_of_isAlphanum h rfl)
  case h_3 => rfl

end Alphanumeric

/-- Whether a text is at its end or at the start of a key. -/
def AtEntry (text : List Char) : Prop :=
  ∀ c ∈ text.head?, c.isAlphanum = true

end ObservationSql.Yaml
