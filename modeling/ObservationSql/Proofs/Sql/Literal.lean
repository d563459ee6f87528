import ObservationSql.Proofs.Decimal.Numeral
import ObservationSql.Proofs.Sql.Scanner
import ObservationSql.Sql.Literal

namespace ObservationSql.Scanner

open Sql Calendar Decimal

theorem isInert_of_isNumeral {c : Char} (h : isNumeral c = true) :
    isInert c = true ∧ c ≠ 'a' ∧ c ≠ 'o' := by
  have hrange : c = '-' ∨ c = '.' ∨ 48 ≤ c.toNat ∧ c.toNat ≤ 57 := by
    simp only [isNumeral, Char.isDigit, Bool.or_eq_true, Bool.and_eq_true, decide_eq_true_eq,
      beq_iff_eq] at h
    rcases h with (⟨hlow, hhigh⟩ | hc) | hc
    · exact .inr (.inr ⟨hlow, hhigh⟩)
    · exact .inl hc
    · exact .inr (.inl hc)
  rcases hrange with rfl | rfl | ⟨hlow, hhigh⟩
  · decide
  · decide
  · have hne : ∀ d : Char, d.toNat < 48 ∨ 57 < d.toNat → c ≠ d := by
      rintro d hd rfl
      omega
    have hblank : Text.isBlank c = false := by
      simp [Text.isBlank, Text.blankRanges]
      omega
    refine ⟨?_, hne 'a' (by decide), hne 'o' (by decide)⟩
    simp [isInert, hblank, hne '\'' (by decide), hne '(' (by decide), hne ')' (by decide)]

theorem passes_numeral {text : String} (h : Numeral text.toList) (depth : Nat)
    (afterBlank : Bool) : Passes text (depth, afterBlank) (depth, false) := by
  cases htext : text.toList with
  | nil => exact absurd htext h.ne_nil
  | cons c rest =>
      rw [htext] at h
      obtain ⟨hinert, hletter⟩ := isInert_of_isNumeral (h.forall_mem c (by simp))
      have hread := Position.read_inert hinert depth afterBlank fun _ => hletter
      apply passes_of_code htext
      rw [List.foldlM_cons, hread]
      exact foldlM_read_inert (fun d hd =>
        (isInert_of_isNumeral (h.forall_mem d (List.mem_cons_of_mem _ hd))).1) depth

theorem passes_shortest (format : Binary.Format) (datum : Binary.Datum) (depth : Nat)
    (afterBlank : Bool) : Passes (shortest format datum) (depth, afterBlank) (depth, false) := by
  cases datum with
  | nan =>
      change Passes "NaN" _ _
      exact passes_of_code rfl rfl
  | infinite negative =>
      cases negative with
      | false =>
          change Passes "inf" _ _
          exact passes_of_code rfl rfl
      | true =>
          change Passes "-inf" _ _
          exact passes_of_code rfl rfl
  | finite negative significand shift =>
      apply passes_numeral
      rw [shortest, String.toList_ofList]
      exact (numeral_shortestSize format significand shift).sign negative

theorem read_doubleQuotes (text : List Char) (depth : Nat) :
    (doubleQuotes text).foldlM Position.read ⟨⟨.literal, depth⟩, false⟩
      = some ⟨⟨.literal, depth⟩, false⟩ := by
  induction text with
  | nil => rfl
  | cons c rest ih =>
      rw [doubleQuotes]
      split
      · exact ih
      · have hread : Position.read ⟨⟨.literal, depth⟩, false⟩ c
            = some ⟨⟨.literal, depth⟩, false⟩ := by
          simp [Position.read, Place.read, Place.isTop, *]
        rw [List.foldlM_cons, hread]
        exact ih

theorem passes_quote (text : String) (depth : Nat) (afterBlank : Bool) :
    Passes (quote text) (depth, afterBlank) (depth, false) := by
  intro mode hmode
  have hopen : Position.read ⟨⟨mode, depth⟩, afterBlank⟩ '\''
      = some ⟨⟨.literal, depth⟩, false⟩ := Position.read_eq_code hmode depth afterBlank '\''
  refine ⟨.quote, by simp, ?_⟩
  rw [quote, String.toList_ofList, List.cons_append, List.foldlM_cons, hopen, Option.bind_eq_bind,
    Option.bind_some, List.foldlM_append, read_doubleQuotes]
  rfl

theorem doubleQuotes_eq_self {text : List Char} (h : '\'' ∉ text) : doubleQuotes text = text := by
  induction text with
  | nil => rfl
  | cons c rest ih =>
      rw [List.mem_cons, not_or] at h
      rw [doubleQuotes, if_neg (Ne.symm h.1), ih h.2]

theorem quote_eq_of_not_mem {text : String} (h : '\'' ∉ text.toList) :
    quote text = "'" ++ text ++ "'" := by
  rw [← String.toList_inj, quote, doubleQuotes_eq_self h]
  simp

theorem quote_not_mem_padded (width n : Nat) : '\'' ∉ (padded width n).toList := by
  rw [padded, String.toList_ofList]
  intro hmem
  exact absurd (isNumeral_paddedDigits _ hmem) (by decide)

theorem quote_not_mem_timestamp {separator : String} (h : '\'' ∉ separator.toList)
    (time : Timestamp) : '\'' ∉ (time.text separator).toList := by
  have hyear : '\'' ∉ (Timestamp.yearText time.year).toList := by
    have hpadded := quote_not_mem_padded 4 time.year.natAbs
    unfold Timestamp.yearText
    split
    · simpa using hpadded
    · split
      · exact hpadded
      · simpa using hpadded
  simp [Timestamp.text, Timestamp.dateText, Timestamp.clockText, quote_not_mem_padded, hyear, h]

theorem timestampLiteral_oracle (time : Timestamp) :
    timestampLiteral time .oracle
      = "TO_DATE" ++ ("(" ++ (quote (time.text " ") ++ "," ++ quote timeMask) ++ ")") := by
  rw [quote_eq_of_not_mem (quote_not_mem_timestamp (by decide) time),
    quote_eq_of_not_mem (by decide), timestampLiteral]
  apply String.toList_inj.mp
  simp

theorem timestampLiteral_postgresql (time : Timestamp) :
    timestampLiteral time .postgresql = quote (time.text "T") := by
  rw [quote_eq_of_not_mem (quote_not_mem_timestamp (by decide) time)]
  rfl

theorem passes_timestampLiteral (time : Timestamp) (dialect : Dialect) (depth : Nat)
    (afterBlank : Bool) :
    Passes (timestampLiteral time dialect) (depth, afterBlank) (depth, false) := by
  cases dialect with
  | oracle =>
      have hname : Passes "TO_DATE" (depth, afterBlank) (depth, false) := passes_of_code rfl rfl
      have hcomma : Passes "," (depth + 1, false) (depth + 1, false) := passes_of_code rfl rfl
      have htime := passes_quote (time.text " ") (depth + 1) false
      have hmask := passes_quote timeMask (depth + 1) false
      rw [timestampLiteral_oracle]
      exact hname.append (passes_parens ((htime.append hcomma).append hmask) false)
  | postgresql =>
      rw [timestampLiteral_postgresql]
      exact passes_quote _ depth afterBlank

theorem passes_renderScalar (dialect : Dialect) (kind : ScalarKind) (item : kind.Carrier)
    (depth : Nat) (afterBlank : Bool) :
    Passes (renderScalar dialect kind item) (depth, afterBlank) (depth, false) := by
  cases kind with
  | integer width => exact passes_numeral (numeral_ofInt _) depth afterBlank
  | float => exact passes_shortest .binary32 _ depth afterBlank
  | double => exact passes_shortest .binary64 _ depth afterBlank
  | string => exact passes_quote item depth afterBlank
  | timestamp => exact passes_timestampLiteral item dialect depth afterBlank

theorem passes_render (dialect : Dialect) (literal : Value) (depth : Nat) (afterBlank : Bool) :
    Passes (render dialect literal) (depth, afterBlank) (depth, false) := by
  cases literal with
  | scalar kind item => exact passes_renderScalar dialect kind item depth afterBlank
  | list kind items =>
      have hcomma : Passes "," (depth + 1, false) (depth + 1, false) := passes_of_code rfl rfl
      have hitems : ∀ text ∈ items.map (renderScalar dialect kind),
          Passes text (depth + 1, false) (depth + 1, false) := by
        intro text htext
        obtain ⟨item, -, rfl⟩ := List.mem_map.mp htext
        exact passes_renderScalar dialect kind item (depth + 1) false
      exact passes_parens (passes_joinWith hcomma hitems) afterBlank
  | empty =>
      change Passes "NULL" _ _
      exact passes_of_code rfl rfl

end ObservationSql.Scanner
