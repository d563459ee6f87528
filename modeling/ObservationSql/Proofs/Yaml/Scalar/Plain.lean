import ObservationSql.Proofs.Yaml.Character

namespace ObservationSql.Yaml

theorem atGap_append {text : List Char} (tail : List Char) (h : atGap text = false) :
    atGap (text ++ tail) = false := by
  cases text with
  | nil => exact nomatch h
  | cons c rest => exact h

/-- The rest of a text without quotes, behind the blanks since its last word. -/
structure PlainRest (blanks chars : List Char) : Prop where
  eq_space : ∀ c ∈ blanks, c = ' '
  isPrintable : ∀ c ∈ chars, isPrintable c = true
  isBreak : ∀ c ∈ chars, isBreak c = false
  noComment : (blanks ++ chars).IsChain fun c d => c = ' ' → d ≠ '#'
  noKeyEnd : hasKeyEnd chars = false
  last_ne : ∀ c ∈ (blanks ++ chars).getLast?, c ≠ ' '

namespace PlainRest

variable {blanks chars : List Char} {c : Char}

theorem of_allowsPlain (h : allowsPlain chars = true) : PlainRest [] chars := by
  simp only [allowsPlain, hasCommentStart, hasEdge, Bool.and_eq_true, Bool.not_eq_true',
    List.all_eq_true, Bool.or_eq_false_iff, hasPair_eq_false_iff] at h
  obtain ⟨⟨⟨⟨hchars, hedge⟩, -⟩, hkey⟩, hcomment⟩ := h
  refine ⟨nofun, fun c hc => (hchars c hc).1, fun c hc => (hchars c hc).2, ?_, hkey, ?_⟩
  · refine hcomment.imp fun c d hpair hspace => ?_
    subst hspace
    exact beq_eq_false_iff_ne.mp (hpair rfl)
  · rintro c hc rfl
    rw [List.nil_append, Option.mem_def] at hc
    rw [hc] at hedge
    exact absurd hedge.2 (by decide)

theorem isBlank_iff (h : PlainRest blanks (c :: chars)) : isBlank c = true ↔ c = ' ' := by
  rw [isBlank_of_isPrintable (h.isPrintable c List.mem_cons_self), beq_iff_eq]

theorem afterBlank (h : PlainRest blanks (' ' :: chars)) : PlainRest (blanks ++ [' ']) chars where
  eq_space := List.forall_mem_append.mpr ⟨h.eq_space, List.forall_mem_singleton.mpr rfl⟩
  isPrintable c hc := h.isPrintable c (List.mem_cons_of_mem ' ' hc)
  isBreak c hc := h.isBreak c (List.mem_cons_of_mem ' ' hc)
  noComment := by simpa using h.noComment
  noKeyEnd := (Bool.or_eq_false_iff.mp h.noKeyEnd).2
  last_ne := by simpa using h.last_ne

theorem afterWord (h : PlainRest blanks (c :: chars)) : PlainRest [] chars where
  eq_space := nofun
  isPrintable d hd := h.isPrintable d (List.mem_cons_of_mem c hd)
  isBreak d hd := h.isBreak d (List.mem_cons_of_mem c hd)
  noComment := (List.isChain_append.mp h.noComment).2.1.tail
  noKeyEnd := (Bool.or_eq_false_iff.mp h.noKeyEnd).2
  last_ne d hd := by
    refine h.last_ne d ?_
    rw [List.nil_append] at hd
    rw [List.append_cons]
    exact List.mem_getLast?_append_of_mem_getLast? hd

theorem blanks_eq_nil (h : PlainRest blanks []) : blanks = [] := by
  apply (eq_nil_or_getLast?_eq_space h.eq_space).resolve_right
  intro hlast
  rw [← List.append_nil blanks] at hlast
  exact h.last_ne ' ' hlast rfl

theorem endsAt {indent : Nat} {mark : Mark} (h : PlainRest blanks (c :: chars))
    (hmark : 0 < mark.column) (hindent : indent ≤ mark.column) (tail : List Char) :
    PlainContext.endsAt ⟨false, indent⟩ (.inside blanks) mark c (chars ++ tail) = false := by
  have hkey : (c == ':' && atGap (chars ++ tail)) = false := by
    have hend : (c == ':' && atGap chars) = false := (Bool.or_eq_false_iff.mp h.noKeyEnd).1
    rw [Bool.and_eq_false_imp] at hend ⊢
    exact fun hcolon => atGap_append tail (hend hcolon)
  have hcomment : (!(Gap.inside blanks).isNone && c == '#') = false := by
    rcases eq_nil_or_getLast?_eq_space h.eq_space with rfl | hlast
    · rfl
    · have hc : c ≠ '#' := (List.isChain_append.mp h.noComment).2.2 ' ' hlast c rfl rfl
      rw [beq_false_of_ne hc, Bool.and_false]
  simp [PlainContext.endsAt, hkey, hcomment, Nat.not_lt.mpr hindent, Nat.ne_of_gt hmark]

end PlainRest

theorem readPlain_append {indent : Nat} {blanks chars : List Char} {mark : Mark}
    (h : PlainRest blanks chars) (hmark : 0 < mark.column) (hindent : indent ≤ mark.column)
    (tail : List Char) :
    readPlain ⟨false, indent⟩ (.inside blanks) mark (chars ++ tail) =
      (readPlain ⟨false, indent⟩ .none (chars.foldl Mark.past mark) tail).map
        fun (lexeme, broken) => (lexeme.cons (blanks ++ chars), broken) := by
  -- The text does not end with a space, so no blanks are left over.
  induction chars generalizing blanks mark with
  | nil =>
      rw [h.blanks_eq_nil]
      exact Option.map_id'.symm
  | cons c rest ih =>
      have hpast : mark.column < (mark.past c).column := Nat.lt_succ_self mark.column
      have hbreak : isBreak c = false := h.isBreak c List.mem_cons_self
      rw [List.cons_append, readPlain, if_neg (Bool.eq_false_iff.mp hbreak), List.foldl_cons]
      by_cases hspace : c = ' '
      · subst hspace
        rw [if_pos (h.isBlank_iff.mpr rfl), if_neg (by simp [Gap.isBroken]), Gap.blank,
          ih h.afterBlank (hmark.trans hpast) (hindent.trans hpast.le)]
        simp
      · have hrest : readPlain ⟨false, indent⟩ .none (mark.past c) (rest ++ tail) = _ :=
          ih h.afterWord (hmark.trans hpast) (hindent.trans hpast.le)
        rw [if_neg (mt h.isBlank_iff.mp hspace),
          if_neg (Bool.eq_false_iff.mp (h.endsAt hmark hindent tail)),
          if_neg (by simp [PlainContext.forbids]), hrest]
        cases readPlain ⟨false, indent⟩ .none (rest.foldl Mark.past (mark.past c)) tail with
        | none => rfl
        | some found => simp [Gap.folded, Lexeme.cons]

theorem readPlain_value {chars rest : List Char} {mark : Mark} (h : allowsPlain chars = true)
    (hmark : 0 < mark.column) (hrest : AtEntry rest) :
    readPlain ⟨false, 1⟩ .none mark (chars ++ '\n' :: rest) =
      some (⟨chars, ⟨(chars.foldl Mark.past mark).down, rest⟩⟩, true) := by
  have hend (mark : Mark) :
      readPlain ⟨false, 1⟩ .none mark ('\n' :: rest) = some (⟨[], ⟨mark.down, rest⟩⟩, true) := by
    cases rest with
    | nil => rfl
    | cons c rest =>
        have hc : c.isAlphanum = true := hrest c rfl
        rw [readPlain, if_pos (by decide), readPlain, isBreak_of_isAlphanum hc,
          isBlank_of_isAlphanum hc]
        rfl
  rw [show Gap.none = .inside [] from rfl, readPlain_append (.of_allowsPlain h) hmark hmark, hend]
  simp [Lexeme.cons]

section Alphanumeric

variable {chars : List Char}

theorem hasEdge_of_isAlphanum (h : ∀ c ∈ chars, c.isAlphanum = true) :
    hasEdge (· == ' ') chars = false := by
  have hspace (found : Option Char) (hfound : ∀ c ∈ found, c ∈ chars) :
      found.any (· == ' ') = false := by
    cases found with
    | none => rfl
    | some c => exact beq_false_of_ne (ne_of_isAlphanum (h c (hfound c rfl)) rfl)
  rw [hasEdge, hspace _ fun c => List.mem_of_head?, hspace _ fun c => List.mem_of_getLast?]
  rfl

theorem startsWithIndicator_of_isAlphanum (h : ∀ c ∈ chars, c.isAlphanum = true) :
    startsWithIndicator chars = false := by
  cases chars with
  | nil => rfl
  | cons c rest =>
      have hc : c.isAlphanum = true := h c List.mem_cons_self
      have hhyphen : c ≠ '-' := ne_of_isAlphanum hc rfl
      have hpoint : c ≠ '.' := ne_of_isAlphanum hc rfl
      have hquestion : c ≠ '?' := ne_of_isAlphanum hc rfl
      have hcolon : c ≠ ':' := ne_of_isAlphanum hc rfl
      simp [startsWithIndicator, isIndicator_of_isAlphanum hc, List.isPrefixOf, hhyphen,
        hhyphen.symm, hpoint.symm, hquestion, hcolon]

theorem hasKeyEnd_of_isAlphanum (h : ∀ c ∈ chars, c.isAlphanum = true) :
    hasKeyEnd chars = false := by
  induction chars with
  | nil => rfl
  | cons c rest ih =>
      rw [List.forall_mem_cons] at h
      rw [hasKeyEnd, ih h.2, beq_false_of_ne (ne_of_isAlphanum h.1 rfl)]
      rfl

theorem hasCommentStart_of_isAlphanum (h : ∀ c ∈ chars, c.isAlphanum = true) :
    hasCommentStart chars = false := by
  apply hasPair_eq_false_iff.mpr
  refine (List.pairwise_of_forall_mem_list fun c _ d hd _ => ?_).isChain
  exact beq_false_of_ne (ne_of_isAlphanum (h d hd) rfl)

theorem allowsPlain_of_isAlphanum (h : ∀ c ∈ chars, c.isAlphanum = true) :
    allowsPlain chars = true := by
  have hchars : chars.all (fun c => isPrintable c && !isBreak c) = true := by
    rw [List.all_eq_true]
    intro c hc
    rw [isPrintable_of_isAlphanum (h c hc), isBreak_of_isAlphanum (h c hc)]
    rfl
  rw [allowsPlain, hchars, hasEdge_of_isAlphanum h, startsWithIndicator_of_isAlphanum h,
    hasKeyEnd_of_isAlphanum h, hasCommentStart_of_isAlphanum h]
  rfl

end Alphanumeric

theorem readPlain_key {indent : Nat} {key rest : List Char} {mark : Mark}
    (hkey : ∀ c ∈ key, c.isAlphanum = true) (hindent : indent ≤ mark.column + 1) :
    readPlain ⟨false, indent⟩ .none mark (key ++ ':' :: ' ' :: rest) =
      some (⟨key, ⟨key.foldl Mark.past mark, ':' :: ' ' :: rest⟩⟩, false) := by
  have hend (mark : Mark) : readPlain ⟨false, indent⟩ .none mark (':' :: ' ' :: rest) =
      some (⟨[], ⟨mark, ':' :: ' ' :: rest⟩⟩, false) := by
    simp [readPlain, PlainContext.endsAt, atGap, isBreak, isBlank, Gap.none, Gap.isBroken]
  cases key with
  | nil => exact hend mark
  | cons c key =>
      have hc : c.isAlphanum = true := hkey c List.mem_cons_self
      have hcolon : c ≠ ':' := ne_of_isAlphanum hc rfl
      have hstop : PlainContext.endsAt ⟨false, indent⟩ .none mark c (key ++ ':' :: ' ' :: rest) =
          false := by
        simp [PlainContext.endsAt, Gap.none, Gap.isNone, atDocumentMark_of_isAlphanum hc,
          hcolon]
      have hrest : PlainRest [] key :=
        (PlainRest.of_allowsPlain (allowsPlain_of_isAlphanum hkey)).afterWord
      rw [List.cons_append, readPlain, if_neg (by simp [isBreak_of_isAlphanum hc]),
        if_neg (by simp [isBlank_of_isAlphanum hc]), if_neg (by simp [hstop]),
        if_neg (by simp [PlainContext.forbids]), List.foldl_cons,
        show Gap.none = .inside [] from rfl,
        readPlain_append hrest (Nat.succ_pos mark.column) hindent, hend]
      simp [Lexeme.cons, Gap.folded]

end ObservationSql.Yaml
