import ObservationSql.Proofs.Yaml.Character

namespace ObservationSql.Yaml

/-! ### Single quotes -/

namespace Gap

/-- A gap that is not changed by folding. -/
inductive Kept : Gap → Prop
  | inside {blanks : List Char} (hblanks : ∀ c ∈ blanks, c = ' ') : Kept (.inside blanks)
  | across {first : Char} {more : List Char} (hfirst : first ≠ '\n')
      (hbreaks : ∀ c ∈ first :: more, isBreak c = true) : Kept (.across (some first) more)

theorem isBroken_lineBreak (gap : Gap) (c : Char) : (gap.lineBreak c).isBroken = true := by
  cases gap <;> rfl

theorem folded_across {first : Char} (h : first ≠ '\n') (more : List Char) :
    (across (some first) more).folded = first :: more := by
  unfold folded
  split <;> simp_all

end Gap

/-- The rest of a text in single quotes, behind the white space since its last word. -/
structure SingleQuotedRest (gap : Gap) (chars : List Char) : Prop where
  kept : gap.Kept
  isPrintable : ∀ c ∈ chars, isPrintable c = true
  noLineFeed : '\n' ∉ chars
  noTrailing : (gap.folded ++ chars).IsChain fun c d => c = ' ' → isBreak d = false
  noLeading : (gap.folded ++ chars).IsChain fun c d => isBreak c = true → d ≠ ' '

namespace SingleQuotedRest

variable {gap : Gap} {chars : List Char} {c : Char}

theorem of_allowsSingleQuotes (h : allowsSingleQuotes chars = true) (hline : '\n' ∉ chars) :
    SingleQuotedRest .none chars := by
  simp only [allowsSingleQuotes, Bool.and_eq_true, Bool.not_eq_true', List.all_eq_true,
    hasPair_eq_false_iff, beq_iff_eq, beq_eq_false_iff_ne] at h
  exact ⟨.inside nofun, h.1.1, hline, h.1.2, h.2⟩

theorem cons {next : Gap} (h : SingleQuotedRest gap (c :: chars)) (hkept : next.Kept)
    (hfolded : next.folded = gap.folded ++ [c]) : SingleQuotedRest next chars where
  kept := hkept
  isPrintable d hd := h.isPrintable d (List.mem_cons_of_mem c hd)
  noLineFeed hline := h.noLineFeed (List.mem_cons_of_mem c hline)
  noTrailing := by
    rw [hfolded, List.append_assoc]
    exact h.noTrailing
  noLeading := by
    rw [hfolded, List.append_assoc]
    exact h.noLeading

theorem afterWord (h : SingleQuotedRest gap (c :: chars)) : SingleQuotedRest .none chars where
  kept := .inside nofun
  isPrintable d hd := h.isPrintable d (List.mem_cons_of_mem c hd)
  noLineFeed hline := h.noLineFeed (List.mem_cons_of_mem c hline)
  noTrailing := (List.isChain_append.mp h.noTrailing).2.1.tail
  noLeading := (List.isChain_append.mp h.noLeading).2.1.tail

theorem lineBreak (h : SingleQuotedRest gap (c :: chars)) (hc : isBreak c = true) :
    (gap.lineBreak c).Kept ∧ (gap.lineBreak c).folded = gap.folded ++ [c] := by
  have hline : c ≠ '\n' := fun hline => h.noLineFeed (hline ▸ List.mem_cons_self)
  cases h.kept with
  | @inside blanks hblanks =>
      rcases eq_nil_or_getLast?_eq_space hblanks with rfl | hlast
      · exact ⟨.across hline (List.forall_mem_singleton.mpr hc), Gap.folded_across hline []⟩
      · have hbreak : isBreak c = false :=
          (List.isChain_append.mp h.noTrailing).2.2 ' ' hlast c rfl rfl
        rw [hc] at hbreak
        exact nomatch hbreak
  | @across first more hfirst hbreaks =>
      have hmore : ∀ d ∈ (first :: more) ++ [c], isBreak d = true :=
        List.forall_mem_append.mpr ⟨hbreaks, List.forall_mem_singleton.mpr hc⟩
      refine ⟨.across hfirst hmore, ?_⟩
      rw [Gap.lineBreak, Gap.folded_across hfirst, Gap.folded_across hfirst]
      rfl

theorem blank (h : SingleQuotedRest gap (' ' :: chars)) :
    gap.isBroken = false ∧ (gap.blank ' ').isBroken = false ∧ (gap.blank ' ').Kept ∧
      (gap.blank ' ').folded = gap.folded ++ [' '] := by
  cases h.kept with
  | @inside blanks hblanks =>
      exact ⟨rfl, rfl,
        .inside (List.forall_mem_append.mpr ⟨hblanks, List.forall_mem_singleton.mpr rfl⟩), rfl⟩
  | @across first more hfirst hbreaks =>
      have hlast : (first :: more).getLast? = some ((first :: more).getLast (by simp)) :=
        List.getLast?_eq_some_getLast (by simp)
      have hchain := (List.isChain_append.mp h.noLeading).2.2
      rw [Gap.folded_across hfirst] at hchain
      exact absurd rfl (hchain _ hlast ' ' rfl (hbreaks _ (List.getLast_mem _)))

end SingleQuotedRest

theorem readSingleQuoted_indentation {gap : Gap} {mark : Mark}
    (hmark : gap.isBroken = false → 0 < mark.column) :
    ∃ inner : Mark, 0 < inner.column ∧ ∀ text,
      readSingleQuoted gap mark ((if gap.isBroken then indentation else []) ++ text) =
        readSingleQuoted gap inner text := by
  cases gap with
  | inside blanks => exact ⟨mark, hmark rfl, fun text => rfl⟩
  | across first more => exact ⟨(mark.past ' ').past ' ', Nat.succ_pos _, fun text => rfl⟩

theorem readSingleQuoted_end {gap : Gap} {mark : Mark} {rest : List Char}
    (hrest : rest.head? ≠ some '\'') :
    readSingleQuoted gap mark ('\'' :: rest) = some ⟨gap.folded, ⟨mark.past '\'', rest⟩⟩ := by
  rw [readSingleQuoted]
  · simp [isBreak, isBlank, atDocumentMark]
  · rintro _ _ rfl
    exact hrest rfl

theorem readSingleQuoted_word (gap : Gap) {mark : Mark} {c : Char} (hmark : 0 < mark.column)
    (hbreak : isBreak c = false) (hblank : isBlank c = false) (rest : List Char) :
    ∃ behind : Mark, 0 < behind.column ∧
      readSingleQuoted gap mark ((if c = '\'' then ['\'', '\''] else [c]) ++ rest) =
        (readSingleQuoted .none behind rest).map (Lexeme.cons (gap.folded ++ [c])) := by
  by_cases hquote : c = '\''
  · subst hquote
    refine ⟨(mark.past '\'').past '\'', Nat.succ_pos _, ?_⟩
    rw [if_pos rfl, List.cons_append, List.singleton_append, readSingleQuoted]
    cases readSingleQuoted .none ((mark.past '\'').past '\'') rest <;> rfl
  · refine ⟨mark.past c, Nat.succ_pos _, ?_⟩
    rw [if_neg hquote, List.singleton_append, readSingleQuoted]
    · simp only [hbreak, hblank, hquote, Nat.ne_of_gt hmark, Bool.false_eq_true, if_false,
        beq_iff_eq, Bool.and_eq_true, false_and]
      cases readSingleQuoted .none (mark.past c) rest <;> rfl
    · exact fun _ hc => absurd hc hquote

theorem readSingleQuoted_write {gap : Gap} {chars : List Char} (mark : Mark)
    (h : SingleQuotedRest gap chars) (hmark : gap.isBroken = false → 0 < mark.column)
    {rest : List Char} (hrest : rest.head? ≠ some '\'') :
    ∃ behind, readSingleQuoted gap mark (writeSingleQuoted gap.isBroken chars ++ rest) =
      some ⟨gap.folded ++ chars, ⟨behind, rest⟩⟩ := by
  -- White space goes into the gap, and a word takes it out again.
  induction chars generalizing gap mark with
  | nil =>
      obtain ⟨inner, -, hinner⟩ := readSingleQuoted_indentation hmark
      refine ⟨inner.past '\'', ?_⟩
      rw [writeSingleQuoted, List.append_assoc, hinner, List.append_nil]
      exact readSingleQuoted_end hrest
  | cons c chars ih =>
      rw [writeSingleQuoted]
      split
      next hbreak =>
        obtain ⟨hkept, hfolded⟩ := h.lineBreak hbreak
        obtain ⟨behind, hbehind⟩ := ih mark.down (h.cons hkept hfolded)
          (by simp [Gap.isBroken_lineBreak])
        refine ⟨behind, ?_⟩
        rw [Gap.isBroken_lineBreak, hfolded] at hbehind
        rw [List.cons_append, readSingleQuoted, if_pos hbreak, hbehind, List.append_assoc]
        · rfl
        · rintro _ rfl
          exact nomatch hbreak
      next hbreak =>
        rw [Bool.not_eq_true] at hbreak
        by_cases hspace : c = ' '
        · subst hspace
          obtain ⟨hinside, hstill, hkept, hfolded⟩ := h.blank
          obtain ⟨behind, hbehind⟩ := ih (mark.past ' ') (h.cons hkept hfolded)
            fun _ => Nat.succ_pos mark.column
          refine ⟨behind, ?_⟩
          rw [hstill, hfolded, List.append_assoc] at hbehind
          rw [hinside]
          exact hbehind
        · have hblank : isBlank c = false := by
            rw [isBlank_of_isPrintable (h.isPrintable c List.mem_cons_self)]
            exact beq_false_of_ne hspace
          obtain ⟨inner, hcolumn, hinner⟩ := readSingleQuoted_indentation hmark
          obtain ⟨next, hnext, hword⟩ := readSingleQuoted_word gap hcolumn hbreak hblank
            (writeSingleQuoted false chars ++ rest)
          obtain ⟨behind, hbehind⟩ := ih next h.afterWord fun _ => hnext
          refine ⟨behind, ?_⟩
          rw [List.append_assoc, List.append_assoc, hinner, hword,
            show false = Gap.none.isBroken from rfl, hbehind]
          simp [Lexeme.cons, Gap.none, Gap.folded]

/-! ### Double quotes -/

theorem charOfCodePoint?_toNat (c : Char) : charOfCodePoint? c.toNat = some c := by
  have hvalid : c.toNat.isValidChar := c.valid
  rw [charOfCodePoint?, dif_pos hvalid]
  exact congrArg some (Char.ext (UInt32.toNat_inj.mp rfl))

theorem hexDigit?_hexChar {digit : Nat} (h : digit < 16) :
    hexDigit? (hexChar digit) = some digit := by
  have hall : ∀ digit < 16, hexDigit? (hexChar digit) = some digit := by decide
  exact hall digit h

theorem hexNumber?_append (value : Nat) (front rest : List Char) :
    hexNumber? value (front ++ rest) = (hexNumber? value front).bind (hexNumber? · rest) := by
  induction front generalizing value with
  | nil => rfl
  | cons c front ih =>
      rw [List.cons_append, hexNumber?, hexNumber?]
      cases hexDigit? c with
      | none => rfl
      | some digit => exact ih _

theorem length_hexDigits (width n : Nat) : (hexDigits width n).length = width := by
  induction width generalizing n with
  | zero => rfl
  | succ width ih => rw [hexDigits, List.length_append, ih, List.length_singleton]

theorem hexNumber?_hexDigits (value width n : Nat) :
    hexNumber? value (hexDigits width n) = some (16 ^ width * value + n % 16 ^ width) := by
  induction width generalizing n with
  | zero => simp [hexDigits, hexNumber?, Nat.mod_one]
  | succ width ih =>
      rw [hexDigits, hexNumber?_append, ih, Option.bind_some, hexNumber?,
        hexDigit?_hexChar (Nat.mod_lt n (by decide))]
      change some (16 * (16 ^ width * value + n / 16 % 16 ^ width) + n % 16) = _
      rw [Nat.pow_succ', Nat.mod_mul, Nat.mul_assoc]
      congr 1
      omega

theorem readEscape_hexDigits {letter c : Char} {width : Nat}
    (hwidth : escapeWidth? letter = some width) (hc : c.toNat < 16 ^ width) (rest : List Char) :
    readEscape letter (hexDigits width c.toNat ++ rest) = some (c, width) := by
  rw [readEscape, hwidth]
  simp [length_hexDigits, hexNumber?_hexDigits, Nat.mod_eq_of_lt hc, charOfCodePoint?_toNat]

theorem readEscape_of_escapeLetter? {letter c : Char} (h : escapeLetter? c = some letter) :
    isBreak letter = false ∧ ∀ rest, readEscape letter rest = some (c, 0) := by
  have hall : ∀ escape ∈ letterEscapes, isBreak escape.1 = false ∧
      escapeWidth? escape.1 = none ∧ letterEscapes.lookup escape.1 = some escape.2 := by
    decide
  obtain ⟨escape, hfind, rfl⟩ := Option.map_eq_some_iff.mp h
  obtain ⟨hbreak, hwidth, hlookup⟩ := hall escape (List.mem_of_find?_eq_some hfind)
  obtain rfl : escape.2 = c := by simpa using List.find?_some hfind
  refine ⟨hbreak, fun rest => ?_⟩
  rw [readEscape, hwidth, hlookup]
  rfl

theorem exists_escape_eq (c : Char) :
    ∃ letter digits, escape c = '\\' :: letter :: digits ∧ isBreak letter = false ∧
      ∀ rest, readEscape letter (digits ++ rest) = some (c, digits.length) := by
  have hhex (letter : Char) (width : Nat) (hletter : isBreak letter = false)
      (hwidth : escapeWidth? letter = some width) (hc : c.toNat < 16 ^ width) :
      isBreak letter = false ∧ ∀ rest,
        readEscape letter (hexDigits width c.toNat ++ rest) =
          some (c, (hexDigits width c.toNat).length) := by
    rw [length_hexDigits]
    exact ⟨hletter, readEscape_hexDigits hwidth hc⟩
  unfold escape
  cases hletter : escapeLetter? c with
  | some letter =>
      obtain ⟨hbreak, hread⟩ := readEscape_of_escapeLetter? hletter
      exact ⟨letter, [], rfl, hbreak, hread⟩
  | none =>
      have hc : c.toNat < 16 ^ 8 := c.val.toNat_lt
      dsimp only
      split
      next hshort => exact ⟨'x', _, rfl, hhex 'x' 2 rfl rfl (by omega)⟩
      next =>
        split
        next hmiddle => exact ⟨'u', _, rfl, hhex 'u' 4 rfl rfl (by omega)⟩
        next => exact ⟨'U', _, rfl, hhex 'U' 8 rfl rfl hc⟩

theorem readDoubleQuoted_skip (gap : Gap) (mark : Mark) (digits rest : List Char) :
    readDoubleQuoted digits.length gap mark (digits ++ rest) =
      readDoubleQuoted 0 gap (digits.foldl Mark.past mark) rest := by
  induction digits generalizing mark with
  | nil => rfl
  | cons digit digits ih =>
      rw [List.length_cons, List.cons_append, readDoubleQuoted, ih]
      rfl

theorem readDoubleQuoted_word (gap : Gap) {mark : Mark} {c : Char} (hmark : 0 < mark.column)
    (hspace : c ≠ ' ') (rest : List Char) :
    ∃ behind : Mark, 0 < behind.column ∧
      readDoubleQuoted 0 gap mark (writeDoubleQuotedChar c ++ rest) =
        (readDoubleQuoted 0 .none behind rest).map (Lexeme.cons (gap.folded ++ [c])) := by
  unfold writeDoubleQuotedChar
  split
  next =>
    obtain ⟨letter, digits, hescape, hbreak, hread⟩ := exists_escape_eq c
    refine ⟨digits.foldl Mark.past ((mark.past '\\').past letter), ?_, ?_⟩
    · rw [foldl_past]
      exact Nat.add_pos_left (Nat.succ_pos _) _
    · rw [hescape, List.cons_append, List.cons_append, readDoubleQuoted,
        if_neg (Bool.eq_false_iff.mp hbreak), hread, Option.bind_eq_bind, Option.bind_some]
      dsimp only
      rw [readDoubleQuoted_skip]
      cases readDoubleQuoted 0 .none (digits.foldl Mark.past ((mark.past '\\').past letter)) rest <;>
        rfl
  next hplain =>
    simp only [Bool.not_eq_true, Bool.or_eq_false_iff, Bool.not_eq_false', beq_eq_false_iff_ne]
      at hplain
    obtain ⟨⟨⟨hprintable, hbreak⟩, hquote⟩, hbackslash⟩ := hplain
    refine ⟨mark.past c, Nat.succ_pos _, ?_⟩
    rw [List.singleton_append, readDoubleQuoted]
    · simp only [hbreak, isBlank_of_isPrintable hprintable, beq_false_of_ne hspace, hquote,
        hbackslash, Nat.ne_of_gt hmark, Bool.false_eq_true, if_false, beq_iff_eq,
        Bool.and_eq_true, false_and]
      cases readDoubleQuoted 0 .none (mark.past c) rest <;> rfl
    · exact fun _ _ hc => absurd hc hbackslash

theorem readDoubleQuoted_write (blanks : List Char) {mark : Mark} (hmark : 0 < mark.column)
    (chars rest : List Char) :
    ∃ behind, readDoubleQuoted 0 (.inside blanks) mark (writeDoubleQuoted chars ++ rest) =
      some ⟨blanks ++ chars, ⟨behind, rest⟩⟩ := by
  unfold writeDoubleQuoted
  induction chars generalizing blanks mark with
  | nil =>
      refine ⟨mark.past '"', ?_⟩
      simp [readDoubleQuoted, isBreak, isBlank, atDocumentMark, Gap.folded]
  | cons c chars ih =>
      rw [List.flatMap_cons, List.append_assoc, List.append_assoc, ← List.append_assoc _ _ rest]
      by_cases hspace : c = ' '
      · subst hspace
        have hpast : 0 < (mark.past ' ').column := Nat.succ_pos mark.column
        obtain ⟨behind, hbehind⟩ := ih (blanks ++ [' ']) hpast
        refine ⟨behind, ?_⟩
        rw [List.append_cons blanks ' ' chars]
        exact hbehind
      · obtain ⟨next, hnext, hword⟩ := readDoubleQuoted_word (.inside blanks) hmark hspace
          (chars.flatMap writeDoubleQuotedChar ++ ['"'] ++ rest)
        obtain ⟨behind, hbehind⟩ := ih [] hnext
        refine ⟨behind, ?_⟩
        rw [hword, show Gap.none = .inside [] from rfl, hbehind]
        simp [Lexeme.cons, Gap.folded]

end ObservationSql.Yaml
