import ObservationSql.Proofs.Yaml.Character
import ObservationSql.Yaml.Scalar.Block

namespace ObservationSql.Yaml

/-! ### Indicators -/

def Chomping.indicator : Chomping → List Char
  | .strip => ['-']
  | .clip => []
  | .keep => ['+']

/-- What has to be done with the last line breaks to keep a text. A single line break is kept only
if there is a line in front of it. -/
def chompingOf (text : List Char) : Chomping :=
  match text.reverse.takeWhile isBreak with
  | [] => .strip
  | [_] => if text.length = 1 then .keep else .clip
  | _ => .keep

/-- The indentation that has to be given, because the text does not show it. -/
def givenIndentation (text : List Char) : Option Nat :=
  if text.head?.any fun c => c == ' ' || isBreak c then some 2 else none

theorem literalHints_eq (text : List Char) :
    literalHints text =
      (if (givenIndentation text).isSome then ['2'] else []) ++ (chompingOf text).indicator := by
  have hgiven : (givenIndentation text).isSome =
      text.head?.any fun c => c == ' ' || isBreak c := by
    unfold givenIndentation
    split <;> simp_all
  rw [literalHints, hgiven, chompingOf,
    show text.length = text.reverse.length from List.length_reverse.symm]
  congr 1
  split
  next hreverse => rw [hreverse]; rfl
  next last hreverse =>
    rw [hreverse]
    by_cases hlast : isBreak last = true <;> simp [hlast, Chomping.indicator]
  next last other more hreverse =>
    rw [hreverse]
    by_cases hlast : isBreak last = true
    · by_cases hother : isBreak other = true <;> simp [hlast, hother, Chomping.indicator]
    · simp [hlast, Chomping.indicator]

theorem readIndicators_literalHints (text more : List Char) :
    readIndicators (literalHints text ++ '\n' :: more) =
      (⟨chompingOf text, givenIndentation text⟩, (literalHints text).length) := by
  rw [literalHints_eq]
  unfold givenIndentation
  split <;> cases chompingOf text <;> rfl

theorem restOfLine_lineFeed (mark : Mark) (more : List Char) :
    restOfLine ⟨mark, '\n' :: more⟩ = some ⟨mark.down, more⟩ := by
  rfl

theorem readBlockHeader_literalHints (mark : Mark) (text more : List Char) :
    readBlockHeader ⟨mark, literalHints text ++ '\n' :: more⟩ =
      some (⟨chompingOf text, givenIndentation text⟩, ⟨mark.down, more⟩) := by
  have hskip : (⟨mark, literalHints text ++ '\n' :: more⟩ : Cursor).skip
      (literalHints text).length = ⟨(literalHints text).foldl Mark.past mark, '\n' :: more⟩ := by
    rw [Cursor.skip, List.take_left, List.drop_left]
  have hdown : ((literalHints text).foldl Mark.past mark).down = mark.down := by
    rw [foldl_past]
    rfl
  have hzero : givenIndentation text ≠ some 0 := by
    unfold givenIndentation
    split <;> simp
  rw [readBlockHeader, readIndicators_literalHints]
  simp [hzero, hskip, restOfLine_lineFeed, hdown]

/-! ### Lines -/

def LineEnd.breaks (ending : LineEnd) : List Char :=
  ending.first.toList ++ ending.more

/-- Between two lines, or in front of the first one: the text up to the end of the last line, and
the line breaks since then. -/
inductive BetweenLines : List Char → LineEnd → Prop
  | start {more : List Char} {blank : Bool} (hbreaks : ∀ c ∈ more, isBreak c = true) :
      BetweenLines [] ⟨none, more, blank⟩
  | line {done more : List Char} {last first : Char} {blank : Bool} (hlast : isBreak last = false)
      (hbreaks : ∀ c ∈ first :: more, isBreak c = true) :
      BetweenLines (done ++ [last]) ⟨some first, more, blank⟩

theorem BetweenLines.push {done : List Char} {ending : LineEnd} {c : Char}
    (h : BetweenLines done ending) (hc : isBreak c = true) :
    BetweenLines done { ending with more := ending.more ++ [c] } := by
  have hlast : ∀ d ∈ [c], isBreak d = true := List.forall_mem_singleton.mpr hc
  cases h with
  | start hbreaks => exact .start (List.forall_mem_append.mpr ⟨hbreaks, hlast⟩)
  | @line done more last first blank hinside hbreaks =>
      have hmore : ∀ d ∈ (first :: more) ++ [c], isBreak d = true :=
        List.forall_mem_append.mpr ⟨hbreaks, hlast⟩
      exact .line hinside hmore

theorem chompingOf_inLine {last : Char} (hlast : isBreak last = false) (done : List Char) :
    chompingOf (done ++ [last]) = .strip := by
  simp [chompingOf, hlast]

theorem BetweenLines.takeWhile_reverse {done : List Char} {ending : LineEnd}
    (h : BetweenLines done ending) :
    (done ++ ending.breaks).reverse.takeWhile isBreak = ending.breaks.reverse := by
  have hbreaks : ∀ c ∈ ending.breaks.reverse, isBreak c = true := by
    intro c hc
    rw [List.mem_reverse] at hc
    cases h with
    | start hbreaks => exact hbreaks c hc
    | line hlast hbreaks => exact hbreaks c hc
  have hdone : done.reverse.takeWhile isBreak = [] := by
    cases h with
    | start hbreaks => rfl
    | line hlast hbreaks => simp [hlast]
  rw [List.reverse_append, List.takeWhile_append_of_pos hbreaks, hdone, List.append_nil]

theorem BetweenLines.chomp {done : List Char} {ending : LineEnd} (h : BetweenLines done ending)
    (folded : Bool) (indent : Nat) :
    (BlockStyle.mk folded (chompingOf (done ++ ending.breaks)) indent).chomp ending =
      ending.breaks := by
  rw [chompingOf, h.takeWhile_reverse]
  split
  next hnone => exact (List.reverse_eq_nil_iff.mp hnone).symm
  next c hone =>
    have hbreaks : ending.breaks = [c] := List.reverse_eq_iff.mp hone
    cases h with
    | start => rw [hbreaks]; exact hbreaks
    | line =>
        obtain ⟨rfl, rfl⟩ := List.cons.inj hbreaks
        rw [if_neg (by simp [hbreaks])]
        rfl
  next => rfl

theorem readBetweenLines_end {style : BlockStyle} (hindent : 0 < style.indent) (ending : LineEnd)
    (line : Nat) {rest : List Char} (hrest : AtEntry rest) :
    readBetweenLines style ending { line } rest = some ⟨style.chomp ending, ⟨{ line }, rest⟩⟩ := by
  cases rest with
  | nil => rw [readBetweenLines]
  | cons c rest =>
      have hc : c.isAlphanum = true := hrest c rfl
      have hspace : c ≠ ' ' := ne_of_isAlphanum hc rfl
      have htab : c ≠ '\t' := ne_of_isAlphanum hc rfl
      rw [readBetweenLines]
      simp [hspace, htab, isBreak_of_isAlphanum hc, Nat.ne_of_lt hindent]

theorem readBetweenLines_indentation {style : BlockStyle} (hstyle : style.folded = false)
    (hindent : style.indent = 2) (ending : LineEnd) (line : Nat) {c : Char}
    (hc : isBreak c = false) (rest : List Char) :
    ∃ inner, readBetweenLines style ending { line } (indentation ++ c :: rest) =
      (readInLine style (isBlank c) inner rest).map (Lexeme.cons (ending.breaks ++ [c])) := by
  have hjoin : style.join ending (isBlank c) = ending.breaks := by
    simp [BlockStyle.join, hstyle, LineEnd.breaks]
  let inner : Mark := ((({ line } : Mark).past ' ').past ' ').past c
  refine ⟨inner, ?_⟩
  rw [indentation, List.cons_append, List.cons_append, List.nil_append, readBetweenLines,
    if_pos (by simp [hindent]), readBetweenLines, if_pos (by simp [hindent, Mark.past]),
    readBetweenLines, if_neg (by simp [hindent, Mark.past]), if_neg (by simp [hindent, Mark.past]),
    if_neg (Bool.eq_false_iff.mp hc), if_pos (by simp [hindent, Mark.past]), hjoin]
  change (readInLine style (isBlank c) inner rest).bind _ = _
  cases readInLine style (isBlank c) inner rest <;> rfl

theorem readBetweenLines_break {style : BlockStyle} {ending : LineEnd} {mark : Mark} {c : Char}
    (hc : isBreak c = true) (rest : List Char) :
    readBetweenLines style ending mark (c :: rest) =
      readBetweenLines style { ending with more := ending.more ++ [c] } mark.down rest := by
  have hspace : c ≠ ' ' := by
    rintro rfl
    exact nomatch hc
  have htab : c ≠ '\t' := by
    rintro rfl
    exact nomatch hc
  rw [readBetweenLines]
  simp [hspace, htab, hc]

/-- The reader goes over the lines of a text, in either state. -/
theorem readLines_write {text : List Char} {style : BlockStyle}
    (hstyle : style = ⟨false, chompingOf text, 2⟩) {rest : List Char} (hrest : AtEntry rest)
    (chars : List Char) :
    (∀ done ending line, BetweenLines done ending → text = done ++ ending.breaks ++ chars →
      ∃ behind : Nat,
        readBetweenLines style ending { line } (writeLiteralLines true chars ++ rest) =
          some ⟨ending.breaks ++ chars, ⟨{ line := behind }, rest⟩⟩) ∧
    (∀ done last blank mark, isBreak last = false → text = done ++ last :: chars →
      ∃ behind : Nat, readInLine style blank mark (writeLiteralLines false chars ++ rest) =
        some ⟨chars, ⟨{ line := behind }, rest⟩⟩) := by
  have hfolded : style.folded = false := by rw [hstyle]
  have hcolumn : style.indent = 2 := by rw [hstyle]
  have hindent : 0 < style.indent := hcolumn ▸ Nat.two_pos
  -- Each state hands over to the other at the end of a line, so one induction carries both.
  induction chars with
  | nil =>
      constructor
      · intro done ending line hbetween htext
        refine ⟨line, ?_⟩
        rw [List.append_nil] at htext
        rw [writeLiteralLines, if_pos rfl, List.nil_append, readBetweenLines_end hindent _ _ hrest,
          hstyle, htext, hbetween.chomp, List.append_nil]
      · intro done last blank mark hlast htext
        refine ⟨mark.line + 1, ?_⟩
        rw [writeLiteralLines, if_neg Bool.false_ne_true, List.singleton_append, readInLine,
          if_pos (by decide), Mark.down, readBetweenLines_end hindent _ _ hrest, hstyle, htext,
          chompingOf_inLine hlast]
        rfl
  | cons c chars ih =>
      obtain ⟨hbetween, hinside⟩ := ih
      constructor
      · intro done ending line hstate htext
        rw [writeLiteralLines]
        split
        next hc =>
          obtain ⟨behind, hbehind⟩ := hbetween done _ (line + 1) (hstate.push hc)
            (by simp [htext, LineEnd.breaks])
          refine ⟨behind, ?_⟩
          rw [List.cons_append, readBetweenLines_break hc, Mark.down, hbehind]
          simp [LineEnd.breaks]
        next hc =>
          rw [Bool.not_eq_true] at hc
          obtain ⟨inner, hinner⟩ := readBetweenLines_indentation hfolded hcolumn ending line hc
            (writeLiteralLines false chars ++ rest)
          obtain ⟨behind, hbehind⟩ :=
            hinside (done ++ ending.breaks) c (isBlank c) inner hc htext
          refine ⟨behind, ?_⟩
          rw [if_pos rfl, List.append_assoc, List.cons_append, hinner, hbehind]
          simp [Lexeme.cons]
      · intro done last blank mark hlast htext
        rw [writeLiteralLines]
        split
        next hc =>
          obtain ⟨behind, hbehind⟩ := hbetween (done ++ [last]) ⟨some c, [], blank⟩
            (mark.line + 1) (.line hlast (by simp [hc])) (by simp [htext, LineEnd.breaks])
          refine ⟨behind, ?_⟩
          rw [List.cons_append, readInLine, if_pos hc, Mark.down, hbehind]
          rfl
        next hc =>
          rw [Bool.not_eq_true] at hc
          obtain ⟨behind, hbehind⟩ :=
            hinside (done ++ [last]) c blank (mark.past c) hc (by simp [htext])
          refine ⟨behind, ?_⟩
          rw [if_neg Bool.false_ne_true, List.nil_append, List.cons_append, readInLine,
            if_neg (Bool.eq_false_iff.mp hc), hbehind]
          rfl

theorem readLeadingBreaks_indentation (line : Nat) {c : Char} (hbreak : isBreak c = false)
    (hspace : c ≠ ' ') (htab : c ≠ '\t') (rest : List Char) :
    readLeadingBreaks 0 { line } (indentation ++ c :: rest) =
      some ([], 2, ⟨(({ line } : Mark).past ' ').past ' ', c :: rest⟩) := by
  rw [indentation, List.cons_append, List.cons_append, readLeadingBreaks, readLeadingBreaks,
    List.nil_append, readLeadingBreaks]
  simp [hbreak, hspace, htab, Mark.past]

theorem readBlockScalar_write {text rest : List Char} (mark : Mark) (hne : text ≠ [])
    (htext : ∀ c ∈ text, isPrintable c = true) (hrest : AtEntry rest) :
    ∃ behind : Nat, readBlockScalar false 1
      ⟨mark, literalHints text ++ '\n' :: (writeLiteralLines true text ++ rest)⟩ =
        some ⟨text, ⟨{ line := behind }, rest⟩⟩ := by
  let style : BlockStyle := ⟨false, chompingOf text, 2⟩
  have hlines := (readLines_write (show style = _ from rfl) hrest text).1 [] {} (mark.line + 1)
    (.start nofun) rfl
  obtain ⟨behind, hbehind⟩ := hlines
  refine ⟨behind, ?_⟩
  rw [readBlockScalar, readBlockHeader_literalHints, Option.bind_eq_bind, Option.bind_some]
  dsimp only
  by_cases hhidden : (text.head?.any fun c => c == ' ' || isBreak c) = true
  · rw [show givenIndentation text = some 2 from if_pos hhidden]
    exact hbehind
  · rw [show givenIndentation text = none from if_neg hhidden]
    obtain ⟨c, chars, rfl⟩ := List.exists_cons_of_ne_nil hne
    simp only [List.head?_cons, Option.any_some, Bool.not_eq_true, Bool.or_eq_false_iff,
      beq_eq_false_iff_ne] at hhidden
    obtain ⟨hspace, hbreak⟩ := hhidden
    have htab : c ≠ '\t' := by
      rintro rfl
      exact absurd (htext '\t' List.mem_cons_self) (by decide)
    have hlines : writeLiteralLines true (c :: chars) ++ rest =
        indentation ++ c :: (writeLiteralLines false chars ++ rest) := by
      rw [writeLiteralLines, if_neg (Bool.eq_false_iff.mp hbreak), if_pos rfl, List.append_assoc]
      rfl
    rw [hlines] at hbehind ⊢
    rw [Mark.down, readLeadingBreaks_indentation _ hbreak hspace htab]
    exact hbehind

end ObservationSql.Yaml
