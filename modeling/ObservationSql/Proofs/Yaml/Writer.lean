import ObservationSql.Proofs.Yaml.Scalar.Block
import ObservationSql.Proofs.Yaml.Scalar.Quoted
import ObservationSql.Proofs.Yaml.Token.Entry

namespace ObservationSql.Yaml

open Lexer

/-! ### Characters -/

theorem all_isPrintable_indentation (indented : Bool) :
    (if indented then indentation else []).all isPrintable = true := by
  cases indented <;> decide

theorem all_isPrintable_writeSingleQuoted (afterBreak : Bool) {chars : List Char}
    (h : chars.all isPrintable = true) :
    (writeSingleQuoted afterBreak chars).all isPrintable = true := by
  induction chars generalizing afterBreak with
  | nil => rw [writeSingleQuoted, List.all_append, all_isPrintable_indentation]; decide
  | cons c chars ih =>
      rw [List.all_cons, Bool.and_eq_true] at h
      have hword : (if c = '\'' then ['\'', '\''] else [c]).all isPrintable = true := by
        split
        · decide
        · rw [List.all_cons, h.1]; rfl
      rw [writeSingleQuoted]
      split
      · rw [List.all_cons, h.1, ih true h.2]; rfl
      · rw [List.all_append, List.all_append, all_isPrintable_indentation, hword, ih false h.2]; rfl

theorem isPrintable_hexChar {digit : Nat} (h : digit < 16) :
    isPrintable (hexChar digit) = true := by
  have hall : ∀ digit < 16, isPrintable (hexChar digit) = true := by decide
  exact hall digit h

theorem all_isPrintable_hexDigits (width n : Nat) :
    (hexDigits width n).all isPrintable = true := by
  induction width generalizing n with
  | zero => rfl
  | succ width ih =>
      rw [hexDigits, List.all_append, ih, List.all_cons,
        isPrintable_hexChar (Nat.mod_lt n (by decide))]
      rfl

theorem all_isPrintable_escape (c : Char) : (escape c).all isPrintable = true := by
  unfold escape
  cases hletter : escapeLetter? c with
  | some letter =>
      have hall : ∀ escape ∈ letterEscapes, (escapeLetter? escape.2).all isPrintable = true := by
        decide
      obtain ⟨escape, hfind, -⟩ := Option.map_eq_some_iff.mp hletter
      obtain rfl : escape.2 = c := by simpa using List.find?_some hfind
      have hprintable := hall escape (List.mem_of_find?_eq_some hfind)
      rw [hletter, Option.all_some] at hprintable
      rw [List.all_cons, List.all_cons, hprintable]
      decide
  | none =>
      dsimp only
      split
      · rw [List.all_cons, List.all_cons, all_isPrintable_hexDigits]; decide
      · split
        · rw [List.all_cons, List.all_cons, all_isPrintable_hexDigits]; decide
        · rw [List.all_cons, List.all_cons, all_isPrintable_hexDigits]; decide

theorem all_isPrintable_writeDoubleQuoted (chars : List Char) :
    (writeDoubleQuoted chars).all isPrintable = true := by
  have hchar (c : Char) : (writeDoubleQuotedChar c).all isPrintable = true := by
    unfold writeDoubleQuotedChar
    split
    · exact all_isPrintable_escape c
    next hplain => 
      simp only [Bool.not_eq_true, Bool.or_eq_false_iff, Bool.not_eq_false'] at hplain
      rw [List.all_cons, hplain.1.1.1]
      rfl
  rw [writeDoubleQuoted, List.all_append, List.all_flatMap]
  simp [hchar]
  decide

theorem all_isPrintable_literalHints (text : List Char) :
    (literalHints text).all isPrintable = true := by
  rw [literalHints_eq, List.all_append]
  cases chompingOf text <;> split <;> decide

theorem all_isPrintable_writeLiteralLines (atStart : Bool) {chars : List Char}
    (h : chars.all isPrintable = true) :
    (writeLiteralLines atStart chars).all isPrintable = true := by
  induction chars generalizing atStart with
  | nil => cases atStart <;> decide
  | cons c chars ih =>
      rw [List.all_cons, Bool.and_eq_true] at h
      rw [writeLiteralLines]
      split
      · rw [List.all_cons, h.1, ih true h.2]; rfl
      · rw [List.all_append, List.all_cons, all_isPrintable_indentation, h.1, ih false h.2]; rfl

/-! ### Scalars -/

theorem writtenStyle_cases (text : String) :
    (writtenStyle text = .literal ∧ '\n' ∈ text.toList ∧ allowsLiteral text.toList = true) ∨
    (writtenStyle text = .plain ∧ text ≠ "" ∧ allowsPlain text.toList = true) ∨
    (writtenStyle text = .singleQuoted ∧ '\n' ∉ text.toList ∧
      allowsSingleQuotes text.toList = true) ∨
    writtenStyle text = .doubleQuoted := by
  rw [writtenStyle]
  split
  next hline =>
    rw [List.contains_iff_mem] at hline
    split
    next hliteral => exact .inl ⟨rfl, hline, hliteral⟩
    next => exact .inr (.inr (.inr rfl))
  next hline =>
    rw [List.contains_iff_mem] at hline
    split
    next hplain =>
      rw [Bool.and_eq_true, Bool.not_eq_true'] at hplain
      refine .inr (.inl ⟨rfl, ?_, hplain.2⟩)
      rintro rfl
      exact absurd hplain.1 (by decide)
    next =>
      split
      next hquotes => exact .inr (.inr (.inl ⟨rfl, hline, hquotes⟩))
      next => exact .inr (.inr (.inr rfl))

theorem next?_atValue {mark : Mark} (hmark : 0 < mark.column) (tokens : List Token) {c : Char}
    {text : List Char} (hbreak : isBreak c = false) (hblank : isBlank c = false)
    (hcomment : c ≠ '#') :
    (atValue mark tokens (c :: text)).next? = (atValue mark tokens (c :: text)).token c text := by
  have hready : (atValue mark tokens (c :: text)).atToken = atValue mark tokens (c :: text) := by
    simp only [isBlank, Bool.or_eq_false_iff, beq_eq_false_iff_ne] at hblank
    simp [atToken, atValue, skipSpace, hbreak, hblank, hcomment, Nat.ne_of_gt hmark]
  exact next?_eq_token hready rfl rfl (.inr rfl) rfl

theorem next?_plain {mark : Mark} (hmark : 0 < mark.column) (tokens : List Token) {c : Char}
    {text : List Char} (h : allowsPlain (c :: text) = true) (rest : List Char) :
    (atValue mark tokens (c :: text ++ rest)).next? =
      (atValue mark tokens (c :: text ++ rest)).plainScalar := by
  have hplain := PlainRest.of_allowsPlain h
  simp only [allowsPlain, hasEdge, startsWithIndicator, Bool.and_eq_true, Bool.not_eq_true',
    Bool.or_eq_false_iff, List.head?_cons, Option.any_some, beq_eq_false_iff_ne] at h
  obtain ⟨⟨⟨⟨-, hspace, -⟩, ⟨⟨hindicator, hgap⟩, -⟩, -⟩, -⟩, -⟩ := h
  have hblank : isBlank c = false := by
    rw [Bool.eq_false_iff, ne_eq, hplain.isBlank_iff]
    exact hspace
  have hcomment : c ≠ '#' := by
    rintro rfl
    exact absurd hindicator (by decide)
  have hword : c = '-' ∨ c = '?' ∨ c = ':' → atGap (text ++ rest) = false := by
    intro hc
    apply atGap_append
    rcases hc with rfl | rfl | rfl
    · exact hgap
    · exact hgap
    · exact hgap
  exact (next?_atValue hmark tokens (hplain.isBreak c List.mem_cons_self) hblank hcomment).trans
    (token_eq_plainScalar rfl hindicator hblank hword fun hzero => absurd hzero (Nat.ne_of_gt hmark))

theorem writesScalar_plain {text : List Char} (hne : text ≠ []) (h : allowsPlain text = true) :
    WritesScalar (text ++ ['\n']) .plain (String.ofList text) where
  isPrintable := List.forall_mem_append.mpr
    ⟨(PlainRest.of_allowsPlain h).isPrintable, List.forall_mem_singleton.mpr (by decide)⟩
  lexed := by
    intro mark tokens rest hmark hrest
    obtain ⟨c, more, rfl⟩ := List.exists_cons_of_ne_nil hne
    let lexer := atValue mark tokens (c :: more ++ '\n' :: rest)
    have hscalar := plainScalar_eq (show lexer.markKey = some lexer from rfl) rfl
      (readPlain_value h hmark hrest)
    rw [List.append_assoc, List.singleton_append]
    exact ⟨_, _, (next?_plain hmark tokens h _).trans hscalar, atToken_atEntry hrest _ _ _⟩

theorem quotedScalar_atValue {style : ScalarStyle} {read : Gap → Mark → List Char → Option Lexeme}
    {mark behind : Mark} {tokens : List Token} {quote : Char} {body text rest : List Char}
    (hread : read .none (mark.past quote) (body ++ '\n' :: rest) =
      some ⟨text, ⟨behind, '\n' :: rest⟩⟩) :
    (atValue mark tokens (quote :: body ++ '\n' :: rest)).quotedScalar style read =
      some (atValue behind (.scalar style (String.ofList text) :: tokens) ('\n' :: rest)) := by
  change (read .none (mark.past quote) (body ++ '\n' :: rest)).bind _ = _
  rw [hread]
  rfl

theorem atToken_atValue_lineFeed {rest : List Char} (hrest : AtEntry rest) (mark : Mark)
    (tokens : List Token) :
    (atValue mark tokens ('\n' :: rest)).atToken = atEntry (mark.line + 1) [0] tokens rest := by
  simp only [atToken, atValue, inFlow, List.isEmpty_nil, Bool.not_true,
    skipSpace_lineFeed hrest]
  rfl

theorem quote_startsToken {quote : Char} (h : quote = '\'' ∨ quote = '"') :
    isPrintable quote = true ∧ isBreak quote = false ∧ isBlank quote = false ∧ quote ≠ '#' := by
  rcases h with rfl | rfl <;> decide

theorem writesScalar_quoted {style : ScalarStyle} (read : Gap → Mark → List Char → Option Lexeme)
    {quote : Char} {body text : List Char} (hquote : quote = '\'' ∨ quote = '"')
    (htoken : ∀ mark tokens rest, 0 < mark.column →
      (atValue mark tokens (quote :: rest)).token quote rest =
        (atValue mark tokens (quote :: rest)).quotedScalar style read)
    (hbody : body.all isPrintable = true)
    (hread : ∀ mark rest, 0 < mark.column → ∃ behind,
      read .none mark (body ++ '\n' :: rest) = some ⟨text, ⟨behind, '\n' :: rest⟩⟩) :
    WritesScalar (quote :: body ++ ['\n']) style (String.ofList text) where
  isPrintable := by
    rw [← List.all_eq_true, List.all_append, List.all_cons, (quote_startsToken hquote).1, hbody]
    decide
  lexed := by
    intro mark tokens rest hmark hrest
    obtain ⟨-, hbreak, hblank, hcomment⟩ := quote_startsToken hquote
    obtain ⟨behind, hbehind⟩ := hread (mark.past quote) rest (Nat.succ_pos _)
    rw [List.append_assoc, List.singleton_append]
    refine ⟨_, _, ?_, atToken_atValue_lineFeed hrest behind _⟩
    rw [List.cons_append, next?_atValue hmark tokens hbreak hblank hcomment, htoken _ _ _ hmark]
    exact quotedScalar_atValue hbehind

theorem writesScalar_singleQuoted {text : List Char} (h : allowsSingleQuotes text = true)
    (hline : '\n' ∉ text) :
    WritesScalar ('\'' :: writeSingleQuoted false text ++ ['\n']) .singleQuoted
      (String.ofList text) := by
  have hrest := SingleQuotedRest.of_allowsSingleQuotes h hline
  apply writesScalar_quoted readSingleQuoted (.inl rfl)
  · intro mark tokens rest hmark
    simp [token, atDocumentMark, inFlow, atValue, Nat.ne_of_gt hmark]
  · exact all_isPrintable_writeSingleQuoted false (List.all_eq_true.mpr hrest.isPrintable)
  · intro mark rest hmark
    exact readSingleQuoted_write mark hrest (fun _ => hmark) (by simp)

theorem writesScalar_doubleQuoted (text : List Char) :
    WritesScalar ('"' :: writeDoubleQuoted text ++ ['\n']) .doubleQuoted (String.ofList text) := by
  apply writesScalar_quoted (readDoubleQuoted 0) (.inr rfl)
  · intro mark tokens rest hmark
    simp [token, atDocumentMark, inFlow, atValue, Nat.ne_of_gt hmark]
  · exact all_isPrintable_writeDoubleQuoted text
  · intro mark rest hmark
    exact readDoubleQuoted_write [] hmark text _

theorem writesScalar_literal {text : List Char} (hne : text ≠ [])
    (h : ∀ c ∈ text, isPrintable c = true) :
    WritesScalar ('|' :: literalHints text ++ '\n' :: writeLiteralLines true text) .literal
      (String.ofList text) where
  isPrintable := by
    rw [← List.all_eq_true] at h ⊢
    rw [List.all_append, List.all_cons, List.all_cons, all_isPrintable_literalHints,
      all_isPrintable_writeLiteralLines true h]
    decide
  lexed := by
    intro mark tokens rest hmark hrest
    obtain ⟨behind, hbehind⟩ := readBlockScalar_write (mark.past '|') hne h hrest
    let body := literalHints text ++ '\n' :: (writeLiteralLines true text ++ rest)
    let lexer := atValue mark tokens ('|' :: body)
    have htoken : lexer.token '|' body = lexer.blockScalar .literal := by
      simp [lexer, token, atDocumentMark, inFlow, atValue, Nat.ne_of_gt hmark]
    have hscalar : lexer.blockScalar .literal =
        some (atEntry behind [0] (.scalar .literal (String.ofList text) :: tokens) rest) := by
      change (readBlockScalar false 1 ⟨mark.past '|', body⟩).bind _ = _
      rw [hbehind]
      rfl
    refine ⟨_, behind, ?_, atToken_atEntry hrest _ _ _⟩
    rw [List.append_assoc, List.cons_append, List.cons_append,
      next?_atValue hmark tokens rfl rfl (by decide)]
    exact htoken.trans hscalar

/-- What is written for a text as the value of an entry is read as that text. -/
theorem writesScalar_writeText (text : String) :
    WritesScalar (writeText text) (writtenStyle text) text := by
  obtain ⟨chars, rfl⟩ : ∃ chars, text = String.ofList chars := ⟨text.toList, by simp⟩
  rcases writtenStyle_cases (String.ofList chars) with ⟨hstyle, hline, hliteral⟩ |
    ⟨hstyle, hne, hplain⟩ | ⟨hstyle, hline, hquotes⟩ | hstyle
  all_goals
    rw [writeText, hstyle]
    simp only [String.toList_ofList] at *
  · simp only [allowsLiteral, Bool.and_eq_true, List.all_eq_true] at hliteral
    exact writesScalar_literal (List.ne_nil_of_mem hline) hliteral.1.1
  · refine writesScalar_plain ?_ hplain
    rintro rfl
    exact hne rfl
  · exact writesScalar_singleQuoted hquotes hline
  · exact writesScalar_doubleQuoted chars

namespace Entry

def ofText (key : String) (isKey : IsKey key.toList) (text : String) : Entry :=
  ⟨key, writeText text, writtenStyle text, text, isKey, writesScalar_writeText text⟩

/-- The entry for a word of letters and digits, which stands without quotes. -/
def ofWord (key : String) (isKey : IsKey key.toList) (word : List Char) (hne : word ≠ [])
    (hword : ∀ c ∈ word, c.isAlphanum = true) : Entry :=
  ⟨key, word ++ ['\n'], .plain, String.ofList word, isKey,
    writesScalar_plain hne (allowsPlain_of_isAlphanum hword)⟩

end Entry

end ObservationSql.Yaml
