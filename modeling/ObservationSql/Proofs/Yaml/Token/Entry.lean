import ObservationSql.Proofs.Yaml.Scalar.Plain
import ObservationSql.Yaml.Token.Lexer

/-!
The entries of a block mapping at the left margin, as the lexer goes through them. An entry takes
three tokens, a key, a colon and a value; the tokens that announce the key, and the mapping, are put
in when the colon comes.
-/

namespace ObservationSql.Yaml

namespace Lexer

/-- The columns of the open block collections while the lexer is at the left margin: there is none
yet, or the mapping. -/
def AtMargin (columns : List Nat) : Prop :=
  columns = [] ∨ columns = [0]

/-- The lexer in front of an entry or at the end of the mapping. -/
def atEntry (line : Nat) (columns : List Nat) (tokens : List Token) (text : List Char) : Lexer :=
  { cursor := ⟨{ line }, text⟩, tokens, columns }

/-- The lexer behind a key, in front of its colon. -/
def atColon (line : Nat) (columns : List Nat) (tokens : List Token) (key text : List Char) :
    Lexer :=
  { cursor := ⟨key.foldl Mark.past { line }, ':' :: ' ' :: text⟩
    tokens := .scalar .plain (String.ofList key) :: tokens
    columns
    blockKey := some ⟨tokens.length, { line }, columns.head? == some 0⟩
    keyAllowed := false }

/-- The lexer in front of the value of an entry. -/
def atValue (mark : Mark) (tokens : List Token) (text : List Char) : Lexer :=
  { cursor := ⟨mark, text⟩, tokens, columns := [0], keyAllowed := false }

/-- The lexer behind one more token. -/
def next? (lexer : Lexer) : Option Lexer := do
  let lexer ← lexer.atToken.dropStaleKeys
  let lexer := lexer.closeDeeper
  match lexer.cursor.rest with
  | [] => none
  | c :: rest => lexer.token c rest

variable {lexer next : Lexer} {line : Nat} {columns : List Nat} {tokens : List Token}
  {key text : List Char}

theorem run_succ (h : lexer.next? = some next) (fuel : Nat) :
    run (fuel + 1) lexer = run fuel next := by
  rw [next?, Option.bind_eq_bind, Option.bind_eq_some_iff] at h
  obtain ⟨ready, hready, hnext⟩ := h
  rw [run, hready, Option.bind_eq_bind, Option.bind_some]
  dsimp only at hnext ⊢
  cases hrest : ready.closeDeeper.cursor.rest with
  | nil => simp [hrest] at hnext
  | cons c rest =>
      simp only [hrest] at hnext ⊢
      rw [hnext]
      rfl

/-! ### White space -/

theorem skipSpace_atEntry (h : AtEntry text) (inFlow keyAllowed : Bool)
    (mark : Mark) : skipSpace inFlow keyAllowed false mark text = (keyAllowed, ⟨mark, text⟩) := by
  cases text with
  | nil => rfl
  | cons c rest =>
      have hc : c.isAlphanum = true := h c rfl
      have hmark : c ≠ byteOrderMark := ne_of_isAlphanum hc (by decide)
      have hspace : c ≠ ' ' := ne_of_isAlphanum hc rfl
      have htab : c ≠ '\t' := ne_of_isAlphanum hc rfl
      have hcomment : c ≠ '#' := ne_of_isAlphanum hc rfl
      simp [skipSpace, isBreak_of_isAlphanum hc, hmark, hspace, htab, hcomment]

theorem skipSpace_lineFeed (h : AtEntry text) (keyAllowed : Bool)
    (mark : Mark) :
    skipSpace false keyAllowed false mark ('\n' :: text) = (true, ⟨mark.down, text⟩) := by
  rw [skipSpace, if_pos (by decide), skipSpace_atEntry h]
  cases keyAllowed <;> rfl

theorem atToken_atEntry (h : AtEntry text) (line : Nat) (columns : List Nat)
    (tokens : List Token) :
    (atEntry line columns tokens text).atToken = atEntry line columns tokens text := by
  simp only [atToken, atEntry, skipSpace_atEntry h]

/-! ### Keys -/

/-- A key that is written without quotes. -/
structure IsKey (key : List Char) : Prop where
  ne_nil : key ≠ []
  isAlphanum : ∀ c ∈ key, c.isAlphanum = true
  octets_le : (key.map Char.utf8Size).sum ≤ 1024

theorem isKey_iff :
    IsKey key ↔ key ≠ [] ∧ key.all Char.isAlphanum = true ∧
      (key.map Char.utf8Size).sum ≤ 1024 := by
  rw [List.all_eq_true]
  exact ⟨fun h => ⟨h.ne_nil, h.isAlphanum, h.octets_le⟩, fun h => ⟨h.1, h.2.1, h.2.2⟩⟩

instance (key : List Char) : Decidable (IsKey key) :=
  decidable_of_iff _ isKey_iff.symm

theorem token_eq_plainScalar {c : Char} {rest : List Char}
    (hflow : lexer.flowKeys = []) (hindicator : isIndicator c = false)
    (hblank : isBlank c = false) (hgap : c = '-' ∨ c = '?' ∨ c = ':' → atGap rest = false)
    (hmark : lexer.cursor.mark.column = 0 → atDocumentMark (c :: rest) = false) :
    lexer.token c rest = lexer.plainScalar := by
  have hflow : lexer.inFlow = false := by rw [inFlow, hflow]; rfl
  have hdocument : ¬(lexer.cursor.mark.column = 0 ∧ atDocumentMark (c :: rest) = true) :=
    fun h => Bool.eq_false_iff.mp (hmark h.1) h.2
  have hitem : ¬(c = '-' ∧ atGap rest = true) :=
    fun h => Bool.eq_false_iff.mp (hgap (.inl h.1)) h.2
  have hkey : ¬(c = '?' ∧ atGap rest = true) :=
    fun h => Bool.eq_false_iff.mp (hgap (.inr (.inl h.1))) h.2
  have hvalue : ¬(c = ':' ∧ atGap rest = true) :=
    fun h => Bool.eq_false_iff.mp (hgap (.inr (.inr h.1))) h.2
  have hstarts : startsPlain false c rest = true := by
    rw [startsPlain]
    split
    next hc => rw [hgap (.inr hc)]; rfl
    next => rw [hblank, hindicator]; rfl
  simp only [isIndicator, isFlowIndicator, String.reduceToList, List.contains_eq_mem,
    List.mem_cons, List.not_mem_nil, or_false, Bool.decide_or, Bool.or_eq_false_iff,
    beq_eq_false_iff_ne, ne_eq, decide_eq_false_iff_not] at hindicator
  simp only [token, hdocument, hitem, hkey, hvalue, hstarts, hindicator, hflow, if_false, if_true,
    Bool.false_or, and_false, false_and]

/-- Without open flow collections and without a place where a key may have begun, the lexer goes on
from the next token as it is. -/
theorem next?_eq_token {ready : Lexer} {c : Char} {rest : List Char}
    (h : lexer.atToken = ready) (hflow : ready.flowKeys = [])
    (hkey : dropStale ready.cursor.mark ready.blockKey = some ready.blockKey)
    (hcolumns : AtMargin ready.columns) (hrest : ready.cursor.rest = c :: rest) :
    lexer.next? = ready.token c rest := by
  have hstale : ready.dropStaleKeys = some ready := by
    rw [dropStaleKeys, hkey, hflow]
    cases ready
    subst hflow
    rfl
  have hdeeper : ready.closeDeeper = ready := by
    have hclosed :
        ready.columns.takeWhile (fun column => ready.cursor.mark.column < column) = [] := by
      rcases hcolumns with hcolumns | hcolumns <;> rw [hcolumns] <;> simp
    rw [closeDeeper, closeBlocksWhile, if_neg (by simp [inFlow, hflow]), hclosed]
    rfl
  rw [next?, h, hstale, Option.bind_eq_bind, Option.bind_some, hdeeper]
  dsimp only
  rw [hrest]

theorem plainScalar_eq {marked : Lexer} {scalar : Lexeme} {broken : Bool}
    (hmark : lexer.markKey = some marked) (hflow : marked.flowKeys = [])
    (hread : readPlain ⟨false, marked.innerColumn⟩ .none marked.cursor.mark marked.cursor.rest =
      some (scalar, broken)) :
    lexer.plainScalar =
      some { marked.emit (.scalar .plain (String.ofList scalar.text)) scalar.cursor with
        keyAllowed := broken } := by
  have hinside : marked.inFlow = false := by rw [inFlow, hflow]; rfl
  rw [plainScalar, hmark, Option.bind_eq_bind, Option.bind_some, hinside, hread]
  rfl

theorem next?_key (hkey : IsKey key) (hcolumns : AtMargin columns)
    (h : lexer.atToken = atEntry line columns tokens (key ++ ':' :: ' ' :: text)) :
    lexer.next? = some (atColon line columns tokens key text) := by
  let ready := atEntry line columns tokens (key ++ ':' :: ' ' :: text)
  let marked : Lexer :=
    { ready with blockKey := some ⟨tokens.length, { line }, columns.head? == some 0⟩ }
  have hindent : marked.innerColumn ≤ 1 := by
    rcases hcolumns with rfl | rfl
    · exact Nat.zero_le 1
    · exact Nat.le_refl 1
  have hmarked : ready.markKey = some marked := rfl
  have hscalar := plainScalar_eq hmarked rfl (readPlain_key hkey.isAlphanum hindent)
  obtain ⟨c, rest, rfl⟩ := List.exists_cons_of_ne_nil hkey.ne_nil
  have hc : c.isAlphanum = true := hkey.isAlphanum c List.mem_cons_self
  rw [next?_eq_token h rfl rfl hcolumns rfl, token_eq_plainScalar rfl (isIndicator_of_isAlphanum hc)
    (isBlank_of_isAlphanum hc) ?_ fun _ => atDocumentMark_of_isAlphanum hc _]
  · exact hscalar
  · rintro (rfl | rfl | rfl)
    all_goals exact absurd hc (by decide)

def opening : List Nat → List Token
  | [] => [.blockMappingStart]
  | _ => []

def keyTokens (columns : List Nat) (key : List Char) (tokens : List Token) : List Token :=
  .value :: .scalar .plain (String.ofList key) :: .key :: (opening columns ++ tokens)

theorem insertAt_length {later earlier : List Token}
    (h : lexer.tokens = later ++ earlier) (token : Token) :
    lexer.insertAt earlier.length token = { lexer with tokens := later ++ token :: earlier } := by
  rw [insertAt, h, List.length_append, Nat.add_sub_cancel, List.take_left, List.drop_left]

theorem valueIndicator_atColon (hcolumns : AtMargin columns) :
    (atColon line columns tokens key text).valueIndicator =
      some (atValue ((key.foldl Mark.past { line }).past ':') (keyTokens columns key tokens)
        (' ' :: text)) := by
  let lexer := atColon line columns tokens key text
  let before : List Token := [.scalar .plain (String.ofList key), .key]
  let marked : Lexer := { lexer with tokens := before ++ tokens }
  have hkey : lexer.insertAt tokens.length .key = marked :=
    insertAt_length (show lexer.tokens = [_] ++ tokens from rfl) .key
  have hopen : marked.openBlock 0 tokens.length .blockMappingStart =
      { marked with tokens := before ++ (opening columns ++ tokens), columns := [0] } := by
    -- Behind the first key the mapping is open, at the column of every other key.
    rcases hcolumns with rfl | rfl
    · change { marked.insertAt tokens.length .blockMappingStart with columns := [0] } = _
      rw [insertAt_length (show marked.tokens = before ++ tokens from rfl)]
      rfl
    · rfl
  have hindicator : lexer.valueIndicator =
      some { ((lexer.insertAt tokens.length .key).openBlock 0 tokens.length
        .blockMappingStart).withKeyStart none |>.emitSkip .value 1 with keyAllowed := false } :=
    rfl
  rw [hindicator, hkey, hopen]
  rfl

theorem next?_colon (hkey : IsKey key) (hcolumns : AtMargin columns) :
    ∃ mark : Mark, 0 < mark.column ∧ (atColon line columns tokens key text).next? =
      some (atValue mark (keyTokens columns key tokens) (' ' :: text)) := by
  have hready : (atColon line columns tokens key text).atToken =
      atColon line columns tokens key text := by
    simp [atToken, atColon, skipSpace, isBreak, byteOrderMark]
  have hstale : dropStale (key.foldl Mark.past { line })
      (atColon line columns tokens key text).blockKey =
        some (atColon line columns tokens key text).blockKey := by
    have hstill : stillKey (key.foldl Mark.past { line })
        ⟨tokens.length, { line }, columns.head? == some 0⟩ = true := by
      rw [foldl_past]
      simpa [stillKey] using hkey.octets_le
    exact if_pos hstill
  have htoken : (atColon line columns tokens key text).token ':' (' ' :: text) =
      (atColon line columns tokens key text).valueIndicator := by
    simp [token, atDocumentMark, inFlow, atColon, atGap, isBlank]
  refine ⟨(key.foldl Mark.past { line }).past ':', Nat.succ_pos _, ?_⟩
  rw [next?_eq_token hready rfl hstale hcolumns rfl, htoken, valueIndicator_atColon hcolumns]

theorem next?_congr {other : Lexer} (h : lexer.atToken = other.atToken) :
    lexer.next? = other.next? := by
  rw [next?, h, next?]

theorem atToken_atValue_space (mark : Mark) (tokens : List Token) (text : List Char) :
    (atValue mark tokens (' ' :: text)).atToken =
      (atValue (mark.past ' ') tokens text).atToken := by
  have hskip : skipSpace false false false mark (' ' :: text) =
      skipSpace false false false (mark.past ' ') text := by
    simp [skipSpace, isBreak]
  simp [atToken, atValue, inFlow, hskip]

theorem run_end (h : lexer.atToken = atEntry line [0] tokens []) (fuel : Nat) :
    run (fuel + 1) lexer = some (tokens.reverse ++ [.blockEnd]) := by
  rw [run, h]
  exact congrArg some List.reverse_cons

end Lexer

open Lexer

/-- What is written for a scalar as the value of an entry, whatever stands around it. -/
structure WritesScalar (written : List Char) (style : ScalarStyle) (text : String) : Prop where
  isPrintable : ∀ c ∈ written, isPrintable c = true
  lexed : ∀ (mark : Mark) (tokens : List Token) (rest : List Char), 0 < mark.column →
    AtEntry rest → ∃ next line, (atValue mark tokens (written ++ rest)).next? = some next ∧
      next.atToken = atEntry line [0] (.scalar style text :: tokens) rest

/-- An entry of a block mapping: its key, what is written for its value, and the style and the text
that are meant by it. -/
structure Entry where
  key : String
  written : List Char
  style : ScalarStyle
  text : String
  isKey : IsKey key.toList
  writesScalar : WritesScalar written style text

namespace Entry

def line (entry : Entry) : List Char :=
  writeEntry entry.key entry.written

def tokens (entry : Entry) : List Token :=
  [.key, .scalar .plain entry.key, .value, .scalar entry.style entry.text]

theorem isPrintable_line (entry : Entry) : ∀ c ∈ entry.line, isPrintable c = true := by
  intro c hc
  rw [line, writeEntry, List.mem_append, List.mem_cons, List.mem_cons] at hc
  rcases hc with hc | rfl | rfl | hc
  · exact isPrintable_of_isAlphanum (entry.isKey.isAlphanum c hc)
  · decide
  · decide
  · exact entry.writesScalar.isPrintable c hc

theorem three_le_length_line (entry : Entry) : 3 ≤ entry.line.length := by
  have hkey : 0 < entry.key.toList.length := List.length_pos_iff.mpr entry.isKey.ne_nil
  simp only [line, writeEntry, List.length_append, List.length_cons]
  omega

theorem three_mul_length_le (entries : List Entry) :
    3 * entries.length ≤ (entries.flatMap line).length := by
  induction entries with
  | nil => exact Nat.zero_le _
  | cons entry entries ih =>
      have hline := entry.three_le_length_line
      rw [List.flatMap_cons, List.length_append, List.length_cons]
      omega

theorem atEntry_flatMap_line (entries : List Entry) : AtEntry (entries.flatMap line) := by
  cases entries with
  | nil => exact nofun
  | cons entry entries =>
      intro c hc
      obtain ⟨first, rest, hkey⟩ := List.exists_cons_of_ne_nil entry.isKey.ne_nil
      rw [List.flatMap_cons, line, writeEntry, hkey] at hc
      obtain rfl : first = c := Option.some.inj hc
      exact entry.isKey.isAlphanum first (hkey ▸ List.mem_cons_self)

theorem run_line {lexer : Lexer} {line : Nat} {columns : List Nat} {earlier : List Token}
    {rest : List Char} (entry : Entry) (hcolumns : AtMargin columns) (hrest : AtEntry rest)
    (h : lexer.atToken = atEntry line columns earlier (entry.line ++ rest)) (fuel : Nat) :
    ∃ next behind, run (fuel + 3) lexer = run fuel next ∧
      next.atToken =
        atEntry behind [0] (entry.tokens.reverse ++ (opening columns ++ earlier)) rest := by
  rw [Entry.line, writeEntry, List.append_assoc, List.cons_append, List.cons_append] at h
  have hkey := next?_key entry.isKey hcolumns h
  obtain ⟨mark, hmark, hcolon⟩ := next?_colon entry.isKey hcolumns
  obtain ⟨next, behind, hvalue, hnext⟩ := entry.writesScalar.lexed (mark.past ' ')
    (keyTokens columns entry.key.toList earlier) rest (Nat.succ_pos _) hrest
  refine ⟨next, behind, ?_, ?_⟩
  · rw [run_succ hkey, run_succ hcolon,
      run_succ ((next?_congr (atToken_atValue_space _ _ _)).trans hvalue)]
  · rw [hnext, keyTokens, String.ofList_toList]
    rfl

theorem run_lines (entries : List Entry) {lexer : Lexer} {line fuel : Nat} {earlier : List Token}
    (hfuel : 3 * entries.length < fuel)
    (h : lexer.atToken = atEntry line [0] earlier (entries.flatMap Entry.line)) :
    run fuel lexer = some (earlier.reverse ++ entries.flatMap tokens ++ [.blockEnd]) := by
  induction entries generalizing lexer line fuel earlier with
  | nil =>
      obtain ⟨left, rfl⟩ := Nat.exists_eq_add_of_lt hfuel
      rw [List.flatMap_nil, List.append_nil]
      exact run_end h _
  | cons entry entries ih =>
      rw [List.length_cons] at hfuel
      obtain ⟨left, rfl⟩ : ∃ left, fuel = left + 3 := ⟨fuel - 3, by omega⟩
      obtain ⟨next, behind, hrun, hnext⟩ :=
        entry.run_line (.inr rfl) (atEntry_flatMap_line entries) h left
      rw [hrun, ih (by omega) hnext]
      simp [opening]

end Entry

theorem tokens?_entries {entries : List Entry} (hne : entries ≠ []) :
    tokens? (entries.flatMap Entry.line) =
      some (.blockMappingStart :: entries.flatMap Entry.tokens ++ [.blockEnd]) := by
  have hprintable : ∀ c ∈ entries.flatMap Entry.line, isPrintable c = true := by
    intro c hc
    obtain ⟨entry, -, hc⟩ := List.mem_flatMap.mp hc
    exact entry.isPrintable_line c hc
  have hreadable : (entries.flatMap Entry.line).all isReadable = true := by
    rw [List.all_eq_true]
    exact fun c hc => isReadable_of_isPrintable (hprintable c hc)
  have hlength := Entry.three_mul_length_le entries
  rw [tokens?, if_pos hreadable, unifyBreaks_of_isPrintable hprintable]
  dsimp only
  generalize (entries.flatMap Entry.line).length = length at hlength
  obtain ⟨entry, entries, rfl⟩ := List.exists_cons_of_ne_nil hne
  rw [List.length_cons] at hlength
  obtain ⟨left, rfl⟩ : ∃ left, length = left + 2 := ⟨length - 2, by omega⟩
  obtain ⟨next, behind, hrun, hnext⟩ := entry.run_line (.inl rfl)
    (Entry.atEntry_flatMap_line entries)
    (atToken_atEntry (Entry.atEntry_flatMap_line (entry :: entries)) 0 [] []) left
  have hstart : run (left + 2 + 1) { cursor := ⟨{}, (entry :: entries).flatMap Entry.line⟩ } =
      run left next := hrun
  rw [hstart, Entry.run_lines entries (by omega) hnext]
  simp [opening]

end ObservationSql.Yaml
