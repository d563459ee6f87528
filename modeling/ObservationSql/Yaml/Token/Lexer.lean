import ObservationSql.Yaml.Token.Property

/-!
From text to tokens. Documents are read and written by a library from outside, and these modules
stand for it by its documented rules. Its scanner follows YAML 1.1 in what characters, indentation,
comments and the five styles of scalars are, and in the limit of 1024 octets on one line for a key
without an indicator.

Indentation opens and closes the block collections, and a mapping key without an indicator of its
own is recognised only when its colon comes: the place where it began is remembered, and the token
that announces a key is put in there afterwards.
-/

namespace ObservationSql.Yaml

/-- A place where a mapping key may have begun: the number of tokens before it, and its position.
Where the key is required, not finding its colon is a fault. -/
structure KeyStart where
  position : Nat
  mark : Mark
  required : Bool
  deriving DecidableEq, Repr

/-- A text of which a first part has been turned into tokens. -/
structure Lexer where
  cursor : Cursor
  /-- The tokens so far, the last one first. -/
  tokens : List Token := []
  /-- The columns of the open block collections, the innermost first. -/
  columns : List Nat := []
  /-- Where a key may have begun outside all flow collections. -/
  blockKey : Option KeyStart := none
  /-- Where a key may have begun inside each open flow collection, the innermost first. -/
  flowKeys : List (Option KeyStart) := []
  /-- Whether a key without an indicator may begin here. -/
  keyAllowed : Bool := true
  deriving DecidableEq, Repr

namespace Lexer

/-- Whether a flow collection is open. Inside one, indentation opens and closes nothing. -/
def inFlow (lexer : Lexer) : Bool :=
  !lexer.flowKeys.isEmpty

/-- Where a key may have begun in the innermost open collection. -/
def keyStart (lexer : Lexer) : Option KeyStart :=
  match lexer.flowKeys with
  | [] => lexer.blockKey
  | key :: _ => key

/-- The lexer with another place where a key may have begun in the innermost open collection. -/
def withKeyStart (lexer : Lexer) (key : Option KeyStart) : Lexer :=
  match lexer.flowKeys with
  | [] => { lexer with blockKey := key }
  | _ :: outer => { lexer with flowKeys := key :: outer }

/-- The least column of a collection inside the innermost open block. -/
def innerColumn (lexer : Lexer) : Nat :=
  match lexer.columns with
  | [] => 0
  | column :: _ => column + 1

/-- The lexer behind a token that ends at `cursor`. -/
def emit (lexer : Lexer) (token : Token) (cursor : Cursor) : Lexer :=
  { lexer with tokens := token :: lexer.tokens, cursor }

def emitSkip (lexer : Lexer) (token : Token) (count : Nat) : Lexer :=
  lexer.emit token (lexer.cursor.skip count)

/-- The lexer with a token in front of all but the first `position` of its tokens. -/
def insertAt (lexer : Lexer) (position : Nat) (token : Token) : Lexer :=
  let later := lexer.tokens.length - position
  { lexer with tokens := lexer.tokens.take later ++ token :: lexer.tokens.drop later }

/-! ### White space -/

/-- Passes over white space, comments and line breaks. Tabs are white space inside flow collections
and where no key may begin; outside flow collections a key may begin on each new line. -/
def skipSpace (inFlow : Bool) :
    Bool → Bool → Mark → List Char → Bool × Cursor
  | keyAllowed, _, mark, [] => (keyAllowed, ⟨mark, []⟩)
  | keyAllowed, inComment, mark, c :: rest =>
      if isBreak c then skipSpace inFlow (keyAllowed || !inFlow) false mark.down rest
      else if inComment then skipSpace inFlow keyAllowed true (mark.past c) rest
      else if (mark.column == 0 && c == byteOrderMark) || c == ' '
          || (c == '\t' && (inFlow || !keyAllowed)) then
        skipSpace inFlow keyAllowed false (mark.past c) rest
      else if c = '#' then skipSpace inFlow keyAllowed true (mark.past c) rest
      else (keyAllowed, ⟨mark, c :: rest⟩)

def atToken (lexer : Lexer) : Lexer :=
  let (keyAllowed, cursor) :=
    skipSpace lexer.inFlow lexer.keyAllowed false lexer.cursor.mark lexer.cursor.rest
  { lexer with keyAllowed, cursor }

/-! ### Keys -/

/-- Whether a key that began there may still be one here: a key stands on one line and takes at most
1024 octets. -/
def stillKey (mark : Mark) (key : KeyStart) : Bool :=
  key.mark.line == mark.line && decide (mark.octet ≤ key.mark.octet + 1024)

/-- Forgets a place where a key can no longer have begun. A required key must not be forgotten. -/
def dropStale (mark : Mark) : Option KeyStart → Option (Option KeyStart)
  | none => some none
  | some key =>
      if stillKey mark key then some (some key) else if key.required then none else some none

/-- Forgets all places where a key can no longer have begun. -/
def dropStaleKeys (lexer : Lexer) : Option Lexer := do
  let blockKey ← dropStale lexer.cursor.mark lexer.blockKey
  let flowKeys ← lexer.flowKeys.mapM (dropStale lexer.cursor.mark)
  return { lexer with blockKey, flowKeys }

/-- Forgets where a key may have begun in the innermost open collection. -/
def dropKey (lexer : Lexer) : Option Lexer :=
  match lexer.keyStart with
  | some key => if key.required then none else some (lexer.withKeyStart none)
  | none => some lexer

/-- Remembers that a key may begin here, if one may. At the column of the innermost block it has to
be one. -/
def markKey (lexer : Lexer) : Option Lexer :=
  if lexer.keyAllowed then do
    let lexer ← lexer.dropKey
    let required := !lexer.inFlow && lexer.columns.head? == some lexer.cursor.mark.column
    return lexer.withKeyStart (some ⟨lexer.tokens.length, lexer.cursor.mark, required⟩)
  else some lexer

/-! ### Indentation -/

/-- Opens a block collection at a column that is deeper than that of the innermost open one, its
first token standing behind the first `position` tokens. -/
def openBlock (lexer : Lexer) (column position : Nat) (start : Token) : Lexer :=
  if !lexer.inFlow && decide (lexer.innerColumn ≤ column) then
    { lexer.insertAt position start with columns := column :: lexer.columns }
  else lexer

/-- Opens a block collection whose first token comes next, if the cursor is deeper than the
innermost one. -/
def openBlockHere (lexer : Lexer) (start : Token) : Lexer :=
  lexer.openBlock lexer.cursor.mark.column lexer.tokens.length start

/-- Closes the block collections that satisfy a test, from the innermost on. -/
def closeBlocksWhile (lexer : Lexer) (test : Nat → Bool) : Lexer :=
  if lexer.inFlow then lexer
  else
    let closed := lexer.columns.takeWhile test
    { lexer with
      tokens := List.replicate closed.length .blockEnd ++ lexer.tokens
      columns := lexer.columns.drop closed.length }

/-- Closes the block collections that are deeper than the cursor. -/
def closeDeeper (lexer : Lexer) : Lexer :=
  lexer.closeBlocksWhile fun column => lexer.cursor.mark.column < column

def closeAll (lexer : Lexer) : Lexer :=
  lexer.closeBlocksWhile fun _ => true

/-! ### Tokens -/

def documentMark (lexer : Lexer) (token : Token) : Option Lexer := do
  let lexer ← lexer.closeAll.dropKey
  return { lexer.emitSkip token 3 with keyAllowed := false }

def directive (lexer : Lexer) : Option Lexer := do
  let lexer ← lexer.closeAll.dropKey
  let (token, cursor) ← readDirective lexer.cursor
  return { lexer.emit token cursor with keyAllowed := false }

/-- The start of a flow collection, which may be a key itself. -/
def flowStart (lexer : Lexer) (token : Token) : Option Lexer := do
  let lexer ← lexer.markKey
  return { lexer.emitSkip token 1 with
    flowKeys := none :: lexer.flowKeys
    keyAllowed := true }

def flowEnd (lexer : Lexer) (token : Token) : Option Lexer := do
  let lexer ← lexer.dropKey
  return { lexer.emitSkip token 1 with
    flowKeys := lexer.flowKeys.tail
    keyAllowed := false }

def flowEntry (lexer : Lexer) : Option Lexer := do
  let lexer ← lexer.dropKey
  return { lexer.emitSkip .flowEntry 1 with keyAllowed := true }

/-- The indicator of an item or of a key, which opens a block collection where none is open at its
column. -/
def indicator (lexer : Lexer) (start token : Token) (keyAllowed : Bool) : Option Lexer := do
  if !lexer.inFlow && !lexer.keyAllowed then none
  let lexer ← (lexer.openBlockHere start).dropKey
  return { lexer.emitSkip token 1 with keyAllowed }

/-- The colon in front of a value. It turns what stands before it into a key, where a key may have
begun; else it belongs to a key with an indicator, or to one that is missing. -/
def valueIndicator (lexer : Lexer) : Option Lexer :=
  match lexer.keyStart with
  | some key =>
      let lexer := (lexer.insertAt key.position .key).openBlock key.mark.column key.position
        .blockMappingStart
      some { (lexer.withKeyStart none).emitSkip .value 1 with keyAllowed := false }
  | none => do
      if !lexer.inFlow && !lexer.keyAllowed then none
      let lexer := lexer.openBlockHere .blockMappingStart
      return { lexer.emitSkip .value 1 with keyAllowed := !lexer.inFlow }

def property {α : Type} (lexer : Lexer) (token : α → Token)
    (read : Cursor → Option (α × Cursor)) : Option Lexer := do
  let lexer ← lexer.markKey
  let (name, cursor) ← read lexer.cursor
  return { lexer.emit (token name) cursor with keyAllowed := false }

def quotedScalar (lexer : Lexer) (style : ScalarStyle)
    (read : Gap → Mark → List Char → Option Lexeme) : Option Lexer := do
  let lexer ← lexer.markKey
  let start := lexer.cursor.skip 1
  let scalar ← read .none start.mark start.rest
  return { lexer.emit (.scalar style (String.ofList scalar.text)) scalar.cursor with
    keyAllowed := false }

/-- A scalar without quotes. When the white space behind it runs over the end of a line, a key may
begin there. -/
def plainScalar (lexer : Lexer) : Option Lexer := do
  let lexer ← lexer.markKey
  let (scalar, broken) ← readPlain ⟨lexer.inFlow, lexer.innerColumn⟩ .none lexer.cursor.mark
    lexer.cursor.rest
  return { lexer.emit (.scalar .plain (String.ofList scalar.text)) scalar.cursor with
    keyAllowed := broken }

/-- A block scalar, which is never a key. -/
def blockScalar (lexer : Lexer) (style : ScalarStyle) : Option Lexer := do
  let lexer ← lexer.dropKey
  let scalar ← readBlockScalar (style == .folded) lexer.innerColumn (lexer.cursor.skip 1)
  return { lexer.emit (.scalar style (String.ofList scalar.text)) scalar.cursor with
    keyAllowed := true }

/-- Whether a scalar without quotes may begin with a character. A question mark or a colon may
begin one outside flow collections, where no white space follows it. -/
def startsPlain (inFlow : Bool) (c : Char) (rest : List Char) : Bool :=
  if c = '?' ∨ c = ':' then !inFlow && !atGap rest else !isBlank c && !isIndicator c

/-- The lexer behind the token that begins with `c`. -/
def token (lexer : Lexer) (c : Char) (rest : List Char) : Option Lexer :=
  if lexer.cursor.mark.column = 0 ∧ c = '%' then lexer.directive
  else if lexer.cursor.mark.column = 0 ∧ atDocumentMark (c :: rest) then
    lexer.documentMark (if c = '-' then .documentStart else .documentEnd)
  else if c = '[' then lexer.flowStart .flowSequenceStart
  else if c = '{' then lexer.flowStart .flowMappingStart
  else if c = ']' then lexer.flowEnd .flowSequenceEnd
  else if c = '}' then lexer.flowEnd .flowMappingEnd
  else if c = ',' then lexer.flowEntry
  else if c = '-' ∧ atGap rest then lexer.indicator .blockSequenceStart .blockEntry true
  else if c = '?' ∧ (lexer.inFlow || atGap rest) then
    lexer.indicator .blockMappingStart .key (!lexer.inFlow)
  else if c = ':' ∧ (lexer.inFlow || atGap rest) then lexer.valueIndicator
  else if c = '*' then lexer.property .reference readAnchorName
  else if c = '&' then lexer.property .anchor readAnchorName
  else if c = '!' then lexer.property .tag (readTag lexer.inFlow)
  else if c = '|' ∧ !lexer.inFlow then lexer.blockScalar .literal
  else if c = '>' ∧ !lexer.inFlow then lexer.blockScalar .folded
  else if c = '\'' then lexer.quotedScalar .singleQuoted readSingleQuoted
  else if c = '"' then lexer.quotedScalar .doubleQuoted (readDoubleQuoted 0)
  else if startsPlain lexer.inFlow c rest then lexer.plainScalar
  else none

/-- The tokens of the text, the first one first. Everything is closed at the end. -/
def finish (lexer : Lexer) : Option (List Token) := do
  let lexer ← lexer.closeAll.dropKey
  return lexer.tokens.reverse

/-- Reads tokens to the end of the text, at most as many as the fuel says. -/
def run : Nat → Lexer → Option (List Token)
  | 0, _ => none
  | fuel + 1, lexer => do
      let lexer ← lexer.atToken.dropStaleKeys
      let lexer := lexer.closeDeeper
      match lexer.cursor.rest with
      | [] => lexer.finish
      | c :: rest => run fuel (← lexer.token c rest)

end Lexer

/-- The tokens of a text. A token takes at least one character, so the length of the text bounds
their number. -/
def tokens? (text : List Char) : Option (List Token) :=
  if text.all isReadable then
    let text := unifyBreaks text
    Lexer.run (text.length + 1) { cursor := ⟨{}, text⟩ }
  else none

end ObservationSql.Yaml
