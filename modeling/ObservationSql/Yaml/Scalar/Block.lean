import ObservationSql.Yaml.Scalar.Quoted

namespace ObservationSql.Yaml

/-- What becomes of the line breaks at the end of a block scalar. -/
inductive Chomping where
  | strip
  | clip
  | keep
  deriving DecidableEq, Repr

/-- The header of a block scalar: what becomes of its end, and its indentation, if it is given. -/
structure BlockHeader where
  chomping : Chomping := .clip
  indentation : Option Nat := none
  deriving DecidableEq, Repr

def Chomping.ofChar? : Char → Option Chomping
  | '-' => some .strip
  | '+' => some .keep
  | _ => none

/-- The indentation that an indicator gives. A zero gives none that is possible. -/
def indentationOfChar? (c : Char) : Option Nat :=
  if c.isDigit then some (c.toNat - 0x30) else none

/-- Reads the two indicators of a header, which may stand in either order, and counts them. -/
def readIndicators : List Char → BlockHeader × Nat
  | [] => ({}, 0)
  | c :: rest =>
      let next := rest.head?
      match Chomping.ofChar? c, indentationOfChar? c with
      | some chomping, _ =>
          match next.bind indentationOfChar? with
          | some width => (⟨chomping, some width⟩, 2)
          | none => (⟨chomping, none⟩, 1)
      | none, some width =>
          match next.bind Chomping.ofChar? with
          | some chomping => (⟨chomping, some width⟩, 2)
          | none => (⟨.clip, some width⟩, 1)
      | none, none => ({}, 0)

/-- Passes over blanks and a comment up to the end of the line, where nothing else may stand. -/
def restOfLine (cursor : Cursor) : Option Cursor :=
  let cursor := cursor.skipBlanks
  let cursor :=
    if cursor.rest.head? = some '#' then
      cursor.skip (cursor.rest.takeWhile fun c => !isBreak c).length
    else cursor
  if atLineEnd cursor.rest then some cursor.skipBreak else none

/-- Reads the header of a block scalar, up to the start of the next line. -/
def readBlockHeader (cursor : Cursor) : Option (BlockHeader × Cursor) := do
  let (header, count) := readIndicators cursor.rest
  if header.indentation = some 0 then none
  return (header, ← restOfLine (cursor.skip count))

/-- Passes over the empty lines in front of a block scalar without a given indentation. Gives their
line breaks, the deepest column reached before a line break or the first text, and the cursor at
that text. A tab must not stand in for indentation. -/
def readLeadingBreaks (deepest : Nat) : Mark → List Char → Option (List Char × Nat × Cursor)
  | mark, [] => some ([], max deepest mark.column, ⟨mark, []⟩)
  | mark, c :: rest =>
      if c = ' ' then readLeadingBreaks deepest (mark.past c) rest
      else if c = '\t' then none
      else if isBreak c then do
        let (breaks, deepest, cursor) ←
          readLeadingBreaks (max deepest mark.column) mark.down rest
        return (c :: breaks, deepest, cursor)
      else some ([], max deepest mark.column, ⟨mark, c :: rest⟩)

/-- How the lines of a block scalar, indented under a `|` or a `>`, are put together. The second
keeps line breaks only around lines that begin with a blank. -/
structure BlockStyle where
  folded : Bool
  chomping : Chomping
  indent : Nat
  deriving DecidableEq, Repr

/-- The line breaks since the last line of text: the one that ended it, those of the empty lines
behind it, and whether that line began with a blank. -/
structure LineEnd where
  first : Option Char := none
  more : List Char := []
  afterBlank : Bool := false
  deriving DecidableEq, Repr

/-- What the line breaks in front of a line become, `blank` saying whether that line begins with a
blank. -/
def BlockStyle.join (style : BlockStyle) (ending : LineEnd) (blank : Bool) : List Char :=
  if style.folded && ending.first == some '\n' && !ending.afterBlank && !blank then
    if ending.more.isEmpty then [' '] else ending.more
  else ending.first.toList ++ ending.more

/-- What the line breaks at the end of the scalar become. -/
def BlockStyle.chomp (style : BlockStyle) (ending : LineEnd) : List Char :=
  match style.chomping with
  | .strip => []
  | .clip => ending.first.toList
  | .keep => ending.first.toList ++ ending.more

mutual

/-- Reads a block scalar from between two of its lines, up to a line that is not indented enough. -/
def readBetweenLines (style : BlockStyle) (ending : LineEnd) : Mark → List Char → Option Lexeme
  | mark, [] => some ⟨style.chomp ending, ⟨mark, []⟩⟩
  | mark, c :: rest =>
      if mark.column < style.indent && c == ' ' then
        readBetweenLines style ending (mark.past c) rest
      else if mark.column < style.indent && c == '\t' then none
      else if isBreak c then
        readBetweenLines style { ending with more := ending.more ++ [c] } mark.down rest
      else if mark.column = style.indent then do
        return (← readInLine style (isBlank c) (mark.past c) rest).cons
          (style.join ending (isBlank c) ++ [c])
      else some ⟨style.chomp ending, ⟨mark, c :: rest⟩⟩

/-- Reads a block scalar from inside the text of a line, `blank` saying whether the line began with
a blank. -/
def readInLine (style : BlockStyle) (blank : Bool) : Mark → List Char → Option Lexeme
  | mark, [] => some ⟨[], ⟨mark, []⟩⟩
  | mark, c :: rest =>
      if isBreak c then readBetweenLines style ⟨some c, [], blank⟩ mark.down rest
      else do return (← readInLine style blank (mark.past c) rest).cons [c]

end

/-- Reads a block scalar from behind its first character. Its lines are indented under a collection
whose items start at a column of at least `indent`; what is not given is as deep as the first line
of text or, if one is deeper, an empty line in front of it. -/
def readBlockScalar (folded : Bool) (indent : Nat) (cursor : Cursor) : Option Lexeme := do
  let (header, cursor) ← readBlockHeader cursor
  match header.indentation with
  | some width =>
      let style := ⟨folded, header.chomping, (indent - 1) + width⟩
      readBetweenLines style {} cursor.mark cursor.rest
  | none =>
      let (breaks, deepest, cursor) ← readLeadingBreaks 0 cursor.mark cursor.rest
      let style := ⟨folded, header.chomping, max deepest (max indent 1)⟩
      readBetweenLines style { more := breaks } cursor.mark cursor.rest

end ObservationSql.Yaml
