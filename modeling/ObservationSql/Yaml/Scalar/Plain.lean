import ObservationSql.Yaml.Scalar.Gap

namespace ObservationSql.Yaml

/-- A scalar that has been read: its text, and the cursor behind it. -/
structure Lexeme where
  text : List Char
  cursor : Cursor
  deriving DecidableEq, Repr

def Lexeme.cons (front : List Char) (lexeme : Lexeme) : Lexeme :=
  { lexeme with text := front ++ lexeme.text }

/-- Where a scalar without quotes stands: inside a flow collection, or else in a block collection
whose items start at a column of at least `indent`. -/
structure PlainContext where
  inFlow : Bool
  indent : Nat
  deriving DecidableEq, Repr

/-- Whether the scalar ends before a character that is not white space. -/
def PlainContext.endsAt (context : PlainContext) (gap : Gap) (mark : Mark) (c : Char)
    (rest : List Char) : Bool :=
  (!gap.isNone && !context.inFlow && decide (mark.column < context.indent))
    || (mark.column == 0 && atDocumentMark (c :: rest))
    || (!gap.isNone && c == '#')
    || (c == ':' && atGap rest)
    || (context.inFlow && isFlowIndicator c)

/-- Inside a flow collection a colon must not stand right before an indicator. -/
def PlainContext.forbids (context : PlainContext) (c : Char) (rest : List Char) : Bool :=
  context.inFlow && c == ':'
    && (match rest with
      | next :: _ => next == '?' || isFlowIndicator next
      | [] => false)

/-- Reads a scalar without quotes, `gap` being the white space since its last word. The cursor of
the answer stands behind the white space that follows the scalar, and the Boolean says whether that
white space runs over the end of a line. A tab must not stand in for indentation. -/
def readPlain (context : PlainContext) : Gap → Mark → List Char → Option (Lexeme × Bool)
  | gap, mark, [] => some (⟨[], ⟨mark, []⟩⟩, gap.isBroken)
  | gap, mark, c :: rest =>
      if isBreak c then readPlain context (gap.lineBreak c) mark.down rest
      else if isBlank c then
        if gap.isBroken && c == '\t' && decide (mark.column < context.indent) then none
        else readPlain context (gap.blank c) (mark.past c) rest
      else if context.endsAt gap mark c rest then
        some (⟨[], ⟨mark, c :: rest⟩⟩, gap.isBroken)
      else if context.forbids c rest then none
      else do
        let (lexeme, broken) ← readPlain context .none (mark.past c) rest
        return (lexeme.cons (gap.folded ++ [c]), broken)

end ObservationSql.Yaml
