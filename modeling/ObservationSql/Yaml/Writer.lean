import ObservationSql.Yaml.Scalar.Meaning
import ObservationSql.Yaml.Token.Basic

/-!
Texts as the values of a block mapping that stands at the left margin, so that reading gives the
same texts back. The styles are those that the library from outside chooses. A text of several lines
is written in the literal style. Others stand without quotes where they can, else in single quotes,
else in double quotes; lines are never folded.
-/

namespace ObservationSql.Yaml

/-- Whether a character is written as it is. Others need an escape. -/
def isPrintable (c : Char) : Bool :=
  c == '\n' || (0x20 ≤ c.toNat && c.toNat ≤ 0x7E)
    || (0xA0 ≤ c.toNat && c != byteOrderMark && c.toNat != 0xFFFE && c.toNat != 0xFFFF)

/-- What a line inside a value starts with. -/
def indentation : List Char := [' ', ' ']

/-! ### What a text allows -/

/-- Whether a character satisfies a test and the next one satisfies another, anywhere in a text. -/
def hasPair (first second : Char → Bool) : List Char → Bool
  | c :: d :: rest => (first c && second d) || hasPair first second (d :: rest)
  | _ => false

/-- Whether the first or the last character of a text satisfies a test. -/
def hasEdge (test : Char → Bool) (text : List Char) : Bool :=
  text.head?.any test || text.getLast?.any test

/-- Whether the text would begin like something other than a scalar without quotes. -/
def startsWithIndicator : List Char → Bool
  | [] => false
  | c :: rest =>
      isIndicator c || ((c == '?' || c == ':' || c == '-') && atGap rest)
        || ['-', '-', '-'].isPrefixOf (c :: rest) || ['.', '.', '.'].isPrefixOf (c :: rest)

/-- Whether a colon in the text would be taken for the end of a key. -/
def hasKeyEnd : List Char → Bool
  | [] => false
  | c :: rest => (c == ':' && atGap rest) || hasKeyEnd rest

/-- Whether a hash sign in the text would be taken for the start of a comment. -/
def hasCommentStart (text : List Char) : Bool :=
  hasPair (fun c => isBlank c || isBreak c) (· == '#') text

/-- Whether a text can stand between single quotes: no space may be next to a line break, since
folding would take it away. -/
def allowsSingleQuotes (text : List Char) : Bool :=
  text.all isPrintable && !hasPair (· == ' ') isBreak text && !hasPair isBreak (· == ' ') text

/-- Whether a text can stand without quotes and be read as it is. -/
def allowsPlain (text : List Char) : Bool :=
  text.all (fun c => isPrintable c && !isBreak c) && !hasEdge (· == ' ') text
    && !startsWithIndicator text && !hasKeyEnd text && !hasCommentStart text

/-- Whether a text can stand in the literal style. No line may end in a space. -/
def allowsLiteral (text : List Char) : Bool :=
  text.all isPrintable && !hasPair (· == ' ') isBreak text && text.getLast? != some ' '

/-- The style that a text is written in: the literal style for several lines, else no quotes where
the text allows it and means nothing but itself, else the weakest quotes that do. -/
def writtenStyle (text : String) : ScalarStyle :=
  let chars := text.toList
  if chars.contains '\n' then if allowsLiteral chars then .literal else .doubleQuoted
  else if !isAmbiguous text && allowsPlain chars then .plain
  else if allowsSingleQuotes chars then .singleQuoted
  else .doubleQuoted

/-! ### How a text is written -/

/-- A text between single quotes. Quotes are doubled, and what follows a line break is indented; the
Boolean says whether a line break has just been written. -/
def writeSingleQuoted : Bool → List Char → List Char
  | afterBreak, [] => (if afterBreak then indentation else []) ++ ['\'']
  | afterBreak, c :: rest =>
      if isBreak c then c :: writeSingleQuoted true rest
      else
        (if afterBreak then indentation else [])
          ++ (if c = '\'' then ['\'', '\''] else [c]) ++ writeSingleQuoted false rest

def escapeLetter? (c : Char) : Option Char :=
  (letterEscapes.find? fun escape => escape.2 == c).map (·.1)

def hexChar (digit : Nat) : Char :=
  Char.ofNat (if digit < 10 then 0x30 + digit else 0x41 + (digit - 10))

def hexDigits : Nat → Nat → List Char
  | 0, _ => []
  | width + 1, n => hexDigits width (n / 16) ++ [hexChar (n % 16)]

/-- The escape of a character, by a letter or in the fewest digits that there is an escape for. -/
def escape (c : Char) : List Char :=
  '\\' ::
    match escapeLetter? c with
    | some letter => [letter]
    | none =>
        if c.toNat ≤ 0xFF then 'x' :: hexDigits 2 c.toNat
        else if c.toNat ≤ 0xFFFF then 'u' :: hexDigits 4 c.toNat
        else 'U' :: hexDigits 8 c.toNat

def writeDoubleQuotedChar (c : Char) : List Char :=
  if !isPrintable c || isBreak c || c == '"' || c == '\\' then escape c else [c]

def writeDoubleQuoted (text : List Char) : List Char :=
  text.flatMap writeDoubleQuotedChar ++ ['"']

/-- The indicators of a text in the literal style: the indentation where the text does not show it,
and what becomes of the end where it is not a single line break. -/
def literalHints (text : List Char) : List Char :=
  (if text.head?.any fun c => c == ' ' || isBreak c then ['2'] else [])
    ++ match text.reverse with
      | [] => ['-']
      | [last] => if isBreak last then ['+'] else ['-']
      | last :: other :: _ =>
          if !isBreak last then ['-'] else if isBreak other then ['+'] else []

/-- The lines of a text in the literal style, empty lines not being indented. The Boolean says
whether a line begins. -/
def writeLiteralLines : Bool → List Char → List Char
  | atStart, [] => if atStart then [] else ['\n']
  | atStart, c :: rest =>
      if isBreak c then c :: writeLiteralLines true rest
      else (if atStart then indentation else []) ++ c :: writeLiteralLines false rest

/-- A text as the value of an entry, with the line break that ends it. -/
def writeText (text : String) : List Char :=
  let chars := text.toList
  match writtenStyle text with
  | .literal | .folded => '|' :: literalHints chars ++ '\n' :: writeLiteralLines true chars
  | .plain => chars ++ ['\n']
  | .singleQuoted => '\'' :: writeSingleQuoted false chars ++ ['\n']
  | .doubleQuoted => '"' :: writeDoubleQuoted chars ++ ['\n']

/-- An entry of a block mapping: a key that needs no quotes, and a value with the line break that
ends it. -/
def writeEntry (key : String) (value : List Char) : List Char :=
  key.toList ++ ':' :: ' ' :: value

end ObservationSql.Yaml
