namespace ObservationSql.Yaml

/-- Whether a character may stand in a document at all. -/
def isReadable (c : Char) : Bool :=
  c == '\t' || c == '\n' || c == '\r' || c == '\u0085' || (0x20 ≤ c.toNat && c.toNat ≤ 0x7E)
    || (0xA0 ≤ c.toNat && c.toNat != 0xFFFE && c.toNat != 0xFFFF)

/-- The text with a line feed for each carriage return, for each pair of a carriage return and a
line feed, and for each next-line character. -/
def unifyBreaks : List Char → List Char
  | [] => []
  | '\r' :: '\n' :: rest => '\n' :: unifyBreaks rest
  | c :: rest => (if c = '\r' ∨ c = '\u0085' then '\n' else c) :: unifyBreaks rest

/-- Whether a character ends a line, once line breaks are brought to one form. -/
def isBreak (c : Char) : Bool :=
  c == '\n' || c == '\u2028' || c == '\u2029'

/-- Whether a character is white space inside a line. -/
def isBlank (c : Char) : Bool :=
  c == ' ' || c == '\t'

/-- A character of names: an ASCII letter or digit, a hyphen or an underscore. -/
def isNameChar (c : Char) : Bool :=
  c.isAlphanum || c == '-' || c == '_'

/-- Whether a character opens, parts or closes a flow collection. -/
def isFlowIndicator (c : Char) : Bool :=
  c == ',' || c == '[' || c == ']' || c == '{' || c == '}'

/-- Whether a character cannot begin a scalar without quotes, whatever follows it. -/
def isIndicator (c : Char) : Bool :=
  isFlowIndicator c || "#&*!|>'\"%@`".toList.contains c

def byteOrderMark : Char := '\uFEFF'

/-- Whether a word ends here: before white space, before a line break or at the end of the text. -/
def atGap : List Char → Bool
  | [] => true
  | c :: _ => isBlank c || isBreak c

def atLineEnd : List Char → Bool
  | [] => true
  | c :: _ => isBreak c

/-- Whether a line that begins here is a mark between documents. -/
def atDocumentMark : List Char → Bool
  | '-' :: '-' :: '-' :: rest => atGap rest
  | '.' :: '.' :: '.' :: rest => atGap rest
  | _ => false

/-- A position: the number of lines before it, and of the characters and of the octets before it in
its line. Indentation is measured in characters, the length of a key in octets. -/
structure Mark where
  line : Nat := 0
  column : Nat := 0
  octet : Nat := 0
  deriving DecidableEq, Repr

/-- The position behind a character that ends no line. -/
def Mark.past (mark : Mark) (c : Char) : Mark :=
  { mark with column := mark.column + 1, octet := mark.octet + c.utf8Size }

def Mark.down (mark : Mark) : Mark :=
  { line := mark.line + 1 }

/-- A text that is left to read, and the position where it starts. -/
structure Cursor where
  mark : Mark
  rest : List Char
  deriving DecidableEq, Repr

def Cursor.skip (cursor : Cursor) (count : Nat) : Cursor :=
  ⟨(cursor.rest.take count).foldl Mark.past cursor.mark, cursor.rest.drop count⟩

def Cursor.skipBlanks (cursor : Cursor) : Cursor :=
  cursor.skip (cursor.rest.takeWhile isBlank).length

def Cursor.skipBreak (cursor : Cursor) : Cursor :=
  match cursor.rest with
  | [] => cursor
  | c :: rest => if isBreak c then ⟨cursor.mark.down, rest⟩ else cursor

end ObservationSql.Yaml
