import ObservationSql.Yaml.Scalar.Plain

namespace ObservationSql.Yaml

def hexDigit? (c : Char) : Option Nat :=
  if c.isDigit then some (c.toNat - 0x30)
  else if 'a' ≤ c ∧ c ≤ 'f' then some (c.toNat - 0x61 + 10)
  else if 'A' ≤ c ∧ c ≤ 'F' then some (c.toNat - 0x41 + 10)
  else none

/-- The number that some hexadecimal digits write, `value` being what came before them. -/
def hexNumber? (value : Nat) : List Char → Option Nat
  | [] => some value
  | c :: rest => do hexNumber? (16 * value + (← hexDigit? c)) rest

def charOfCodePoint? (n : Nat) : Option Char :=
  if h : n.isValidChar then some (Char.ofNatAux n h) else none

/-- What the escapes of one letter stand for. -/
def letterEscapes : List (Char × Char) :=
  [('0', '\x00'), ('a', '\x07'), ('b', '\x08'), ('t', '\t'), ('\t', '\t'), ('n', '\n'),
    ('v', '\x0B'), ('f', '\x0C'), ('r', '\r'), ('e', '\x1B'), (' ', ' '), ('"', '"'), ('/', '/'),
    ('\\', '\\'), ('N', '\u0085'), ('_', '\u00A0'), ('L', '\u2028'), ('P', '\u2029')]

/-- How many hexadecimal digits stand behind the letter of an escape. -/
def escapeWidth? : Char → Option Nat
  | 'x' => some 2
  | 'u' => some 4
  | 'U' => some 8
  | _ => none

/-- What the escape with this letter stands for, and how many characters behind the letter belong
to it. -/
def readEscape (letter : Char) (rest : List Char) : Option (Char × Nat) :=
  match escapeWidth? letter with
  | some width => do
      if rest.length < width then none
      return (← charOfCodePoint? (← hexNumber? 0 (rest.take width)), width)
  | none => do return (← letterEscapes.lookup letter, 0)

/-- Reads the rest of a scalar in single quotes, `gap` being the white space since its last word. A
mark between documents must not stand inside. -/
def readSingleQuoted : Gap → Mark → List Char → Option Lexeme
  | _, _, [] => none
  | gap, mark, '\'' :: '\'' :: rest => do
      return (← readSingleQuoted .none ((mark.past '\'').past '\'') rest).cons
        (gap.folded ++ ['\''])
  | gap, mark, c :: rest =>
      if isBreak c then readSingleQuoted (gap.lineBreak c) mark.down rest
      else if isBlank c then readSingleQuoted (gap.blank c) (mark.past c) rest
      else if mark.column == 0 && atDocumentMark (c :: rest) then none
      else if c = '\'' then some ⟨gap.folded, ⟨mark.past c, rest⟩⟩
      else do
        return (← readSingleQuoted .none (mark.past c) rest).cons (gap.folded ++ [c])

/-- Reads the rest of a scalar in double quotes, `gap` being the white space since its last word and
`escaped` the number of characters that still belong to the last escape. -/
def readDoubleQuoted : Nat → Gap → Mark → List Char → Option Lexeme
  | _, _, _, [] => none
  | escaped + 1, gap, mark, c :: rest => readDoubleQuoted escaped gap (mark.past c) rest
  | 0, gap, mark, '\\' :: c :: rest => do
      if isBreak c then
        return (← readDoubleQuoted 0 (.across none []) mark.down rest).cons gap.folded
      else
        let (char, width) ← readEscape c rest
        return (← readDoubleQuoted width .none ((mark.past '\\').past c) rest).cons
          (gap.folded ++ [char])
  | 0, gap, mark, c :: rest =>
      if isBreak c then readDoubleQuoted 0 (gap.lineBreak c) mark.down rest
      else if isBlank c then readDoubleQuoted 0 (gap.blank c) (mark.past c) rest
      else if mark.column == 0 && atDocumentMark (c :: rest) then none
      else if c = '"' then some ⟨gap.folded, ⟨mark.past c, rest⟩⟩
      else if c = '\\' then none
      else do
        return (← readDoubleQuoted 0 .none (mark.past c) rest).cons (gap.folded ++ [c])

end ObservationSql.Yaml
