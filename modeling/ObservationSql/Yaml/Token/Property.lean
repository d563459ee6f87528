import ObservationSql.Yaml.Scalar.Block
import ObservationSql.Yaml.Token.Basic

namespace ObservationSql.Yaml

def octets (text : List Char) : List UInt8 :=
  (String.ofList text).toUTF8.toList

def readName (cursor : Cursor) : List Char × Cursor :=
  let name := cursor.rest.takeWhile isNameChar
  (name, cursor.skip name.length)

/-- Whether a text may stand behind the name of an anchor or an alias. -/
def followsAnchor : List Char → Bool
  | [] => true
  | c :: rest => atGap (c :: rest) || c == '}' || "?:,]%@`".toList.contains c

/-- Reads the name of an anchor or an alias, from its indicator on. -/
def readAnchorName (cursor : Cursor) : Option (String × Cursor) :=
  let (name, cursor) := readName (cursor.skip 1)
  if name.isEmpty || !followsAnchor cursor.rest then none
  else some (String.ofList name, cursor)

/-- Whether a character may stand in a tag. Commas and brackets may where the tag's end is marked in
another way. -/
def isTagChar (anywhere : Bool) (c : Char) : Bool :=
  isNameChar c || ";/?:@&=+$.%!~*'()".toList.contains c || (anywhere && ",[]".toList.contains c)

def octetCount? (first : Nat) : Option Nat :=
  if first < 0x80 then some 1
  else if 0xC0 ≤ first ∧ first < 0xE0 then some 2
  else if 0xE0 ≤ first ∧ first < 0xF0 then some 3
  else if 0xF0 ≤ first ∧ first < 0xF8 then some 4
  else none

/-- The octets of a tag in which each is written by a per cent sign and two hexadecimal digits where
it cannot stand for itself. `pending` is the number of octets that the character begun last still
needs: all of them must be written in this way. -/
def tagOctets? : Nat → List Char → Option (List UInt8)
  | 0, [] => some []
  | _ + 1, [] => none
  | pending, '%' :: high :: low :: rest => do
      let octet ← hexNumber? 0 [high, low]
      let pending ← match pending with
        | 0 => (octetCount? octet).map (· - 1)
        | left + 1 => if 0x80 ≤ octet ∧ octet < 0xC0 then some left else none
      return octet.toUInt8 :: (← tagOctets? pending rest)
  | 0, c :: rest => do
      if c = '%' then none
      return octets [c] ++ (← tagOctets? 0 rest)
  | _ + 1, _ :: _ => none

def readTagText (anywhere : Bool) (cursor : Cursor) : Option (List UInt8 × Cursor) := do
  let text := cursor.rest.takeWhile (isTagChar anywhere)
  return (← tagOctets? 0 text, cursor.skip text.length)

def readSomeTagText (anywhere : Bool) (cursor : Cursor) : Option (List UInt8 × Cursor) := do
  let (text, cursor) ← readTagText anywhere cursor
  if text.isEmpty then none else return (text, cursor)

/-- What counts of the octets of a tag, or of what a handle stands for: those in front of the first
zero. -/
def upToZero (text : List UInt8) : List UInt8 :=
  text.takeWhile (· != 0)

/-- Reads a handle: a name between exclamation marks, of which the second may be missing. Gives the
name, whether the second is there, and the cursor behind the handle. -/
def readHandle (cursor : Cursor) : Option (List Char × Bool × Cursor) :=
  match cursor.rest with
  | '!' :: _ =>
      let (name, cursor) := readName (cursor.skip 1)
      match cursor.rest with
      | '!' :: _ => some (name, true, cursor.skip 1)
      | _ => some (name, false, cursor)
  | _ => none

def handleOf (name : List Char) : String :=
  String.ofList ('!' :: name ++ ['!'])

/-- Reads a tag between angle brackets, from behind the first one. -/
def readVerbatimTag (cursor : Cursor) : Option (WrittenTag × Cursor) := do
  let (suffix, cursor) ← readSomeTagText true cursor
  if cursor.rest.head? = some '>' then return (⟨"", upToZero suffix⟩, cursor.skip 1) else none

/-- Reads a tag with a handle. A name that is not closed is the beginning of the suffix of the
shortest handle; an exclamation mark without a suffix is the whole tag. -/
def readShortTag (cursor : Cursor) : Option (WrittenTag × Cursor) := do
  let (name, closed, cursor) ← readHandle cursor
  if closed then
    let (suffix, cursor) ← readSomeTagText false cursor
    return (⟨handleOf name, upToZero suffix⟩, cursor)
  else
    let (suffix, cursor) ← readTagText false cursor
    match upToZero (octets name ++ suffix) with
    | [] => return (⟨"", octets ['!']⟩, cursor)
    | suffix => return (⟨"!", suffix⟩, cursor)

/-- Reads a tag, behind which a word must end; inside a flow collection a comma ends it too. -/
def readTag (inFlow : Bool) (cursor : Cursor) : Option (WrittenTag × Cursor) := do
  let (tag, cursor) ←
    match cursor.rest with
    | '!' :: '<' :: _ => readVerbatimTag (cursor.skip 2)
    | _ => readShortTag cursor
  if atGap cursor.rest || (inFlow && cursor.rest.head? == some ',') then return (tag, cursor)
  else none

def readVersionNumber (cursor : Cursor) : Option (Nat × Cursor) :=
  let digits := cursor.rest.takeWhile Char.isDigit
  if digits.isEmpty || digits.length > 9 then none
  else some (digits.foldl (fun n c => 10 * n + (c.toNat - 0x30)) 0, cursor.skip digits.length)

def readVersion (cursor : Cursor) : Option (Token × Cursor) := do
  let (major, cursor) ← readVersionNumber cursor.skipBlanks
  if cursor.rest.head? = some '.' then
    let (minor, cursor) ← readVersionNumber (cursor.skip 1)
    return (.versionDirective major minor, cursor)
  else none

def readHandleDeclaration (cursor : Cursor) : Option (Token × Cursor) := do
  let (name, closed, cursor) ← readHandle cursor.skipBlanks
  if !closed && !name.isEmpty then none
  if !(cursor.rest.head?.any isBlank) then none
  let (replacement, cursor) ← readSomeTagText true cursor.skipBlanks
  if !atGap cursor.rest then none
  return (.tagDirective (if closed then handleOf name else "!") (upToZero replacement), cursor)

/-- Reads a directive, from its per cent sign to the end of its line. -/
def readDirective (cursor : Cursor) : Option (Token × Cursor) := do
  let (name, cursor) := readName (cursor.skip 1)
  if !atGap cursor.rest then none
  let (token, cursor) ←
    match String.ofList name with
    | "YAML" => readVersion cursor
    | "TAG" => readHandleDeclaration cursor
    | _ => none
  return (token, ← restOfLine cursor)

end ObservationSql.Yaml
