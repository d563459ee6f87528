import ObservationSql.Yaml.Node.Basic

/-!
From tokens to the node of a document, by the grammar of YAML 1.1 as the library from outside reads
it: one document at most, and anchors before their aliases. Where a node is missing, an absent one
is put in, except at the start of a collection's item that no token announces.
-/

namespace ObservationSql.Yaml

/-- The handles of tags that no directive has to declare. -/
def standardHandles : List (String × List UInt8) :=
  [("!", octets ['!']), ("!!", octets "tag:yaml.org,2002:".toList)]

/-- The tokens that are left, the numbers of the anchors so far, and what the handles stand for. -/
structure TokenReader where
  tokens : List Token
  anchors : List (String × Nat) := []
  handles : List (String × List UInt8) := standardHandles

/-- A reader of tokens, which fails where the tokens make no node. -/
abbrev ReadTokens := StateT TokenReader Option

namespace ReadTokens

/-- The next token, which stays. -/
def peek : ReadTokens (Option Token) := do
  return (← get).tokens.head?

def skip : ReadTokens Unit :=
  modify fun reader => { reader with tokens := reader.tokens.tail }

def atAny (tokens : List Token) : ReadTokens Bool := do
  return (← peek).any tokens.contains

/-- Passes over the next token if it is the given one. -/
def accept (token : Token) : ReadTokens Bool := do
  if (← peek) == some token then
    skip
    return true
  else return false

/-- Passes over the next token, which has to be the given one. -/
def expect (token : Token) : ReadTokens Unit := do
  if !(← accept token) then failure

/-- Gives an anchor its number: the number of names that have been used by then. A name used again
stands for the new node from here on. -/
def declareAnchor (name : String) : ReadTokens Nat := do
  let reader ← get
  let number := reader.anchors.length
  set { reader with
    anchors := (name, number) :: reader.anchors.filter fun anchor => anchor.1 != name }
  return number

/-- The node that an alias stands for. The name has to be that of an anchor before it. -/
def referenceTo (name : String) : ReadTokens Node := do
  match (← get).anchors.lookup name with
  | some number => return .reference number
  | none => failure

/-- The tag that is meant, its handle being replaced by what the handle stands for. -/
def tagOf (written : WrittenTag) : ReadTokens (List UInt8) := do
  if written.handle = "" then return written.suffix
  match (← get).handles.lookup written.handle with
  | some replacement => return replacement ++ written.suffix
  | none => failure

def anchor? : ReadTokens (Option String) := do
  match ← peek with
  | some (.anchor name) => do
      skip
      return some name
  | _ => return none

def tag? : ReadTokens (Option WrittenTag) := do
  match ← peek with
  | some (.tag written) => do
      skip
      return some written
  | _ => return none

/-- Reads the properties of a node, an anchor and a tag in either order. -/
def properties : ReadTokens Properties := do
  let early ← anchor?
  let written ← tag?
  let late ← match early with
    | some _ => pure none
    | none => match written with
      | some _ => anchor?
      | none => pure none
  let tag ← match written with
    | some written => do pure (some (← tagOf written))
    | none => pure none
  match early <|> late with
  | some name => return { anchor := some (← declareAnchor name), tag }
  | none => return { tag }

end ReadTokens

/-- Where a node stands: in a flow collection, as an item of a block sequence or at the root, or as
a key or a value of a block mapping. The last may hold a sequence that is not indented. -/
inductive Place where
  | flow
  | block
  | blockEntry
  deriving DecidableEq, Repr

open ReadTokens

mutual

/-- Reads a node: an alias, or properties and what they belong to. -/
def readNode : Nat → Place → ReadTokens Node
  | 0, _ => failure
  | fuel + 1, place => do
      match ← peek with
      | some (.reference name) =>
          skip
          referenceTo name
      | _ => readContent fuel place (← properties)

/-- Reads what stands behind the properties of a node. Properties with nothing behind them make an
empty scalar. -/
def readContent : Nat → Place → Properties → ReadTokens Node
  | 0, _, _ => failure
  | fuel + 1, place, properties => do
      match ← peek, place with
      | some .blockEntry, .blockEntry => return .sequence properties (← readFlatItems fuel)
      | some (.scalar style text), _ =>
          skip
          return .scalar properties style text
      | some .flowSequenceStart, _ =>
          skip
          return .sequence properties (← readFlowItems fuel true)
      | some .flowMappingStart, _ =>
          skip
          return .mapping properties (← readFlowEntries fuel true)
      | some .blockSequenceStart, .block | some .blockSequenceStart, .blockEntry =>
          skip
          return .sequence properties (← readBlockItems fuel)
      | some .blockMappingStart, .block | some .blockMappingStart, .blockEntry =>
          skip
          return .mapping properties (← readBlockEntries fuel)
      | _, _ => if properties = {} then failure else return .scalar properties .plain ""

/-- Reads a node, which is absent where a token stands that ends it. -/
def readNodeBefore : Nat → Place → List Token → ReadTokens Node
  | 0, _, _ => failure
  | fuel + 1, place, ends => do
      if ← atAny ends then return .absent else readNode fuel place

def readBlockItems : Nat → ReadTokens (List Node)
  | 0 => failure
  | fuel + 1 => do
      if ← accept .blockEntry then
        let item ← readNodeBefore fuel .block [.blockEntry, .blockEnd]
        return item :: (← readBlockItems fuel)
      else
        expect .blockEnd
        return []

/-- Reads the items of a block sequence that is not indented and has no end of its own. -/
def readFlatItems : Nat → ReadTokens (List Node)
  | 0 => failure
  | fuel + 1 => do
      if ← accept .blockEntry then
        let item ← readNodeBefore fuel .block [.blockEntry, .key, .value, .blockEnd]
        return item :: (← readFlatItems fuel)
      else return []

/-- Reads the entries of a block mapping. A key or a value may be absent. -/
def readBlockEntries : Nat → ReadTokens (List (Node × Node))
  | 0 => failure
  | fuel + 1 => do
      if ← accept .key then
        let key ← readNodeBefore fuel .blockEntry [.key, .value, .blockEnd]
        let value ← readValue fuel .blockEntry [.key, .value, .blockEnd]
        return (key, value) :: (← readBlockEntries fuel)
      else
        expect .blockEnd
        return []

/-- Reads the value of an entry. Without a colon it is absent. -/
def readValue : Nat → Place → List Token → ReadTokens Node
  | 0, _, _ => failure
  | fuel + 1, place, ends => do
      if ← accept .value then readNodeBefore fuel place ends else return .absent

/-- Reads the items of a flow sequence and its end, the first item having no comma in front. An item
may be an entry, which stands for a mapping of its own. The token at the place of its absent key is
passed over, whatever it is. -/
def readFlowItems : Nat → Bool → ReadTokens (List Node)
  | 0, _ => failure
  | fuel + 1, first => do
      if ← accept .flowSequenceEnd then return []
      if !first then expect .flowEntry
      if ← accept .flowSequenceEnd then return []
      if ← accept .key then
        let key ←
          if ← atAny [.value, .flowEntry, .flowSequenceEnd] then do
            skip
            pure Node.absent
          else readNode fuel .flow
        let value ← readValue fuel .flow [.flowEntry, .flowSequenceEnd]
        return .mapping {} [(key, value)] :: (← readFlowItems fuel false)
      else
        let item ← readNode fuel .flow
        return item :: (← readFlowItems fuel false)

/-- Reads the entries of a flow mapping and its end, the first entry having no comma in front. -/
def readFlowEntries : Nat → Bool → ReadTokens (List (Node × Node))
  | 0, _ => failure
  | fuel + 1, first => do
      if ← accept .flowMappingEnd then return []
      if !first then expect .flowEntry
      if ← accept .flowMappingEnd then return []
      if ← accept .key then
        let key ← readNodeBefore fuel .flow [.value, .flowEntry, .flowMappingEnd]
        let value ← readValue fuel .flow [.flowEntry, .flowMappingEnd]
        return (key, value) :: (← readFlowEntries fuel false)
      else
        let key ← readNode fuel .flow
        return (key, .absent) :: (← readFlowEntries fuel false)

end

namespace ReadTokens

/-- Reads the directives in front of a document. There is at most one version, of the first
generation and the first or second edition, and at most one declaration for each handle. -/
def directives : List Token → Bool → List (String × List UInt8) →
    Option (List (String × List UInt8) × List Token)
  | .versionDirective major minor :: rest, versioned, handles =>
      if versioned || major != 1 || (minor != 1 && minor != 2) then none
      else directives rest true handles
  | .tagDirective handle replacement :: rest, versioned, handles =>
      if (handles.lookup handle).isSome then none
      else directives rest versioned (handles ++ [(handle, replacement)])
  | rest, _, handles => some (handles ++ standardHandles, rest)

/-- Whether a document has no node, as its first token tells. -/
def isEmptyDocument : List Token → Bool
  | [] => true
  | token :: _ =>
      match token with
      | .versionDirective _ _ | .tagDirective _ _ | .documentStart | .documentEnd => true
      | _ => false

/-- What `read` makes of all the tokens of a document; only marks of its end may be left over. -/
def runAll (read : ReadTokens Node) (reader : TokenReader) : Option Node := do
  let (node, left) ← read reader
  if left.tokens.all (· == .documentEnd) then return node else none

end ReadTokens

/-- The node of a text's only document. A text without documents writes the absent node. Reading
goes at most four calls deeper for each token. -/
def Node.ofTokens? (tokens : List Token) : Option Node := do
  let fuel := 4 * tokens.length + 4
  match tokens with
  | [] => return .absent
  | .versionDirective _ _ :: _ | .tagDirective _ _ :: _ | .documentStart :: _ =>
      let (handles, rest) ← directives tokens false []
      match rest with
      | .documentStart :: rest =>
          if isEmptyDocument rest then runAll (return .absent) { tokens := rest, handles }
          else runAll (readNode fuel .block) { tokens := rest, handles }
      | _ => none
  | _ => runAll (readNode fuel .block) { tokens }

end ObservationSql.Yaml
