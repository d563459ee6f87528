import ObservationSql.Yaml.Node.OfTokens
import ObservationSql.Yaml.Scalar.Meaning
import ObservationSql.Yaml.Token.Lexer

/-!
From nodes to the values that a caller asks for, as the library from outside documents its reading
of typed values: entries that are not asked for are passed over, and only a scalar without quotes,
or one in the literal style with a tag that says so, is more than a text. The caller knows what it
wants: the same scalar is read as a text in one place and as a truth value in another. Aliases are
followed on the way, and the number of steps along aliases is limited by the size of the document.
-/

namespace ObservationSql.Yaml

/-- A step that reads from the document with a given root and spends from the steps along aliases
that are left. -/
abbrev Decode := ReaderT Node (StateT Nat Option)

namespace Decode

/-- The node that an alias refers to; any other node is itself. -/
def follow : Node → Decode Node
  | .reference number => do
      match (← read).anchoredAt? number, ← get with
      | some node, left + 1 =>
          set left
          return node
      | _, _ => failure
  | node => return node

def coreTag (name : String) : List UInt8 :=
  octets ("tag:yaml.org,2002:" ++ name).toList

/-- Whether a scalar is read for its meaning: one without quotes is, and one in the literal style if
a tag says so. -/
def isMeant (properties : Properties) (style : ScalarStyle) (name : String) : Bool :=
  style == .plain || (style == .literal && properties.tag == some (coreTag name))

/-- The text of a scalar, whatever its style and its tag. -/
def text (node : Node) : Decode String := do
  match ← follow node with
  | .scalar _ _ text => return text
  | _ => failure

/-- A truth value, from a scalar that means one. -/
def flag (node : Node) : Decode Bool := do
  match ← follow node with
  | .scalar properties style text =>
      match flagOf? text with
      | some flag => if isMeant properties style "bool" then return flag else failure
      | none => failure
  | _ => failure

/-- An integer of sixty-four bits without a sign, from a scalar that means one. -/
def natural (node : Node) : Decode Nat := do
  match ← follow node with
  | .scalar properties style text =>
      match natural? text.toList with
      | some n =>
          if n < twoTo 64 ∧ isMeant properties style "int" then return n else failure
      | none => failure
  | _ => failure

/-- Whether a node stands for nothing. One that is tagged as such has to be one of the words for
it. -/
def isNull : Node → Decode Bool
  | .scalar properties .plain text =>
      match properties.tag with
      | none => return text.isEmpty || nullWords.contains text
      | some tag =>
          if tag = coreTag "null" then
            if nullWords.contains text then return true else failure
          else return false
  | _ => return false

/-- A value that may be given as nothing. -/
def optional {α : Type} (decode : Node → Decode α) (node : Node) : Decode (Option α) := do
  let node ← follow node
  if ← isNull node then return none else return some (← decode node)

/-- Whether nothing is written for a node: such a one is a collection without items. -/
def isAbsent : Node → Bool
  | .scalar _ .plain text => text.isEmpty
  | _ => false

def each {α : Type} (decode : Node → Decode α) : List Node → Decode (List α)
  | [] => return []
  | node :: rest => do
      let first ← decode node
      return first :: (← each decode rest)

/-- A sequence. Where there is no node, it is the empty one. -/
def items {α : Type} (decode : Node → Decode α) (node : Node) : Decode (List α) := do
  match ← follow node with
  | .sequence _ nodes => each decode nodes
  | node => if isAbsent node then return [] else failure

def keyed : List (Node × Node) → Decode (List (String × Node))
  | [] => return []
  | (key, value) :: rest => do
      let key ← text key
      return (key, value) :: (← keyed rest)

/-- The entries of a mapping by their keys. Where there is no node, it is the empty mapping. -/
def record (node : Node) : Decode (List (String × Node)) := do
  match ← follow node with
  | .mapping _ entries => keyed entries
  | node => if isAbsent node then return [] else failure

/-- The value under a key of a record, if the key is there. It must not be there twice. -/
def field? {α : Type} (fields : List (String × Node)) (key : String) (decode : Node → Decode α) :
    Decode (Option α) := do
  match fields.filter fun entry => entry.1 == key with
  | [] => return none
  | [entry] => return some (← decode entry.2)
  | _ => failure

/-- The value under a key that has to be there. -/
def field {α : Type} (fields : List (String × Node)) (key : String) (decode : Node → Decode α) :
    Decode α := do
  match ← field? fields key decode with
  | some value => return value
  | none => failure

/-- A field that may be left out, in which case its default stands for it. -/
def fieldOr {α : Type} (fields : List (String × Node)) (key : String) (decode : Node → Decode α)
    (default : α) : Decode α := do
  return (← field? fields key decode).getD default

/-- The value under a key that may be missing or given as nothing. -/
def optionalField {α : Type} (fields : List (String × Node)) (key : String)
    (decode : Node → Decode α) : Decode (Option α) := do
  return (← field? fields key (optional decode)).join

/-- Reads a node. Aliases may be followed a hundred times for each node of the document. -/
def run {α : Type} (decode : Node → Decode α) (root : Node) : Option α :=
  (ReaderT.run (decode root) root).run' (100 * root.size)

end Decode

/-- Reads a document: its tokens, its node, and then what is asked of the node. -/
def decode? {α : Type} (decode : Node → Decode α) (text : String) : Option α := do
  Decode.run decode (← Node.ofTokens? (← tokens? text.toList))

end ObservationSql.Yaml
