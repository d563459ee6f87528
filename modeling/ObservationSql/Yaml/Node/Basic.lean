import ObservationSql.Yaml.Token.Property

namespace ObservationSql.Yaml

/-- What stands in front of a node: the number of its anchor, and its tag. -/
structure Properties where
  anchor : Option Nat := none
  tag : Option (List UInt8) := none
  deriving DecidableEq, Repr

/-- The values that a document writes, as a tree. An anchor gives a node a number, and an alias
refers to a node by that number. -/
inductive Node where
  | scalar (properties : Properties) (style : ScalarStyle) (text : String)
  | sequence (properties : Properties) (items : List Node)
  | mapping (properties : Properties) (entries : List (Node × Node))
  | reference (number : Nat)

namespace Node

/-- What stands in where there is no node. -/
def absent : Node :=
  scalar {} .plain ""

mutual

/-- The nodes with an anchor, each behind the nodes around it. -/
def anchored : Node → List (Nat × Node)
  | scalar properties style text =>
      (properties.anchor.map (·, scalar properties style text)).toList
  | sequence properties items =>
      (properties.anchor.map (·, sequence properties items)).toList ++ anchoredItems items
  | mapping properties entries =>
      (properties.anchor.map (·, mapping properties entries)).toList ++ anchoredEntries entries
  | reference _ => []

def anchoredItems : List Node → List (Nat × Node)
  | [] => []
  | item :: rest => item.anchored ++ anchoredItems rest

def anchoredEntries : List (Node × Node) → List (Nat × Node)
  | [] => []
  | entry :: rest => anchoredEntry entry ++ anchoredEntries rest

def anchoredEntry : Node × Node → List (Nat × Node)
  | (key, value) => key.anchored ++ value.anchored

end

mutual

/-- The size of a node: a scalar or an alias counts one, the two ends of a collection one each. -/
def size : Node → Nat
  | scalar _ _ _ => 1
  | sequence _ items => 2 + sizeItems items
  | mapping _ entries => 2 + sizeEntries entries
  | reference _ => 1

def sizeItems : List Node → Nat
  | [] => 0
  | item :: rest => item.size + sizeItems rest

def sizeEntries : List (Node × Node) → Nat
  | [] => 0
  | entry :: rest => sizeEntry entry + sizeEntries rest

def sizeEntry : Node × Node → Nat
  | (key, value) => key.size + value.size

end

/-- The node with an anchor of that number; of several, the one that begins last. -/
def anchoredAt? (root : Node) (number : Nat) : Option Node :=
  ((root.anchored.filter fun found => found.1 == number).getLast?).map (·.2)

end Node

end ObservationSql.Yaml
