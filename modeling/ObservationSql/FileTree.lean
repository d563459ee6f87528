namespace ObservationSql

/-- What a name in a directory stands for: a file with its octets, or a directory with its
entries. -/
inductive FileTree where
  | file (content : ByteArray)
  | directory (entries : List (String × FileTree))

namespace FileTree

inductive Step where
  | stay
  | up
  | into (name : String)
  deriving DecidableEq, Repr

/-- The step that a piece of a path asks for. An empty piece and a dot stay where they are, and two
dots lead out of a directory. -/
def Step.ofPiece (piece : List Char) : Step :=
  match piece with
  | [] | ['.'] => stay
  | ['.', '.'] => up
  | name => into (String.ofList name)

/-- The pieces of a text between slashes, `piece` being the one that is being read. -/
def splitPath (piece : List Char) : List Char → List (List Char)
  | [] => [piece]
  | c :: rest => if c = '/' then piece :: splitPath [] rest else splitPath (piece ++ [c]) rest

/-- The steps of a path. A slash at the end is a step too, which only a directory allows. -/
def steps (path : String) : List Step :=
  (splitPath [] path.toList).map Step.ofPiece

/-- What is at the end of some steps from a tree, `above` being the directories around it, the
innermost first. No step leads out of a file, and the top of the tree is the directory above
itself. -/
def follow? (above : List FileTree) : List Step → FileTree → Option FileTree
  | [], tree => some tree
  | _ :: _, file _ => none
  | .stay :: rest, directory entries => follow? above rest (directory entries)
  | .up :: rest, directory entries =>
      match above with
      | [] => follow? [] rest (directory entries)
      | parent :: outer => follow? outer rest parent
  | .into name :: rest, directory entries =>
      (entries.lookup name).bind (follow? (directory entries :: above) rest)

/-- The number of octets from which on a path is too long to be followed. -/
def pathLimit : Nat := 4096

/-- What a path leads to. The empty path leads nowhere. -/
def at? (tree : FileTree) (path : String) : Option FileTree :=
  if path ≠ "" ∧ path.utf8ByteSize < pathLimit then follow? [] (steps path) tree else none

def isFile (tree : FileTree) (path : String) : Bool :=
  match tree.at? path with
  | some (file _) => true
  | _ => false

/-- The text of a file, if there is a file at the path and its octets are well-formed UTF-8. -/
def text? (tree : FileTree) (path : String) : Option String :=
  match tree.at? path with
  | some (file content) => String.fromUTF8? content
  | _ => none

end FileTree

/-- The path of a name in a directory. The slash between them is only put in where there is none. -/
def joinPath (directory name : String) : String :=
  if directory = "" ∨ directory.toList.getLast? = some '/' then directory ++ name
  else directory ++ "/" ++ name

end ObservationSql
