import ObservationSql.FileTree
import ObservationSql.Schema.Registry
import ObservationSql.Warning

/-!
Tables from files. A directory is read in the order of its file names, whatever order its entries
are listed in. A file that declares no table is passed over with a warning; only a directory that is
not there fails the whole.
-/

namespace ObservationSql

/-- The table that the octets of a file declare, which have to be well-formed UTF-8. -/
def Table.ofOctets (content : ByteArray) : Result Table :=
  match String.fromUTF8? content with
  | some document => Table.ofYaml document
  | none => .error .unreadableFile

def Table.ofFile (files : FileTree) (path : String) : Result Table :=
  match files.at? path with
  | some (.file content) => Table.ofOctets content
  | _ => .error .unreadableFile

namespace Registry

/-- The end of the name of a file that declares a table, unless a caller asks for another. -/
def standardSuffix : String := ".yaml"

/-- Whether a file of that name is to declare a table. A file whose name begins with a dot is
hidden, and one whose name begins with a hash sign is put aside. -/
def isCandidateName (suffix name : String) : Bool :=
  name.toList.head? != some '.' && name.toList.head? != some '#'
    && suffix.toList.isSuffixOf name.toList

/-- The names in a listing of a directory that belong to files which are to declare tables,
sorted. -/
def candidates (files : FileTree) (directory suffix : String) (names : List String) :
    List String :=
  (names.filter fun name =>
      isCandidateName suffix name && files.isFile (joinPath directory name)).mergeSort
    fun left right => decide (left ≤ right)

/-- Registers the table that a file declares. A file that declares none is passed over. -/
def loadFile (files : FileTree) (noted : Noted Registry) (path : String) : Noted Registry :=
  match Table.ofFile files path with
  | .ok table => { noted with value := noted.value.insert table }
  | .error fault => { noted with warnings := noted.warnings ++ [.skippedFile path fault] }

/-- The registry of the tables of some files, read one after the other. -/
def loadFiles (files : FileTree) (paths : List String) : Noted Registry :=
  paths.foldl (loadFile files) ⟨{}, []⟩

/-- The registry of the tables of a directory, with a warning for each candidate that declares none.
Only a directory that is not there fails. -/
def load (files : FileTree) (directory : String) (suffix : String := standardSuffix) :
    Result (Noted Registry) :=
  match files.at? directory with
  | none => .error (.config (.missingDirectory directory))
  | some (.file _) => .error (.config (.notDirectory directory))
  | some (.directory entries) =>
      let names := candidates files directory suffix (entries.map Prod.fst)
      .ok (loadFiles files (names.map (joinPath directory)))

end Registry

end ObservationSql
