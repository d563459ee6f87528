import ObservationSql.Decimal.Digits
import ObservationSql.Fault
import ObservationSql.Schema.Loading
import ObservationSql.Yaml.Writer

namespace ObservationSql

/-- The settings of a host: where its tables are declared, and what a query does unless it is told
otherwise. The dialect is kept as it was given. The directory is a text in Unicode here, so a path
that is not one, which no document could give back, is not among the settings. -/
structure Settings where
  schemaDir : String
  schemaSuffix : String := Registry.standardSuffix
  caseSensitiveNames : Bool := false
  dialectName : String := Sql.Dialect.primary.name
  floatPrecision : Nat := 1
  deriving DecidableEq, Repr

namespace Settings

def dialect (settings : Settings) : Sql.Dialect :=
  .ofName settings.dialectName

/-- Reads a document. Only the directory has to be given. -/
def decode (node : Yaml.Node) : Yaml.Decode Settings := do
  let fields ← Yaml.Decode.record node
  let schemaDir ← Yaml.Decode.field fields "schemaDir" Yaml.Decode.text
  let standard : Settings := { schemaDir }
  return {
    schemaDir
    schemaSuffix :=
      ← Yaml.Decode.fieldOr fields "schemaSuffix" Yaml.Decode.text standard.schemaSuffix
    caseSensitiveNames :=
      ← Yaml.Decode.fieldOr fields "caseSensitiveNames" Yaml.Decode.flag
        standard.caseSensitiveNames
    dialectName := ← Yaml.Decode.fieldOr fields "dialect" Yaml.Decode.text standard.dialectName
    floatPrecision :=
      ← Yaml.Decode.fieldOr fields "floatPrecision" Yaml.Decode.natural
        standard.floatPrecision }

def ofYaml (document : String) : Result Settings :=
  match Yaml.decode? decode document with
  | some settings => .ok settings
  | none => .error .malformedYaml

def ofFile (files : FileTree) (path : String) : Result Settings :=
  match files.text? path with
  | some document => ofYaml document
  | none => .error .unreadableFile

def flagText (flag : Bool) : String :=
  if flag then "true" else "false"

/-- The document of the settings, entry by entry. Every text of theirs can be written, so there
always is one. -/
def toYaml (settings : Settings) : String :=
  String.ofList
    (Yaml.writeEntry "schemaDir" (Yaml.writeText settings.schemaDir)
      ++ Yaml.writeEntry "schemaSuffix" (Yaml.writeText settings.schemaSuffix)
      ++ Yaml.writeEntry "caseSensitiveNames"
        ((flagText settings.caseSensitiveNames).toList ++ ['\n'])
      ++ Yaml.writeEntry "dialect" (Yaml.writeText settings.dialectName)
      ++ Yaml.writeEntry "floatPrecision" (Decimal.digits settings.floatPrecision ++ ['\n']))

end Settings

/-- The tables that the files of the directory of the settings declare. -/
def Registry.ofSettings (files : FileTree) (settings : Settings) : Result (Noted Registry) :=
  Registry.load files settings.schemaDir settings.schemaSuffix

end ObservationSql
