import ObservationSql.Text.Uppercase
import ObservationSql.Warning

namespace ObservationSql

inductive JoinKind where
  | inner
  | leftOuter
  | rightOuter
  | cross
  | natural
  deriving DecidableEq, Repr

namespace JoinKind

def keyword : JoinKind → String
  | inner => "INNER JOIN"
  | leftOuter => "LEFT OUTER JOIN"
  | rightOuter => "RIGHT OUTER JOIN"
  | cross => "CROSS JOIN"
  | natural => "NATURAL JOIN"

def hasCondition : JoinKind → Bool
  | inner | leftOuter | rightOuter => true
  | cross | natural => false

/-- The kind that a text names. White space only parts the words, and the case of letters of any
script does not matter. -/
def parse (token : String) : Result JoinKind :=
  match Text.upper (Text.joinWith " " (Text.words token)) with
  | "INNER" | "INNER JOIN" | "JOIN" => .ok inner
  | "LEFT" | "LEFT JOIN" | "LEFT OUTER" | "LEFT OUTER JOIN" => .ok leftOuter
  | "RIGHT" | "RIGHT JOIN" | "RIGHT OUTER" | "RIGHT OUTER JOIN" => .ok rightOuter
  | "CROSS" | "CROSS JOIN" => .ok cross
  | "NATURAL" | "NATURAL JOIN" => .ok natural
  | _ => .error (.validation (.joinKind token))

end JoinKind

inductive SortDirection where
  | ascending
  | descending
  deriving DecidableEq, Repr

namespace SortDirection

def keyword : SortDirection → String
  | ascending => "ASC"
  | descending => "DESC"

/-- The direction that a text names, but for white space around it and the case of its letters. -/
def parse (token : String) : Result SortDirection :=
  match Text.upper (Text.trim token) with
  | "ASC" => .ok ascending
  | "DESC" => .ok descending
  | _ => .error (.validation (.sortDirection token))

end SortDirection

end ObservationSql
