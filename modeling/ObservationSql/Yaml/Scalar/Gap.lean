import ObservationSql.Yaml.Character

namespace ObservationSql.Yaml

/-- The white space since the last word. -/
inductive Gap where
  /-- Blanks inside a line, or nothing at all. -/
  | inside (blanks : List Char)
  /-- White space over the end of a line: the first line break, unless an escape took it away, and
  the line breaks behind it. -/
  | across (first : Option Char) (more : List Char)
  deriving DecidableEq, Repr

namespace Gap

def none : Gap := inside []

def isBroken : Gap → Bool
  | inside _ => false
  | across _ _ => true

def isNone : Gap → Bool
  | inside [] => true
  | _ => false

/-- The gap with a blank behind it. Blanks at the ends of lines are dropped. -/
def blank (c : Char) : Gap → Gap
  | inside blanks => inside (blanks ++ [c])
  | across first more => across first more

/-- The white space with one more line break. Blanks in front of it do not count. -/
def lineBreak (c : Char) : Gap → Gap
  | inside _ => across (some c) []
  | across first more => across first (more ++ [c])

/-- What is left of the white space in the text: blanks inside a line stay, one line feed becomes a
space, and of several line feeds the first is dropped. The separators of Unicode are never
dropped. -/
def folded : Gap → List Char
  | inside blanks => blanks
  | across (some '\n') [] => [' ']
  | across (some '\n') more => more
  | across (some c) more => c :: more
  | across Option.none more => more

end Gap

end ObservationSql.Yaml
