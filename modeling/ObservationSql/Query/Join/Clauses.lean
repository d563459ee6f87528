import ObservationSql.Query.Join.Basic

namespace ObservationSql.JoinQuery

/-- A column of the select list, with its table and, if it has one, its label. -/
def columnText (query : JoinQuery) (selected : SelectedField) : String :=
  selected.table ++ "." ++ selected.field
    ++ match query.label? selected.field with
      | some label => " as " ++ label
      | none => ""

/-- The columns separated by commas. Without a column there is no clause, even if rows are to be
distinct. -/
def selectClause (query : JoinQuery) : String :=
  if query.fields.isEmpty then ""
  else
    (if query.isDistinct then "DISTINCT " else "")
      ++ Text.joinWith ", " (query.fields.map query.columnText)

/-- The conditions of a join, the first behind the given word and each further one behind AND. -/
def conditionsText (join : Join) (word : String) : List String → String
  | [] => ""
  | field :: rest =>
      " " ++ word ++ " " ++ join.primary ++ "." ++ field ++ " = " ++ join.joined ++ "." ++ field
        ++ conditionsText join "AND" rest

/-- A join: its kind, the joined table under its own name, and the condition where the kind takes
one. -/
def joinText (join : Join) : String :=
  " " ++ join.kind.keyword ++ " " ++ join.joined ++ " " ++ join.joined
    ++ if join.kind.hasCondition then conditionsText join "ON" join.fields else ""

def fromClause (query : JoinQuery) : String :=
  query.primary.name ++ " " ++ query.primary.name ++ String.join (query.joins.map joinText)

/-- A predicate with its column under the name of the table that it was filed for. -/
def predicateText (dialect : Sql.Dialect) (filed : FiledPredicate) : String :=
  filed.predicate.toSql filed.table dialect

/-- A group in parentheses, of whose predicates at least one has to hold. -/
def groupText (dialect : Sql.Dialect) (group : PredicateGroup) : String :=
  "(" ++ Text.joinWith " or " (group.predicates.map (predicateText dialect)) ++ ")"

/-- The groups, which all have to hold. -/
def whereClause (query : JoinQuery) (dialect : Sql.Dialect) : String :=
  Text.joinWith " and " (query.groups.map (groupText dialect))

/-- The columns to sort by, written without a table. -/
def orderClause (query : JoinQuery) : String :=
  Text.joinWith ", " (query.order.map fun entry => entry.1 ++ " " ++ entry.2.keyword)

/-- A clause behind its keyword. An empty clause takes the keyword with it. -/
def clauseText (keyword clause : String) : String :=
  if clause.isEmpty then "" else keyword ++ clause

/-- The statement. A query that selects nothing has none, which is the empty text. -/
def sql (query : JoinQuery) (dialect : Sql.Dialect) : String :=
  if query.fields.isEmpty then ""
  else
    "SELECT " ++ query.selectClause ++ " FROM " ++ query.fromClause
      ++ clauseText " WHERE " (query.whereClause dialect)
      ++ clauseText " ORDER BY " query.orderClause

end ObservationSql.JoinQuery
