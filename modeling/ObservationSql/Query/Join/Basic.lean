import ObservationSql.Filter.OperatorSet
import ObservationSql.Query.Extent
import ObservationSql.Query.Keyword
import ObservationSql.Schema.Table

/-!
A query over tables that are joined to a primary one. It is built call by call, and every column
that a call names has to be declared by a table that takes part by then.
-/

namespace ObservationSql

/-- A join of a table to the primary one, on the columns that are compared. -/
structure Join where
  primary : String
  joined : String
  fields : List String
  kind : JoinKind
  deriving DecidableEq, Repr

structure SelectedField where
  field : String
  table : String
  deriving DecidableEq, Repr

/-- A predicate, and the table that it is about. -/
structure FiledPredicate where
  predicate : Predicate
  table : String
  deriving DecidableEq

/-- Predicates under one name, of which at least one has to hold. -/
structure PredicateGroup where
  name : String
  predicates : List FiledPredicate
  deriving DecidableEq

/-- A query over joined tables. The labels stand beside the columns that they are given to, each
under the spelling of its column. -/
structure JoinQuery where
  primary : Table
  others : List Table := []
  operators : OperatorSet := .full
  fields : List SelectedField := []
  labels : List (String × String) := []
  groups : List PredicateGroup := []
  joins : List Join := []
  order : List (String × SortDirection) := []
  isDistinct : Bool := false
  extent : Extent := {}
  deriving DecidableEq

/-- The groups with a predicate filed under a name: behind the others of that name, or in a group of
its own at the end. -/
def fileUnder (name : String) (filed : FiledPredicate) : List PredicateGroup → List PredicateGroup
  | [] => [⟨name, [filed]⟩]
  | group :: rest =>
      if group.name = name then { group with predicates := group.predicates ++ [filed] } :: rest
      else group :: fileUnder name filed rest

/-- The warning that the literal of a predicate does not fit the column of a table, if it does
not. -/
def kindConflict? (table : Table) (predicate : Predicate) : Option Warning :=
  match table.kind? predicate.field with
  | none => none
  | some declared =>
      let inferred := predicate.inferredCategory
      if declared.accepts inferred then none
      else some (.kindConflict inferred table.name predicate.field declared)

namespace JoinQuery

def ofPrimary (primary : Table) : JoinQuery :=
  { primary }

def ofPrimary? : Option Table → Result JoinQuery
  | some primary => .ok (ofPrimary primary)
  | none => .error (.validation .noPrimaryTable)

/-- The tables that take part, the primary one first and the others in the order of their joins. -/
def tables (query : JoinQuery) : List Table :=
  query.primary :: query.others

/-- The first table that declares a column, but for the case of ASCII letters. -/
def owner? (query : JoinQuery) (field : String) : Option Table :=
  query.tables.find? fun table => table.declares field

/-- The first table that declares a column of that name, which has to be there. -/
def owner (query : JoinQuery) (field : String) : Result Table :=
  match query.owner? field with
  | some table => .ok table
  | none => .error (.validation (.undeclaredField field))

/-- Whether a table of exactly that name takes part. -/
def takesPart (query : JoinQuery) (name : String) : Bool :=
  query.tables.any fun table => table.name == name

/-- Checks that both tables declare the columns to be compared, column by column and the primary
table first. -/
def checkJoinFields (primary other : Table) : List String → Result Unit
  | [] => .ok ()
  | field :: rest =>
      if !primary.declares field then .error (.validation (.joinField field primary.name))
      else if !other.declares field then .error (.validation (.joinField field other.name))
      else checkJoinFields primary other rest

/-- Joins a table, which must not take part yet. -/
def addJoin (other : Table) (fields : List String) (kind : String) : Update JoinQuery Unit := do
  if fields.isEmpty then throw (.validation (.joinWithoutFields other.name))
  let query ← Update.current
  if query.takesPart other.name then throw (.validation (.repeatedTable other.name))
  checkJoinFields query.primary other fields
  let kind ← JoinKind.parse kind
  Update.change fun query =>
    { query with joins := query.joins ++ [⟨query.primary.name, other.name, fields, kind⟩] }
  Update.change fun query => { query with others := query.others ++ [other] }

/-- Whether a column is in the select list, but for the case of ASCII letters. -/
def selects (query : JoinQuery) (field : String) : Bool :=
  query.fields.any fun selected => Text.eqFold selected.field field

/-- Selects one more column. A column that is there stays as it is, and an empty label is none. -/
def addField (field label : String) : Update JoinQuery Unit := do
  let query ← Update.current
  unless query.selects field do
    let table ← query.owner field
    Update.change fun query => { query with fields := query.fields ++ [⟨field, table.name⟩] }
    unless label.isEmpty do
      Update.change fun query => { query with labels := query.labels ++ [(field, label)] }

/-- Files one more predicate in a group. A literal that does not fit the column is worth a
warning. -/
def addPredicate (group field operator : String) (literal : Value) : Update JoinQuery Unit := do
  let query ← Update.current
  let operator ← query.operators.find operator
  let table ← query.owner field
  let predicate ← Predicate.build operator field literal
  if let some warning := kindConflict? table predicate then Update.warn warning
  Update.change fun query =>
    { query with groups := fileUnder group ⟨predicate, table.name⟩ query.groups }

/-- Whether a column is among those to sort by, but for the case of ASCII letters. -/
def sortsBy (query : JoinQuery) (field : String) : Bool :=
  query.order.any fun entry => Text.eqFold entry.1 field

/-- Sorts by one more column, behind those that are there. A column can be sorted by only once. -/
def addOrder (field direction : String) : Update JoinQuery Unit := do
  let query ← Update.current
  let _ ← query.owner field
  if query.sortsBy field then throw (.validation (.duplicateOrder field))
  let direction ← SortDirection.parse direction
  Update.change fun query => { query with order := query.order ++ [(field, direction)] }

/-- Asks for distinct rows, or no longer does. -/
def toggleDistinct : Update JoinQuery Unit :=
  Update.change fun query => { query with isDistinct := !query.isDistinct }

/-- Sets the operators that predicates may use from here on. Those that are filed stay. -/
def withOperators (operators : OperatorSet) : Update JoinQuery Unit :=
  Update.change fun query => { query with operators }

/-- A call for the extent of the query, which leaves everything else alone. -/
def onExtent (update : Update Extent Unit) : Update JoinQuery Unit :=
  update.within extent fun query extent => { query with extent }

theorem state_onExtent (query : JoinQuery) (update : Update Extent Unit) :
    ((onExtent update).perform query).state
      = { query with extent := (update.perform query.extent).state } :=
  Outcome.state_within ..

/-- The label of a column, for its exact spelling in the select list. -/
def label? (query : JoinQuery) (field : String) : Option String :=
  query.labels.lookup field

end JoinQuery

/-- The calls that build a query, each with its arguments as the caller gives them. -/
inductive JoinCall where
  | join (other : Table) (fields : List String) (kind : String)
  | field (field label : String)
  | predicate (group field operator : String) (literal : Value)
  | order (field direction : String)
  | distinct
  | operators (set : OperatorSet)
  | window (start stop : Calendar.Timestamp)
  | box (xMin yMin xMax yMax : Binary.Double)
  deriving DecidableEq

def JoinCall.update : JoinCall → Update JoinQuery Unit
  | join other names kind => JoinQuery.addJoin other names kind
  | field name label => JoinQuery.addField name label
  | predicate group name operator literal => JoinQuery.addPredicate group name operator literal
  | order name direction => JoinQuery.addOrder name direction
  | distinct => JoinQuery.toggleDistinct
  | operators set => JoinQuery.withOperators set
  | window start stop => JoinQuery.onExtent (Extent.setWindow start stop)
  | box xMin yMin xMax yMax => JoinQuery.onExtent (Extent.setBox xMin yMin xMax yMax)

namespace JoinQuery

/-- How a call ends: the query behind it, its warnings, and whether it was refused. -/
def perform (query : JoinQuery) (call : JoinCall) : Outcome JoinQuery Unit :=
  call.update.perform query

/-- The query after a call, whether the call was refused or not. -/
def step (query : JoinQuery) (call : JoinCall) : JoinQuery :=
  (query.perform call).state

def run (query : JoinQuery) (calls : List JoinCall) : JoinQuery :=
  calls.foldl step query

end JoinQuery

end ObservationSql
