import ObservationSql.Proofs.Filter.OperatorSet
import ObservationSql.Proofs.Query.Join.Invariant
import ObservationSql.Query.Join.Clauses

/-!
How callers spell the names of columns and operators and the words of joins and directions does not
matter, as far as the case of ASCII letters goes. A query with all its recorded names in small
letters stands for all spellings of it: calls in small letters do to it what the calls do to the
query.
-/

namespace ObservationSql

/-- Faults without what they carry, so without the spelling of the caller. -/
inductive FaultKind where
  | config
  | validation
  | operationNotFound
  | typeMismatch
  | unsupportedType
  | driver
  | io
  | yaml
  deriving DecidableEq, Repr

def Fault.kind : Fault → FaultKind
  | config _ => .config
  | validation _ => .validation
  | operationNotFound _ => .operationNotFound
  | typeMismatch _ _ => .typeMismatch
  | unsupportedType _ => .unsupportedType
  | emptyStatement => .driver
  | unreadableFile => .io
  | malformedYaml => .yaml

/-- How a call ends, but for the words of the fault and the warnings. -/
def Outcome.verdict {σ α : Type} : Outcome σ α → Except FaultKind Unit
  | .ok _ _ => .ok ()
  | .error fault _ => .error fault.kind

/-- The predicate with its column in small letters; its literal stays. -/
def Predicate.lower (predicate : Predicate) : Predicate :=
  { predicate with field := Text.lower predicate.field }

def FiledPredicate.lower (filed : FiledPredicate) : FiledPredicate :=
  { filed with predicate := filed.predicate.lower }

def PredicateGroup.lower (group : PredicateGroup) : PredicateGroup :=
  { group with predicates := group.predicates.map FiledPredicate.lower }

def SelectedField.lower (selected : SelectedField) : SelectedField :=
  { selected with field := Text.lower selected.field }

def Join.lower (join : Join) : Join :=
  { join with fields := join.fields.map Text.lower }

/-- The query with the names of columns in small letters, wherever they are recorded. -/
def JoinQuery.lower (query : JoinQuery) : JoinQuery :=
  { query with
    fields := query.fields.map SelectedField.lower
    labels := query.labels.map fun entry => (Text.lower entry.1, entry.2)
    groups := query.groups.map PredicateGroup.lower
    joins := query.joins.map Join.lower
    order := query.order.map fun entry => (Text.lower entry.1, entry.2) }

/-- The call with names of columns and operators and the words for joins and directions in small
letters. -/
def JoinCall.lower : JoinCall → JoinCall
  | join other names kind => join other (names.map Text.lower) (Text.lower kind)
  | field name label => field (Text.lower name) label
  | predicate group name operator literal =>
      predicate group (Text.lower name) (Text.lower operator) literal
  | order name direction => order (Text.lower name) (Text.lower direction)
  | distinct => distinct
  | operators set => operators set
  | window start stop => window start stop
  | box xMin yMin xMax yMax => box xMin yMin xMax yMax

/-- How a call ended, without its answer and without the wording of its fault. -/
def Result.verdict {α : Type} (result : Result α) : Except FaultKind Unit :=
  match result with
  | .ok _ => .ok ()
  | .error fault => .error fault.kind

theorem JoinKind.upper_words_lower (token : String) :
    Text.upper (Text.joinWith " " (Text.words (Text.lower token)))
      = Text.upper (Text.joinWith " " (Text.words token)) := by
  have hblank : Text.lower " " = " " := by decide
  rw [Text.words_lower, ← Text.upper_lower (Text.joinWith " " (Text.words token)),
    Text.lower_joinWith, hblank]

theorem JoinKind.parse_lower {token : String} {kind : JoinKind} :
    parse (Text.lower token) = .ok kind ↔ parse token = .ok kind := by
  unfold parse
  rw [upper_words_lower]
  split <;> simp

theorem JoinKind.verdict_parse_lower (token : String) :
    Result.verdict (parse (Text.lower token)) = Result.verdict (parse token) := by
  unfold parse
  rw [upper_words_lower]
  split <;> rfl

theorem SortDirection.parse_lower {token : String} {direction : SortDirection} :
    parse (Text.lower token) = .ok direction ↔ parse token = .ok direction := by
  unfold parse
  rw [Text.trim_lower, Text.upper_lower]
  split <;> simp

theorem SortDirection.verdict_parse_lower (token : String) :
    Result.verdict (parse (Text.lower token)) = Result.verdict (parse token) := by
  unfold parse
  rw [Text.trim_lower, Text.upper_lower]
  split <;> rfl

theorem OperatorSet.find_lower {set : OperatorSet} {name : String} {operator : Operator} :
    set.find (Text.lower name) = .ok operator ↔ set.find name = .ok operator := by
  rw [find_eq_ok_iff, find_eq_ok_iff, Operator.isNamed_iff, Operator.isNamed_iff, Text.trim_lower,
    Text.eqFold_lower_right]

theorem Table.declares_lower (table : Table) (name : String) :
    table.declares (Text.lower name) = table.declares name := by
  simp [declares, sameName]

namespace JoinQuery

@[simp] theorem tables_lower (query : JoinQuery) : query.lower.tables = query.tables := rfl

@[simp] theorem primary_lower (query : JoinQuery) : query.lower.primary = query.primary := rfl

@[simp] theorem operators_lower (query : JoinQuery) : query.lower.operators = query.operators := rfl

theorem owner?_lower (query : JoinQuery) (field : String) :
    query.lower.owner? (Text.lower field) = query.owner? field := by
  simp only [owner?, tables_lower, Table.declares_lower]

theorem verdict_owner_lower (query : JoinQuery) (field : String) :
    Result.verdict (query.lower.owner (Text.lower field)) = Result.verdict (query.owner field) := by
  unfold owner
  rw [owner?_lower]
  cases query.owner? field <;> rfl

theorem verdict_checkJoinFields_lower (primary other : Table) (fields : List String) :
    Result.verdict (checkJoinFields primary other (fields.map Text.lower))
      = Result.verdict (checkJoinFields primary other fields) := by
  induction fields with
  | nil => rfl
  | cons field rest ih =>
      simp only [List.map_cons, checkJoinFields, Table.declares_lower]
      split
      · rfl
      · split
        · rfl
        · exact ih

theorem takesPart_lower (query : JoinQuery) (name : String) :
    query.lower.takesPart name = query.takesPart name := rfl

theorem selects_lower (query : JoinQuery) (field : String) :
    query.lower.selects (Text.lower field) = query.selects field := by
  simp [selects, lower, List.any_map, Function.comp_def, SelectedField.lower]

theorem sortsBy_lower (query : JoinQuery) (field : String) :
    query.lower.sortsBy (Text.lower field) = query.sortsBy field := by
  simp [sortsBy, lower, List.any_map, Function.comp_def]

theorem fileUnder_lower (name : String) (filed : FiledPredicate) (groups : List PredicateGroup) :
    fileUnder name filed.lower (groups.map PredicateGroup.lower)
      = (fileUnder name filed groups).map PredicateGroup.lower := by
  induction groups with
  | nil => rfl
  | cons group rest ih =>
      rw [List.map_cons, fileUnder, fileUnder]
      change (if group.name = name then _ else _) = _
      split
      · simp [PredicateGroup.lower]
      · rw [ih, List.map_cons]

theorem Admits.lower {query next : JoinQuery} {call : JoinCall} (h : query.Admits call next) :
    query.lower.Admits call.lower next.lower := by
  cases h with
  | @join other fields token kind hfields hnew hdeclared hkind =>
      have hfields' : fields.map Text.lower ≠ [] := by simpa using hfields
      have hdeclared' : ∀ field ∈ fields.map Text.lower,
          query.primary.declares field = true ∧ other.declares field = true := by
        intro field hfield
        obtain ⟨name, hname, rfl⟩ := List.mem_map.mp hfield
        rw [Table.declares_lower, Table.declares_lower]
        exact hdeclared name hname
      have hadmits : query.lower.Admits (.join other (fields.map Text.lower) (Text.lower token)) _ :=
        .join hfields' hnew hdeclared' (JoinKind.parse_lower.mpr hkind)
      convert hadmits using 1
      · rfl
      · simp [JoinQuery.lower, Join.lower]
  | selected hselected =>
      exact .selected ((selects_lower query _).trans hselected)
  | @field field label table hfresh howner =>
      have hadmits : query.lower.Admits (.field (Text.lower field) label) _ :=
        .field ((selects_lower query field).trans hfresh) ((owner?_lower query field).trans howner)
      convert hadmits using 1
      · rfl
      · by_cases hlabel : label = "" <;> simp [JoinQuery.lower, SelectedField.lower, hlabel]
  | @predicate group field name literal operator table hoperator howner hoperand =>
      have hadmits : query.lower.Admits
          (.predicate group (Text.lower field) (Text.lower name) literal) _ :=
        .predicate (OperatorSet.find_lower.mpr hoperator) ((owner?_lower query field).trans howner)
          hoperand
      convert hadmits using 1
      · rfl
      · simp only [JoinQuery.lower, ← fileUnder_lower]
        rfl
  | @order field token direction table howner hfresh hdirection =>
      have hadmits : query.lower.Admits (.order (Text.lower field) (Text.lower token)) _ :=
        .order ((owner?_lower query field).trans howner) ((sortsBy_lower query field).trans hfresh)
          (SortDirection.parse_lower.mpr hdirection)
      convert hadmits using 1
      · rfl
      · simp [JoinQuery.lower]
  | distinct => exact .distinct
  | operators => exact .operators
  | window hle => exact .window hle
  | box hx hy hbounds => exact .box hx hy hbounds

theorem verdict_join (query : JoinQuery) (other : Table) (fields : List String) (token : String) :
    (query.perform (.join other fields token)).verdict =
      if fields.isEmpty || query.takesPart other.name then .error .validation
      else match Result.verdict (checkJoinFields query.primary other fields) with
        | .error kind => .error kind
        | .ok _ => Result.verdict (JoinKind.parse token) := by
  simp only [perform, Update.perform, JoinCall.update, addJoin]
  by_cases hfields : fields = []
  · simp [hfields, Outcome.verdict, Fault.kind]
  cases hnew : query.takesPart other.name with
  | true => simp [hfields, hnew, Outcome.verdict, Fault.kind]
  | false =>
      cases hchecked : checkJoinFields query.primary other fields with
      | error fault =>
          simp [hfields, hnew, hchecked, Outcome.verdict, Result.verdict]
      | ok _ =>
          cases hkind : JoinKind.parse token <;>
            simp [hfields, hnew, hchecked, Outcome.verdict, Result.verdict]

theorem verdict_field (query : JoinQuery) (field label : String) :
    (query.perform (.field field label)).verdict =
      if query.selects field then .ok () else Result.verdict (query.owner field) := by
  cases hselected : query.selects field with
  | true => simp [perform, Update.perform, JoinCall.update, addField, hselected, Outcome.verdict]
  | false =>
      cases howner : query.owner field with
      | error fault =>
          simp [perform, Update.perform, JoinCall.update, addField, hselected, howner,
            Outcome.verdict, Result.verdict]
      | ok table =>
          by_cases hlabel : label = "" <;>
            simp [perform, Update.perform, JoinCall.update, addField, hselected, howner, hlabel,
              Outcome.verdict, Result.verdict]

theorem verdict_predicate (query : JoinQuery) (group field name : String) (literal : Value) :
    (query.perform (.predicate group field name literal)).verdict =
      match query.operators.find name with
      | .error _ => .error .operationNotFound
      | .ok operator => match Result.verdict (query.owner field) with
        | .error kind => .error kind
        | .ok _ => Result.verdict (Predicate.checkOperand operator literal) := by
  simp only [perform, Update.perform, JoinCall.update, addPredicate]
  cases hoperator : query.operators.find name with
  | error fault =>
      simp [hoperator, OperatorSet.find_eq_error hoperator, Outcome.verdict, Fault.kind]
  | ok operator =>
      cases howner : query.owner field with
      | error fault =>
          simp [hoperator, howner, Outcome.verdict, Result.verdict]
      | ok table =>
          cases hoperand : Predicate.checkOperand operator literal with
          | error fault =>
              have hbuild := build_eq_error hoperand field
              simp [hoperator, howner, hoperand, hbuild, Outcome.verdict, Result.verdict]
          | ok _ =>
              have hbuild := build_eq_ok hoperand field
              cases hconflict : kindConflict? table ⟨operator, field, literal⟩ <;>
                simp [hoperator, howner, hoperand, hbuild, hconflict, Outcome.verdict,
                  Result.verdict]

theorem verdict_order (query : JoinQuery) (field token : String) :
    (query.perform (.order field token)).verdict =
      match Result.verdict (query.owner field) with
      | .error kind => .error kind
      | .ok _ =>
          if query.sortsBy field then .error .validation
          else Result.verdict (SortDirection.parse token) := by
  simp only [perform, Update.perform, JoinCall.update, addOrder]
  cases howner : query.owner field with
  | error fault => simp [howner, Outcome.verdict, Result.verdict]
  | ok table =>
      cases hfresh : query.sortsBy field with
      | true =>
          simp [howner, hfresh, Outcome.verdict, Result.verdict, Fault.kind]
      | false =>
          cases hdirection : SortDirection.parse token <;>
            simp [howner, hfresh, Outcome.verdict, Result.verdict]

theorem verdict_onExtent (query : JoinQuery) (update : Update Extent Unit) :
    ((onExtent update).perform query).verdict = (update.perform query.extent).verdict := by
  simp only [onExtent, Update.perform, Update.run_within]
  cases update.run ⟨query.extent, []⟩ <;> rfl

theorem verdict_perform_lower (query : JoinQuery) (call : JoinCall) :
    (query.lower.perform call.lower).verdict = (query.perform call).verdict := by
  cases call with
  | join other fields token =>
      rw [JoinCall.lower, verdict_join, verdict_join, List.isEmpty_map, takesPart_lower,
        JoinKind.verdict_parse_lower, primary_lower, verdict_checkJoinFields_lower]
  | field field label =>
      rw [JoinCall.lower, verdict_field, verdict_field, selects_lower, verdict_owner_lower]
  | predicate group field name literal =>
      rw [JoinCall.lower, verdict_predicate, verdict_predicate, verdict_owner_lower,
        operators_lower]
      cases hlower : query.operators.find (Text.lower name) with
      | ok operator => rw [OperatorSet.find_lower.mp hlower]
      | error _ =>
          cases hfound : query.operators.find name with
          | error _ => rfl
          | ok operator =>
              rw [OperatorSet.find_lower.mpr hfound] at hlower
              cases hlower
  | order field token =>
      rw [JoinCall.lower, verdict_order, verdict_order, verdict_owner_lower, sortsBy_lower,
        SortDirection.verdict_parse_lower]
  | distinct => rfl
  | operators set => rfl
  | window start stop => exact (verdict_onExtent _ _).trans (verdict_onExtent query _).symm
  | box xMin yMin xMax yMax => exact (verdict_onExtent _ _).trans (verdict_onExtent query _).symm

/-- A step keeps the two queries alike: they refuse a call for the same kind of fault, or both admit
it. -/
theorem step_lower (query : JoinQuery) (call : JoinCall) :
    query.lower.step call.lower = (query.step call).lower := by
  rcases decides query call with ⟨fault, hrefused⟩ | ⟨next, hadmits⟩
  · have hverdict := verdict_perform_lower query call
    rw [hrefused] at hverdict
    cases hlower : query.lower.perform call.lower with
    | ok answer noted =>
        rw [hlower] at hverdict
        cases hverdict
    | error fault' noted =>
        rw [step, step, hlower, hrefused, perform_error hlower]
        rfl
  · rw [step_of_admits hadmits, step_of_admits hadmits.lower]

theorem run_lower (query : JoinQuery) (calls : List JoinCall) :
    query.lower.run (calls.map JoinCall.lower) = (query.run calls).lower := by
  induction calls generalizing query with
  | nil => rfl
  | cons call rest ih =>
      rw [List.map_cons, run_cons, step_lower, ih]
      rfl

def verdicts (query : JoinQuery) : List JoinCall → List (Except FaultKind Unit)
  | [] => []
  | call :: rest => (query.perform call).verdict :: verdicts (query.step call) rest

theorem verdicts_lower (query : JoinQuery) (calls : List JoinCall) :
    query.lower.verdicts (calls.map JoinCall.lower) = query.verdicts calls := by
  induction calls generalizing query with
  | nil => rfl
  | cons call rest ih =>
      rw [List.map_cons, verdicts, verdicts, verdict_perform_lower, step_lower, ih]

end JoinQuery

end ObservationSql
