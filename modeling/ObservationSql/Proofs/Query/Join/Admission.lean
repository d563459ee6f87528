import ObservationSql.Proofs.Query.Extent
import ObservationSql.Query.Join.Basic

namespace ObservationSql

/-- What a call on a query asks of its extent. -/
def JoinCall.extent? : JoinCall → Option ExtentCall
  | window start stop => some (.window start stop)
  | box xMin yMin xMax yMax => some (.box xMin yMin xMax yMax)
  | _ => none

namespace JoinQuery

/-- A call that is not refused: the checks that it has passed, and the query that comes after it. -/
inductive Admits (query : JoinQuery) : JoinCall → JoinQuery → Prop where
  | join {other : Table} {fields : List String} {token : String} {kind : JoinKind}
      (hfields : fields ≠ [])
      (hnew : query.takesPart other.name = false)
      (hdeclared : ∀ field ∈ fields,
        query.primary.declares field = true ∧ other.declares field = true)
      (hkind : JoinKind.parse token = .ok kind) :
      Admits query (.join other fields token)
        { query with
          joins := query.joins ++ [⟨query.primary.name, other.name, fields, kind⟩]
          others := query.others ++ [other] }
  | selected {field label : String} (hselected : query.selects field = true) :
      Admits query (.field field label) query
  | field {field label : String} {table : Table}
      (hfresh : query.selects field = false)
      (howner : query.owner? field = some table) :
      Admits query (.field field label)
        { query with
          fields := query.fields ++ [⟨field, table.name⟩]
          labels := query.labels ++ if label = "" then [] else [(field, label)] }
  | predicate {group field name : String} {literal : Value} {operator : Operator} {table : Table}
      (hoperator : query.operators.find name = .ok operator)
      (howner : query.owner? field = some table)
      (hoperand : Predicate.checkOperand operator literal = .ok ()) :
      Admits query (.predicate group field name literal)
        { query with
          groups := fileUnder group ⟨⟨operator, field, literal⟩, table.name⟩ query.groups }
  | order {field token : String} {direction : SortDirection} {table : Table}
      (howner : query.owner? field = some table)
      (hfresh : query.sortsBy field = false)
      (hdirection : SortDirection.parse token = .ok direction) :
      Admits query (.order field token)
        { query with order := query.order ++ [(field, direction)] }
  | distinct : Admits query .distinct { query with isDistinct := !query.isDistinct }
  | operators {set : OperatorSet} : Admits query (.operators set) { query with operators := set }
  | window {start stop : Calendar.Timestamp} (hle : start ≤ stop) :
      Admits query (.window start stop)
        { query with extent := { query.extent with window := some (start, stop) } }
  | box {xMin yMin xMax yMax : Binary.Double}
      (hx : xMax.lt xMin = false) (hy : yMax.lt yMin = false)
      (hbounds : (withinDegrees 180 xMin && withinDegrees 180 xMax
        && withinDegrees 90 yMin && withinDegrees 90 yMax) = true) :
      Admits query (.box xMin yMin xMax yMax)
        { query with extent := { query.extent with box := some ⟨xMin, yMin, xMax, yMax⟩ } }

theorem checkJoinFields_eq_ok_iff {primary other : Table} {fields : List String} :
    checkJoinFields primary other fields = .ok () ↔
      ∀ field ∈ fields, primary.declares field = true ∧ other.declares field = true := by
  induction fields with
  | nil => simp [checkJoinFields]
  | cons field rest ih =>
      simp only [checkJoinFields, List.forall_mem_cons]
      cases hprimary : primary.declares field
      · simp
      · cases hother : other.declares field
        · simp
        · simpa using ih

theorem owner_eq_ok_iff {query : JoinQuery} {field : String} {table : Table} :
    query.owner field = .ok table ↔ query.owner? field = some table := by
  unfold owner
  cases query.owner? field <;> simp

theorem build_eq_ok {operator : Operator} {literal : Value}
    (hoperand : Predicate.checkOperand operator literal = .ok ()) (field : String) :
    Predicate.build operator field literal = .ok ⟨operator, field, literal⟩ := by
  unfold Predicate.build
  rw [hoperand]
  rfl

theorem build_eq_error {operator : Operator} {literal : Value} {fault : Fault}
    (hoperand : Predicate.checkOperand operator literal = .error fault) (field : String) :
    Predicate.build operator field literal = .error fault := by
  unfold Predicate.build
  rw [hoperand]
  rfl

theorem perform_predicate {query : JoinQuery} {field name : String} {literal : Value}
    {operator : Operator} {table : Table} (hoperator : query.operators.find name = .ok operator)
    (howner : query.owner? field = some table)
    (hoperand : Predicate.checkOperand operator literal = .ok ()) (group : String) :
    query.perform (.predicate group field name literal) = .ok ()
      ⟨{ query with
          groups := fileUnder group ⟨⟨operator, field, literal⟩, table.name⟩ query.groups },
        (kindConflict? table ⟨operator, field, literal⟩).toList⟩ := by
  have howner := owner_eq_ok_iff.mpr howner
  have hbuild := build_eq_ok hoperand field
  cases hconflict : kindConflict? table ⟨operator, field, literal⟩ <;>
    simp [perform, Update.perform, JoinCall.update, addPredicate, hoperator, howner, hbuild,
      hconflict]

theorem perform_of_admits {query next : JoinQuery} {call : JoinCall}
    (h : query.Admits call next) :
    ∃ warnings, query.perform call = .ok () ⟨next, warnings⟩ := by
  cases h with
  | join hfields hnew hdeclared hkind =>
      have hchecked := checkJoinFields_eq_ok_iff.mpr hdeclared
      refine ⟨[], ?_⟩
      simp [perform, Update.perform, JoinCall.update, addJoin, hfields, hnew, hchecked, hkind]
  | selected hselected =>
      refine ⟨[], ?_⟩
      simp [perform, Update.perform, JoinCall.update, addField, hselected]
  | @field field label table hfresh howner =>
      have howner := owner_eq_ok_iff.mpr howner
      refine ⟨[], ?_⟩
      by_cases hlabel : label = ""
      · simp [perform, Update.perform, JoinCall.update, addField, hfresh, howner, hlabel]
      · simp [perform, Update.perform, JoinCall.update, addField, hfresh, howner, hlabel]
  | predicate hoperator howner hoperand =>
      exact ⟨_, perform_predicate hoperator howner hoperand _⟩
  | order howner hfresh hdirection =>
      have howner := owner_eq_ok_iff.mpr howner
      refine ⟨[], ?_⟩
      simp [perform, Update.perform, JoinCall.update, addOrder, howner, hfresh, hdirection]
  | distinct => exact ⟨[], rfl⟩
  | operators => exact ⟨[], rfl⟩
  | window hle =>
      refine ⟨[], ?_⟩
      simp [perform, Update.perform, JoinCall.update, onExtent, Extent.setWindow, hle]
  | box hx hy hbounds =>
      refine ⟨[], ?_⟩
      simp [perform, Update.perform, JoinCall.update, onExtent, Extent.setBox,
        hx, hy, hbounds]

/-- The two ends of a call: it is refused before it has changed anything, or it is admitted. -/
def Decides (query : JoinQuery) (call : JoinCall) : Prop :=
  (∃ fault, query.perform call = .error fault ⟨query, []⟩) ∨ ∃ next, query.Admits call next

theorem decides_join (query : JoinQuery) (other : Table) (fields : List String) (token : String) :
    query.Decides (.join other fields token) := by
  unfold Decides
  simp only [perform, Update.perform, JoinCall.update, addJoin]
  by_cases hfields : fields = []
  · left
    simp [hfields]
  cases hnew : query.takesPart other.name with
  | true =>
      left
      simp [hfields, hnew]
  | false =>
      cases hchecked : checkJoinFields query.primary other fields with
      | error fault =>
          left
          simp [hfields, hnew, hchecked]
      | ok _ =>
          cases hkind : JoinKind.parse token with
          | error fault =>
              left
              simp [hfields, hnew, hchecked]
          | ok kind =>
              right
              exact ⟨_, .join hfields hnew (checkJoinFields_eq_ok_iff.mp hchecked) hkind⟩

theorem decides_field (query : JoinQuery) (field label : String) :
    query.Decides (.field field label) := by
  unfold Decides
  simp only [perform, Update.perform, JoinCall.update, addField]
  cases hselected : query.selects field with
  | true => exact .inr ⟨_, .selected hselected⟩
  | false =>
      cases howner : query.owner field with
      | error fault =>
          left
          simp [hselected, howner]
      | ok table => exact .inr ⟨_, .field hselected (owner_eq_ok_iff.mp howner)⟩

theorem decides_predicate (query : JoinQuery) (group field name : String) (literal : Value) :
    query.Decides (.predicate group field name literal) := by
  unfold Decides
  simp only [perform, Update.perform, JoinCall.update, addPredicate]
  cases hoperator : query.operators.find name with
  | error fault =>
      left
      simp [hoperator]
  | ok operator =>
      cases howner : query.owner field with
      | error fault =>
          left
          simp [hoperator, howner]
      | ok table =>
          cases hoperand : Predicate.checkOperand operator literal with
          | error fault =>
              left
              have hbuild := build_eq_error hoperand field
              simp [hoperator, howner, hbuild]
          | ok _ => exact .inr ⟨_, .predicate hoperator (owner_eq_ok_iff.mp howner) hoperand⟩

theorem decides_order (query : JoinQuery) (field token : String) :
    query.Decides (.order field token) := by
  unfold Decides
  simp only [perform, Update.perform, JoinCall.update, addOrder]
  cases howner : query.owner field with
  | error fault =>
      left
      simp [howner]
  | ok table =>
      cases hfresh : query.sortsBy field with
      | true =>
          left
          simp [howner, hfresh]
      | false =>
          cases hdirection : SortDirection.parse token with
          | error fault =>
              left
              simp [howner, hfresh]
          | ok direction => exact .inr ⟨_, .order (owner_eq_ok_iff.mp howner) hfresh hdirection⟩

theorem perform_onExtent_of_not_valid (query : JoinQuery) {call : ExtentCall}
    (h : ¬call.Valid) :
    ∃ fault, (onExtent call.update).perform query = .error fault ⟨query, []⟩ := by
  obtain ⟨cause, hrefused⟩ := Extent.perform_of_not_valid h query.extent
  exact ⟨_, Outcome.perform_within_of_error hrefused _⟩

theorem decides_window (query : JoinQuery) (start stop : Calendar.Timestamp) :
    query.Decides (.window start stop) := by
  by_cases hvalid : ExtentCall.Valid (.window start stop)
  · exact .inr ⟨_, .window hvalid⟩
  · exact .inl (perform_onExtent_of_not_valid query hvalid)

theorem decides_box (query : JoinQuery) (xMin yMin xMax yMax : Binary.Double) :
    query.Decides (.box xMin yMin xMax yMax) := by
  by_cases hvalid : ExtentCall.Valid (.box xMin yMin xMax yMax)
  · obtain ⟨hx, hy, hbounds⟩ := BoundingBox.valid_iff.mp hvalid
    exact .inr ⟨_, .box hx hy hbounds⟩
  · exact .inl (perform_onExtent_of_not_valid query hvalid)

theorem decides (query : JoinQuery) (call : JoinCall) : query.Decides call := by
  cases call with
  | join other fields token => exact decides_join query other fields token
  | field field label => exact decides_field query field label
  | predicate group field name literal => exact decides_predicate query group field name literal
  | order field token => exact decides_order query field token
  | distinct => exact .inr ⟨_, .distinct⟩
  | operators set => exact .inr ⟨_, .operators⟩
  | window start stop => exact decides_window query start stop
  | box xMin yMin xMax yMax => exact decides_box query xMin yMin xMax yMax

theorem admits_of_perform_eq_ok {query : JoinQuery} {call : JoinCall} {noted : Noted JoinQuery}
    (h : query.perform call = .ok () noted) : query.Admits call noted.value := by
  rcases decides query call with ⟨fault, hrefused⟩ | ⟨next, hadmits⟩
  · rw [hrefused] at h
    cases h
  · obtain ⟨warnings, hperform⟩ := perform_of_admits hadmits
    rw [hperform] at h
    cases h
    exact hadmits

/-- A refused call leaves the query as it was, without a warning. -/
theorem perform_error {query : JoinQuery} {call : JoinCall} {fault : Fault}
    {noted : Noted JoinQuery} (h : query.perform call = .error fault noted) :
    noted = ⟨query, []⟩ := by
  rcases decides query call with ⟨_, hrefused⟩ | ⟨next, hadmits⟩
  · rw [hrefused] at h
    cases h
    rfl
  · obtain ⟨warnings, hperform⟩ := perform_of_admits hadmits
    rw [hperform] at h
    cases h

theorem step_of_admits {query next : JoinQuery} {call : JoinCall} (h : query.Admits call next) :
    query.step call = next := by
  obtain ⟨warnings, hperform⟩ := perform_of_admits h
  rw [step, hperform]
  rfl

theorem step_eq_or_admits (query : JoinQuery) (call : JoinCall) :
    query.step call = query ∨ query.Admits call (query.step call) := by
  rcases decides query call with ⟨fault, hrefused⟩ | ⟨next, hadmits⟩
  · left
    rw [step, hrefused]
    rfl
  · right
    rw [step_of_admits hadmits]
    exact hadmits

theorem isOk_perform_iff {query : JoinQuery} {call : JoinCall} :
    (query.perform call).isOk = true ↔ ∃ next, query.Admits call next := by
  constructor
  · intro h
    obtain ⟨answer, noted, hperform⟩ := Outcome.isOk_iff.mp h
    exact ⟨noted.value, admits_of_perform_eq_ok hperform⟩
  · rintro ⟨next, hadmits⟩
    obtain ⟨warnings, hperform⟩ := perform_of_admits hadmits
    rw [hperform]
    rfl

theorem Admits.extent_eq {query next : JoinQuery} {call : JoinCall}
    (h : query.Admits call next) (hcall : call.extent? = none) : next.extent = query.extent := by
  cases h with
  | window => nomatch hcall
  | box => nomatch hcall
  | _ => rfl

theorem extent_step (query : JoinQuery) (call : JoinCall) :
    (query.step call).extent = call.extent?.elim query.extent query.extent.step := by
  cases hcall : call.extent? with
  | none =>
      rcases query.step_eq_or_admits call with hsame | hadmits
      · rw [hsame]
        rfl
      · exact hadmits.extent_eq hcall
  | some extentCall =>
      cases call with
      | window start stop =>
          cases hcall
          exact congrArg extent (query.state_onExtent _)
      | box xMin yMin xMax yMax =>
          cases hcall
          exact congrArg extent (query.state_onExtent _)
      | _ => nomatch hcall

theorem run_cons (query : JoinQuery) (call : JoinCall) (rest : List JoinCall) :
    query.run (call :: rest) = (query.step call).run rest :=
  List.foldl_cons ..

theorem run_append (query : JoinQuery) (calls more : List JoinCall) :
    query.run (calls ++ more) = (query.run calls).run more :=
  List.foldl_append

end JoinQuery

end ObservationSql
