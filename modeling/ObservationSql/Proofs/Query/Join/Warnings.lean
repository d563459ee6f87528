import ObservationSql.Proofs.Filter.Operand
import ObservationSql.Proofs.Query.Join.Invariant
import ObservationSql.Proofs.Schema.Lookup
import ObservationSql.Query.Join.Clauses

namespace ObservationSql

/-- The predicate without its literal, if it ignores it. -/
def Predicate.forget (predicate : Predicate) : Predicate :=
  if predicate.operator.isNullTest then { predicate with literal := .empty } else predicate

def FiledPredicate.forget (filed : FiledPredicate) : FiledPredicate :=
  { filed with predicate := filed.predicate.forget }

def PredicateGroup.forget (group : PredicateGroup) : PredicateGroup :=
  { group with predicates := group.predicates.map FiledPredicate.forget }

/-- The query without the literals that its predicates ignore. -/
def JoinQuery.forget (query : JoinQuery) : JoinQuery :=
  { query with groups := query.groups.map PredicateGroup.forget }

theorem Predicate.toSql_forget (predicate : Predicate) (qualifier : String)
    (dialect : Sql.Dialect) :
    predicate.forget.toSql qualifier dialect = predicate.toSql qualifier dialect := by
  obtain ⟨operator, field, literal⟩ := predicate
  cases operator <;> rfl

theorem FiledPredicate.forget_null_test {operator : Operator} (h : operator.isNullTest = true)
    (field table : String) (literal literal' : Value) :
    forget ⟨⟨operator, field, literal⟩, table⟩ = forget ⟨⟨operator, field, literal'⟩, table⟩ := by
  simp [forget, Predicate.forget, h]

theorem fileUnder_forget (name : String) (filed : FiledPredicate) (groups : List PredicateGroup) :
    (fileUnder name filed groups).map PredicateGroup.forget
      = fileUnder name filed.forget (groups.map PredicateGroup.forget) := by
  induction groups with
  | nil => rfl
  | cons group rest ih =>
      have hname : group.forget.name = group.name := rfl
      rw [List.map_cons, fileUnder, fileUnder, hname]
      by_cases hsame : group.name = name
      · simp [if_pos hsame, PredicateGroup.forget]
      · rw [if_neg hsame, if_neg hsame, List.map_cons, ih]

namespace JoinQuery

theorem groupText_forget (dialect : Sql.Dialect) (group : PredicateGroup) :
    groupText dialect group.forget = groupText dialect group := by
  have htexts : (group.predicates.map FiledPredicate.forget).map (predicateText dialect)
      = group.predicates.map (predicateText dialect) := by
    rw [List.map_map]
    exact List.map_congr_left fun filed _ =>
      filed.predicate.toSql_forget filed.table dialect
  exact congrArg (fun texts => "(" ++ Text.joinWith " or " texts ++ ")") htexts

theorem sql_forget (query : JoinQuery) (dialect : Sql.Dialect) :
    query.forget.sql dialect = query.sql dialect := by
  have hwhere : query.forget.whereClause dialect = query.whereClause dialect := by
    rw [whereClause, forget, List.map_map]
    exact congrArg (Text.joinWith " and ")
      (List.map_congr_left fun group _ => groupText_forget dialect group)
  rw [sql, hwhere]
  rfl

theorem eq_of_forget_eq {query other : JoinQuery} (h : query.forget = other.forget) :
    other = { query with groups := other.groups } :=
  congrArg (fun forgot => { forgot with groups := other.groups }) h.symm

/-- Which calls are admitted does not depend on the predicates that are there, and only a predicate
is filed among them. -/
theorem Admits.regrouped {query next : JoinQuery} {call : JoinCall} (h : query.Admits call next)
    {groups : List PredicateGroup}
    (hgroups : groups.map PredicateGroup.forget = query.groups.map PredicateGroup.forget) :
    ∃ groups', { query with groups }.Admits call { next with groups := groups' } ∧
      groups'.map PredicateGroup.forget = next.groups.map PredicateGroup.forget := by
  cases h with
  | join hfields hnew hdeclared hkind =>
      exact ⟨groups, .join hfields hnew hdeclared hkind, hgroups⟩
  | selected hselected => exact ⟨groups, .selected hselected, hgroups⟩
  | field hfresh howner => exact ⟨groups, .field hfresh howner, hgroups⟩
  | predicate hoperator howner hoperand =>
      refine ⟨_, .predicate hoperator howner hoperand, ?_⟩
      rw [fileUnder_forget, fileUnder_forget, hgroups]
  | order howner hfresh hdirection =>
      exact ⟨groups, .order howner hfresh hdirection, hgroups⟩
  | distinct => exact ⟨groups, .distinct, hgroups⟩
  | operators => exact ⟨groups, .operators, hgroups⟩
  | window hle => exact ⟨groups, .window hle, hgroups⟩
  | box hx hy hbounds => exact ⟨groups, .box hx hy hbounds, hgroups⟩

theorem Admits.of_forget_eq {query other next : JoinQuery} {call : JoinCall}
    (h : query.Admits call next) (hsame : query.forget = other.forget) :
    ∃ next', other.Admits call next' ∧ next.forget = next'.forget := by
  obtain ⟨groups, hadmits, hgroups⟩ := h.regrouped (congrArg JoinQuery.groups hsame).symm
  rw [← eq_of_forget_eq hsame] at hadmits
  exact ⟨_, hadmits, congrArg (fun groups => { next with groups }) hgroups.symm⟩

theorem step_forget {query other : JoinQuery} (h : query.forget = other.forget) (call : JoinCall) :
    (query.step call).forget = (other.step call).forget := by
  rcases decides query call with ⟨fault, hrefused⟩ | ⟨next, hadmits⟩
  · rcases step_eq_or_admits other call with hsame | hadmits'
    · rw [hsame, step, hrefused]
      exact h
    · -- what the other query admits, this one would have to admit too
      obtain ⟨next, hadmits, -⟩ := hadmits'.of_forget_eq h.symm
      obtain ⟨_, hperform⟩ := perform_of_admits hadmits
      rw [hrefused] at hperform
      cases hperform
  · obtain ⟨next', hadmits', hnext⟩ := hadmits.of_forget_eq h
    rw [step_of_admits hadmits, step_of_admits hadmits', hnext]

theorem run_forget {query other : JoinQuery} (h : query.forget = other.forget)
    (calls : List JoinCall) : (query.run calls).forget = (other.run calls).forget := by
  induction calls generalizing query other with
  | nil => exact h
  | cons call rest ih =>
      rw [run_cons, run_cons]
      exact ih (step_forget h call)

theorem perform_null_test {query : JoinQuery} {field token : String} {operator : Operator}
    (hoperator : query.operators.find token = .ok operator) (hnull : operator.isNullTest = true)
    (group : String) (literal literal' : Value) :
    (∃ fault, query.perform (.predicate group field token literal) = .error fault ⟨query, []⟩ ∧
        query.perform (.predicate group field token literal') = .error fault ⟨query, []⟩) ∨
      ∃ noted noted',
        query.perform (.predicate group field token literal) = .ok () noted ∧
        query.perform (.predicate group field token literal') = .ok () noted' ∧
        noted.value.forget = noted'.value.forget := by
  have hoperand : ∀ literal, Predicate.checkOperand operator literal = .ok () :=
    fun literal => Predicate.checkOperand_eq_ok_iff.mpr (.inl hnull)
  cases howner : query.owner? field with
  | none =>
      have hfault : query.owner field = .error (.validation (.undeclaredField field)) := by
        rw [owner, howner]
      left
      refine ⟨.validation (.undeclaredField field), ?_, ?_⟩ <;>
        simp [perform, Update.perform, JoinCall.update, addPredicate, hoperator, hfault]
  | some table =>
      right
      refine ⟨_, _, perform_predicate hoperator howner (hoperand literal) group,
        perform_predicate hoperator howner (hoperand literal') group, ?_⟩
      simp only [forget, fileUnder_forget]
      rw [FiledPredicate.forget_null_test hnull]

/-- A predicate that is filed comes with one warning if its literal does not fit the column that the
first table to declare it finds for it, and with none otherwise. A null test is warned about like
any other, though nothing else depends on its literal: neither whether it is refused nor what any
statement looks like from then on. -/
theorem predicate_warnings (primary : Table) (calls : List JoinCall) (group field token : String) :
    let query := (ofPrimary primary).run calls
    (∀ literal noted, query.perform (.predicate group field token literal) = .ok () noted →
      ∃ operator earlier table later column,
        query.operators.find token = .ok operator ∧
        query.tables = earlier ++ table :: later ∧
        (∀ other ∈ earlier, other.declares field = false) ∧
        table.Finds field column ∧
        noted.warnings =
          let inferred := Predicate.inferredCategory ⟨operator, field, literal⟩
          if column.kind.accepts inferred then []
          else [.kindConflict inferred table.name field column.kind]) ∧
      ∀ operator, query.operators.find token = .ok operator → operator.isNullTest = true →
        ∀ literal literal',
          (∃ fault,
            query.perform (.predicate group field token literal) = .error fault ⟨query, []⟩ ∧
            query.perform (.predicate group field token literal') = .error fault ⟨query, []⟩) ∨
          ∃ noted noted',
            query.perform (.predicate group field token literal) = .ok () noted ∧
            query.perform (.predicate group field token literal') = .ok () noted' ∧
            ∀ more dialect,
              (noted.value.run more).sql dialect = (noted'.value.run more).sql dialect := by
  intro query
  constructor
  · intro literal noted h
    have hadmits := admits_of_perform_eq_ok h
    generalize noted.value = next at hadmits
    cases hadmits with
    | @predicate _ _ _ _ operator table hoperator howner hoperand =>
        rw [perform_predicate hoperator howner hoperand] at h
        cases h
        obtain ⟨hdeclares, earlier, later, htables, hearlier⟩ :=
          List.find?_eq_some_iff_append.mp howner
        obtain ⟨column, hcolumn⟩ := Table.exists_find? hdeclares
        have hfinds := Table.finds_of_find? hcolumn
        exact ⟨operator, earlier, table, later, column, hoperator, htables, by simpa using hearlier,
          hfinds, kindConflict?_eq hfinds.kind?_eq⟩
  · intro operator hoperator hnull literal literal'
    refine (perform_null_test hoperator hnull group literal literal').imp_right ?_
    rintro ⟨noted, noted', hperform, hperform', hsame⟩
    refine ⟨noted, noted', hperform, hperform', fun more dialect => ?_⟩
    rw [← sql_forget, run_forget hsame, sql_forget]

/-- A null test on a column of numbers, with no literal at all and with a number. -/
theorem null_test_warned :
    let stations : Table :=
      { name := "STATION_V1", fields := [{ name := "ELEV", kind := .float }] }
    let query := ofPrimary stations
    (∃ noted, query.perform (.predicate "g" "ELEV" "PropertyIsNull" .empty) = .ok () noted ∧
        noted.warnings = [.kindConflict .unknown "STATION_V1" "ELEV" .float]) ∧
      ∃ noted, query.perform (.predicate "g" "ELEV" "PropertyIsNull" (.float ⟨0⟩))
          = .ok () noted ∧
        noted.warnings = [] := by
  intro stations query
  exact ⟨⟨_, rfl, by decide +kernel⟩, _, rfl, by decide +kernel⟩

end JoinQuery

end ObservationSql
