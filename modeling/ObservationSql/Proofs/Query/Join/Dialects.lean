import ObservationSql.Proofs.Filter.Operand
import ObservationSql.Proofs.Query.Join.Invariant
import ObservationSql.Proofs.Text.Apart
import ObservationSql.Query.Statement

namespace ObservationSql

open Text

def Value.isTimed : Value → Bool
  | scalar .timestamp _ | list .timestamp _ => true
  | _ => false

namespace Sql

theorem apart_timestampLiteral (time : Calendar.Timestamp) :
    Apart (timestampLiteral time .oracle) (timestampLiteral time .postgresql) := by
  have hopening : Apart "TO_DATE('" "'" := ⟨by decide, by decide⟩
  simp only [timestampLiteral, String.append_assoc]
  exact hopening.append _ _

theorem renderScalar_eq {kind : ScalarKind} (hkind : kind ≠ .timestamp) (item : kind.Carrier)
    (dialect dialect' : Dialect) :
    renderScalar dialect kind item = renderScalar dialect' kind item := by
  cases kind with
  | timestamp => exact absurd rfl hkind
  | _ => rfl

theorem render_eq {literal : Value} (h : literal.isTimed = false) (dialect dialect' : Dialect) :
    render dialect literal = render dialect' literal := by
  cases literal with
  | scalar kind item =>
      refine renderScalar_eq ?_ item dialect dialect'
      rintro rfl
      cases h
  | list kind items =>
      have hkind : kind ≠ .timestamp := by
        rintro rfl
        cases h
      have hitems : items.map (renderScalar dialect kind)
          = items.map (renderScalar dialect' kind) :=
        List.map_congr_left fun item _ => renderScalar_eq hkind item dialect dialect'
      rw [render, render, hitems]
  | empty => rfl

theorem apart_render_timestamps {times : List Calendar.Timestamp} (htimes : times ≠ []) :
    Apart (render .oracle (.list .timestamp times))
      (render .postgresql (.list .timestamp times)) := by
  obtain ⟨time, rest, rfl⟩ := List.exists_cons_of_ne_nil htimes
  have haligned : ∀ item ∈ time :: rest, Aligned (renderScalar .oracle .timestamp item)
      (renderScalar .postgresql .timestamp item) :=
    fun item _ => .inr (apart_timestampLiteral item)
  -- The first item is enough to tell the lists apart.
  have hitems := (joinWith_map_eq_iff "," haligned).not.mpr fun hsame =>
    (apart_timestampLiteral time).ne (hsame time List.mem_cons_self)
  have hjoined := (aligned_joinWith "," haligned).resolve_left hitems
  exact (hjoined.prepend "(").append ")" ")"

theorem apart_render {literal : Value} (h : literal.isTimed = true)
    (hitems : ∀ kind, literal ≠ .list kind []) :
    Apart (render .oracle literal) (render .postgresql literal) := by
  cases literal with
  | scalar kind item =>
      cases kind with
      | timestamp => exact apart_timestampLiteral item
      | _ => cases h
  | list kind items =>
      cases kind with
      | timestamp =>
          refine apart_render_timestamps ?_
          rintro rfl
          exact hitems .timestamp rfl
      | _ => cases h
  | empty => cases h

end Sql

namespace Predicate

def isDialectSensitive (predicate : Predicate) : Bool :=
  match predicate.operator with
  | .minuteStep => true
  | .equalTo | .notEqualTo | .lessThan | .lessThanOrEqualTo | .greaterThan | .greaterThanOrEqualTo
  | .isNil | .isIn | .isNotIn => predicate.literal.isTimed
  | .isNull | .isNotNull | .isLike | .isBetween => false

theorem isDialectSensitive_eq_false {predicate : Predicate}
    (h : predicate.operator ∈ [.isNull, .isNotNull, .isLike]) :
    predicate.isDialectSensitive = false := by
  obtain ⟨operator, field, literal⟩ := predicate
  cases operator with
  | isNull => rfl
  | isNotNull => rfl
  | isLike => rfl
  | _ => simp at h

theorem apart_minuteOfDay (column : String) :
    Apart (minuteOfDay column .oracle) (minuteOfDay column .postgresql) := by
  have hopening : Apart "TO_NUMBER(TO_CHAR(" "CAST(EXTRACT(HOUR FROM " := ⟨by decide, by decide⟩
  unfold minuteOfDay
  simp only [String.append_assoc]
  exact hopening.append _ _

theorem toSql_eq {predicate : Predicate} (h : predicate.isDialectSensitive = false)
    (qualifier : String) (dialect dialect' : Sql.Dialect) :
    predicate.toSql qualifier dialect = predicate.toSql qualifier dialect' := by
  obtain ⟨operator, field, literal⟩ := predicate
  cases operator with
  | isNull => rfl
  | isNotNull => rfl
  | isLike => rfl
  | isBetween => rfl
  | minuteStep => cases h
  | _ =>
      have hrender := Sql.render_eq h dialect dialect'
      unfold toSql
      simp only [hrender]

theorem apart_toSql {predicate : Predicate} (h : predicate.isDialectSensitive = true)
    (hchecked : checkOperand predicate.operator predicate.literal = .ok ()) (qualifier : String) :
    Apart (predicate.toSql qualifier .oracle) (predicate.toSql qualifier .postgresql) := by
  obtain ⟨operator, field, literal⟩ := predicate
  cases operator with
  | isNull => cases h
  | isNotNull => cases h
  | isLike => cases h
  | isBetween => cases h
  | minuteStep =>
      have hminute := (apart_minuteOfDay (qualifier ++ "." ++ field)).prepend "MOD("
      exact ((hminute.append "," ",").append _ _).append ") = 0" ") = 0"
  | _ => exact (Sql.apart_render h (takes_of_checkOperand rfl hchecked).filled).prepend _

theorem toSql_eq_iff {predicate : Predicate}
    (hchecked : checkOperand predicate.operator predicate.literal = .ok ()) (qualifier : String) :
    predicate.toSql qualifier .oracle = predicate.toSql qualifier .postgresql ↔
      predicate.isDialectSensitive = false := by
  cases hsensitive : predicate.isDialectSensitive with
  | false => exact iff_of_true (toSql_eq hsensitive qualifier .oracle .postgresql) rfl
  | true => exact iff_of_false (apart_toSql hsensitive hchecked qualifier).ne Bool.noConfusion

theorem aligned_toSql {predicate : Predicate}
    (hchecked : checkOperand predicate.operator predicate.literal = .ok ()) (qualifier : String) :
    Aligned (predicate.toSql qualifier .oracle) (predicate.toSql qualifier .postgresql) := by
  cases hsensitive : predicate.isDialectSensitive with
  | false => exact .inl (toSql_eq hsensitive qualifier .oracle .postgresql)
  | true => exact .inr (apart_toSql hsensitive hchecked qualifier)

end Predicate

namespace JoinQuery

theorem aligned_groupText {group : PredicateGroup}
    (h : ∀ filed ∈ group.predicates,
      Predicate.checkOperand filed.predicate.operator filed.predicate.literal = .ok ()) :
    Aligned (groupText .oracle group) (groupText .postgresql group) := by
  have hpredicates := aligned_joinWith " or " fun filed hfiled =>
    Predicate.aligned_toSql (h filed hfiled) filed.table
  exact ((Aligned.refl "(").append hpredicates).append (.refl ")")

theorem groupText_eq_iff {group : PredicateGroup}
    (h : ∀ filed ∈ group.predicates,
      Predicate.checkOperand filed.predicate.operator filed.predicate.literal = .ok ()) :
    groupText .oracle group = groupText .postgresql group ↔
      ∀ filed ∈ group.predicates, filed.predicate.isDialectSensitive = false := by
  have haligned : ∀ filed ∈ group.predicates,
      Aligned (predicateText .oracle filed) (predicateText .postgresql filed) :=
    fun filed hfiled => Predicate.aligned_toSql (h filed hfiled) filed.table
  rw [groupText, groupText, String.append_left_inj, String.append_right_inj,
    joinWith_map_eq_iff " or " haligned]
  exact forall₂_congr fun filed hfiled => Predicate.toSql_eq_iff (h filed hfiled) filed.table

theorem WellFormed.whereClause_eq_iff {query : JoinQuery} (h : query.WellFormed) :
    query.whereClause .oracle = query.whereClause .postgresql ↔
      ∀ group ∈ query.groups, ∀ filed ∈ group.predicates,
        filed.predicate.isDialectSensitive = false := by
  have haligned : ∀ group ∈ query.groups,
      Aligned (groupText .oracle group) (groupText .postgresql group) :=
    fun group hgroup => aligned_groupText (h.predicates_checked group hgroup)
  rw [whereClause, whereClause, joinWith_map_eq_iff " and " haligned]
  exact forall₂_congr fun group hgroup => groupText_eq_iff (h.predicates_checked group hgroup)

theorem clauseText_inj {keyword clause clause' : String} (hkeyword : keyword ≠ "") :
    clauseText keyword clause = clauseText keyword clause' ↔ clause = clause' := by
  refine ⟨fun hsame => ?_, congrArg (clauseText keyword)⟩
  by_cases hleft : clause = ""
  · by_cases hright : clause' = ""
    · rw [hleft, hright]
    · simp [clauseText, hleft, hright, hkeyword] at hsame
  · by_cases hright : clause' = ""
    · simp [clauseText, hleft, hright, hkeyword] at hsame
    · simpa [clauseText, hleft, hright] using hsame

theorem WellFormed.sql_eq_iff {query : JoinQuery} (h : query.WellFormed) :
    query.sql .oracle = query.sql .postgresql ↔
      query.fields = [] ∨ ∀ group ∈ query.groups, ∀ filed ∈ group.predicates,
        filed.predicate.isDialectSensitive = false := by
  by_cases hfields : query.fields = []
  · simp [sql, hfields]
  · have hempty : query.fields.isEmpty = false := by simpa using hfields
    have hkeyword : " WHERE " ≠ "" := by decide
    rw [or_iff_right hfields, ← h.whereClause_eq_iff, sql, sql, hempty]
    simp [clauseText_inj hkeyword]

/-- Both dialects have a statement for every query, and it is the same one unless the query selects
something and has a condition on minutes or compares with instants. The instants in patterns and
null tests do not count. -/
theorem sql_dialects (primary : Table) (calls : List JoinCall) :
    let query := (ofPrimary primary).run calls
    ∃ oracle postgresql,
      (Query.join query).sql .oracle = .ok oracle ∧
      (Query.join query).sql .postgresql = .ok postgresql ∧
      (query.fields = [] → oracle = "" ∧ postgresql = "") ∧
      (oracle = postgresql ↔
        query.fields = [] ∨ ∀ group ∈ query.groups, ∀ filed ∈ group.predicates,
          filed.predicate.isDialectSensitive = false) ∧
      ∀ group ∈ query.groups, ∀ filed ∈ group.predicates,
        filed.predicate.operator ∈ [.isNull, .isNotNull, .isLike] →
          predicateText .oracle filed = predicateText .postgresql filed := by
  intro query
  have h : query.WellFormed := (wellFormed_ofPrimary primary).run calls
  refine ⟨query.sql .oracle, query.sql .postgresql, rfl, rfl, ?_, h.sql_eq_iff, ?_⟩
  · intro hfields
    simp [sql, hfields]
  · intro group _ filed _ hoperator
    exact Predicate.toSql_eq (Predicate.isDialectSensitive_eq_false hoperator) filed.table _ _

end JoinQuery

end ObservationSql
