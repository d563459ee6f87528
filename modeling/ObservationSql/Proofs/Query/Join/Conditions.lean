import Mathlib.Data.List.Forall2
import ObservationSql.Proofs.Filter.Operand
import ObservationSql.Proofs.Query.Join.Invariant
import ObservationSql.Proofs.Sql.Literal
import ObservationSql.Query.Join.Clauses

namespace ObservationSql

open Scanner

theorem passes_token (operator : Operator) (depth : Nat) (afterBlank : Bool) :
    Passes operator.token (depth, afterBlank) (depth, false) := by
  cases operator <;> rw [Operator.token] <;> exact passes_of_code rfl rfl

theorem passes_blank (depth : Nat) : Passes " " (depth, false) (depth, depth == 0) :=
  passes_of_code rfl rfl

theorem passes_column {qualifier field : String} (hqualifier : isWord qualifier = true)
    (hfield : isWord field = true) (depth : Nat) :
    Passes (qualifier ++ "." ++ field) (depth, false) (depth, false) := by
  have hpoint : Passes "." (depth, false) (depth, false) := passes_of_code rfl rfl
  exact ((passes_word hqualifier depth).append hpoint).append (passes_word hfield depth)

namespace Predicate

theorem passes_minuteOfDay {column : String}
    (hcolumn : ∀ depth, Passes column (depth, false) (depth, false)) (dialect : Sql.Dialect)
    (depth : Nat) : Passes (minuteOfDay column dialect) (depth, false) (depth, false) := by
  have hinside := hcolumn (depth + 2)
  cases dialect with
  | oracle =>
      have hhour : Passes "TO_NUMBER(TO_CHAR(" (depth, false) (depth + 2, false) :=
        passes_of_code rfl rfl
      have hminute : Passes ",'HH24'))*60+TO_NUMBER(TO_CHAR(" (depth + 2, false)
          (depth + 2, false) := passes_of_code rfl rfl
      have hend : Passes ",'MI'))" (depth + 2, false) (depth, false) := passes_of_code rfl rfl
      exact (((hhour.append hinside).append hminute).append hinside).append hend
  | postgresql =>
      have hhour : Passes "CAST(EXTRACT(HOUR FROM " (depth, false) (depth + 2, false) :=
        passes_of_code rfl rfl
      have hminute : Passes ") AS INTEGER)*60+CAST(EXTRACT(MINUTE FROM " (depth + 2, false)
          (depth + 2, false) := passes_of_code rfl rfl
      have hend : Passes ") AS INTEGER)" (depth + 2, false) (depth, false) :=
        passes_of_code rfl rfl
      exact (((hhour.append hinside).append hminute).append hinside).append hend

theorem passes_toSql {predicate : Predicate} {qualifier : String}
    (hlike : predicate.operator ≠ .isLike) (hbetween : predicate.operator ≠ .isBetween)
    (hchecked : checkOperand predicate.operator predicate.literal = .ok ())
    (hqualifier : isWord qualifier = true) (hfield : isWord predicate.field = true)
    (dialect : Sql.Dialect) (depth : Nat) :
    Passes (predicate.toSql qualifier dialect) (depth, false) (depth, false) := by
  obtain ⟨operator, field, literal⟩ := predicate
  have hcolumn := passes_column hqualifier hfield
  have htoken : Passes (qualifier ++ "." ++ field ++ " " ++ operator.token) (depth, false)
      (depth, false) :=
    ((hcolumn depth).append (passes_blank depth)).append (passes_token operator depth _)
  have hliteral := (htoken.append (passes_blank depth)).append
    (passes_render dialect literal depth _)
  cases operator with
  | isNull => exact htoken
  | isNotNull => exact htoken
  | isLike => exact absurd rfl hlike
  | isBetween => exact absurd rfl hbetween
  | minuteStep =>
      obtain ⟨kind, step, rfl⟩ := (takes_of_checkOperand rfl hchecked).expected .integer rfl
      have hopen : Passes "MOD(" (depth, false) (depth + 1, false) := passes_of_code rfl rfl
      have hminute := passes_minuteOfDay hcolumn dialect (depth + 1)
      have hcomma : Passes "," (depth + 1, false) (depth + 1, false) := passes_of_code rfl rfl
      have hstep : Passes (Sql.plainText (.integer kind step)) (depth + 1, false)
          (depth + 1, false) :=
        passes_numeral (Decimal.numeral_ofInt _) (depth + 1) false
      have hclose : Passes ") = 0" (depth + 1, false) (depth, false) := passes_of_code rfl rfl
      exact (((hopen.append hminute).append hcomma).append hstep).append hclose
  | _ => exact hliteral

theorem toSql_ne_empty (predicate : Predicate) (qualifier : String) (dialect : Sql.Dialect) :
    predicate.toSql qualifier dialect ≠ "" := by
  obtain ⟨operator, field, literal⟩ := predicate
  cases operator <;> simp [toSql]

end Predicate

namespace JoinQuery

theorem groupText_eq (dialect : Sql.Dialect) (group : PredicateGroup) :
    groupText dialect group
      = "(" ++ Text.joinWith " or " (group.predicates.map (predicateText dialect)) ++ ")" :=
  rfl

theorem split_group {dialect : Sql.Dialect} {group : PredicateGroup}
    (h : ∀ filed ∈ group.predicates, ∀ depth,
      Passes (predicateText dialect filed) (depth, false) (depth, false)) :
    split " or " (Text.joinWith " or " (group.predicates.map (predicateText dialect)))
      = some (group.predicates.map (predicateText dialect)) := by
  apply split_joinWith (.inr rfl)
  intro piece hpiece
  obtain ⟨filed, hfiled, rfl⟩ := List.mem_map.mp hpiece
  exact ⟨filed.predicate.toSql_ne_empty filed.table dialect, h filed hfiled 0⟩

theorem passes_groupText {dialect : Sql.Dialect} {group : PredicateGroup}
    (h : ∀ filed ∈ group.predicates, ∀ depth,
      Passes (predicateText dialect filed) (depth, false) (depth, false)) :
    Passes (groupText dialect group) (0, false) (0, false) := by
  have hor : Passes " or " (1, false) (1, false) := passes_of_code rfl rfl
  apply passes_parens
  apply passes_joinWith hor
  intro piece hpiece
  obtain ⟨filed, hfiled, rfl⟩ := List.mem_map.mp hpiece
  exact h filed hfiled 1

/-- The scanner finds the groups of the conditions in order, each in parentheses of its own, and in
each group its predicates in order. A pattern and a range are left out, since they are written as
given. -/
theorem whereClause_split {primary : Table} {calls : List JoinCall} {query : JoinQuery}
    (hquery : (ofPrimary primary).run calls = query)
    (htables : ∀ table ∈ query.tables, isWord table.name = true)
    (hfields : ∀ group ∈ query.groups, ∀ filed ∈ group.predicates,
      isWord filed.predicate.field = true)
    (hoperators : ∀ group ∈ query.groups, ∀ filed ∈ group.predicates,
      filed.predicate.operator ≠ .isLike ∧ filed.predicate.operator ≠ .isBetween)
    (dialect : Sql.Dialect) :
    isBalanced (query.whereClause dialect) = true ∧
      ∃ chunks, split " and " (query.whereClause dialect) = some chunks ∧
        List.Forall₂ (fun chunk group => ∃ inside, chunk = "(" ++ inside ++ ")" ∧
            split " or " inside = some (group.predicates.map (predicateText dialect)))
          chunks query.groups := by
  have hformed : query.WellFormed := hquery ▸ (wellFormed_ofPrimary primary).run calls
  have hpredicates : ∀ group ∈ query.groups, ∀ filed ∈ group.predicates, ∀ depth,
      Passes (predicateText dialect filed) (depth, false) (depth, false) := by
    intro group hgroup filed hfiled depth
    obtain ⟨earlier, table, later, hsplit, hname, -⟩ :=
      hformed.predicates_owned group hgroup filed hfiled
    have htable : isWord filed.table = true := by
      rw [← hname]
      exact htables table (by rw [hsplit]; simp)
    obtain ⟨hlike, hbetween⟩ := hoperators group hgroup filed hfiled
    exact Predicate.passes_toSql hlike hbetween
      (hformed.predicates_checked group hgroup filed hfiled) htable
      (hfields group hgroup filed hfiled) dialect depth
  have hsplit : split " and " (query.whereClause dialect)
      = some (query.groups.map (groupText dialect)) := by
    apply split_joinWith (.inl rfl)
    intro piece hpiece
    obtain ⟨group, hgroup, rfl⟩ := List.mem_map.mp hpiece
    exact ⟨by simp [groupText], passes_groupText (hpredicates group hgroup)⟩
  refine ⟨isBalanced_of_split hsplit, _, hsplit, ?_⟩
  rw [List.forall₂_map_left_iff, List.forall₂_same]
  intro group hgroup
  exact ⟨_, groupText_eq dialect group, split_group (hpredicates group hgroup)⟩

/-- Literals that would close their quotes, their lists and their groups if they could. -/
theorem whereClause_split_hostile_literals :
    let stations : Table := { name := "STATION_V1", fields := [{ name := "STATION_ID" }] }
    let query := (ofPrimary stations).run
      [.predicate "station" "STATION_ID" "PropertyIsEqualTo" (.string "x') or (1=1"),
        .predicate "network" "STATION_ID" "PropertyIsIn" (.list .string ["a','b", "c) and (d"]),
        .predicate "station" "STATION_ID" "PropertyIsNull" .empty]
    query.whereClause .oracle
        = "(STATION_V1.STATION_ID = 'x'') or (1=1' or STATION_V1.STATION_ID IS NULL)"
          ++ " and (STATION_V1.STATION_ID IN ('a'',''b','c) and (d'))" ∧
      ∃ chunks, split " and " (query.whereClause .oracle) = some chunks ∧ chunks.length = 2 := by
  intro stations query
  have htables : ∀ table ∈ query.tables, isWord table.name = true := by decide +kernel
  have hfields : ∀ group ∈ query.groups, ∀ filed ∈ group.predicates,
      isWord filed.predicate.field = true := by decide +kernel
  have hoperators : ∀ group ∈ query.groups, ∀ filed ∈ group.predicates,
      filed.predicate.operator ≠ .isLike ∧ filed.predicate.operator ≠ .isBetween := by
    decide +kernel
  refine ⟨by decide +kernel, ?_⟩
  obtain ⟨-, chunks, hsplit, hgroups⟩ :=
    whereClause_split rfl htables hfields hoperators .oracle
  exact ⟨chunks, hsplit, hgroups.length_eq.trans (by decide +kernel)⟩

end JoinQuery

end ObservationSql
