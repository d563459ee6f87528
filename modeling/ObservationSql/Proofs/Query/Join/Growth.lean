import ObservationSql.Proofs.Query.Join.Invariant

namespace ObservationSql.JoinQuery

/-- The query before and after a call that went through. -/
def Extends (before : JoinQuery) : JoinCall → JoinQuery → Prop
  | .join other fields _, after => ∃ kind,
      after = { before with
        joins := before.joins ++ [⟨before.primary.name, other.name, fields, kind⟩]
        others := before.others ++ [other] }
  | .field field label, after =>
      (∃ selected ∈ before.fields, Text.eqFold selected.field field = true) ∧ after = before ∨
      (∀ selected ∈ before.fields, Text.eqFold selected.field field = false) ∧ ∃ table,
        after = { before with
          fields := before.fields ++ [⟨field, table⟩]
          labels := before.labels ++ if label = "" then [] else [(field, label)] }
  | .predicate group field _ literal, after => ∃ operator table,
      (∃ earlier predicates later,
        before.groups = earlier ++ ⟨group, predicates⟩ :: later ∧
        group ∉ (earlier ++ later).map PredicateGroup.name ∧
        after = { before with
          groups := earlier
            ++ ⟨group, predicates ++ [⟨⟨operator, field, literal⟩, table⟩]⟩ :: later }) ∨
      group ∉ before.groups.map PredicateGroup.name ∧
        after = { before with
          groups := before.groups ++ [⟨group, [⟨⟨operator, field, literal⟩, table⟩]⟩] }
  | .order field _, after => ∃ direction,
      after = { before with order := before.order ++ [(field, direction)] }
  | .distinct, after => after = { before with isDistinct := !before.isDistinct }
  | .operators set, after => after = { before with operators := set }
  | .window start stop, after =>
      after = { before with extent := { before.extent with window := some (start, stop) } }
  | .box xMin yMin xMax yMax, after =>
      after = { before with extent := { before.extent with box := some ⟨xMin, yMin, xMax, yMax⟩ } }

theorem extends_field {query : JoinQuery} {field label : String} {table : Table}
    (hfresh : query.selects field = false) :
    query.Extends (.field field label) { query with
      fields := query.fields ++ [⟨field, table.name⟩]
      labels := query.labels ++ if label = "" then [] else [(field, label)] } :=
  .inr ⟨selects_eq_false_iff.mp hfresh, table.name, rfl⟩

theorem extends_predicate {query : JoinQuery} (h : query.WellFormed)
    {group field name : String} {literal : Value} {operator : Operator} {table : Table} :
    query.Extends (.predicate group field name literal) { query with
      groups := fileUnder group ⟨⟨operator, field, literal⟩, table.name⟩ query.groups } := by
  refine ⟨operator, table.name, ?_⟩
  have hfiled := filedUnder_fileUnder group ⟨⟨operator, field, literal⟩, table.name⟩ query.groups
  have hnodup := h.groups_nodup
  generalize query.groups = groups at hfiled hnodup
  generalize fileUnder group ⟨⟨operator, field, literal⟩, table.name⟩ groups = after at hfiled
  cases hfiled with
  | @there earlier later predicates hearlier =>
      left
      refine ⟨earlier, predicates, later, rfl, ?_, rfl⟩
      rw [List.map_append, List.map_cons, List.nodup_middle] at hnodup
      rw [List.map_append]
      exact (List.nodup_cons.mp hnodup).1
  | fresh hfresh =>
      right
      refine ⟨?_, rfl⟩
      intro hmem
      obtain ⟨member, hmember, hname⟩ := List.mem_map.mp hmem
      exact hfresh member hmember hname

theorem WellFormed.extends_of_admits {query next : JoinQuery} {call : JoinCall}
    (h : query.WellFormed) (hadmits : query.Admits call next) : query.Extends call next := by
  cases hadmits with
  | join hfields hnew hdeclared hkind => exact ⟨_, rfl⟩
  | selected hselected => exact .inl ⟨by simpa [selects] using hselected, rfl⟩
  | field hfresh howner => exact extends_field hfresh
  | predicate hoperator howner hoperand => exact extends_predicate h
  | order howner hfresh hdirection => exact ⟨_, rfl⟩
  | distinct => rfl
  | operators => rfl
  | window hle => rfl
  | box hx hy hbounds => rfl

/-- Whatever calls came before, a call that fails leaves every part of the query as it was, and one
that goes through only adds to its own part. -/
theorem perform_atomic_or_extends (primary : Table) (calls : List JoinCall) (call : JoinCall) :
    let before := (ofPrimary primary).run calls
    match before.perform call with
    | .ok _ noted => before.Extends call noted.value
    | .error _ noted => noted.value = before ∧ noted.warnings = [] := by
  intro before
  have h : before.WellFormed := (wellFormed_ofPrimary primary).run calls
  cases hperform : before.perform call with
  | ok answer noted => exact h.extends_of_admits (admits_of_perform_eq_ok hperform)
  | error fault noted =>
      rw [perform_error hperform]
      exact ⟨rfl, rfl⟩

end ObservationSql.JoinQuery
