import ObservationSql.Query.Join.Basic

namespace ObservationSql

/-- The groups before and after a predicate is filed: it goes behind the predicates of the first
group of that name, or into a new group at the end where no group has the name. -/
inductive FiledUnder (name : String) (filed : FiledPredicate) :
    List PredicateGroup → List PredicateGroup → Prop where
  | there {earlier later : List PredicateGroup} {predicates : List FiledPredicate}
      (hearlier : ∀ group ∈ earlier, group.name ≠ name) :
      FiledUnder name filed (earlier ++ ⟨name, predicates⟩ :: later)
        (earlier ++ ⟨name, predicates ++ [filed]⟩ :: later)
  | fresh {groups : List PredicateGroup} (hfresh : ∀ group ∈ groups, group.name ≠ name) :
      FiledUnder name filed groups (groups ++ [⟨name, [filed]⟩])

theorem FiledUnder.cons {name : String} {filed : FiledPredicate} {group : PredicateGroup}
    {before after : List PredicateGroup} (hname : group.name ≠ name)
    (h : FiledUnder name filed before after) :
    FiledUnder name filed (group :: before) (group :: after) := by
  cases h with
  | @there earlier later predicates hearlier =>
      have hall : ∀ other ∈ group :: earlier, other.name ≠ name := by
        simpa [hname] using hearlier
      change FiledUnder name filed ((group :: earlier) ++ ⟨name, predicates⟩ :: later) _
      exact .there hall
  | fresh hfresh =>
      have hall : ∀ other ∈ group :: before, other.name ≠ name := by
        simpa [hname] using hfresh
      exact .fresh hall

theorem filedUnder_fileUnder (name : String) (filed : FiledPredicate)
    (groups : List PredicateGroup) :
    FiledUnder name filed groups (fileUnder name filed groups) := by
  induction groups with
  | nil => exact .fresh (by simp)
  | cons group rest ih =>
      unfold fileUnder
      by_cases hname : group.name = name
      · rw [if_pos hname]
        subst hname
        change FiledUnder group.name filed ([] ++ ⟨group.name, group.predicates⟩ :: rest) _
        exact .there (by simp)
      · rw [if_neg hname]
        exact ih.cons hname

namespace FiledUnder

variable {name : String} {filed : FiledPredicate} {before after : List PredicateGroup}

theorem names_eq (h : FiledUnder name filed before after) :
    after.map PredicateGroup.name = before.map PredicateGroup.name ∨
      name ∉ before.map PredicateGroup.name ∧
        after.map PredicateGroup.name = before.map PredicateGroup.name ++ [name] := by
  cases h with
  | there hearlier =>
      left
      simp
  | fresh hfresh =>
      right
      refine ⟨?_, by simp⟩
      intro hmem
      obtain ⟨group, hgroup, hname⟩ := List.mem_map.mp hmem
      exact hfresh group hgroup hname

theorem names_nodup (h : FiledUnder name filed before after)
    (hnodup : (before.map PredicateGroup.name).Nodup) :
    (after.map PredicateGroup.name).Nodup := by
  rcases h.names_eq with hsame | ⟨hnew, hafter⟩
  · rwa [hsame]
  · rw [hafter]
    exact List.nodup_append.mpr ⟨hnodup, by simp, by simpa using hnew⟩

theorem predicates_ne_nil (h : FiledUnder name filed before after)
    (hbefore : ∀ group ∈ before, group.predicates ≠ []) :
    ∀ group ∈ after, group.predicates ≠ [] := by
  intro group hgroup
  cases h with
  | there hearlier =>
      simp only [List.mem_append, List.mem_cons] at hgroup
      rcases hgroup with hmem | rfl | hmem
      · exact hbefore group (by simp [hmem])
      · simp
      · exact hbefore group (by simp [hmem])
  | fresh hfresh =>
      rcases List.mem_append.mp hgroup with hmem | hmem
      · exact hbefore group hmem
      · rw [List.mem_singleton.mp hmem]
        simp

theorem forall_predicates {P : FiledPredicate → Prop} (h : FiledUnder name filed before after)
    (hbefore : ∀ group ∈ before, ∀ member ∈ group.predicates, P member) (hnew : P filed) :
    ∀ group ∈ after, ∀ member ∈ group.predicates, P member := by
  intro group hgroup member hmember
  cases h with
  | @there earlier later predicates hearlier =>
      simp only [List.mem_append, List.mem_cons] at hgroup
      rcases hgroup with hmem | rfl | hmem
      · exact hbefore group (by simp [hmem]) member hmember
      · rcases List.mem_append.mp hmember with hold | hfiled
        · exact hbefore ⟨name, predicates⟩ (by simp) member hold
        · rwa [List.mem_singleton.mp hfiled]
      · exact hbefore group (by simp [hmem]) member hmember
  | fresh hfresh =>
      rcases List.mem_append.mp hgroup with hmem | hmem
      · exact hbefore group hmem member hmember
      · rw [List.mem_singleton.mp hmem] at hmember
        rwa [List.mem_singleton.mp hmember]

end FiledUnder

/-- Two predicates for different groups may be filed in either order, unless both groups are new. -/
theorem fileUnder_comm {name name' : String} (filed filed' : FiledPredicate) (hne : name ≠ name')
    {groups : List PredicateGroup}
    (h : name ∈ groups.map PredicateGroup.name ∨ name' ∈ groups.map PredicateGroup.name) :
    fileUnder name' filed' (fileUnder name filed groups)
      = fileUnder name filed (fileUnder name' filed' groups) := by
  induction groups with
  | nil => simp at h
  | cons group rest ih =>
      by_cases hname : group.name = name
      · have hname' : group.name ≠ name' := by
          rw [hname]
          exact hne
        simp only [fileUnder, if_pos hname, if_neg hname']
      · by_cases hname' : group.name = name'
        · simp only [fileUnder, if_pos hname', if_neg hname]
        · have hrest : name ∈ rest.map PredicateGroup.name ∨ name' ∈ rest.map PredicateGroup.name := by
            simpa [Ne.symm hname, Ne.symm hname'] using h
          simp only [fileUnder, if_neg hname, if_neg hname', ih hrest]

end ObservationSql
