import Mathlib.Data.List.Nodup
import ObservationSql.Proofs.Query.Join.Admission
import ObservationSql.Proofs.Query.Join.Grouping

namespace ObservationSql.JoinQuery

/-- The table of that name is the first of some tables to declare a column. -/
def FirstDeclaring (tables : List Table) (field name : String) : Prop :=
  ∃ earlier table later, tables = earlier ++ table :: later ∧ table.name = name ∧
    table.declares field = true ∧ ∀ other ∈ earlier, other.declares field = false

theorem FirstDeclaring.append {tables : List Table} {field name : String}
    (h : FirstDeclaring tables field name) (more : List Table) :
    FirstDeclaring (tables ++ more) field name := by
  obtain ⟨earlier, table, later, rfl, hname, hdeclares, hearlier⟩ := h
  exact ⟨earlier, table, later ++ more, by simp, hname, hdeclares, hearlier⟩

theorem firstDeclaring_of_find? {tables : List Table} {field : String} {table : Table}
    (h : (tables.find? fun table => table.declares field) = some table) :
    FirstDeclaring tables field table.name := by
  obtain ⟨hdeclares, earlier, later, htables, hearlier⟩ := List.find?_eq_some_iff_append.mp h
  exact ⟨earlier, table, later, htables, rfl, hdeclares, by simpa using hearlier⟩

theorem firstDeclaring_of_owner? {query : JoinQuery} {field : String} {table : Table}
    (h : query.owner? field = some table) :
    FirstDeclaring query.tables field table.name :=
  firstDeclaring_of_find? h

/-- A join that compares a table with the primary one in columns of both. -/
structure Compares (primary other : Table) (join : Join) : Prop where
  primary_eq : join.primary = primary.name
  joined_eq : join.joined = other.name
  fields_ne_nil : join.fields ≠ []
  declared : ∀ field ∈ join.fields,
    primary.declares field = true ∧ other.declares field = true

/-- The invariant of a query over joined tables. -/
structure WellFormed (query : JoinQuery) : Prop where
  compared : List.Forall₂ (Compares query.primary) query.others query.joins
  tables_nodup : (query.tables.map Table.name).Nodup
  fields_distinct : query.fields.Pairwise fun left right =>
    Text.eqFold left.field right.field = false
  fields_owned : ∀ selected ∈ query.fields,
    FirstDeclaring query.tables selected.field selected.table
  labels_nodup : (query.labels.map Prod.fst).Nodup
  labels_ne_empty : ∀ entry ∈ query.labels, entry.2 ≠ ""
  labels_selected : ∀ entry ∈ query.labels, ∃ selected ∈ query.fields, selected.field = entry.1
  groups_nodup : (query.groups.map PredicateGroup.name).Nodup
  groups_ne_nil : ∀ group ∈ query.groups, group.predicates ≠ []
  predicates_owned : ∀ group ∈ query.groups, ∀ filed ∈ group.predicates,
    FirstDeclaring query.tables filed.predicate.field filed.table
  predicates_checked : ∀ group ∈ query.groups, ∀ filed ∈ group.predicates,
    Predicate.checkOperand filed.predicate.operator filed.predicate.literal = .ok ()
  order_distinct : query.order.Pairwise fun left right => Text.eqFold left.1 right.1 = false
  order_declared : ∀ entry ∈ query.order, ∃ table ∈ query.tables, table.declares entry.1 = true

theorem wellFormed_ofPrimary (primary : Table) : (ofPrimary primary).WellFormed := by
  constructor <;> simp [ofPrimary, tables]

theorem takesPart_eq_false_iff {query : JoinQuery} {name : String} :
    query.takesPart name = false ↔ name ∉ query.tables.map Table.name := by
  simp [takesPart]

theorem selects_eq_false_iff {query : JoinQuery} {field : String} :
    query.selects field = false ↔
      ∀ selected ∈ query.fields, Text.eqFold selected.field field = false := by
  simp [selects]

theorem sortsBy_eq_false_iff {query : JoinQuery} {field : String} :
    query.sortsBy field = false ↔ ∀ entry ∈ query.order, Text.eqFold entry.1 field = false := by
  simp [sortsBy]

theorem mem_label_iff {field label : String} {entry : String × String} :
    entry ∈ (if label = "" then [] else [(field, label)]) ↔ entry = (field, label) ∧ label ≠ "" := by
  by_cases hlabel : label = "" <;> simp [hlabel]

namespace WellFormed

variable {query : JoinQuery}

theorem join (h : query.WellFormed) {other : Table} {fields : List String} {kind : JoinKind}
    (hfields : fields ≠ []) (hnew : query.takesPart other.name = false)
    (hdeclared : ∀ field ∈ fields,
      query.primary.declares field = true ∧ other.declares field = true) :
    WellFormed { query with
      joins := query.joins ++ [⟨query.primary.name, other.name, fields, kind⟩]
      others := query.others ++ [other] } := by
  have htables : tables { query with
      joins := query.joins ++ [⟨query.primary.name, other.name, fields, kind⟩]
      others := query.others ++ [other] } = query.tables ++ [other] := rfl
  refine { h with
    compared := ?_, tables_nodup := ?_, fields_owned := ?_, predicates_owned := ?_,
    order_declared := ?_ }
  · exact List.rel_append h.compared (.cons ⟨rfl, rfl, hfields, hdeclared⟩ .nil)
  · rw [htables, List.map_append]
    have hfresh := takesPart_eq_false_iff.mp hnew
    exact List.nodup_append.mpr ⟨h.tables_nodup, by simp, by simpa using hfresh⟩
  · intro selected hselected
    rw [htables]
    exact (h.fields_owned selected hselected).append [other]
  · intro group hgroup filed hfiled
    rw [htables]
    exact (h.predicates_owned group hgroup filed hfiled).append [other]
  · intro entry hentry
    obtain ⟨table, htable, hdeclares⟩ := h.order_declared entry hentry
    exact ⟨table, by rw [htables]; simp [htable], hdeclares⟩

theorem field (h : query.WellFormed) {field label : String} {table : Table}
    (hfresh : query.selects field = false) (howner : query.owner? field = some table) :
    WellFormed { query with
      fields := query.fields ++ [⟨field, table.name⟩]
      labels := query.labels ++ if label = "" then [] else [(field, label)] } := by
  have hdistinct := selects_eq_false_iff.mp hfresh
  have hunlabelled : field ∉ query.labels.map Prod.fst := by
    intro hmem
    obtain ⟨entry, hentry, rfl⟩ := List.mem_map.mp hmem
    obtain ⟨selected, hselected, hsame⟩ := h.labels_selected entry hentry
    have hfold := hdistinct selected hselected
    rw [hsame, Text.eqFold_refl] at hfold
    cases hfold
  refine { h with
    fields_distinct := ?_, fields_owned := ?_, labels_nodup := ?_, labels_ne_empty := ?_,
    labels_selected := ?_ }
  · exact List.pairwise_append.mpr ⟨h.fields_distinct, by simp, by simpa using hdistinct⟩
  · intro selected hselected
    rcases List.mem_append.mp hselected with hold | hadded
    · exact h.fields_owned selected hold
    · rw [List.mem_singleton.mp hadded]
      exact firstDeclaring_of_owner? howner
  · rw [List.map_append]
    refine List.nodup_append.mpr ⟨h.labels_nodup, ?_, ?_⟩
    · by_cases hlabel : label = "" <;> simp [hlabel]
    · rintro name hname _ hadded rfl
      obtain ⟨entry, hentry, rfl⟩ := List.mem_map.mp hadded
      rw [(mem_label_iff.mp hentry).1] at hname
      exact hunlabelled hname
  · intro entry hentry
    rcases List.mem_append.mp hentry with hold | hadded
    · exact h.labels_ne_empty entry hold
    · obtain ⟨rfl, hlabel⟩ := mem_label_iff.mp hadded
      exact hlabel
  · intro entry hentry
    rcases List.mem_append.mp hentry with hold | hadded
    · obtain ⟨selected, hselected, hsame⟩ := h.labels_selected entry hold
      exact ⟨selected, by simp [hselected], hsame⟩
    · obtain ⟨rfl, -⟩ := mem_label_iff.mp hadded
      exact ⟨⟨field, table.name⟩, by simp, rfl⟩

theorem predicate (h : query.WellFormed) {group field : String} {literal : Value}
    {operator : Operator} {table : Table} (howner : query.owner? field = some table)
    (hoperand : Predicate.checkOperand operator literal = .ok ()) :
    WellFormed { query with
      groups := fileUnder group ⟨⟨operator, field, literal⟩, table.name⟩ query.groups } := by
  have hfiled := filedUnder_fileUnder group ⟨⟨operator, field, literal⟩, table.name⟩ query.groups
  exact { h with
    groups_nodup := hfiled.names_nodup h.groups_nodup
    groups_ne_nil := hfiled.predicates_ne_nil h.groups_ne_nil
    predicates_owned :=
      hfiled.forall_predicates h.predicates_owned (firstDeclaring_of_owner? howner)
    predicates_checked := hfiled.forall_predicates h.predicates_checked hoperand }

theorem order (h : query.WellFormed) {field : String} {direction : SortDirection} {table : Table}
    (howner : query.owner? field = some table) (hfresh : query.sortsBy field = false) :
    WellFormed { query with order := query.order ++ [(field, direction)] } := by
  have hdistinct := sortsBy_eq_false_iff.mp hfresh
  refine { h with order_distinct := ?_, order_declared := ?_ }
  · exact List.pairwise_append.mpr ⟨h.order_distinct, by simp, by simpa using hdistinct⟩
  · intro entry hentry
    rcases List.mem_append.mp hentry with hold | hadded
    · exact h.order_declared entry hold
    · rw [List.mem_singleton.mp hadded]
      exact ⟨table, List.mem_of_find?_eq_some howner, by simpa using List.find?_some howner⟩

theorem admits (h : query.WellFormed) {call : JoinCall} {next : JoinQuery}
    (hadmits : query.Admits call next) : next.WellFormed := by
  cases hadmits with
  | join hfields hnew hdeclared hkind => exact h.join hfields hnew hdeclared
  | selected hselected => exact h
  | field hfresh howner => exact h.field hfresh howner
  | predicate hoperator howner hoperand => exact h.predicate howner hoperand
  | order howner hfresh hdirection => exact h.order howner hfresh
  | distinct => exact { h with }
  | operators => exact { h with }
  | window hle => exact { h with }
  | box hx hy hbounds => exact { h with }

theorem step (h : query.WellFormed) (call : JoinCall) : (query.step call).WellFormed := by
  rcases step_eq_or_admits query call with hsame | hadmits
  · rwa [hsame]
  · exact h.admits hadmits

theorem run (h : query.WellFormed) (calls : List JoinCall) : (query.run calls).WellFormed := by
  induction calls generalizing query with
  | nil => exact h
  | cons call rest ih => exact ih (h.step call)

theorem fields_nodup (h : query.WellFormed) :
    (query.fields.map SelectedField.field).Nodup := by
  refine List.pairwise_map.mpr (h.fields_distinct.imp ?_)
  intro left right hdistinct hsame
  rw [hsame, Text.eqFold_refl] at hdistinct
  cases hdistinct

theorem existsUnique_selected (h : query.WellFormed) {entry : String × String}
    (hentry : entry ∈ query.labels) :
    ∃! selected, selected ∈ query.fields ∧ selected.field = entry.1 := by
  obtain ⟨selected, hselected, hsame⟩ := h.labels_selected entry hentry
  refine ⟨selected, ⟨hselected, hsame⟩, ?_⟩
  rintro other ⟨hother, hsame'⟩
  exact List.inj_on_of_nodup_map h.fields_nodup hother hselected (hsame'.trans hsame.symm)

end WellFormed

theorem primary_of_admits {query next : JoinQuery} {call : JoinCall}
    (h : query.Admits call next) : next.primary = query.primary := by
  cases h <;> rfl

theorem primary_run (query : JoinQuery) (calls : List JoinCall) :
    (query.run calls).primary = query.primary := by
  induction calls generalizing query with
  | nil => rfl
  | cons call rest ih =>
      rw [run_cons, ih]
      rcases step_eq_or_admits query call with hsame | hadmits
      · rw [hsame]
      · exact primary_of_admits hadmits

/-- After any calls, refused ones included: the tables follow the joins, every column and every
predicate is about the first table that declares it, labels belong to columns, and no table, column,
label, group or sorting is there twice. -/
theorem run_representation (primary : Table) (calls : List JoinCall) :
    let query := (ofPrimary primary).run calls
    (∃ others, query.tables = primary :: others ∧
        List.Forall₂ (Compares primary) others query.joins ∧
        (query.tables.map Table.name).Nodup) ∧
      ((query.fields.Pairwise fun left right => Text.eqFold left.field right.field = false) ∧
        ∀ selected ∈ query.fields,
          FirstDeclaring query.tables selected.field selected.table) ∧
      ((∀ entry ∈ query.labels, entry.2 ≠ "" ∧
          ∃! selected, selected ∈ query.fields ∧ selected.field = entry.1) ∧
        (query.labels.map Prod.fst).Nodup) ∧
      ((query.groups.map PredicateGroup.name).Nodup ∧
        ∀ group ∈ query.groups, group.predicates ≠ [] ∧
          ∀ filed ∈ group.predicates,
            FirstDeclaring query.tables filed.predicate.field filed.table ∧
            Predicate.checkOperand filed.predicate.operator filed.predicate.literal = .ok ()) ∧
      (query.order.Pairwise fun left right => Text.eqFold left.1 right.1 = false) ∧
      ∀ entry ∈ query.order, ∃ table ∈ query.tables, table.declares entry.1 = true := by
  intro query
  have h : query.WellFormed := (wellFormed_ofPrimary primary).run calls
  have hprimary : query.primary = primary := primary_run (ofPrimary primary) calls
  refine ⟨⟨query.others, ?_, ?_, h.tables_nodup⟩, ⟨h.fields_distinct, h.fields_owned⟩,
    ⟨?_, h.labels_nodup⟩, ⟨h.groups_nodup, ?_⟩, h.order_distinct, h.order_declared⟩
  · rw [tables, hprimary]
  · rw [← hprimary]
    exact h.compared
  · intro entry hentry
    exact ⟨h.labels_ne_empty entry hentry, h.existsUnique_selected hentry⟩
  · intro group hgroup
    refine ⟨h.groups_ne_nil group hgroup, ?_⟩
    intro filed hfiled
    exact ⟨h.predicates_owned group hgroup filed hfiled,
      h.predicates_checked group hgroup filed hfiled⟩

end ObservationSql.JoinQuery
