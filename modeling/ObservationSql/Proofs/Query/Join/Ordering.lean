import ObservationSql.Proofs.Query.Join.Invariant
import ObservationSql.Query.Join.Clauses

namespace ObservationSql

theorem Table.declares_congr {left right : String} (h : Text.eqFold left right = true)
    (table : Table) : table.declares left = table.declares right := by
  simp [declares, sameName, Text.eqFold, Text.eqFold_iff.mp h]

namespace JoinQuery

def declarers (query : JoinQuery) (name : String) : List Table :=
  query.tables.filter fun table => table.declares name

/-- Whether a column of that name is selected without a label. -/
def selectsBare (query : JoinQuery) (name : String) : Bool :=
  query.fields.any fun selected =>
    Text.eqFold selected.field name && (query.label? selected.field).isNone

/-- Whether a name without a table stands for one column of the statement. -/
def denotesOne (query : JoinQuery) (name : String) : Bool :=
  (query.declarers name).length == 1 || query.selectsBare name

theorem selectsBare_iff {query : JoinQuery} {name : String} :
    query.selectsBare name = true ↔ ∃ selected ∈ query.fields,
      Text.eqFold selected.field name = true ∧ query.label? selected.field = none := by
  simp [selectsBare]

theorem denotesOne_iff {query : JoinQuery} {name : String} :
    query.denotesOne name = true ↔
      (query.declarers name).length = 1 ∨ query.selectsBare name = true := by
  simp [denotesOne]

/-- What calls leave in place. -/
structure Keeps (before after : JoinQuery) : Prop where
  tables : before.tables <+: after.tables
  order : before.order <+: after.order
  bare : ∀ selected ∈ before.fields, before.label? selected.field = none →
    selected ∈ after.fields ∧ after.label? selected.field = none

namespace Keeps

theorem refl (query : JoinQuery) : query.Keeps query where
  tables := List.prefix_rfl
  order := List.prefix_rfl
  bare _ hselected hlabel := ⟨hselected, hlabel⟩

theorem trans {before middle after : JoinQuery} (h : before.Keeps middle)
    (h' : middle.Keeps after) : before.Keeps after where
  tables := h.tables.trans h'.tables
  order := h.order.trans h'.order
  bare selected hselected hlabel := by
    obtain ⟨hselected, hlabel⟩ := h.bare selected hselected hlabel
    exact h'.bare selected hselected hlabel

theorem selectsBare {before after : JoinQuery} (h : before.Keeps after) {name : String}
    (hbare : before.selectsBare name = true) : after.selectsBare name = true := by
  obtain ⟨selected, hselected, hname, hlabel⟩ := selectsBare_iff.mp hbare
  obtain ⟨hselected, hlabel⟩ := h.bare selected hselected hlabel
  exact selectsBare_iff.mpr ⟨selected, hselected, hname, hlabel⟩

end Keeps

theorem keeps_field {query : JoinQuery} {field label table : String}
    (hfresh : query.selects field = false) :
    query.Keeps { query with
      fields := query.fields ++ [⟨field, table⟩]
      labels := query.labels ++ if label = "" then [] else [(field, label)] } where
  tables := List.prefix_rfl
  order := List.prefix_rfl
  bare selected hselected hlabel := by
    have hdiffer : selected.field ≠ field := by
      rintro rfl
      have hdistinct := selects_eq_false_iff.mp hfresh selected hselected
      rw [Text.eqFold_refl] at hdistinct
      cases hdistinct
    refine ⟨List.mem_append_left _ hselected, ?_⟩
    rw [label?] at hlabel
    rw [label?, List.lookup_append, hlabel]
    by_cases hempty : label = "" <;> simp [hempty, hdiffer]

theorem Admits.keeps {query next : JoinQuery} {call : JoinCall} (h : query.Admits call next) :
    query.Keeps next := by
  cases h with
  | join hfields hnew hdeclared hkind =>
      exact { Keeps.refl query with tables := List.prefix_append query.tables _ }
  | selected hselected => exact .refl query
  | field hfresh howner => exact keeps_field hfresh
  | order howner hfresh hdirection =>
      exact { Keeps.refl query with order := List.prefix_append query.order _ }
  | predicate hoperator howner hoperand => exact { Keeps.refl query with }
  | distinct => exact { Keeps.refl query with }
  | operators => exact { Keeps.refl query with }
  | window hle => exact { Keeps.refl query with }
  | box hx hy hbounds => exact { Keeps.refl query with }

theorem keeps_step (query : JoinQuery) (call : JoinCall) : query.Keeps (query.step call) := by
  rcases step_eq_or_admits query call with hsame | hadmits
  · rw [hsame]
    exact .refl query
  · exact hadmits.keeps

theorem keeps_run (query : JoinQuery) (calls : List JoinCall) : query.Keeps (query.run calls) := by
  induction calls generalizing query with
  | nil => exact .refl query
  | cons call rest ih => exact (keeps_step query call).trans (ih (query.step call))

namespace WellFormed

variable {query : JoinQuery}

theorem declarers_ne_nil (h : query.WellFormed) {entry : String × SortDirection}
    (hentry : entry ∈ query.order) : query.declarers entry.1 ≠ [] := by
  obtain ⟨table, htable, hdeclares⟩ := h.order_declared entry hentry
  exact List.ne_nil_of_mem (List.mem_filter.mpr ⟨htable, hdeclares⟩)

theorem two_le_declarers_iff (h : query.WellFormed) {name : String} :
    2 ≤ (query.declarers name).length ↔
      ∃ table ∈ query.tables, ∃ other ∈ query.tables, table.name ≠ other.name ∧
        table.declares name = true ∧ other.declares name = true := by
  have hnodup : ((query.declarers name).map Table.name).Nodup :=
    h.tables_nodup.sublist (List.filter_sublist.map Table.name)
  have hmem : ∀ table, table ∈ query.declarers name ↔
      table ∈ query.tables ∧ table.declares name = true := fun table => List.mem_filter
  generalize query.declarers name = declarers at hnodup hmem
  constructor
  · intro htwo
    match declarers, htwo with
    | table :: other :: rest, _ =>
        obtain ⟨htable, hdeclares⟩ := (hmem table).mp (by simp)
        obtain ⟨hother, hdeclares'⟩ := (hmem other).mp (by simp)
        refine ⟨table, htable, other, hother, ?_, hdeclares, hdeclares'⟩
        rw [List.map_cons, List.map_cons, List.nodup_cons, List.mem_cons, not_or] at hnodup
        exact hnodup.1.1
  · rintro ⟨table, htable, other, hother, hdiffer, hdeclares, hdeclares'⟩
    have hin := (hmem table).mpr ⟨htable, hdeclares⟩
    have hin' := (hmem other).mpr ⟨hother, hdeclares'⟩
    by_contra hone
    have hpos := List.length_pos_of_mem hin
    obtain ⟨only, rfl⟩ := List.length_eq_one_iff.mp (show declarers.length = 1 by omega)
    rw [List.mem_singleton] at hin hin'
    exact hdiffer (by rw [hin, hin'])

theorem denotesOne_eq_false_iff (h : query.WellFormed) {entry : String × SortDirection}
    (hentry : entry ∈ query.order) :
    query.denotesOne entry.1 = false ↔
      (∃ table ∈ query.tables, ∃ other ∈ query.tables, table.name ≠ other.name ∧
        table.declares entry.1 = true ∧ other.declares entry.1 = true) ∧
      ∀ selected ∈ query.fields, Text.eqFold selected.field entry.1 = true →
        ∃ label, query.label? selected.field = some label := by
  have hpos := List.length_pos_of_ne_nil (h.declarers_ne_nil hentry)
  rw [← h.two_le_declarers_iff, ← Bool.not_eq_true, denotesOne_iff, not_or, selectsBare_iff]
  refine and_congr (by omega) ?_
  simp only [not_exists, not_and, ← Option.isSome_iff_exists, ← Option.ne_none_iff_isSome]

theorem denotesOne_of_no_join (h : query.WellFormed) (hothers : query.others = [])
    {entry : String × SortDirection} (hentry : entry ∈ query.order) :
    query.denotesOne entry.1 = true := by
  have hpos := List.length_pos_of_ne_nil (h.declarers_ne_nil hentry)
  have hle : (query.declarers entry.1).length ≤ query.tables.length := List.length_filter_le _ _
  have hone : query.tables.length = 1 := by rw [tables, hothers, List.length_singleton]
  exact denotesOne_iff.mpr (.inl (by omega))

theorem two_le_declarers (h : query.WellFormed) {join : Join} (hjoin : join ∈ query.joins)
    {field name : String} (hfield : field ∈ join.fields) (hname : Text.eqFold field name = true) :
    2 ≤ (query.declarers name).length := by
  -- One of them is the primary table, and another one the joined table.
  obtain ⟨i, hi, rfl⟩ := List.getElem_of_mem hjoin
  have hi' : i < query.others.length := by rwa [h.compared.length_eq]
  have hcompares := h.compared.get hi' hi
  obtain ⟨hprimary, hdeclares⟩ := hcompares.declared field hfield
  rw [Table.declares_congr hname] at hprimary hdeclares
  have hmem : query.others.get ⟨i, hi'⟩ ∈ query.others.filter fun table => table.declares name :=
    List.mem_filter.mpr ⟨List.get_mem _ _, hdeclares⟩
  have hpos := List.length_pos_of_mem hmem
  simp only [declarers, tables, List.filter_cons, hprimary, if_true, List.length_cons]
  omega

theorem exists_joined {later : JoinQuery} (h : later.WellFormed) (hkeeps : query.Keeps later)
    {name : String} (hone : query.denotesOne name = true) (hmany : later.denotesOne name = false) :
    query.selectsBare name = false ∧
      ∃ other ∈ later.others, other ∉ query.tables ∧ other.declares name = true := by
  obtain ⟨joined, htables⟩ := hkeeps.tables
  have hunclear : ¬((later.declarers name).length = 1 ∨ later.selectsBare name = true) := by
    rw [← denotesOne_iff, hmany]
    exact Bool.false_ne_true
  have hbare : query.selectsBare name = false := by
    cases hbare : query.selectsBare name with
    | false => rfl
    | true => exact absurd (.inr (hkeeps.selectsBare hbare)) hunclear
  have hlength : (query.declarers name).length = 1 :=
    (denotesOne_iff.mp hone).resolve_right (by rw [hbare]; exact Bool.false_ne_true)
  have hdeclarers : later.declarers name
      = query.declarers name ++ joined.filter fun table => table.declares name := by
    rw [declarers, ← htables, List.filter_append, declarers]
  have hjoined : (joined.filter fun table => table.declares name) ≠ [] := by
    intro hempty
    rw [hdeclarers, hempty, List.append_nil] at hunclear
    exact hunclear (.inl hlength)
  obtain ⟨other, hother⟩ := List.exists_mem_of_ne_nil _ hjoined
  obtain ⟨hother, hdeclares⟩ := List.mem_filter.mp hother
  have hothers : later.others = query.others ++ joined := (List.cons.inj htables).2.symm
  refine ⟨hbare, other, ?_, ?_, hdeclares⟩
  · rw [hothers]
    exact List.mem_append_right _ hother
  · intro hmem
    have hnodup := h.tables_nodup
    rw [← htables, List.map_append] at hnodup
    exact (List.nodup_append.mp hnodup).2.2 _ (List.mem_map_of_mem hmem) _
      (List.mem_map_of_mem hother) rfl

end WellFormed

/-- Every column to sort by is declared by some table. It stands for one column of the statement
unless two tables declare it, as they do with the columns of a join, and nothing selects it under
its own name. An entry that is clear stays in the query and stays clear until a table comes that
declares the column too, and even then if it is selected under its own name. -/
theorem order_clear (primary : Table) (calls more : List JoinCall) :
    let query := (ofPrimary primary).run calls
    let later := query.run more
    ∀ entry ∈ query.order,
      query.declarers entry.1 ≠ [] ∧
      (query.denotesOne entry.1 = false ↔
        (∃ table ∈ query.tables, ∃ other ∈ query.tables, table.name ≠ other.name ∧
          table.declares entry.1 = true ∧ other.declares entry.1 = true) ∧
        ∀ selected ∈ query.fields, Text.eqFold selected.field entry.1 = true →
          ∃ label, query.label? selected.field = some label) ∧
      (query.others = [] → query.denotesOne entry.1 = true) ∧
      (∀ join ∈ query.joins, ∀ field ∈ join.fields, Text.eqFold field entry.1 = true →
        query.denotesOne entry.1 = query.selectsBare entry.1) ∧
      entry ∈ later.order ∧
      (query.denotesOne entry.1 = true → later.denotesOne entry.1 = false →
        query.selectsBare entry.1 = false ∧
          ∃ other ∈ later.others, other ∉ query.tables ∧ other.declares entry.1 = true) := by
  intro query later entry hentry
  have h : query.WellFormed := (wellFormed_ofPrimary primary).run calls
  have hkeeps : query.Keeps later := keeps_run query more
  refine ⟨h.declarers_ne_nil hentry, h.denotesOne_eq_false_iff hentry,
    fun hothers => h.denotesOne_of_no_join hothers hentry, ?_, hkeeps.order.subset hentry,
    (h.run more).exists_joined hkeeps⟩
  intro join hjoin field hfield hname
  have htwo := h.two_le_declarers hjoin hfield hname
  rw [Bool.eq_iff_iff, denotesOne_iff]
  exact or_iff_right (by omega)

theorem order_clear_until_join :
    let stations : Table :=
      { name := "STATION_V1", fields := [{ name := "STATION_ID" }, { name := "FMISID" }] }
    let members : Table :=
      { name := "NETWORK_MEMBER_V1", fields := [{ name := "FMISID" }, { name := "NETWORK_ID" }] }
    let calls : List JoinCall := [.field "STATION_ID" "", .order "FMISID" "asc"]
    let more : List JoinCall := [.join members ["FMISID"] "inner"]
    let query := (ofPrimary stations).run calls
    let later := query.run more
    query.denotesOne "FMISID" = true ∧ later.denotesOne "FMISID" = false ∧
      ("FMISID", .ascending) ∈ later.order ∧
      ∃ other ∈ later.others, other ∉ query.tables ∧ other.declares "FMISID" = true := by
  intro stations members calls more query later
  have hentry : ("FMISID", SortDirection.ascending) ∈ query.order := by decide +kernel
  have hone : query.denotesOne "FMISID" = true := by decide +kernel
  have hmany : later.denotesOne "FMISID" = false := by decide +kernel
  obtain ⟨-, -, -, -, hstays, hjoined⟩ :=
    order_clear stations calls more ("FMISID", .ascending) hentry
  exact ⟨hone, hmany, hstays, (hjoined hone hmany).2⟩

/-- A column of a join is sorted by without being selected. -/
theorem order_unclear_join_column :
    let stations : Table :=
      { name := "STATION_V1", fields := [{ name := "STATION_ID" }, { name := "FMISID" }] }
    let members : Table :=
      { name := "NETWORK_MEMBER_V1", fields := [{ name := "FMISID" }, { name := "NETWORK_ID" }] }
    let calls : List JoinCall := [.join members ["FMISID"] "INNER JOIN", .field "STATION_ID" "",
      .order "FMISID" "ASC"]
    let query := (ofPrimary stations).run calls
    Table.build stations.name stations.fields = .ok stations ∧
      Table.build members.name members.fields = .ok members ∧
      query.fields ≠ [] ∧
      query.declarers "FMISID" = [stations, members] ∧ query.selectsBare "FMISID" = false ∧
      ¬(∀ entry ∈ query.order, query.denotesOne entry.1 = true) ∧
      query.sql .oracle = "SELECT STATION_V1.STATION_ID FROM STATION_V1 STATION_V1"
        ++ " INNER JOIN NETWORK_MEMBER_V1 NETWORK_MEMBER_V1"
        ++ " ON STATION_V1.FMISID = NETWORK_MEMBER_V1.FMISID ORDER BY FMISID ASC" := by
  intro stations members calls query
  refine ⟨by decide +kernel, by decide +kernel, by decide +kernel, by decide +kernel,
    by decide +kernel, ?_, by decide +kernel⟩
  intro hall
  have hentry : ("FMISID", SortDirection.ascending) ∈ query.order := by decide +kernel
  have hunclear : query.denotesOne "FMISID" = false := by decide +kernel
  rw [hall ("FMISID", .ascending) hentry] at hunclear
  cases hunclear

end JoinQuery

end ObservationSql
