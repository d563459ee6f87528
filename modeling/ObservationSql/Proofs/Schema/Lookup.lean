import ObservationSql.Proofs.Query.Join.Admission
import ObservationSql.Proofs.Schema.ColumnFilter
import ObservationSql.Proofs.Schema.Declaration

namespace ObservationSql

/-- The column that a table takes a name for: the first of exactly that name or, where there is
none, the first of that name up to the case of ASCII letters. -/
inductive Table.Finds (table : Table) (name : String) : Field → Prop where
  | exactly {earlier later : List Field} {column : Field}
      (hfields : table.fields = earlier ++ column :: later) (hname : column.name = name)
      (hearlier : ∀ other ∈ earlier, other.name ≠ name) : Finds table name column
  | folded {earlier later : List Field} {column : Field}
      (hfields : table.fields = earlier ++ column :: later)
      (hnone : ∀ other ∈ table.fields, other.name ≠ name)
      (hname : Text.eqFold column.name name = true)
      (hearlier : ∀ other ∈ earlier, Text.eqFold other.name name = false) :
      Finds table name column

/-- A table that came about in one of the two ways there are, from its parts or from a document. -/
inductive Table.Made : Table → Prop where
  | build {name : String} {fields : List Field} {table : Table}
      (h : build name fields = .ok table) : Made table
  | ofYaml {document : String} {table : Table} (h : ofYaml document = .ok table) : Made table

theorem kindConflict?_eq {table : Table} {predicate : Predicate} {declared : Category}
    (h : table.kind? predicate.field = some declared) :
    (kindConflict? table predicate).toList =
      if declared.accepts predicate.inferredCategory then []
      else [.kindConflict predicate.inferredCategory table.name predicate.field declared] := by
  unfold kindConflict?
  rw [h]
  cases haccepts : declared.accepts predicate.inferredCategory with
  | true => simp [haccepts]
  | false => simp [haccepts]

namespace Table

variable {table : Table} {name : String} {column : Field}

theorem finds_of_find? (h : table.find? name = some column) : table.Finds name column := by
  rw [find?, Option.or_eq_some_iff] at h
  rcases h with hexact | ⟨hnone, hfolded⟩
  · obtain ⟨hname, earlier, later, hfields, hearlier⟩ := List.find?_eq_some_iff_append.mp hexact
    exact .exactly hfields (by simpa using hname) (by simpa using hearlier)
  · obtain ⟨hname, earlier, later, hfields, hearlier⟩ := List.find?_eq_some_iff_append.mp hfolded
    exact .folded hfields (by simpa using hnone) hname (by simpa using hearlier)

theorem Finds.find?_eq (h : table.Finds name column) : table.find? name = some column := by
  rw [find?, Option.or_eq_some_iff, List.find?_eq_some_iff_append, List.find?_eq_some_iff_append]
  cases h with
  | exactly hfields hname hearlier =>
      exact .inl ⟨by simpa using hname, _, _, hfields, by simpa using hearlier⟩
  | folded hfields hnone hname hearlier =>
      exact .inr ⟨by simpa using hnone, hname, _, _, hfields, by simpa using hearlier⟩

theorem Finds.kind?_eq (h : table.Finds name column) : table.kind? name = some column.kind := by
  rw [kind?, h.find?_eq, Option.map_some]

theorem Finds.method?_eq (h : table.Finds name column) : table.method? name = column.method := by
  rw [method?, h.find?_eq, Option.bind_some]

theorem exists_find? (h : table.declares name = true) :
    ∃ column, table.find? name = some column := by
  rw [← Option.isSome_iff_exists, find?, Option.isSome_or, Bool.or_eq_true, List.find?_isSome,
    List.find?_isSome]
  obtain ⟨column, hcolumn, hname⟩ := List.any_eq_true.mp h
  exact .inr ⟨column, hcolumn, hname⟩

theorem declares_of_find? (h : table.find? name = some column) : table.declares name = true := by
  refine List.any_eq_true.mpr ⟨column, ?_⟩
  cases finds_of_find? h with
  | exactly hfields hname hearlier =>
      rw [hfields, hname]
      exact ⟨by simp, Text.eqFold_refl name⟩
  | folded hfields hnone hname hearlier =>
      rw [hfields]
      exact ⟨by simp, hname⟩

theorem isSome_find?_iff : (table.find? name).isSome = true ↔ table.declares name = true := by
  rw [Option.isSome_iff_exists]
  exact ⟨fun ⟨_, hfound⟩ => declares_of_find? hfound, exists_find?⟩

theorem exists_kind?_iff :
    (∃ kind, table.kind? name = some kind) ↔ table.declares name = true := by
  rw [← Option.isSome_iff_exists, kind?, Option.isSome_map, isSome_find?_iff]

theorem Made.names_nodup (h : table.Made) : (table.fields.map Field.name).Nodup := by
  cases h with
  | build hbuild =>
      obtain ⟨-, hnames, -, rfl⟩ := build_eq_ok_iff.mp hbuild
      exact hnames.nodup
  | ofYaml hyaml =>
      unfold Table.ofYaml at hyaml
      split at hyaml
      · obtain ⟨hvalid, -, hfields⟩ := TableDeclaration.toTable_eq_ok_iff.mp hyaml
        rw [hfields]
        exact hvalid.names_nodup.sublist (TableDeclaration.names_sublist _)
      · cases hyaml

theorem finds_own_name (hnodup : (table.fields.map Field.name).Nodup)
    (hcolumn : column ∈ table.fields) : table.Finds column.name column := by
  obtain ⟨earlier, later, hfields⟩ := List.append_of_mem hcolumn
  refine .exactly hfields rfl ?_
  intro other hother hsame
  rw [hfields, List.map_append, List.map_cons, ← hsame] at hnodup
  obtain ⟨-, -, hapart⟩ := List.nodup_append.mp hnodup
  exact hapart _ (List.mem_map_of_mem hother) _ List.mem_cons_self rfl

theorem exists_first_folded (hname : name ∉ table.fieldNames)
    (hdeclares : table.declares name = true) :
    ∃ earlier column later, table.fields = earlier ++ column :: later ∧
      Text.eqFold column.name name = true ∧
      (∀ other ∈ earlier, Text.eqFold other.name name = false) ∧
      table.Finds name column := by
  obtain ⟨column, hfound⟩ := exists_find? hdeclares
  cases finds_of_find? hfound with
  | exactly hfields hexact hearlier =>
      have hmem : column ∈ table.fields := by simp [hfields]
      exact absurd (hexact ▸ List.mem_map_of_mem hmem) hname
  | folded hfields hnone hfolded hearlier =>
      exact ⟨_, column, _, hfields, hfolded, hearlier, .folded hfields hnone hfolded hearlier⟩

/-- A table has a kind just for the names that it declares. Each column has its own kind and
accessor under its own name, and any other spelling has those of the first column that it folds to.
So a predicate that goes through was checked against a kind that the table of its column declares,
and it is warned of just if that kind does not accept the literal. -/
theorem lookups_coherent {table : Table} (hmade : table.Made) :
    (∀ name, ((∃ kind, table.kind? name = some kind) ↔ table.declares name = true) ∧
        (table.declares name true = true → table.declares name = true)) ∧
      (∀ column ∈ table.fields,
        table.kind? column.name = some column.kind ∧ table.method? column.name = column.method) ∧
      (∀ name, name ∉ table.fieldNames → table.declares name = true →
        ∃ earlier column later, table.fields = earlier ++ column :: later ∧
          Text.eqFold column.name name = true ∧
          (∀ other ∈ earlier, Text.eqFold other.name name = false) ∧
          table.kind? name = some column.kind ∧ table.method? name = column.method) ∧
      (∀ name, table.declares name = false → table.kind? name = none ∧ table.method? name = none) ∧
      ∀ (query : JoinQuery) (group field token : String) (literal : Value)
        (noted : Noted JoinQuery),
        query.perform (.predicate group field token literal) = .ok () noted →
        ∃ operator owner declared, query.operators.find token = .ok operator ∧
          query.owner field = .ok owner ∧ owner.kind? field = some declared ∧
          noted.warnings =
            let inferred := Predicate.inferredCategory ⟨operator, field, literal⟩
            if declared.accepts inferred then []
            else [.kindConflict inferred owner.name field declared] := by
  refine ⟨fun name => ⟨exists_kind?_iff, declares_of_declares_exactly⟩, fun column hcolumn => ?_,
    fun name hname hdeclares => ?_, fun name hdeclares => ?_, ?_⟩
  · have hfinds := finds_own_name hmade.names_nodup hcolumn
    exact ⟨hfinds.kind?_eq, hfinds.method?_eq⟩
  · obtain ⟨earlier, column, later, hfields, hfolded, hearlier, hfinds⟩ :=
      exists_first_folded hname hdeclares
    exact ⟨earlier, column, later, hfields, hfolded, hearlier, hfinds.kind?_eq, hfinds.method?_eq⟩
  · have hnone : table.find? name = none := by
      rw [← Option.not_isSome_iff_eq_none, isSome_find?_iff, hdeclares]
      exact Bool.false_ne_true
    rw [kind?, method?, hnone]
    exact ⟨rfl, rfl⟩
  · intro query group field token literal noted h
    have hadmits := JoinQuery.admits_of_perform_eq_ok h
    generalize noted.value = next at hadmits
    cases hadmits with
    | @predicate _ _ _ _ operator owner hoperator howner hoperand =>
        rw [JoinQuery.perform_predicate hoperator howner hoperand] at h
        cases h
        have hdeclares : owner.declares field = true := by simpa using List.find?_some howner
        obtain ⟨declared, hdeclared⟩ := exists_kind?_iff.mpr hdeclares
        exact ⟨operator, owner, declared, hoperator, JoinQuery.owner_eq_ok_iff.mpr howner,
          hdeclared, kindConflict?_eq hdeclared⟩

theorem lookups_coherent_case_variants :
    let document := "name: Stations\nfields:\n- name: Id\n  type: int\n"
      ++ "- name: ID\n  type: string\n  method: TO_CHAR\n"
    let table : Table := ⟨"Stations", [⟨"Id", none, .int⟩, ⟨"ID", some "TO_CHAR", .string⟩]⟩
    ofYaml document = .ok table ∧
      (table.kind? "ID" = some .string ∧ table.method? "ID" = some "TO_CHAR") ∧
      table.kind? "id" = some .int ∧ table.method? "id" = none := by
  intro document table
  have hyaml : ofYaml document = .ok table := by decide +kernel
  obtain ⟨-, hown, hfolded, -⟩ := lookups_coherent (.ofYaml hyaml)
  obtain ⟨earlier, column, later, hfields, -, hearlier, hkind, hmethod⟩ :=
    hfolded "id" (by decide) (by decide)
  refine ⟨hyaml, hown ⟨"ID", some "TO_CHAR", .string⟩ (by decide), ?_⟩
  cases earlier with
  | nil =>
      obtain ⟨rfl, -⟩ := List.cons.inj hfields
      exact ⟨hkind, hmethod⟩
  | cons first earlier =>
      obtain ⟨rfl, -⟩ := List.cons.inj hfields
      exact absurd (hearlier _ List.mem_cons_self) (by decide)

end Table

end ObservationSql
