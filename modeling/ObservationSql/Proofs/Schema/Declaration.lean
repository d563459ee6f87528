import Mathlib.Data.List.Forall2
import ObservationSql.Schema.Declaration

namespace ObservationSql

/-- A result that fails, if it does, for what is wrong with a declaration. -/
def FailsAsConfig {α : Type} (result : Result α) : Prop :=
  ∀ fault, result = .error fault → ∃ cause, fault = .config cause

section Results

variable {α β : Type} {result : Result α} {next : α → Result β}

theorem failsAsConfig_ok (answer : α) : FailsAsConfig (.ok answer) :=
  fun _ h => nomatch h

theorem failsAsConfig_error (cause : ConfigFault) :
    FailsAsConfig (.error (.config cause) : Result α) :=
  fun _ h => ⟨cause, (Except.error.inj h).symm⟩

theorem FailsAsConfig.bind (h : FailsAsConfig result)
    (hnext : ∀ answer, FailsAsConfig (next answer)) : FailsAsConfig (result >>= next) := by
  cases result with
  | ok answer => exact hnext answer
  | error fault =>
      obtain ⟨cause, rfl⟩ := h fault rfl
      exact failsAsConfig_error cause

end Results

/-- Names that the columns of one table can have. -/
structure AreColumnNames (names : List String) : Prop where
  alphabetic : ∀ name ∈ names, Text.startsAlphabetic name = true
  nodup : names.Nodup

theorem AreColumnNames.sublist {names kept : List String} (h : AreColumnNames names)
    (hkept : kept.Sublist names) : AreColumnNames kept where
  alphabetic name hname := h.alphabetic name (hkept.subset hname)
  nodup := h.nodup.sublist hkept

theorem areColumnNames_cons_iff {earlier names : List String} {name : String} :
    (AreColumnNames (name :: names) ∧ ∀ other ∈ name :: names, other ∉ earlier) ↔
      (Text.startsAlphabetic name = true ∧ name ∉ earlier) ∧
        AreColumnNames names ∧ ∀ other ∈ names, other ∉ name :: earlier := by
  constructor
  · rintro ⟨⟨halphabetic, hnodup⟩, hfresh⟩
    rw [List.forall_mem_cons] at halphabetic hfresh
    rw [List.nodup_cons] at hnodup
    refine ⟨⟨halphabetic.1, hfresh.1⟩, ⟨halphabetic.2, hnodup.2⟩, fun other hother => ?_⟩
    rw [List.mem_cons, not_or]
    exact ⟨fun hsame => hnodup.1 (hsame ▸ hother), hfresh.2 other hother⟩
  · rintro ⟨⟨halphabetic, hname⟩, ⟨hrest, hnodup⟩, hfresh⟩
    refine ⟨⟨List.forall_mem_cons.mpr ⟨halphabetic, hrest⟩, List.nodup_cons.mpr ⟨?_, hnodup⟩⟩,
      List.forall_mem_cons.mpr ⟨hname, fun other hother => ?_⟩⟩
    · exact fun hmem => hfresh name hmem List.mem_cons_self
    · exact fun hmem => hfresh other hother (List.mem_cons_of_mem name hmem)

theorem checkFieldName_eq_ok_iff {table name : String} {earlier : List String} {answer : Unit} :
    checkFieldName table earlier name = .ok answer ↔
      Text.startsAlphabetic name = true ∧ name ∉ earlier := by
  unfold checkFieldName
  cases Text.startsAlphabetic name with
  | false => simp
  | true => by_cases hname : name ∈ earlier <;> simp [hname]

theorem failsAsConfig_checkFieldName (table name : String) (earlier : List String) :
    FailsAsConfig (checkFieldName table earlier name) := by
  unfold checkFieldName
  split
  · exact failsAsConfig_error _
  · split
    · exact failsAsConfig_error _
    · exact failsAsConfig_ok _

theorem checkFieldNames_eq_ok_iff {table : String} {earlier names : List String} {answer : Unit} :
    checkFieldNames table earlier names = .ok answer ↔
      AreColumnNames names ∧ ∀ name ∈ names, name ∉ earlier := by
  induction names generalizing earlier with
  | nil => exact iff_of_true rfl ⟨⟨by simp, List.nodup_nil⟩, by simp⟩
  | cons name rest ih =>
      rw [checkFieldNames, bind_eq_ok_iff, areColumnNames_cons_iff, ← ih]
      simp only [checkFieldName_eq_ok_iff, exists_and_left, exists_const]

theorem failsAsConfig_checkFieldNames (table : String) (earlier names : List String) :
    FailsAsConfig (checkFieldNames table earlier names) := by
  induction names generalizing earlier with
  | nil => exact failsAsConfig_ok ()
  | cons name rest ih => exact (failsAsConfig_checkFieldName table name earlier).bind fun _ => ih _

namespace Table

theorem build_eq (name : String) (fields : List Field) :
    build name fields =
      if Text.startsAlphabetic name = true then
        checkFieldNames name [] (fields.map Field.name) >>= fun _ =>
          if fields = [] then .error (.config (.noActiveFields name)) else .ok ⟨name, fields⟩
      else .error (.config (.tableName name)) := by
  unfold build
  cases Text.startsAlphabetic name with
  | false => rfl
  | true => cases fields <;> rfl

theorem build_eq_ok_iff {name : String} {fields : List Field} {table : Table} :
    build name fields = .ok table ↔
      Text.startsAlphabetic name = true ∧ AreColumnNames (fields.map Field.name) ∧ fields ≠ [] ∧
        table = ⟨name, fields⟩ := by
  rw [build_eq]
  by_cases hname : Text.startsAlphabetic name = true
  · rw [if_pos hname, bind_eq_ok_iff]
    simp only [checkFieldNames_eq_ok_iff, hname, true_and]
    by_cases hfields : fields = [] <;> simp [hfields, eq_comm]
  · simp [hname]

theorem failsAsConfig_build (name : String) (fields : List Field) :
    FailsAsConfig (build name fields) := by
  rw [build_eq]
  split
  · refine (failsAsConfig_checkFieldNames _ _ _).bind fun _ => ?_
    split
    · exact failsAsConfig_error _
    · exact failsAsConfig_ok _
  · exact failsAsConfig_error _

end Table

namespace FieldDeclaration

def column? (entry : FieldDeclaration) : Option Field :=
  if entry.isActive then entry.name.map entry.toField else none

/-- What an entry says about its column. An accessor that is empty is none, and a kind that is not
given or not known is none of the kinds. -/
structure Declares (entry : FieldDeclaration) (field : Field) : Prop where
  name_eq : entry.name = some field.name
  method_iff : ∀ method, field.method = some method ↔ entry.method = some method ∧ method ≠ ""
  kind_iff : ∀ category, category ≠ .unknown →
    (field.kind = category ↔
      ∃ declared, entry.kind = some declared ∧
        Text.lower (Text.trim declared) = category.name)

theorem isActive_iff {entry : FieldDeclaration} :
    entry.isActive = true ↔ entry.active ≠ some false := by
  cases hactive : entry.active with
  | none => simp [isActive, hactive]
  | some active => cases active <;> simp [isActive, hactive]

theorem parse_eq_iff {category : Category} (h : category ≠ .unknown) {declared : String} :
    Category.parse declared = category ↔
      Text.lower (Text.trim declared) = category.name := by
  unfold Category.parse
  generalize Text.lower (Text.trim declared) = word
  split
  case h_7 hint huint hfloat hdouble hstring htimestamp =>
    cases category <;> simp_all [Category.name]
  all_goals cases category <;> simp_all [Category.name]

theorem declares_toField {entry : FieldDeclaration} {name : String} (h : entry.name = some name) :
    entry.Declares (entry.toField name) where
  name_eq := h
  method_iff := by simp [toField, Option.filter_eq_some_iff]
  kind_iff := by
    intro category hcategory
    cases hkind : entry.kind with
    | none => simp [toField, hkind, hcategory.symm]
    | some declared => simp [toField, hkind, parse_eq_iff hcategory]

end FieldDeclaration

theorem activeFields_cons {entry : FieldDeclaration} {name : String} (hname : entry.name = some name)
    (table : String) (index : Nat) (earlier : List String) (rest : List FieldDeclaration) :
    activeFields table index earlier (entry :: rest) =
      (checkFieldName table earlier name >>= fun _ =>
        activeFields table (index + 1) (name :: earlier) rest >>= fun fields =>
          .ok (entry.column?.toList ++ fields)) := by
  rw [activeFields]
  simp only [hname, FieldDeclaration.column?, Option.map_some]
  cases entry.isActive <;> rfl

theorem activeFields_cons_unnamed {entry : FieldDeclaration} (hname : entry.name = none)
    (table : String) (index : Nat) (earlier : List String) (rest : List FieldDeclaration) :
    activeFields table index earlier (entry :: rest)
      = .error (.config (.unnamedField index table)) := by
  rw [activeFields]
  simp only [hname]

theorem activeFields_eq_ok_iff {table : String} {index : Nat} {earlier : List String}
    {entries : List FieldDeclaration} {fields : List Field} :
    activeFields table index earlier entries = .ok fields ↔
      (∀ entry ∈ entries, ∃ name, entry.name = some name) ∧
        (AreColumnNames (entries.filterMap FieldDeclaration.name) ∧
          ∀ name ∈ entries.filterMap FieldDeclaration.name, name ∉ earlier) ∧
        fields = entries.filterMap FieldDeclaration.column? := by
  induction entries generalizing index earlier fields with
  | nil =>
      rw [activeFields, Except.ok.injEq, eq_comm]
      refine ⟨fun h => ⟨by simp, ⟨⟨by simp, List.nodup_nil⟩, by simp⟩, h⟩, fun h => h.2.2⟩
  | cons entry rest ih =>
      rw [List.forall_mem_cons]
      cases hname : entry.name with
      | none =>
          rw [activeFields_cons_unnamed hname]
          exact iff_of_false (fun h => nomatch h) fun ⟨⟨⟨_, h⟩, _⟩, _⟩ => nomatch h
      | some name =>
          have hnames : (entry :: rest).filterMap FieldDeclaration.name
              = name :: rest.filterMap FieldDeclaration.name := List.filterMap_cons_some hname
          have hcolumns : (entry :: rest).filterMap FieldDeclaration.column?
              = entry.column?.toList ++ rest.filterMap FieldDeclaration.column? := by
            rw [List.filterMap_cons]
            cases entry.column? <;> rfl
          rw [activeFields_cons hname, hnames, hcolumns, areColumnNames_cons_iff]
          simp only [bind_eq_ok_iff, checkFieldName_eq_ok_iff, ih, Except.ok.injEq]
          constructor
          · rintro ⟨_, hchecked, _, ⟨hnamed, hfresh, rfl⟩, rfl⟩
            exact ⟨⟨⟨name, rfl⟩, hnamed⟩, ⟨hchecked, hfresh⟩, rfl⟩
          · rintro ⟨⟨-, hnamed⟩, ⟨hchecked, hfresh⟩, rfl⟩
            exact ⟨(), hchecked, _, ⟨hnamed, hfresh, rfl⟩, rfl⟩

theorem failsAsConfig_activeFields (table : String) (index : Nat) (earlier : List String)
    (entries : List FieldDeclaration) : FailsAsConfig (activeFields table index earlier entries) := by
  induction entries generalizing index earlier with
  | nil => exact failsAsConfig_ok []
  | cons entry rest ih =>
      cases hname : entry.name with
      | none =>
          rw [activeFields_cons_unnamed hname]
          exact failsAsConfig_error _
      | some name =>
          rw [activeFields_cons hname]
          exact (failsAsConfig_checkFieldName _ _ _).bind fun _ =>
            (ih _ _).bind fun _ => failsAsConfig_ok _

namespace TableDeclaration

def entries (declaration : TableDeclaration) : List FieldDeclaration :=
  declaration.fields.getD []

/-- What a declaration needs to declare a table. -/
structure Valid (declaration : TableDeclaration) : Prop where
  named : ∃ name, declaration.name = some name ∧ Text.startsAlphabetic name = true
  entries_ne_nil : declaration.entries ≠ []
  entries_named : ∀ entry ∈ declaration.entries,
    ∃ name, entry.name = some name ∧ Text.startsAlphabetic name = true
  names_nodup : (declaration.entries.filterMap FieldDeclaration.name).Nodup
  exists_active : ∃ entry ∈ declaration.entries, entry.active ≠ some false

theorem toTable_eq {declaration : TableDeclaration} {name : String}
    (hname : declaration.name = some name) :
    declaration.toTable =
      if declaration.entries = [] then .error (.config (.noFields name))
      else activeFields name 0 [] declaration.entries >>= Table.build name := by
  unfold toTable entries
  rw [hname]
  cases declaration.fields.getD [] <;> rfl

theorem toTable_of_unnamed {declaration : TableDeclaration} (hname : declaration.name = none) :
    declaration.toTable = .error (.config .unnamedTable) := by
  rw [toTable, hname]

theorem failsAsConfig_toTable (declaration : TableDeclaration) :
    FailsAsConfig declaration.toTable := by
  cases hname : declaration.name with
  | none =>
      rw [toTable_of_unnamed hname]
      exact failsAsConfig_error _
  | some name =>
      rw [toTable_eq hname]
      split
      · exact failsAsConfig_error _
      · exact (failsAsConfig_activeFields _ _ _ _).bind (Table.failsAsConfig_build name)

theorem areColumnNames_iff {entries : List FieldDeclaration}
    (hnamed : ∀ entry ∈ entries, ∃ name, entry.name = some name) :
    AreColumnNames (entries.filterMap FieldDeclaration.name) ↔
      (∀ entry ∈ entries, ∃ name, entry.name = some name ∧ Text.startsAlphabetic name = true) ∧
        (entries.filterMap FieldDeclaration.name).Nodup := by
  constructor
  · rintro ⟨halphabetic, hnodup⟩
    refine ⟨fun entry hentry => ?_, hnodup⟩
    obtain ⟨name, hname⟩ := hnamed entry hentry
    exact ⟨name, hname, halphabetic name (List.mem_filterMap.mpr ⟨entry, hentry, hname⟩)⟩
  · rintro ⟨halphabetic, hnodup⟩
    refine ⟨fun name hname => ?_, hnodup⟩
    obtain ⟨entry, hentry, hname⟩ := List.mem_filterMap.mp hname
    obtain ⟨name', hname', hletter⟩ := halphabetic entry hentry
    rw [hname, Option.some.injEq] at hname'
    exact hname' ▸ hletter

theorem names_sublist (entries : List FieldDeclaration) :
    ((entries.filterMap FieldDeclaration.column?).map Field.name).Sublist
      (entries.filterMap FieldDeclaration.name) := by
  induction entries with
  | nil => exact List.Sublist.refl []
  | cons entry rest ih =>
      rw [List.filterMap_cons, List.filterMap_cons, FieldDeclaration.column?]
      cases entry.name <;> cases entry.isActive <;>
        simp [ih, FieldDeclaration.toField, List.Sublist.cons]

theorem forall₂_declares {entries : List FieldDeclaration}
    (hnamed : ∀ entry ∈ entries, ∃ name, entry.name = some name) :
    List.Forall₂ FieldDeclaration.Declares
      (entries.filter fun entry => entry.active ≠ some false)
      (entries.filterMap FieldDeclaration.column?) := by
  induction entries with
  | nil => exact .nil
  | cons entry rest ih =>
      obtain ⟨⟨name, hname⟩, hrest⟩ := List.forall_mem_cons.mp hnamed
      rw [List.filterMap_cons, FieldDeclaration.column?, List.filter_cons, hname]
      by_cases hactive : entry.active ≠ some false
      · rw [if_pos (decide_eq_true hactive), if_pos (FieldDeclaration.isActive_iff.mpr hactive)]
        exact .cons (FieldDeclaration.declares_toField hname) (ih hrest)
      · rw [if_neg (by simpa using hactive), if_neg (mt FieldDeclaration.isActive_iff.mp hactive)]
        exact ih hrest

theorem columns_ne_nil_iff {entries : List FieldDeclaration}
    (hnamed : ∀ entry ∈ entries, ∃ name, entry.name = some name) :
    entries.filterMap FieldDeclaration.column? ≠ [] ↔
      ∃ entry ∈ entries, entry.active ≠ some false := by
  have hlength := (forall₂_declares hnamed).length_eq
  rw [← List.length_pos_iff, ← hlength, List.length_pos_iff, ne_eq, List.filter_eq_nil_iff]
  simp

/-- A declaration makes a table just if it is valid: that of its name, with the columns of its
active entries. -/
theorem toTable_eq_ok_iff {declaration : TableDeclaration} {table : Table} :
    declaration.toTable = .ok table ↔
      declaration.Valid ∧ declaration.name = some table.name ∧
        table.fields = declaration.entries.filterMap FieldDeclaration.column? := by
  cases hname : declaration.name with
  | none =>
      rw [toTable_of_unnamed hname]
      exact iff_of_false (fun h => nomatch h) fun h => nomatch h.2.1
  | some name =>
      rw [toTable_eq hname]
      by_cases hentries : declaration.entries = []
      · rw [if_pos hentries]
        exact iff_of_false (fun h => nomatch h) fun h => h.1.entries_ne_nil hentries
      rw [if_neg hentries, bind_eq_ok_iff]
      simp only [activeFields_eq_ok_iff, Table.build_eq_ok_iff]
      constructor
      · rintro ⟨_, ⟨hnamed, ⟨hnames, -⟩, rfl⟩, hletter, -, hcolumns, rfl⟩
        obtain ⟨hletters, hnodup⟩ := (areColumnNames_iff hnamed).mp hnames
        exact ⟨⟨⟨name, hname, hletter⟩, hentries, hletters, hnodup,
          (columns_ne_nil_iff hnamed).mp hcolumns⟩, rfl, rfl⟩
      · rintro ⟨hvalid, hsame, hfields⟩
        obtain ⟨name', hname', hletter⟩ := hvalid.named
        obtain rfl : name = name' := Option.some.inj (hname ▸ hname')
        have hnamed : ∀ entry ∈ declaration.entries, ∃ name, entry.name = some name :=
          fun entry hentry => (hvalid.entries_named entry hentry).imp fun _ h => h.1
        have hnames := (areColumnNames_iff hnamed).mpr ⟨hvalid.entries_named, hvalid.names_nodup⟩
        refine ⟨_, ⟨hnamed, ⟨hnames, by simp⟩, rfl⟩, hletter, hnames.sublist (names_sublist _),
          (columns_ne_nil_iff hnamed).mpr hvalid.exists_active, ?_⟩
        rw [← hfields]
        cases table
        cases hsame
        rfl

theorem names_of_all_active {entries : List FieldDeclaration}
    (hactive : ∀ entry ∈ entries, entry.active ≠ some false) :
    (entries.filterMap FieldDeclaration.column?).map Field.name
      = entries.filterMap FieldDeclaration.name := by
  induction entries with
  | nil => rfl
  | cons entry rest ih =>
      obtain ⟨hentry, hrest⟩ := List.forall_mem_cons.mp hactive
      rw [List.filterMap_cons, List.filterMap_cons, FieldDeclaration.column?,
        if_pos (FieldDeclaration.isActive_iff.mpr hentry)]
      cases entry.name with
      | none => exact ih hrest
      | some name => exact congrArg (name :: ·) (ih hrest)

theorem toTable_eq_ok_iff_build {declaration : TableDeclaration} {name : String}
    (hname : declaration.name = some name)
    (hactive : ∀ entry ∈ declaration.entries, entry.active ≠ some false)
    (hnamed : ∀ entry ∈ declaration.entries, ∃ name, entry.name = some name) (table : Table) :
    declaration.toTable = .ok table ↔
      Table.build name (declaration.entries.filterMap FieldDeclaration.column?) = .ok table := by
  rw [toTable_eq_ok_iff, Table.build_eq_ok_iff, names_of_all_active hactive,
    areColumnNames_iff hnamed, columns_ne_nil_iff hnamed, hname]
  constructor
  · rintro ⟨⟨⟨name', hname', hletter⟩, hentries, hletters, hnodup, hexists⟩, hsame, hfields⟩
    rw [hname, Option.some.injEq] at hname'
    refine ⟨hname' ▸ hletter, ⟨hletters, hnodup⟩, hexists, ?_⟩
    rw [← hfields]
    cases table
    cases hsame
    rfl
  · rintro ⟨hletter, ⟨hletters, hnodup⟩, hexists, rfl⟩
    obtain ⟨entry, hentry, -⟩ := hexists
    exact ⟨⟨⟨name, hname, hletter⟩, List.ne_nil_of_mem hentry, hletters, hnodup, ⟨entry, hentry,
      hactive entry hentry⟩⟩, rfl, rfl⟩

end TableDeclaration

namespace Table

/-- A document makes a table just if what it declares is valid, which is asked of all entries,
active or not. The table has the columns of the active entries in their order, and where all entries
are active it is the one that is built from their columns. -/
theorem ofYaml_declaration {document : String} {declaration : TableDeclaration}
    (hdocument : Yaml.decode? TableDeclaration.decode document = some declaration) :
    ((∃ table, ofYaml document = .ok table) ↔ declaration.Valid) ∧
      (∀ table, ofYaml document = .ok table →
        declaration.name = some table.name ∧
          List.Forall₂ FieldDeclaration.Declares
            (declaration.entries.filter fun entry => entry.active ≠ some false) table.fields) ∧
      (∀ fault, ofYaml document = .error fault → ∃ cause, fault = .config cause) ∧
      ∀ name, declaration.name = some name →
        (∀ entry ∈ declaration.entries, entry.active ≠ some false ∧ entry.name ≠ none) →
        ∃ fields, List.Forall₂ FieldDeclaration.Declares declaration.entries fields ∧
          (∀ table, ofYaml document = .ok table ↔ build name fields = .ok table) ∧
          ∀ fault, build name fields = .error fault → ∃ cause, fault = .config cause := by
  have hmade : ofYaml document = declaration.toTable := by rw [ofYaml, hdocument]
  have hmake : ∀ {table : Table}, declaration.toTable = .ok table ↔ _ :=
    TableDeclaration.toTable_eq_ok_iff
  rw [hmade]
  refine ⟨⟨fun ⟨table, htable⟩ => (hmake.mp htable).1, fun hvalid => ?_⟩, fun table htable => ?_,
    declaration.failsAsConfig_toTable, fun name hname hentries => ?_⟩
  · obtain ⟨name, hname, -⟩ := hvalid.named
    exact ⟨⟨name, _⟩, hmake.mpr ⟨hvalid, hname, rfl⟩⟩
  · obtain ⟨hvalid, hname, hfields⟩ := hmake.mp htable
    rw [hfields]
    exact ⟨hname, TableDeclaration.forall₂_declares fun entry hentry =>
      (hvalid.entries_named entry hentry).imp fun _ h => h.1⟩
  · have hactive := fun entry hentry => (hentries entry hentry).1
    have hnamed : ∀ entry ∈ declaration.entries, ∃ name, entry.name = some name :=
      fun entry hentry => Option.ne_none_iff_exists'.mp (hentries entry hentry).2
    refine ⟨declaration.entries.filterMap FieldDeclaration.column?, ?_,
      declaration.toTable_eq_ok_iff_build hname hactive hnamed, failsAsConfig_build name _⟩
    have hdeclared := TableDeclaration.forall₂_declares hnamed
    rwa [List.filter_eq_self.mpr fun entry hentry => decide_eq_true (hactive entry hentry)]
      at hdeclared

theorem ofYaml_declaration_inactive :
    let document (active last : String) : String := "name: Stations\nfields:\n"
      ++ "- name: ID\n  type: ' INT '\n  method: ''\n- name: old\n  active: " ++ active ++ "\n"
      ++ "- name: id\n  type: bigint\n  method: TO_CHAR\n- name: " ++ last ++ "\n"
    let declaration (active : Bool) (last : String) : TableDeclaration :=
      { name := some "Stations", fields := some [
          { name := some "ID", kind := some " INT ", method := some "" },
          { name := some "old", active := some active },
          { name := some "id", kind := some "bigint", method := some "TO_CHAR" },
          { name := some last }] }
    (∀ last ∈ ["Old", "old"], Yaml.decode? TableDeclaration.decode (document "false" last)
        = some (declaration false last)) ∧
      Yaml.decode? TableDeclaration.decode (document "true" "Old")
        = some (declaration true "Old") ∧
      (∃ table, ofYaml (document "false" "Old") = .ok table ∧ table.name = "Stations" ∧
        table.fields.length = 3) ∧
      (¬∃ table, ofYaml (document "false" "old") = .ok table) ∧
      ∃ fields table, fields.length = 4 ∧ build "Stations" fields = .ok table ∧
        ofYaml (document "true" "Old") = .ok table := by
  intro document declaration
  have hdecode : ∀ last ∈ ["Old", "old"],
      Yaml.decode? TableDeclaration.decode (document "false" last)
        = some (declaration false last) := by decide +kernel
  have hdecodeActive : Yaml.decode? TableDeclaration.decode (document "true" "Old")
      = some (declaration true "Old") := by decide +kernel
  obtain ⟨hvalid, htable, -⟩ := ofYaml_declaration (hdecode "Old" (by simp))
  obtain ⟨hvalidActive, -, -, hbuild⟩ := ofYaml_declaration hdecodeActive
  refine ⟨hdecode, hdecodeActive, ?_, ?_, ?_⟩
  · obtain ⟨table, hmade⟩ := hvalid.mpr
      ⟨⟨_, rfl, by decide +kernel⟩, by decide, by decide +kernel, by decide, by decide⟩
    obtain ⟨hname, hfields⟩ := htable table hmade
    exact ⟨table, hmade, (Option.some.inj hname).symm, hfields.length_eq.symm⟩
  · rw [(ofYaml_declaration (hdecode "old" (by simp))).1]
    exact fun h => absurd h.names_nodup (by decide)
  · obtain ⟨table, hmade⟩ := hvalidActive.mpr
      ⟨⟨_, rfl, by decide +kernel⟩, by decide, by decide +kernel, by decide, by decide⟩
    obtain ⟨fields, hfields, hagrees, -⟩ := hbuild "Stations" rfl (by decide)
    exact ⟨fields, table, hfields.length_eq.symm, (hagrees table).mp hmade, hmade⟩

end Table

end ObservationSql
