import Mathlib.Algebra.Ring.Parity
import ObservationSql.Proofs.Query.Join.History

namespace ObservationSql

/-- A column as a call asks for it. An empty label is none. -/
structure Selection where
  field : String
  label : String
  deriving DecidableEq

namespace Selection

def sameColumn (later first : Selection) : Bool :=
  Text.eqFold later.field first.field

/-- The first selection of every column, in order. -/
def firsts (selections : List Selection) : List Selection :=
  selections.eraseDupsBy sameColumn

def besides (seen selections : List Selection) : List Selection :=
  selections.filter fun later => !seen.any later.sameColumn

def labels (selection : Selection) : List (String × String) :=
  if selection.label = "" then [] else [(selection.field, selection.label)]

theorem besides_nil (selections : List Selection) : besides [] selections = selections :=
  List.filter_eq_self.mpr fun _ _ => rfl

theorem besides_cons (seen : List Selection) (selection : Selection) (rest : List Selection) :
    besides seen (selection :: rest) = besides seen [selection] ++ besides seen rest :=
  List.filter_append [selection] rest

theorem besides_concat (seen : List Selection) (selection : Selection) (rest : List Selection) :
    besides (seen ++ [selection]) rest
      = (besides seen rest).filter fun later => later.sameColumn selection = false := by
  rw [besides, besides, List.filter_filter]
  apply List.filter_congr
  intro later _
  simp [Bool.and_comm]

theorem firsts_cons (selection : Selection) (rest : List Selection) :
    firsts (selection :: rest)
      = selection :: firsts (rest.filter fun later => later.sameColumn selection = false) :=
  List.eraseDupsBy_cons

theorem firsts_besides_cons (seen : List Selection) (selection : Selection)
    (rest : List Selection) :
    firsts (besides seen (selection :: rest))
      = besides seen [selection] ++ firsts (besides (seen ++ besides seen [selection]) rest) := by
  cases hseen : seen.any selection.sameColumn with
  | true =>
      have hnone : besides seen [selection] = [] := by simp [besides, hseen]
      rw [besides_cons, hnone, List.nil_append, List.nil_append, List.append_nil]
  | false =>
      have hnew : besides seen [selection] = [selection] := by simp [besides, hseen]
      rw [besides_cons, hnew, besides_concat, List.singleton_append, List.singleton_append,
        firsts_cons]

theorem exists_first {selections : List Selection} {selection : Selection}
    (h : selection ∈ selections) :
    ∃ first ∈ firsts selections, selection.sameColumn first = true := by
  match selections with
  | head :: rest =>
      rw [firsts_cons]
      by_cases hsame : selection.sameColumn head = true
      · exact ⟨head, List.mem_cons_self, hsame⟩
      · have hrest : selection ∈ rest := by
          rcases List.mem_cons.mp h with rfl | hrest
          · exact absurd (Text.eqFold_refl _) hsame
          · exact hrest
        have hkept : selection ∈ rest.filter fun later => later.sameColumn head = false :=
          List.mem_filter.mpr ⟨hrest, by simpa using hsame⟩
        obtain ⟨first, hfirst, hcolumn⟩ := exists_first hkept
        exact ⟨first, List.mem_cons_of_mem head hfirst, hcolumn⟩
termination_by selections.length
decreasing_by exact Nat.lt_succ_of_le (List.length_filter_le _ _)

theorem firsts_eq_nil_iff {selections : List Selection} : firsts selections = [] ↔ selections = [] := by
  cases selections with
  | nil => simp [firsts]
  | cons selection rest => simp [firsts_cons]

theorem lookup_labels {selections : List Selection} (hnodup : (selections.map field).Nodup)
    {selection : Selection} (h : selection ∈ selections) :
    (selections.flatMap labels).lookup selection.field
      = if selection.label = "" then none else some selection.label := by
  induction selections with
  | nil => exact absurd h List.not_mem_nil
  | cons first rest ih =>
      rw [List.map_cons, List.nodup_cons] at hnodup
      rw [List.flatMap_cons, List.lookup_append]
      rcases List.mem_cons.mp h with rfl | hrest
      · have hothers : (rest.flatMap labels).lookup selection.field = none := by
          rw [List.lookup_eq_none_iff]
          intro entry hentry
          obtain ⟨other, hother, hlabel⟩ := List.mem_flatMap.mp hentry
          have hfield : entry.1 = other.field := by
            unfold labels at hlabel
            split at hlabel
            · exact absurd hlabel List.not_mem_nil
            · rw [List.mem_singleton.mp hlabel]
          rw [hfield, bne_iff_ne]
          intro hsame
          exact hnodup.1 (hsame ▸ List.mem_map_of_mem hother)
        rw [hothers]
        by_cases hlabel : selection.label = "" <;> simp [labels, hlabel]
      · have hne : selection.field ≠ first.field := by
          intro hsame
          exact hnodup.1 (hsame ▸ List.mem_map_of_mem hrest)
        have hfirst : first.labels.lookup selection.field = none := by
          by_cases hlabel : first.label = "" <;> simp [labels, hlabel, hne]
        rw [hfirst, Option.none_or, ih hnodup.2 hrest]

end Selection

def JoinCall.selection? : JoinCall → Option Selection
  | field name label => some ⟨name, label⟩
  | _ => none

/-- How a selection shows where columns are taken from the first of some tables that has them. -/
inductive Shows (tables : List Table) : Selection → String → Prop where
  | bare {field table : String} (howner : JoinQuery.FirstDeclaring tables field table) :
      Shows tables ⟨field, ""⟩ (table ++ "." ++ field)
  | labelled {field label table : String} (hlabel : label ≠ "")
      (howner : JoinQuery.FirstDeclaring tables field table) :
      Shows tables ⟨field, label⟩ (table ++ "." ++ field ++ " as " ++ label)

namespace JoinQuery

/-- Whether the columns and labels of a query are those of some selections. -/
structure Records (query : JoinQuery) (selections : List Selection) : Prop where
  fields_eq : query.fields.map SelectedField.field = selections.map Selection.field
  labels_eq : query.labels = selections.flatMap Selection.labels

theorem Records.selects_eq {query : JoinQuery} {seen : List Selection} (h : query.Records seen)
    (selection : Selection) :
    query.selects selection.field = seen.any selection.sameColumn := by
  have hany : query.selects selection.field
      = (query.fields.map SelectedField.field).any fun name => Text.eqFold selection.field name := by
    rw [selects, List.any_map]
    congr 1
    funext selected
    exact Text.eqFold_comm _ _
  rw [hany, h.fields_eq, List.any_map]
  rfl

theorem Records.admits {query next : JoinQuery} {call : JoinCall} {seen : List Selection}
    (h : query.Records seen) (hadmits : query.Admits call next) :
    next.Records (seen ++ Selection.besides seen call.selection?.toList) := by
  cases hadmits with
  | @selected field label hselected =>
      rw [h.selects_eq ⟨field, label⟩] at hselected
      have hnone : Selection.besides seen [⟨field, label⟩] = [] := by
        simp [Selection.besides, hselected]
      change query.Records (seen ++ Selection.besides seen [⟨field, label⟩])
      rwa [hnone, List.append_nil]
  | @field field label table hfresh howner =>
      rw [h.selects_eq ⟨field, label⟩] at hfresh
      have hnew : Selection.besides seen [⟨field, label⟩] = [⟨field, label⟩] := by
        simp [Selection.besides, hfresh]
      change Records _ (seen ++ Selection.besides seen [⟨field, label⟩])
      rw [hnew]
      exact { fields_eq := by simp [h.fields_eq]
              labels_eq := by simp [h.labels_eq, Selection.labels] }
  | _ =>
      change Records _ (seen ++ [])
      rw [List.append_nil]
      exact { fields_eq := h.fields_eq, labels_eq := h.labels_eq }

theorem AdmitsAll.records {query next : JoinQuery} {calls : List JoinCall}
    (h : query.AdmitsAll calls next) {seen : List Selection} (hseen : query.Records seen) :
    next.Records (seen
      ++ Selection.firsts (Selection.besides seen (calls.filterMap JoinCall.selection?))) := by
  induction h generalizing seen with
  | nil query =>
      rw [List.filterMap_nil]
      change query.Records (seen ++ [])
      rwa [List.append_nil]
  | @cons query middle next call rest hcall hrest ih =>
      have hrecords := ih (hseen.admits hcall)
      cases hselection : call.selection? with
      | none =>
          rw [hselection] at hrecords
          rw [List.filterMap_cons_none hselection]
          change next.Records ((seen ++ [])
            ++ Selection.firsts (Selection.besides (seen ++ []) _)) at hrecords
          rwa [List.append_nil] at hrecords
      | some selection =>
          rw [hselection, Option.toList_some, List.append_assoc] at hrecords
          rw [List.filterMap_cons_some hselection, Selection.firsts_besides_cons]
          exact hrecords

/-- The selections of a run that go through. -/
def selections (query : JoinQuery) (calls : List JoinCall) : List Selection :=
  (query.admitted calls).filterMap JoinCall.selection?

theorem records_run (primary : Table) (calls : List JoinCall) :
    ((ofPrimary primary).run calls).Records
      (Selection.firsts ((ofPrimary primary).selections calls)) := by
  have hfresh : (ofPrimary primary).Records [] := ⟨rfl, rfl⟩
  have hrecords := (admitsAll_admitted (ofPrimary primary) calls).records hfresh
  rwa [Selection.besides_nil, List.nil_append] at hrecords

namespace Records

variable {query : JoinQuery} {selections : List Selection}

theorem label?_eq (h : query.Records selections) (hquery : query.WellFormed)
    {selection : Selection} (hselection : selection ∈ selections) :
    query.label? selection.field
      = if selection.label = "" then none else some selection.label := by
  have hnodup : (selections.map Selection.field).Nodup := h.fields_eq ▸ hquery.fields_nodup
  rw [label?, h.labels_eq, Selection.lookup_labels hnodup hselection]

theorem shows_columnText (h : query.Records selections) (hquery : query.WellFormed)
    {selected : SelectedField} {selection : Selection} (hselected : selected ∈ query.fields)
    (hselection : selection ∈ selections) (hfield : selected.field = selection.field) :
    Shows query.tables selection (query.columnText selected) := by
  have howner := hquery.fields_owned selected hselected
  have hlabel := h.label?_eq hquery hselection
  obtain ⟨field, label⟩ := selection
  obtain rfl : selected.field = field := hfield
  rw [columnText, hlabel]
  by_cases hempty : label = ""
  · subst hempty
    rw [if_pos rfl, String.append_empty]
    exact .bare howner
  · rw [if_neg hempty]
    change Shows _ _ (selected.table ++ "." ++ selected.field ++ (" as " ++ label))
    rw [← String.append_assoc]
    exact .labelled hempty howner

theorem forall₂_shows (h : query.Records selections) (hquery : query.WellFormed) :
    List.Forall₂ (Shows query.tables) selections (query.fields.map query.columnText) := by
  have hfields : List.Forall₂ (fun selection selected => selected.field = selection.field)
      selections query.fields := by
    have hsame := h.fields_eq.symm
    rw [← List.forall₂_eq_eq_eq, List.forall₂_map_left_iff, List.forall₂_map_right_iff] at hsame
    exact hsame.imp fun _ _ => Eq.symm
  rw [List.forall₂_map_right_iff, List.forall₂_iff_zip]
  obtain ⟨hlength, hzip⟩ := List.forall₂_iff_zip.mp hfields
  refine ⟨hlength, fun {selection selected} hmem => ?_⟩
  obtain ⟨hselection, hselected⟩ := List.of_mem_zip hmem
  exact h.shows_columnText hquery hselected hselection (hzip hmem)

end Records

theorem isDistinct_step (query : JoinQuery) (call : JoinCall) :
    (query.step call).isDistinct = (query.isDistinct != decide (call = .distinct)) := by
  by_cases hcall : call = .distinct
  · subst hcall
    rw [step_of_admits .distinct]
    simp
  · rw [decide_eq_false hcall, Bool.bne_false]
    rcases step_eq_or_admits query call with hsame | hadmits
    · rw [hsame]
    · generalize query.step call = next at hadmits
      cases hadmits with
      | distinct => exact absurd rfl hcall
      | _ => rfl

theorem isDistinct_run (query : JoinQuery) (calls : List JoinCall) :
    (query.run calls).isDistinct = (query.isDistinct != decide (Odd (calls.count .distinct))) := by
  induction calls generalizing query with
  | nil => simp [run]
  | cons call rest ih =>
      rw [run_cons, ih, isDistinct_step, List.count_cons]
      by_cases hcall : call = .distinct
      · by_cases hodd : Odd (rest.count .distinct) <;> simp [hcall, hodd, Nat.odd_add_one]
      · simp [hcall]

theorem selectClause_eq (query : JoinQuery) :
    query.selectClause
      = (if query.isDistinct = true ∧ query.fields ≠ [] then "DISTINCT " else "")
        ++ Text.joinWith ", " (query.fields.map query.columnText) := by
  rw [selectClause]
  cases hfields : query.fields with
  | nil => simp [Text.joinWith]
  | cons selected rest => simp

theorem step_repeated {query : JoinQuery} {first later : Selection} {selections : List Selection}
    (h : query.Records (Selection.firsts selections)) (hfirst : first ∈ selections)
    (hsame : later.sameColumn first = true) :
    query.step (.field later.field later.label) = query := by
  have hselects : query.selects later.field = true := by
    rw [h.selects_eq later, List.any_eq_true]
    obtain ⟨kept, hkept, hcolumn⟩ := Selection.exists_first hfirst
    refine ⟨kept, hkept, ?_⟩
    rw [Selection.sameColumn, Text.eqFold_iff] at hsame hcolumn ⊢
    exact hsame.trans hcolumn
  exact step_of_admits (.selected hselects)

/-- The select list shows the first selection of every column, in order and as it was spelled, each
qualified with the first table that declares the column in the end. A column has the label of its
own first selection or none, and the word DISTINCT stands before them after an odd number of
toggles. A further call for a column that is there might as well not have been made. -/
theorem selectClause_history (primary : Table) :
    (∀ calls : List JoinCall,
      let query := (ofPrimary primary).run calls
      let selections := (ofPrimary primary).selections calls
      (∃ columns, List.Forall₂ (Shows query.tables) (Selection.firsts selections) columns ∧
        query.selectClause
          = (if Odd (calls.count .distinct) ∧ selections ≠ [] then "DISTINCT " else "")
            ++ Text.joinWith ", " columns) ∧
      ∀ selected ∈ query.fields, ∀ label, query.label? selected.field = some label →
        ⟨selected.field, label⟩ ∈ Selection.firsts selections) ∧
    ∀ (before after : List JoinCall) (first later : Selection),
      first ∈ (ofPrimary primary).selections before → later.sameColumn first = true →
      (ofPrimary primary).run (before ++ .field later.field later.label :: after)
        = (ofPrimary primary).run (before ++ after) := by
  refine ⟨fun calls => ?_, fun before after first later hfirst hsame => ?_⟩
  · intro query selections
    have hquery : query.WellFormed := (wellFormed_ofPrimary primary).run calls
    have hrecords : query.Records (Selection.firsts selections) := records_run primary calls
    refine ⟨⟨_, hrecords.forall₂_shows hquery, ?_⟩, ?_⟩
    · have hdistinct : query.isDistinct = true ↔ Odd (calls.count .distinct) := by
        rw [isDistinct_run (ofPrimary primary) calls]
        simp [ofPrimary]
      have hempty : query.fields = [] ↔ selections = [] := by
        rw [← Selection.firsts_eq_nil_iff, ← List.map_eq_nil_iff (f := SelectedField.field),
          hrecords.fields_eq, List.map_eq_nil_iff]
      simp only [selectClause_eq, hdistinct, ne_eq, hempty]
    · intro selected hselected label hlabel
      have hmem : selected.field ∈ (Selection.firsts selections).map Selection.field :=
        hrecords.fields_eq ▸ List.mem_map_of_mem hselected
      obtain ⟨selection, hselection, hfield⟩ := List.mem_map.mp hmem
      rw [← hfield, hrecords.label?_eq hquery hselection] at hlabel
      split at hlabel
      · cases hlabel
      · cases hlabel
        rwa [← hfield]
  · rw [run_append, run_append, run_cons, step_repeated (records_run primary before) hfirst hsame]

theorem selectClause_history_repeated :
    let before : List JoinCall := [.field "network_id" "lost", .distinct, .field "fmisid" "",
      .field "FMISID" "late", .join networks ["FMISID"] "inner", .field "Network_ID" "net"]
    ((ofPrimary stations).run (before ++ [.distinct, .distinct])).selectClause
        = "DISTINCT STATION_V1.fmisid, NETWORK_MEMBER_V1.Network_ID as net" ∧
      (ofPrimary stations).selections before
        = [⟨"fmisid", ""⟩, ⟨"FMISID", "late"⟩, ⟨"Network_ID", "net"⟩] ∧
      (ofPrimary stations).run (before ++ [.field "NETWORK_ID" "other", .distinct])
        = (ofPrimary stations).run (before ++ [.distinct]) ∧
      Selection.mk "Network_ID" "net" ∈ Selection.firsts ((ofPrimary stations).selections before) := by
  intro before
  have hselections : (ofPrimary stations).selections before
      = [⟨"fmisid", ""⟩, ⟨"FMISID", "late"⟩, ⟨"Network_ID", "net"⟩] := by decide +kernel
  have hfirst : (⟨"Network_ID", "net"⟩ : Selection) ∈ (ofPrimary stations).selections before := by
    rw [hselections]
    decide
  refine ⟨by decide +kernel, hselections, ?_, ?_⟩
  · exact (selectClause_history stations).2 before [.distinct] ⟨"Network_ID", "net"⟩
      ⟨"NETWORK_ID", "other"⟩ hfirst (by decide)
  · exact ((selectClause_history stations).1 before).2 ⟨"Network_ID", "NETWORK_MEMBER_V1"⟩
      (by decide +kernel) "net" (by decide +kernel)

end JoinQuery

end ObservationSql
