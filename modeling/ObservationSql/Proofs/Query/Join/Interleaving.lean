import ObservationSql.Proofs.Filter.OperatorSet
import ObservationSql.Proofs.Query.Join.Admission
import ObservationSql.Query.Join.Clauses

/-!
The order of calls of different kinds does not matter. A column that has an owner keeps it when
further tables are joined, so joins may come first; and apart from the tables, a call reads and
changes one part of the query only.
-/

namespace ObservationSql

/-- The parts of a query that calls of one kind build up. -/
inductive JoinPart where
  | joins
  | fields
  | groups
  | order
  | distinct
  | operators
  | window
  | box
  deriving DecidableEq

def JoinCall.part : JoinCall → JoinPart
  | join _ _ _ => .joins
  | field _ _ => .fields
  | predicate _ _ _ _ => .groups
  | order _ _ => .order
  | distinct => .distinct
  | operators _ => .operators
  | window _ _ => .window
  | box _ _ _ _ => .box

def JoinCall.joined? : JoinCall → Option Table
  | join other _ _ => some other
  | _ => none

/-- The same calls with the joins in front, otherwise in their order. -/
def joinsFirst (calls : List JoinCall) : List JoinCall :=
  calls.filter (·.part = .joins) ++ calls.filter (·.part ≠ .joins)

namespace JoinQuery

def succeeds (query : JoinQuery) : List JoinCall → Bool
  | [] => true
  | call :: rest => (query.perform call).isOk && (query.step call).succeeds rest

/-- Calls that are admitted one after the other, and the query that they lead to. -/
inductive AdmitsAll : JoinQuery → List JoinCall → JoinQuery → Prop where
  | nil (query : JoinQuery) : AdmitsAll query [] query
  | cons {query middle next : JoinQuery} {call : JoinCall} {rest : List JoinCall}
      (hcall : query.Admits call middle) (hrest : AdmitsAll middle rest next) :
      AdmitsAll query (call :: rest) next

theorem succeeds_iff {query : JoinQuery} {calls : List JoinCall} :
    query.succeeds calls = true ↔ ∃ next, query.AdmitsAll calls next := by
  induction calls generalizing query with
  | nil => exact ⟨fun _ => ⟨query, .nil query⟩, fun _ => rfl⟩
  | cons call rest ih =>
      rw [succeeds, Bool.and_eq_true, isOk_perform_iff, ih]
      constructor
      · rintro ⟨⟨middle, hcall⟩, next, hrest⟩
        rw [step_of_admits hcall] at hrest
        exact ⟨next, .cons hcall hrest⟩
      · rintro ⟨next, hall⟩
        cases hall with
        | cons hcall hrest =>
            rw [step_of_admits hcall]
            exact ⟨⟨_, hcall⟩, next, hrest⟩

theorem AdmitsAll.run_eq {query next : JoinQuery} {calls : List JoinCall}
    (h : query.AdmitsAll calls next) : query.run calls = next := by
  induction h with
  | nil query => rfl
  | cons hcall hrest ih =>
      rw [run_cons, step_of_admits hcall, ih]

theorem admitsAll_append_iff {query next : JoinQuery} {calls more : List JoinCall} :
    query.AdmitsAll (calls ++ more) next ↔
      ∃ middle, query.AdmitsAll calls middle ∧ middle.AdmitsAll more next := by
  induction calls generalizing query with
  | nil =>
      constructor
      · intro h
        exact ⟨query, .nil query, h⟩
      · rintro ⟨middle, hnil, h⟩
        cases hnil
        exact h
  | cons call rest ih =>
      constructor
      · intro h
        cases h with
        | cons hcall hrest =>
            obtain ⟨middle, hrest, hmore⟩ := ih.mp hrest
            exact ⟨middle, .cons hcall hrest, hmore⟩
      · rintro ⟨middle, hcalls, hmore⟩
        cases hcalls with
        | cons hcall hrest => exact .cons hcall (ih.mpr ⟨middle, hrest, hmore⟩)

theorem find?_declares_append {tables : List Table} {field : String} {table : Table}
    (howner : (tables.find? fun table => table.declares field) = some table) (more : List Table) :
    ((tables ++ more).find? fun table => table.declares field) = some table := by
  rw [List.find?_append, howner, Option.some_or]

/-- A join that follows a call of another kind may as well come before it. -/
theorem Admits.join_before {query middle next : JoinQuery} {call : JoinCall} {other : Table}
    {fields : List String} {token : String} (hpart : call.part ≠ .joins)
    (hcall : query.Admits call middle) (hjoin : middle.Admits (.join other fields token) next) :
    ∃ joined, query.Admits (.join other fields token) joined ∧ joined.Admits call next := by
  cases hjoin with
  | join hfields hnew hdeclared hkind =>
      cases hcall with
      | join => exact absurd rfl hpart
      | selected hselected =>
          exact ⟨_, .join hfields hnew hdeclared hkind, .selected hselected⟩
      | field hfresh howner =>
          exact ⟨_, .join hfields hnew hdeclared hkind,
            .field hfresh (find?_declares_append howner [other])⟩
      | predicate hoperator howner hoperand =>
          exact ⟨_, .join hfields hnew hdeclared hkind,
            .predicate hoperator (find?_declares_append howner [other]) hoperand⟩
      | order howner hfresh hdirection =>
          exact ⟨_, .join hfields hnew hdeclared hkind,
            .order (find?_declares_append howner [other]) hfresh hdirection⟩
      | distinct => exact ⟨_, .join hfields hnew hdeclared hkind, .distinct⟩
      | operators => exact ⟨_, .join hfields hnew hdeclared hkind, .operators⟩
      | window hle => exact ⟨_, .join hfields hnew hdeclared hkind, .window hle⟩
      | box hx hy hbounds => exact ⟨_, .join hfields hnew hdeclared hkind, .box hx hy hbounds⟩

theorem AdmitsAll.joins_before {query middle next : JoinQuery} {call : JoinCall}
    {joins : List JoinCall} (hpart : call.part ≠ .joins) (hcall : query.Admits call middle)
    (hjoins : middle.AdmitsAll joins next) (hall : ∀ join ∈ joins, join.part = .joins) :
    ∃ joined, query.AdmitsAll joins joined ∧ joined.Admits call next := by
  induction hjoins generalizing query with
  | nil middle => exact ⟨query, .nil query, hcall⟩
  | @cons middle after next join rest hjoin hrest ih =>
      cases join with
      | join other fields token =>
          obtain ⟨joined, hjoined, hcall⟩ := hcall.join_before hpart hjoin
          obtain ⟨last, hrest, hcall⟩ :=
            ih hcall (fun join hmem => hall join (List.mem_cons_of_mem _ hmem))
          exact ⟨last, .cons hjoined hrest, hcall⟩
      | _ => cases hall _ List.mem_cons_self

theorem AdmitsAll.joinsFirst {query next : JoinQuery} {calls : List JoinCall}
    (h : query.AdmitsAll calls next) : query.AdmitsAll (joinsFirst calls) next := by
  induction h with
  | nil query => exact .nil query
  | @cons query middle next call rest hcall hrest ih =>
      unfold ObservationSql.joinsFirst at ih ⊢
      by_cases hpart : call.part = .joins
      · rw [List.filter_cons_of_pos (by simpa using hpart),
          List.filter_cons_of_neg (by simpa using hpart)]
        exact .cons hcall ih
      · rw [List.filter_cons_of_neg (by simpa using hpart),
          List.filter_cons_of_pos (by simpa using hpart)]
        obtain ⟨joined, hjoins, hothers⟩ := admitsAll_append_iff.mp ih
        obtain ⟨start, hjoins, hcall⟩ := hjoins.joins_before hpart hcall (by simp)
        exact admitsAll_append_iff.mpr ⟨start, hjoins, .cons hcall hothers⟩

/-- One part of a query, with the others as at the start. -/
def view (part : JoinPart) (query : JoinQuery) : JoinQuery :=
  match part with
  | .joins => { primary := query.primary, others := query.others, joins := query.joins }
  | .fields => { primary := query.primary, fields := query.fields, labels := query.labels }
  | .groups => { primary := query.primary, groups := query.groups }
  | .order => { primary := query.primary, order := query.order }
  | .distinct => { primary := query.primary, isDistinct := query.isDistinct }
  | .operators => { primary := query.primary, operators := query.operators }
  | .window => { primary := query.primary, extent := { window := query.extent.window } }
  | .box => { primary := query.primary, extent := { box := query.extent.box } }

theorem eq_of_view_eq {query other : JoinQuery}
    (h : ∀ part, query.view part = other.view part) : query = other := by
  have hjoins := h .joins
  have hfields := h .fields
  have hgroups := h .groups
  have horder := h .order
  have hdistinct := h .distinct
  have hoperators := h .operators
  have hwindow := h .window
  have hbox := h .box
  obtain ⟨_, _, _, _, _, _, _, _, _, ⟨_, _⟩⟩ := query
  obtain ⟨_, _, _, _, _, _, _, _, _, ⟨_, _⟩⟩ := other
  simp_all [view]

/-- What an admitted call makes of a query when the owners of columns are taken from some tables.
Unlike the call itself it reads no other part of the query than its own. -/
def effect (tables : List Table) (query : JoinQuery) : JoinCall → JoinQuery
  | .join other fields token =>
      { query with
        joins := query.joins ++
          match JoinKind.parse token with
          | .ok kind => [⟨query.primary.name, other.name, fields, kind⟩]
          | .error _ => []
        others := query.others ++ [other] }
  | .field field label =>
      { query with
        fields := query.fields ++
          match query.selects field, tables.find? fun table => table.declares field with
          | false, some table => [⟨field, table.name⟩]
          | _, _ => []
        labels := query.labels ++
          if query.selects field || label = "" then [] else [(field, label)] }
  | .predicate group field name literal =>
      { query with
        groups :=
          match Operator.ofName? name, tables.find? fun table => table.declares field with
          | some operator, some table =>
              fileUnder group ⟨⟨operator, field, literal⟩, table.name⟩ query.groups
          | _, _ => query.groups }
  | .order field token =>
      { query with
        order := query.order ++
          match SortDirection.parse token with
          | .ok direction => [(field, direction)]
          | .error _ => [] }
  | .distinct => { query with isDistinct := !query.isDistinct }
  | .operators set => { query with operators := set }
  | .window start stop =>
      { query with extent := { query.extent with window := some (start, stop) } }
  | .box xMin yMin xMax yMax =>
      { query with extent := { query.extent with box := some ⟨xMin, yMin, xMax, yMax⟩ } }

theorem view_effect_of_ne {part : JoinPart} {call : JoinCall} (hpart : call.part ≠ part)
    (tables : List Table) (query : JoinQuery) :
    (query.effect tables call).view part = query.view part := by
  cases call <;> cases part <;> first | exact absurd rfl hpart | simp only [view, effect]

theorem view_effect_congr {query other : JoinQuery} {call : JoinCall} (tables : List Table)
    (h : query.view call.part = other.view call.part) :
    (query.effect tables call).view call.part = (other.effect tables call).view call.part := by
  cases call <;> simp_all [view, effect, JoinCall.part, selects]

/-- The part of a query that some calls build up depends on the calls about that part only. -/
theorem view_foldl_effect {part : JoinPart} {query other : JoinQuery} (tables : List Table)
    (calls : List JoinCall) (h : query.view part = other.view part) :
    (calls.foldl (effect tables) query).view part =
      ((calls.filter (·.part = part)).foldl (effect tables) other).view part := by
  induction calls generalizing query other with
  | nil => exact h
  | cons call rest ih =>
      by_cases hpart : call.part = part
      · subst hpart
        rw [List.filter_cons_of_pos (by simp), List.foldl_cons, List.foldl_cons]
        exact ih (view_effect_congr tables h)
      · rw [List.filter_cons_of_neg (by simpa using hpart), List.foldl_cons]
        exact ih ((view_effect_of_ne hpart tables query).trans h)

theorem ofName?_of_find_eq_ok {set : OperatorSet} {name : String} {operator : Operator}
    (h : set.find name = .ok operator) : Operator.ofName? name = some operator :=
  Operator.ofName?_eq_some_iff.mpr (OperatorSet.find_eq_ok_iff.mp h).2

theorem Admits.tables_eq {query next : JoinQuery} {call : JoinCall} (h : query.Admits call next) :
    next.tables = query.tables ++ call.joined?.toList := by
  cases h <;> simp [tables, JoinCall.joined?]

theorem Admits.eq_effect {query next : JoinQuery} {call : JoinCall} (h : query.Admits call next)
    (more : List Table) : next = query.effect (query.tables ++ more) call := by
  cases h with
  | join hfields hnew hdeclared hkind => simp [effect, hkind]
  | selected hselected => simp [effect, hselected]
  | field hfresh howner =>
      have howner := find?_declares_append howner more
      simp [effect, hfresh, howner]
  | predicate hoperator howner hoperand =>
      have howner := find?_declares_append howner more
      have hoperator := ofName?_of_find_eq_ok hoperator
      simp [effect, hoperator, howner]
  | order howner hfresh hdirection => simp [effect, hdirection]
  | distinct => rfl
  | operators => rfl
  | window hle => rfl
  | box hx hy hbounds => rfl

theorem AdmitsAll.tables_eq {query next : JoinQuery} {calls : List JoinCall}
    (h : query.AdmitsAll calls next) :
    next.tables = query.tables ++ calls.filterMap JoinCall.joined? := by
  induction h with
  | nil query => simp
  | @cons query middle next call rest hcall hrest ih =>
      rw [ih, hcall.tables_eq, List.append_assoc]
      cases hjoined : call.joined? <;> simp [hjoined]

theorem AdmitsAll.eq_foldl_effect {query next : JoinQuery} {calls : List JoinCall}
    (h : query.AdmitsAll calls next) (more : List Table) :
    next = calls.foldl (effect (next.tables ++ more)) query := by
  induction h with
  | nil query => rfl
  | @cons query middle next call rest hcall hrest ih =>
      have htables : next.tables =
          query.tables ++ (call.joined?.toList ++ rest.filterMap JoinCall.joined?) := by
        rw [hrest.tables_eq, hcall.tables_eq, List.append_assoc]
      rw [List.foldl_cons]
      have hmiddle : middle = query.effect (next.tables ++ more) call := by
        rw [htables, List.append_assoc]
        exact hcall.eq_effect _
      rw [← hmiddle]
      exact ih

theorem filterMap_joined?_eq (calls : List JoinCall) :
    calls.filterMap JoinCall.joined? =
      (calls.filter (·.part = .joins)).filterMap JoinCall.joined? := by
  rw [List.filterMap_filter]
  congr 1
  funext call
  cases call <;> rfl

theorem AdmitsAll.eq_of_filter_eq {query next other : JoinQuery} {calls calls' : List JoinCall}
    (h : query.AdmitsAll calls next) (h' : query.AdmitsAll calls' other)
    (hparts : ∀ part, calls.filter (·.part = part) = calls'.filter (·.part = part)) :
    next = other := by
  have htables : next.tables = other.tables := by
    rw [h.tables_eq, h'.tables_eq, filterMap_joined?_eq, hparts .joins, ← filterMap_joined?_eq]
  have hnext := h.eq_foldl_effect []
  have hother := h'.eq_foldl_effect []
  rw [← htables] at hother
  apply eq_of_view_eq
  intro part
  calc
    next.view part = (calls.foldl (effect (next.tables ++ [])) query).view part := by rw [← hnext]
    _ = ((calls.filter (·.part = part)).foldl (effect (next.tables ++ [])) query).view part :=
      view_foldl_effect _ calls rfl
    _ = (calls'.foldl (effect (next.tables ++ [])) query).view part := by
      rw [hparts part, ← view_foldl_effect _ calls' rfl]
    _ = other.view part := by rw [← hother]

/-- Runs without refused calls that agree method by method end in the same query and statement,
however the methods are interleaved; and the joins of such a run may all come first. -/
theorem run_interleaving (primary : Table) :
    (∀ calls calls' : List JoinCall,
      (ofPrimary primary).succeeds calls = true → (ofPrimary primary).succeeds calls' = true →
      (∀ part, calls.filter (·.part = part) = calls'.filter (·.part = part)) →
      (ofPrimary primary).run calls = (ofPrimary primary).run calls' ∧
      ∀ dialect, ((ofPrimary primary).run calls).sql dialect =
        ((ofPrimary primary).run calls').sql dialect) ∧
    ∀ calls : List JoinCall, (ofPrimary primary).succeeds calls = true →
      (ofPrimary primary).succeeds (joinsFirst calls) = true ∧
      (ofPrimary primary).run (joinsFirst calls) = (ofPrimary primary).run calls := by
  constructor
  · intro calls calls' hcalls hcalls' hparts
    obtain ⟨next, h⟩ := succeeds_iff.mp hcalls
    obtain ⟨other, h'⟩ := succeeds_iff.mp hcalls'
    have hrun : (ofPrimary primary).run calls = (ofPrimary primary).run calls' := by
      rw [h.run_eq, h'.run_eq]
      exact h.eq_of_filter_eq h' hparts
    refine ⟨hrun, ?_⟩
    intro dialect
    rw [hrun]
  · intro calls hcalls
    obtain ⟨next, h⟩ := succeeds_iff.mp hcalls
    have hfirst := h.joinsFirst
    exact ⟨succeeds_iff.mpr ⟨next, hfirst⟩, hfirst.run_eq.trans h.run_eq.symm⟩

def stations : Table where
  name := "STATION_V1"
  fields := [{ name := "STATION_ID" }, { name := "FMISID", kind := .int }]

def networks : Table where
  name := "NETWORK_MEMBER_V1"
  fields := [{ name := "FMISID", kind := .int }, { name := "NETWORK_ID", kind := .int }]

theorem run_interleaving_shared_column :
    let early : List JoinCall := [.field "fmisid" "id", .join networks ["FMISID"] "inner",
      .field "NETWORK_ID" "", .order "FMISID" "asc"]
    let late : List JoinCall := [.join networks ["FMISID"] "inner", .order "FMISID" "asc",
      .field "fmisid" "id", .field "NETWORK_ID" ""]
    (ofPrimary stations).run early = (ofPrimary stations).run late ∧
      (ofPrimary stations).succeeds (joinsFirst early) = true := by
  intro early late
  have hearly : (ofPrimary stations).succeeds early = true := by decide +kernel
  have hlate : (ofPrimary stations).succeeds late = true := by decide +kernel
  have hparts : ∀ part, early.filter (·.part = part) = late.filter (·.part = part) := by
    intro part
    cases part <;> rfl
  exact ⟨((run_interleaving stations).1 early late hearly hlate hparts).1,
    ((run_interleaving stations).2 early hearly).1⟩

end JoinQuery

end ObservationSql
