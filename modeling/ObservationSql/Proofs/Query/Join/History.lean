import Mathlib.Data.List.Forall2
import ObservationSql.Proofs.Query.Join.Interleaving
import ObservationSql.Proofs.Query.Join.Invariant

/-!
The conditions of a query against the calls that built it up. The query files its predicates one by
one; in the end they stand grouped by name, as if the whole history had been at hand.
-/

namespace ObservationSql

/-- A predicate of a call, with the name that it is filed under and the table that it is about. -/
structure Filing where
  group : String
  predicate : Predicate
  table : String

namespace Filing

def filed (filing : Filing) : FiledPredicate :=
  ⟨filing.predicate, filing.table⟩

def fileInto (groups : List PredicateGroup) (filing : Filing) : List PredicateGroup :=
  fileUnder filing.group filing.filed groups

/-- The predicates that are filed under a name, in order. -/
def members (filings : List Filing) (name : String) : List FiledPredicate :=
  (filings.filter fun filing => filing.group = name).map filed

/-- The names in the order of their first filings, each with its predicates. -/
def grouped (filings : List Filing) : List PredicateGroup :=
  (filings.map group).eraseDups.map fun name => ⟨name, members filings name⟩

theorem members_cons_self (filing : Filing) (rest : List Filing) :
    members (filing :: rest) filing.group = filing.filed :: members rest filing.group := by
  rw [members, List.filter_cons_of_pos (by simp), List.map_cons, members]

theorem members_cons_of_ne {filing : Filing} {name : String} (hne : filing.group ≠ name)
    (rest : List Filing) : members (filing :: rest) name = members rest name := by
  rw [members, List.filter_cons_of_neg (by simpa using hne), members]

theorem members_filter_ne {name other : String} (hne : other ≠ name) (filings : List Filing) :
    members (filings.filter fun filing => filing.group ≠ name) other = members filings other := by
  rw [members, members, List.filter_filter]
  congr 1
  apply List.filter_congr
  intro filing _
  by_cases hother : filing.group = other
  · simp [hother, hne]
  · simp [hother]

theorem foldl_fileInto_cons (filings : List Filing) (group : PredicateGroup)
    (rest : List PredicateGroup) :
    filings.foldl fileInto (group :: rest)
      = { group with predicates := group.predicates ++ members filings group.name }
        :: (filings.filter fun filing => filing.group ≠ group.name).foldl fileInto rest := by
  induction filings generalizing group rest with
  | nil => simp [members]
  | cons filing later ih =>
      rw [List.foldl_cons, fileInto, fileUnder]
      by_cases hname : group.name = filing.group
      · rw [if_pos hname, ih, List.filter_cons_of_neg (by simp [hname])]
        simp only [hname, members_cons_self, List.append_assoc, List.singleton_append]
      · rw [if_neg hname, ih, List.filter_cons_of_pos (by simpa using Ne.symm hname),
          members_cons_of_ne (Ne.symm hname)]
        rfl

theorem grouped_cons (filing : Filing) (rest : List Filing) :
    grouped (filing :: rest)
      = ⟨filing.group, filing.filed :: members rest filing.group⟩
        :: grouped (rest.filter fun later => later.group ≠ filing.group) := by
  have hnames : (rest.map group).filter (fun name => !name == filing.group)
      = (rest.filter fun later => later.group ≠ filing.group).map group := by
    rw [List.filter_map]
    congr 1
    apply List.filter_congr
    intro later _
    simp [Bool.beq_eq_decide_eq]
  rw [grouped, List.map_cons, List.eraseDups_cons, hnames, List.map_cons, members_cons_self, grouped]
  congr 1
  apply List.map_congr_left
  intro name hname
  have hne : name ≠ filing.group := by
    rw [List.mem_eraseDups] at hname
    obtain ⟨later, hlater, rfl⟩ := List.mem_map.mp hname
    simpa using (List.mem_filter.mp hlater).2
  rw [members_cons_of_ne (Ne.symm hne), members_filter_ne hne]

theorem grouped_eq_nil_iff {filings : List Filing} : grouped filings = [] ↔ filings = [] := by
  cases filings with
  | nil => simp [grouped]
  | cons filing rest => simp [grouped_cons]

theorem foldl_fileInto (filings : List Filing) : filings.foldl fileInto [] = grouped filings := by
  match filings with
  | [] => rfl
  | filing :: rest =>
      have hrest := foldl_fileInto (rest.filter fun later => later.group ≠ filing.group)
      change rest.foldl fileInto [⟨filing.group, [filing.filed]⟩] = _
      rw [foldl_fileInto_cons, grouped_cons, hrest, List.singleton_append]
termination_by filings.length
decreasing_by exact Nat.lt_succ_of_le (List.length_filter_le _ _)

end Filing

/-- What a call files, when the owners of columns are taken from some tables. -/
def JoinCall.filing? (tables : List Table) : JoinCall → Option Filing
  | .predicate group column token literal =>
      match Operator.ofName? token, tables.find? fun table => table.declares column with
      | some operator, some table => some ⟨group, ⟨operator, column, literal⟩, table.name⟩
      | _, _ => none
  | _ => none

/-- What a call files, on its own terms. -/
inductive Files (tables : List Table) : JoinCall → Filing → Prop where
  | intro {group column token table : String} {operator : Operator} {literal : Value}
      (hoperator : Operator.ofName? token = some operator)
      (howner : JoinQuery.FirstDeclaring tables column table) :
      Files tables (.predicate group column token literal)
        ⟨group, ⟨operator, column, literal⟩, table⟩

namespace JoinQuery

/-- The calls of a run that go through, in order. -/
def admitted (query : JoinQuery) : List JoinCall → List JoinCall
  | [] => []
  | call :: rest =>
      (if (query.perform call).isOk then [call] else []) ++ (query.step call).admitted rest

theorem admitted_cons_of_admits {query next : JoinQuery} {call : JoinCall}
    (h : query.Admits call next) (rest : List JoinCall) :
    query.admitted (call :: rest) = call :: next.admitted rest := by
  rw [admitted, if_pos (isOk_perform_iff.mpr ⟨next, h⟩), step_of_admits h, List.singleton_append]

theorem admitted_cons_of_refused {query : JoinQuery} {call : JoinCall} {fault : Fault}
    (h : query.perform call = .error fault ⟨query, []⟩) (rest : List JoinCall) :
    query.admitted (call :: rest) = query.admitted rest ∧ query.step call = query := by
  have hstep : query.step call = query := by
    rw [step, h]
    rfl
  refine ⟨?_, hstep⟩
  rw [admitted, hstep, h]
  rfl

/-- A run comes to the same end without its refused calls. -/
theorem admitsAll_admitted (query : JoinQuery) (calls : List JoinCall) :
    query.AdmitsAll (query.admitted calls) (query.run calls) := by
  induction calls generalizing query with
  | nil => exact .nil query
  | cons call rest ih =>
      rw [run_cons]
      rcases decides query call with ⟨fault, hrefused⟩ | ⟨next, hadmits⟩
      · obtain ⟨hrest, hstep⟩ := admitted_cons_of_refused hrefused rest
        rw [hrest, hstep]
        exact ih query
      · rw [admitted_cons_of_admits hadmits, step_of_admits hadmits]
        exact .cons hadmits (ih next)

theorem mem_of_mem_admitted {query : JoinQuery} {calls : List JoinCall} {call : JoinCall}
    (h : call ∈ query.admitted calls) : call ∈ calls := by
  induction calls generalizing query with
  | nil => exact absurd h List.not_mem_nil
  | cons first rest ih =>
      rcases List.mem_append.mp h with hfirst | hrest
      · split at hfirst
        · rw [List.mem_singleton.mp hfirst]
          exact List.mem_cons_self
        · exact absurd hfirst List.not_mem_nil
      · exact List.mem_cons_of_mem first (ih hrest)

theorem groups_effect (tables : List Table) (query : JoinQuery) (call : JoinCall) :
    (query.effect tables call).groups
      = (call.filing? tables).toList.foldl Filing.fileInto query.groups := by
  cases call with
  | predicate group column token literal =>
      simp only [effect, JoinCall.filing?]
      generalize Operator.ofName? token = operator
      generalize (tables.find? fun table => table.declares column) = owner
      cases operator <;> cases owner <;> rfl
  | _ => simp only [effect, JoinCall.filing?, Option.toList_none, List.foldl_nil]

theorem groups_foldl_effect (tables : List Table) (query : JoinQuery) (calls : List JoinCall) :
    (calls.foldl (effect tables) query).groups
      = (calls.filterMap (JoinCall.filing? tables)).foldl Filing.fileInto query.groups := by
  induction calls generalizing query with
  | nil => rfl
  | cons call rest ih =>
      rw [List.foldl_cons, ih, groups_effect, List.filterMap_cons]
      cases call.filing? tables <;> rfl

theorem AdmitsAll.exists_filing {query next : JoinQuery} {calls : List JoinCall}
    (h : query.AdmitsAll calls next) :
    ∀ call ∈ calls, call.part = .groups → ∃ filing, call.filing? next.tables = some filing := by
  induction h with
  | nil query => simp
  | @cons query middle next call rest hcall hrest ih =>
      rw [List.forall_mem_cons]
      refine ⟨fun hpart => ?_, ih⟩
      have htables := (AdmitsAll.cons hcall hrest).tables_eq
      cases hcall with
      | @predicate group column token literal operator table hoperator howner hoperand =>
          have howner := find?_declares_append howner
            ((JoinCall.predicate group column token literal :: rest).filterMap JoinCall.joined?)
          rw [← htables] at howner
          exact ⟨⟨group, ⟨operator, column, literal⟩, table.name⟩, by
            simp only [JoinCall.filing?, ofName?_of_find_eq_ok hoperator, howner]⟩
      | _ => cases hpart

theorem files_of_filing? {tables : List Table} {call : JoinCall} {filing : Filing}
    (h : call.filing? tables = some filing) : Files tables call filing := by
  cases call with
  | predicate group column token literal =>
      simp only [JoinCall.filing?] at h
      split at h
      · next operator table hoperator howner =>
        cases h
        exact .intro hoperator (firstDeclaring_of_find? howner)
      · cases h
  | _ => cases h

theorem forall₂_files {tables : List Table} {calls : List JoinCall}
    (h : ∀ call ∈ calls, call.part = .groups → ∃ filing, call.filing? tables = some filing) :
    List.Forall₂ (Files tables) (calls.filter (·.part = .groups))
      (calls.filterMap (JoinCall.filing? tables)) := by
  induction calls with
  | nil => exact .nil
  | cons call rest ih =>
      rw [List.forall_mem_cons] at h
      by_cases hpart : call.part = .groups
      · obtain ⟨filing, hfiling⟩ := h.1 hpart
        rw [List.filter_cons_of_pos (by simpa using hpart), List.filterMap_cons_some hfiling]
        exact .cons (files_of_filing? hfiling) (ih h.2)
      · have hnone : call.filing? tables = none := by
          cases call with
          | predicate group column token literal => exact absurd rfl hpart
          | _ => rfl
        rw [List.filter_cons_of_neg (by simpa using hpart), List.filterMap_cons_none hnone]
        exact ih h.2

theorem groups_run (primary : Table) (calls : List JoinCall) :
    ((ofPrimary primary).run calls).groups = Filing.grouped
      (((ofPrimary primary).admitted calls).filterMap
        (JoinCall.filing? ((ofPrimary primary).run calls).tables)) := by
  have heffect := (admitsAll_admitted (ofPrimary primary) calls).eq_foldl_effect []
  rw [List.append_nil] at heffect
  have hgroups := congrArg groups heffect
  rw [groups_foldl_effect] at hgroups
  exact hgroups.trans (Filing.foldl_fileInto _)

theorem Admits.exchange {query middle next : JoinQuery} {group group' column column' : String}
    {token token' : String} {literal literal' : Value}
    (hfirst : query.Admits (.predicate group column token literal) middle)
    (hsecond : middle.Admits (.predicate group' column' token' literal') next)
    (hne : group ≠ group')
    (hthere : group ∈ query.groups.map PredicateGroup.name ∨
      group' ∈ query.groups.map PredicateGroup.name) :
    ∃ other, query.Admits (.predicate group' column' token' literal') other ∧
      other.Admits (.predicate group column token literal) next := by
  cases hfirst with
  | predicate hoperator howner hoperand =>
      cases hsecond with
      | predicate hoperator' howner' hoperand' =>
          refine ⟨_, .predicate hoperator' howner' hoperand', ?_⟩
          rw [fileUnder_comm _ _ hne hthere]
          exact .predicate hoperator howner hoperand

theorem whereClause_eq_empty_iff {query : JoinQuery} {dialect : Sql.Dialect} :
    query.whereClause dialect = "" ↔ query.groups = [] := by
  constructor
  · intro h
    cases hgroups : query.groups with
    | nil => rfl
    | cons group rest =>
        rw [whereClause, hgroups, List.map_cons] at h
        cases rest <;> simp [Text.joinWith, groupText] at h
  · intro h
    rw [whereClause, h]
    rfl

/-- The conditions are those of the calls that went through, grouped by name: the names in the order
of their first uses, and under each its predicates in the order of the calls, each about the first
table that declares its column. Two neighbouring calls for different groups, of which one is there
already, may change places. -/
theorem whereClause_history (primary : Table) :
    (∀ calls : List JoinCall,
      let query := (ofPrimary primary).run calls
      let succeeded := ((ofPrimary primary).admitted calls).filter (·.part = .groups)
      ∃ filings : List Filing, List.Forall₂ (Files query.tables) succeeded filings ∧
        ∀ dialect,
          query.whereClause dialect =
            Text.joinWith " and " ((filings.map Filing.group).eraseDups.map fun name =>
              "(" ++ Text.joinWith " or " ((filings.filter fun filing => filing.group = name).map
                fun filing => filing.predicate.toSql filing.table dialect) ++ ")") ∧
          (query.whereClause dialect = "" ↔ succeeded = [])) ∧
    ∀ (before after : List JoinCall) (group group' column column' token token' : String)
      (literal literal' : Value),
      let query := (ofPrimary primary).run before
      let first := JoinCall.predicate group column token literal
      let second := JoinCall.predicate group' column' token' literal'
      group ≠ group' →
      (group ∈ query.groups.map PredicateGroup.name ∨
        group' ∈ query.groups.map PredicateGroup.name) →
      (query.perform first).isOk = true → ((query.step first).perform second).isOk = true →
      (query.perform second).isOk = true ∧ ((query.step second).perform first).isOk = true ∧
        (ofPrimary primary).run (before ++ second :: first :: after)
          = (ofPrimary primary).run (before ++ first :: second :: after) ∧
        ∀ dialect, ((ofPrimary primary).run (before ++ second :: first :: after)).sql dialect
          = ((ofPrimary primary).run (before ++ first :: second :: after)).sql dialect := by
  constructor
  · intro calls query succeeded
    have hadmitted := admitsAll_admitted (ofPrimary primary) calls
    have hfiles := forall₂_files hadmitted.exists_filing
    have hgroups := groups_run primary calls
    refine ⟨_, hfiles, fun dialect => ⟨?_, ?_⟩⟩
    · rw [whereClause, hgroups, Filing.grouped, List.map_map]
      congr 1
      apply List.map_congr_left
      intro name _
      rw [Function.comp_apply, groupText, Filing.members, List.map_map]
      rfl
    · rw [whereClause_eq_empty_iff, hgroups, Filing.grouped_eq_nil_iff, ← List.length_eq_zero_iff,
        ← hfiles.length_eq, List.length_eq_zero_iff]
  · intro before after group group' column column' token token' literal literal' query first second
      hne hthere hfirst hsecond
    obtain ⟨middle, hfirst⟩ := isOk_perform_iff.mp hfirst
    rw [step_of_admits hfirst] at hsecond
    obtain ⟨next, hsecond⟩ := isOk_perform_iff.mp hsecond
    obtain ⟨other, hsecond', hfirst'⟩ := hfirst.exchange hsecond hne hthere
    have hrun : (ofPrimary primary).run (before ++ second :: first :: after)
        = (ofPrimary primary).run (before ++ first :: second :: after) := by
      rw [run_append, run_append, run_cons, run_cons, run_cons, run_cons, step_of_admits hsecond',
        step_of_admits hfirst', step_of_admits hfirst, step_of_admits hsecond]
    refine ⟨isOk_perform_iff.mpr ⟨other, hsecond'⟩, ?_, hrun, fun dialect => by rw [hrun]⟩
    rw [step_of_admits hsecond']
    exact isOk_perform_iff.mpr ⟨next, hfirst'⟩

theorem whereClause_history_exchanged :
    let before : List JoinCall :=
      [.predicate "ids" "STATION_ID" "PropertyIsEqualTo" (.string "a"),
        .predicate "lost" "NETWORK_ID" "PropertyIsEqualTo" (.string "x"),
        .predicate "names" "FMISID" "PropertyIsNull" .empty, .join networks ["FMISID"] "inner"]
    let first := JoinCall.predicate "ids" "fmisid" "PropertyIsIn" (.list .string ["b", "c"])
    let second := JoinCall.predicate "names" "NETWORK_ID" "PropertyIsLike" (.string "d")
    ((ofPrimary stations).run (before ++ [second, first])).whereClause .oracle
        = "(STATION_V1.STATION_ID = 'a' or STATION_V1.fmisid IN ('b','c'))"
          ++ " and (STATION_V1.FMISID IS NULL or NETWORK_MEMBER_V1.NETWORK_ID LIKE '%d%')" ∧
      (ofPrimary stations).run (before ++ [second, first])
        = (ofPrimary stations).run (before ++ [first, second]) := by
  intro before first second
  have hgroups : "ids" ∈ ((ofPrimary stations).run before).groups.map PredicateGroup.name := by
    decide +kernel
  have hfirst : (((ofPrimary stations).run before).perform first).isOk = true := by decide +kernel
  have hsecond : ((((ofPrimary stations).run before).step first).perform second).isOk = true := by
    decide +kernel
  refine ⟨by decide +kernel, ?_⟩
  exact ((whereClause_history stations).2 before [] "ids" "names" "fmisid" "NETWORK_ID"
    "PropertyIsIn" "PropertyIsLike" (.list .string ["b", "c"]) (.string "d") (by decide)
    (.inl hgroups) hfirst hsecond).2.2.1

end JoinQuery

end ObservationSql
