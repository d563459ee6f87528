import Mathlib.Data.List.Basic
import ObservationSql.Proofs.Result.Invariant
import ObservationSql.Result.Export

namespace ObservationSql

/-- Why a value has no text, if it has none. -/
def Value.exportFault? : Value → Option Fault
  | .list kind _ => some (.unsupportedType (.list kind))
  | _ => none

theorem exists_exportText {value : Value} (h : value.exportFault? = none) (places : Nat) :
    ∃ text, exportText places value = .ok text := by
  cases value with
  | scalar kind item => exact ⟨_, rfl⟩
  | list kind items => nomatch h
  | empty => exact ⟨_, rfl⟩

theorem exportText_of_fault {value : Value} {fault : Fault} (h : value.exportFault? = some fault)
    (places : Nat) : exportText places value = .error fault := by
  cases value with
  | list kind items => exact congrArg Except.error (Option.some.inj h)
  | _ => nomatch h

/-- What the loop over the rows writes and warns of, whatever came before. One warning is all that
it adds, and none if there was one. -/
theorem exportRows_eq (index places : Nat) (warned : Bool) (rows : List Value) :
    exportRows index places warned rows =
      { value := rows.map fun value => (exportText places value).toOption.getD ""
        warnings := if warned then [] else
          ((rows.filterMap Value.exportFault?).head?.map (Warning.unprintable index)).toList } := by
  induction rows generalizing warned with
  | nil => cases warned <;> rfl
  | cons value rest ih =>
      rw [exportRows, List.map_cons]
      cases hfault : value.exportFault? with
      | none =>
          obtain ⟨text, htext⟩ := exists_exportText hfault places
          simp only [htext, ih, List.filterMap_cons_none hfault]
          rfl
      | some fault =>
          simp only [exportText_of_fault hfault, ih, List.filterMap_cons_some hfault]
          cases warned <;> rfl

namespace ResultSet

theorem Typed.exportFault? {kind : ScalarKind} {rows : List Value}
    (h : Typed (some (.list kind)) rows) {value : Value} (hvalue : value ∈ rows) :
    value = .empty ∨ value.exportFault? = some (.unsupportedType (.list kind)) := by
  cases value with
  | empty => exact .inl rfl
  | scalar other item => nomatch h.forall_mem _ hvalue rfl
  | list other items =>
      have hsame := h.forall_mem _ hvalue rfl
      rw [Value.kind, Option.some.injEq, ValueKind.list.injEq] at hsame
      rw [hsame]
      exact .inr rfl

theorem Typed.exportRows_list {kind : ScalarKind} {rows : List Value}
    (h : Typed (some (.list kind)) rows) (index places : Nat) :
    exportRows index places false rows =
      { value := List.replicate rows.length ""
        warnings := [.unprintable index (.unsupportedType (.list kind))] } := by
  have htexts : (rows.map fun value => (exportText places value).toOption.getD "")
      = List.replicate rows.length "" := by
    rw [List.eq_replicate_iff, List.length_map]
    refine ⟨rfl, fun text htext => ?_⟩
    obtain ⟨value, hvalue, rfl⟩ := List.mem_map.mp htext
    rcases h.exportFault? hvalue with rfl | hfault
    · rfl
    · rw [exportText_of_fault hfault]
      rfl
  -- There is a row that fixed the kind, so at least one row has no text.
  have hfaults : (rows.filterMap Value.exportFault?).head?
      = some (.unsupportedType (.list kind)) := by
    obtain ⟨earlier, first, later, hrows, -, hfilled, -⟩ :=
      fixedKind?_eq_some_iff.mp h.kind_eq.symm
    have hfirst : first ∈ rows := by simp [hrows]
    have hmem : Fault.unsupportedType (.list kind) ∈ rows.filterMap Value.exportFault? := by
      rcases h.exportFault? hfirst with rfl | hfault
      · nomatch hfilled
      · exact List.mem_filterMap.mpr ⟨first, hfirst, hfault⟩
    cases hhead : (rows.filterMap Value.exportFault?).head? with
    | none =>
        rw [List.head?_eq_none_iff.mp hhead] at hmem
        nomatch hmem
    | some fault =>
        obtain ⟨value, hvalue, hfault⟩ := List.mem_filterMap.mp (List.mem_of_head? hhead)
        rcases h.exportFault? hvalue with rfl | hsame
        · nomatch hfault
        · rw [← hfault, hsame]
  rw [exportRows_eq, htexts, hfaults]
  rfl

theorem Typed.exportFault?_eq_none {kind : Option ValueKind} {rows : List Value}
    (h : Typed kind rows) (hkind : ∀ element, kind ≠ some (.list element)) {value : Value}
    (hvalue : value ∈ rows) : value.exportFault? = none := by
  cases value with
  | list element items => exact absurd (h.forall_mem _ hvalue rfl) (hkind element)
  | _ => rfl

theorem Typed.exportRows_of_not_list {kind : Option ValueKind} {rows : List Value}
    (h : Typed kind rows) (hkind : ∀ element, kind ≠ some (.list element)) (index places : Nat) :
    (exportRows index places false rows).value.map Except.ok = rows.map (exportText places) ∧
      (exportRows index places false rows).warnings = [] := by
  have hfaults : rows.filterMap Value.exportFault? = [] :=
    List.filterMap_eq_nil_iff.mpr fun _ hvalue => h.exportFault?_eq_none hkind hvalue
  rw [exportRows_eq, hfaults]
  refine ⟨?_, rfl⟩
  rw [List.map_map, List.map_inj_left]
  intro value hvalue
  obtain ⟨text, htext⟩ := exists_exportText (h.exportFault?_eq_none hkind hvalue) places
  rw [Function.comp_apply, htext]
  rfl

theorem columnTexts_eq {set : ResultSet} {index : Nat} (places : Nat) :
    set.columnTexts index places =
      if index < set.width then .ok (exportRows index places false (set.rows index))
      else .error (.validation (.columnIndex index set.width)) := by
  unfold columnTexts values checkIndex
  split <;> rfl

/-- A column that exists is exported whatever is in it, one text for each row in their order. A
column of lists is empty texts throughout and one warning, wherever the empty values stand in it;
any other column has the texts of its values, and no warning. -/
theorem columnTexts_of_reachable {width : Nat} {set : ResultSet} (h : Reachable width set)
    (index places : Nat) :
    (width ≤ index →
        set.columnTexts index places = .error (.validation (.columnIndex index width))) ∧
      (index < width → ∃ texts warnings,
        set.columnTexts index places = .ok ⟨texts, warnings⟩ ∧
        texts.length = set.rowCount index ∧
        (∀ kind, set.kind? index = some (.list kind) →
          (∀ text ∈ texts, text = "") ∧
            warnings = [.unprintable index (.unsupportedType (.list kind))]) ∧
        ((∀ kind, set.kind? index ≠ some (.list kind)) →
          texts.map .ok = (set.rows index).map (exportText places) ∧ warnings = [])) := by
  have hformed := h.wellFormed
  have hwidth : set.width = width := hformed.columns_length
  have htyped := hformed.typed index
  constructor
  · intro hout
    rw [columnTexts_eq, hwidth, if_neg (Nat.not_lt.mpr hout)]
  · intro hindex
    have hlength : (exportRows index places false (set.rows index)).value.length
        = set.rowCount index := by
      rw [exportRows_eq, List.length_map]
      rfl
    refine ⟨_, _, ?_, hlength, ?_, fun hkind => htyped.exportRows_of_not_list hkind index places⟩
    · rw [columnTexts_eq, hwidth, if_pos hindex]
    · intro kind hkind
      rw [hkind] at htyped
      rw [htyped.exportRows_list]
      exact ⟨fun _ htext => List.eq_of_mem_replicate htext, rfl⟩

theorem columnTexts_of_reachable_mixed :
    let rows : List Value := [.empty, .list .string ["a"], .empty, .list .string [], .empty]
    let numbers : List Value := [.double ⟨0x3FD0000000000000⟩, .empty]
    let push (index : Nat) (set : ResultSet) (value : Value) : ResultSet :=
      ((append index value).perform set).state
    let set := numbers.foldl (push 1) (rows.foldl (push 0) (ofWidth 2))
    Reachable 2 set ∧
      (∃ texts, set.columnTexts 0 1
          = .ok ⟨texts, [.unprintable 0 (.unsupportedType (.list .string))]⟩ ∧
        texts.length = 5 ∧ ∀ text ∈ texts, text = "") ∧
      (∃ texts, set.columnTexts 1 1 = .ok ⟨texts, []⟩ ∧
        texts.map .ok = numbers.map (exportText 1)) ∧
      set.columnTexts 2 1 = .error (.validation (.columnIndex 2 2)) := by
  intro rows numbers push set
  have hset : Reachable 2 set :=
    ((Reachable.start 2).foldl_append 0 rows).foldl_append 1 numbers
  have hkind : set.kind? 0 = some (.list .string) := by decide +kernel
  have hnumbers : ∀ kind, set.kind? 1 ≠ some (.list kind) := by
    intro kind hlist
    have hdouble : set.kind? 1 = some (.scalar .double) := by decide +kernel
    rw [hdouble] at hlist
    nomatch hlist
  refine ⟨hset, ?_, ?_, (columnTexts_of_reachable hset 2 1).1 (by decide)⟩
  · obtain ⟨texts, _, hexport, hlength, hlists, -⟩ :=
      (columnTexts_of_reachable hset 0 1).2 (by decide)
    obtain ⟨hempty, rfl⟩ := hlists .string hkind
    exact ⟨texts, hexport, hlength, hempty⟩
  · obtain ⟨texts, _, hexport, -, -, hscalars⟩ :=
      (columnTexts_of_reachable hset 1 1).2 (by decide)
    obtain ⟨htexts, rfl⟩ := hscalars hnumbers
    have hrows : set.rows 1 = numbers := by decide +kernel
    rw [hrows] at htexts
    exact ⟨texts, hexport, htexts⟩

end ResultSet

end ObservationSql
