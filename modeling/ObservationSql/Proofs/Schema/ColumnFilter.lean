import ObservationSql.Proofs.Text.Case
import ObservationSql.Schema.ColumnFilter

namespace ObservationSql

open Text

namespace ColumnFilter

/-- The filter after some names have been offered to it, one after the other. -/
def offer (filter : ColumnFilter) (names : List String) : ColumnFilter :=
  names.foldl (fun filter name => (filter.add name).1) filter

/-- The names offered to a filter that it lets through when it is asked, in their order. -/
def answered : ColumnFilter → List String → List String
  | _, [] => []
  | filter, name :: rest =>
      (if (filter.add name).2 then [name] else []) ++ (filter.add name).1.answered rest

theorem add_snd (filter : ColumnFilter) (name : String) :
    (filter.add name).2 = filter.admits name := by
  unfold add
  split
  · exact Eq.symm ‹_›
  · exact (Bool.eq_false_iff.mpr ‹_›).symm

theorem admits_add (filter : ColumnFilter) (name other : String) :
    (filter.add name).1.admits other = filter.admits other := by
  unfold add
  split <;> rfl

theorem admits_offer (filter : ColumnFilter) (names : List String) (name : String) :
    (filter.offer names).admits name = filter.admits name := by
  induction names generalizing filter with
  | nil => rfl
  | cons first rest ih =>
      rw [offer, List.foldl_cons, ← offer, ih, admits_add]

theorem accepted_offer (filter : ColumnFilter) (names : List String) :
    (filter.offer names).accepted = filter.accepted ++ filter.answered names := by
  induction names generalizing filter with
  | nil => exact (List.append_nil _).symm
  | cons name rest ih =>
      rw [offer, List.foldl_cons, ← offer, ih, answered]
      by_cases hadmits : filter.admits name = true
      · simp [add, hadmits]
      · simp [add, hadmits]

theorem answered_eq_filter (filter : ColumnFilter) (names : List String) :
    filter.answered names = names.filter filter.admits := by
  induction names generalizing filter with
  | nil => rfl
  | cons name rest ih =>
      have hsame : (filter.add name).1.admits = filter.admits := funext (admits_add filter name)
      rw [answered, ih, hsame, add_snd, List.filter_cons]
      split <;> rfl

theorem mem_answered_iff {filter : ColumnFilter} {names : List String} {name : String} :
    name ∈ filter.answered names ↔ name ∈ names ∧ filter.admits name = true := by
  rw [answered_eq_filter, List.mem_filter]

variable {table : Table} {caseSensitive : Bool} {name : String}

theorem admits_ofTable?_iff :
    (ofTable? (some table) caseSensitive).value.admits name = true ↔
      ∃ field ∈ table.fields, key caseSensitive field.name = key caseSensitive name := by
  simp [admits, ofTable?, Table.fieldNames]

theorem key_eq_of_sameName {left right : String}
    (h : Table.sameName caseSensitive left right = true) :
    key caseSensitive left = key caseSensitive right := by
  cases caseSensitive with
  | false => exact upper_eq_of_eqFold h
  | true => exact eq_of_beq h

/-- Where folding and capitals tell names apart alike: the case of letters counts, or the name and
the columns of the table are ASCII. -/
def Agrees (table : Table) (caseSensitive : Bool) (name : String) : Prop :=
  caseSensitive = true ∨ isAscii name = true ∧ ∀ field ∈ table.fields, isAscii field.name = true

theorem sameName_of_key_eq {left right : String}
    (hascii : caseSensitive = true ∨ isAscii left = true ∧ isAscii right = true)
    (h : key caseSensitive left = key caseSensitive right) :
    Table.sameName caseSensitive left right = true := by
  cases caseSensitive with
  | false =>
      obtain ⟨hleft, hright⟩ := hascii.resolve_left Bool.false_ne_true
      exact (upper_eq_iff_of_isAscii hleft hright).mp h
  | true => exact beq_iff_eq.mpr h

theorem admits_of_declares (h : table.declares name caseSensitive = true) :
    (ofTable? (some table) caseSensitive).value.admits name = true := by
  obtain ⟨field, hfield, hsame⟩ := List.any_eq_true.mp h
  exact admits_ofTable?_iff.mpr ⟨field, hfield, key_eq_of_sameName hsame⟩

theorem admits_iff_declares (hagrees : Agrees table caseSensitive name) :
    (ofTable? (some table) caseSensitive).value.admits name = true ↔
      table.declares name caseSensitive = true := by
  refine ⟨fun h => ?_, admits_of_declares⟩
  obtain ⟨field, hfield, hkey⟩ := admits_ofTable?_iff.mp h
  have hascii : caseSensitive = true ∨ isAscii field.name = true ∧ isAscii name = true :=
    hagrees.imp_right fun ⟨hname, hfields⟩ => ⟨hfields field hfield, hname⟩
  exact List.any_eq_true.mpr ⟨field, hfield, sameName_of_key_eq hascii hkey⟩

end ColumnFilter

theorem Table.declares_of_declares_exactly {table : Table} {name : String}
    (h : table.declares name true = true) : table.declares name = true := by
  obtain ⟨field, hfield, hsame⟩ := List.any_eq_true.mp h
  have hname : field.name = name := eq_of_beq hsame
  refine List.any_eq_true.mpr ⟨field, hfield, ?_⟩
  rw [hname]
  exact eqFold_refl name

end ObservationSql
