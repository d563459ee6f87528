import ObservationSql.Result.ResultSet

namespace ObservationSql.ResultSet

/-- The kind that some rows fix. -/
def fixedKind? (rows : List Value) : Option ValueKind :=
  (rows.find? fun value => !value.isEmpty).map Value.kind

theorem fixedKind?_eq_none_iff {rows : List Value} :
    fixedKind? rows = none ↔ ∀ value ∈ rows, value.isEmpty = true := by
  simp [fixedKind?]

theorem fixedKind?_eq_some_iff {rows : List Value} {kind : ValueKind} :
    fixedKind? rows = some kind ↔
      ∃ earlier value later, rows = earlier ++ value :: later ∧
        (∀ other ∈ earlier, other.isEmpty = true) ∧ value.isEmpty = false ∧ value.kind = kind := by
  constructor
  · intro h
    obtain ⟨value, hfind, hkind⟩ := Option.map_eq_some_iff.mp h
    obtain ⟨hvalue, earlier, later, hrows, hearlier⟩ := List.find?_eq_some_iff_append.mp hfind
    exact ⟨earlier, value, later, hrows, by simpa using hearlier, by simpa using hvalue, hkind⟩
  · rintro ⟨earlier, value, later, rfl, hearlier, hvalue, rfl⟩
    have hnone : earlier.find? (fun value => !value.isEmpty) = none := by simpa using hearlier
    simp [fixedKind?, List.find?_append, hnone, hvalue]

theorem fixedKind?_append (rows : List Value) (value : Value) :
    fixedKind? (rows ++ [value])
      = (fixedKind? rows).or (if value.isEmpty then none else some value.kind) := by
  unfold fixedKind?
  rw [List.find?_append]
  cases rows.find? fun value => !value.isEmpty with
  | some first => rfl
  | none => cases hvalue : value.isEmpty <;> simp [hvalue]

/-- Rows that agree with the kind of their column. -/
structure Typed (kind : Option ValueKind) (rows : List Value) : Prop where
  kind_eq : kind = fixedKind? rows
  forall_mem : ∀ value ∈ rows, value.isEmpty = false → kind = some value.kind

theorem typed_nil : Typed none [] where
  kind_eq := rfl
  forall_mem := by simp

namespace Typed

variable {kind : Option ValueKind} {rows : List Value} {value : Value}

theorem append_empty (h : Typed kind rows) (hvalue : value.isEmpty = true) :
    Typed kind (rows ++ [value]) where
  kind_eq := by simp [fixedKind?_append, hvalue, h.kind_eq]
  forall_mem := by
    intro other hother hnonempty
    rcases List.mem_append.mp hother with hother | hother
    · exact h.forall_mem other hother hnonempty
    · rw [List.mem_singleton.mp hother, hvalue] at hnonempty
      cases hnonempty

theorem append_first (h : Typed none rows) (hvalue : value.isEmpty = false) :
    Typed (some value.kind) (rows ++ [value]) where
  kind_eq := by simp [fixedKind?_append, hvalue, ← h.kind_eq]
  forall_mem := by
    intro other hother hnonempty
    rcases List.mem_append.mp hother with hother | hother
    · cases h.forall_mem other hother hnonempty
    · rw [List.mem_singleton.mp hother]

theorem append_same (h : Typed (some value.kind) rows) :
    Typed (some value.kind) (rows ++ [value]) where
  kind_eq := by simp [fixedKind?_append, ← h.kind_eq]
  forall_mem := by
    intro other hother hnonempty
    rcases List.mem_append.mp hother with hother | hother
    · exact h.forall_mem other hother hnonempty
    · rw [List.mem_singleton.mp hother]

end Typed

def withRow (set : ResultSet) (index : Nat) (value : Value) : ResultSet :=
  { set with columns := set.columns.modify index (· ++ [value]) }

def withKind (set : ResultSet) (index : Nat) (kind : ValueKind) : ResultSet :=
  { set with kinds := set.kinds.set index (some kind) }

section Views

variable (set : ResultSet) (index other : Nat) (value : Value) (kind : ValueKind)

@[simp] theorem width_withRow : (set.withRow index value).width = set.width := by
  simp [withRow, width]

@[simp] theorem kind?_withRow : (set.withRow index value).kind? other = set.kind? other := rfl

@[simp] theorem rows_withKind : (set.withKind index kind).rows other = set.rows other := rfl

variable {set index other}

theorem rows_withRow_self (hindex : index < set.width) :
    (set.withRow index value).rows index = set.rows index ++ [value] := by
  have hlength : index < set.columns.length := hindex
  simp [withRow, rows, hlength]

theorem rows_withRow_of_ne (hne : other ≠ index) :
    (set.withRow index value).rows other = set.rows other := by
  simp [withRow, rows, hne.symm]

theorem kind?_withKind_self (hindex : index < set.kinds.length) :
    (set.withKind index kind).kind? index = some kind := by
  simp [withKind, kind?, hindex]

theorem kind?_withKind_of_ne (hne : other ≠ index) :
    (set.withKind index kind).kind? other = set.kind? other := by
  simp [withKind, kind?, List.getElem?_set_ne hne.symm]

end Views

/-- What lets a value into a column. -/
def Accepts (set : ResultSet) (index : Nat) (value : Value) : Prop :=
  index < set.width ∧
    (value.isEmpty = true ∨ set.kind? index = none ∨ set.kind? index = some value.kind)

/-- A value that is let in, and the container that comes after it. -/
inductive Appends (set : ResultSet) (index : Nat) (value : Value) : ResultSet → Prop where
  | empty (hindex : index < set.width) (hvalue : value.isEmpty = true) :
      Appends set index value (set.withRow index value)
  | first (hindex : index < set.width) (hvalue : value.isEmpty = false)
      (hkind : set.kind? index = none) :
      Appends set index value ((set.withKind index value.kind).withRow index value)
  | same (hindex : index < set.width) (hvalue : value.isEmpty = false)
      (hkind : set.kind? index = some value.kind) :
      Appends set index value (set.withRow index value)

theorem append_decides (set : ResultSet) (index : Nat) (value : Value) :
    (∃ next, set.Appends index value next ∧
        (append index value).perform set = .ok () ⟨next, []⟩) ∨
      ¬ set.Accepts index value ∧
        ∃ fault, (append index value).perform set = .error fault ⟨set, []⟩ := by
  simp only [Update.perform, append, checkIndex]
  by_cases hindex : index < set.width
  · cases hvalue : value.isEmpty with
    | true =>
        left
        exact ⟨_, .empty hindex hvalue, by simp [hindex, withRow]⟩
    | false =>
        cases hkind : set.kind? index with
        | none =>
            left
            exact ⟨_, .first hindex hvalue hkind, by simp [hindex, fixKind, hkind, withRow, withKind]⟩
        | some fixed =>
            by_cases hsame : fixed = value.kind
            · left
              subst hsame
              exact ⟨_, .same hindex hvalue hkind, by simp [hindex, fixKind, hkind, withRow]⟩
            · right
              refine ⟨?_, .typeMismatch (.kind fixed) value.kind, ?_⟩
              · simp [Accepts, hindex, hvalue, hkind, hsame]
              · simp [hindex, fixKind, hkind, hsame]
  · right
    exact ⟨fun haccepts => hindex haccepts.1, .validation (.columnIndex index set.width),
      by simp [hindex]⟩

theorem Appends.accepts {set next : ResultSet} {index : Nat} {value : Value}
    (h : set.Appends index value next) : set.Accepts index value := by
  cases h with
  | empty hindex hvalue => exact ⟨hindex, .inl hvalue⟩
  | first hindex hvalue hkind => exact ⟨hindex, .inr (.inl hkind)⟩
  | same hindex hvalue hkind => exact ⟨hindex, .inr (.inr hkind)⟩

theorem isOk_append_iff {set : ResultSet} {index : Nat} {value : Value} :
    ((append index value).perform set).isOk = true ↔ set.Accepts index value := by
  rcases append_decides set index value with ⟨next, happends, hperform⟩ | ⟨hrefused, fault, hperform⟩
  · rw [hperform]
    exact ⟨fun _ => happends.accepts, fun _ => rfl⟩
  · rw [hperform]
    exact iff_of_false Bool.false_ne_true hrefused

theorem appends_of_append_eq_ok {set : ResultSet} {index : Nat} {value : Value}
    {noted : Noted ResultSet} (h : (append index value).perform set = .ok () noted) :
    set.Appends index value noted.value := by
  rcases append_decides set index value with ⟨next, happends, hperform⟩ | ⟨-, fault, hperform⟩
  · rw [hperform] at h
    cases h
    exact happends
  · rw [hperform] at h
    cases h

theorem append_error {set : ResultSet} {index : Nat} {value : Value} {fault : Fault}
    {noted : Noted ResultSet} (h : (append index value).perform set = .error fault noted) :
    noted = ⟨set, []⟩ := by
  rcases append_decides set index value with ⟨next, happends, hperform⟩ | ⟨-, _, hperform⟩
  · rw [hperform] at h
    cases h
  · rw [hperform] at h
    cases h
    rfl

theorem Appends.frame {set next : ResultSet} {index : Nat} {value : Value}
    (h : set.Appends index value next) :
    next.rows index = set.rows index ++ [value] ∧ next.width = set.width ∧
      next.names = set.names ∧
      ∀ other, other ≠ index →
        next.rows other = set.rows other ∧ next.kind? other = set.kind? other := by
  cases h with
  | empty hindex hvalue =>
      exact ⟨rows_withRow_self value hindex, width_withRow set index value, rfl,
        fun other hne => ⟨rows_withRow_of_ne value hne, rfl⟩⟩
  | first hindex hvalue hkind =>
      exact ⟨rows_withRow_self value hindex, width_withRow _ index value, rfl,
        fun other hne => ⟨rows_withRow_of_ne value hne, kind?_withKind_of_ne value.kind hne⟩⟩
  | same hindex hvalue hkind =>
      exact ⟨rows_withRow_self value hindex, width_withRow set index value, rfl,
        fun other hne => ⟨rows_withRow_of_ne value hne, rfl⟩⟩

theorem rename_decides (set : ResultSet) (index : Nat) (name : String) :
    (rename index name).perform set = .ok () ⟨{ set with names := set.names.set index name }, []⟩ ∨
      ∃ fault, (rename index name).perform set = .error fault ⟨set, []⟩ := by
  simp only [Update.perform, rename, checkIndex]
  by_cases hindex : index < set.width
  · left
    simp [hindex]
  · right
    exact ⟨.validation (.columnIndex index set.width), by simp [hindex]⟩

theorem rename_error {set : ResultSet} {index : Nat} {name : String} {fault : Fault}
    {noted : Noted ResultSet} (h : (rename index name).perform set = .error fault noted) :
    noted = ⟨set, []⟩ := by
  rcases rename_decides set index name with hperform | ⟨_, hperform⟩
  · rw [hperform] at h
    cases h
  · rw [hperform] at h
    cases h
    rfl

theorem perform_replaceWith (set other : ResultSet) :
    (replaceWith other).perform set
      = if other.width = set.width then .ok true ⟨other, []⟩ else .ok false ⟨set, []⟩ := by
  simp only [Update.perform, replaceWith]
  by_cases hwidth : other.width = set.width
  · rw [if_pos hwidth]
    simp only [EStateM.run_bind, Update.run_current, hwidth, ne_eq, not_true_eq_false, if_false]
    rfl
  · simp [hwidth]

/-- The invariant of a container of that many columns. -/
structure WellFormed (width : Nat) (set : ResultSet) : Prop where
  columns_length : set.columns.length = width
  kinds_length : set.kinds.length = width
  names_length : set.names.length = width
  typed : ∀ index, Typed (set.kind? index) (set.rows index)

theorem wellFormed_ofWidth (width : Nat) : (ofWidth width).WellFormed width where
  columns_length := List.length_replicate
  kinds_length := List.length_replicate
  names_length := List.length_replicate
  typed := by
    intro index
    have hkind : (ofWidth width).kind? index = none := by
      by_cases hindex : index < width <;> simp [ofWidth, kind?, hindex]
    have hrows : (ofWidth width).rows index = [] := by
      by_cases hindex : index < width <;> simp [ofWidth, rows, hindex]
    rw [hkind, hrows]
    exact typed_nil

namespace WellFormed

variable {width index : Nat} {set next : ResultSet} {value : Value}

theorem withRow (h : set.WellFormed width) (hindex : index < set.width)
    (htyped : Typed (set.kind? index) (set.rows index ++ [value])) :
    (set.withRow index value).WellFormed width where
  columns_length := (width_withRow set index value).trans h.columns_length
  kinds_length := h.kinds_length
  names_length := h.names_length
  typed := by
    intro other
    by_cases hother : other = index
    · subst hother
      rw [kind?_withRow, rows_withRow_self value hindex]
      exact htyped
    · rw [kind?_withRow, rows_withRow_of_ne value hother]
      exact h.typed other

/-- The kind stands there before its value does, so in between the column is not typed; the two
writes keep the invariant only together. -/
theorem appends (h : set.WellFormed width) (happends : set.Appends index value next) :
    next.WellFormed width := by
  cases happends with
  | empty hindex hvalue => exact h.withRow hindex ((h.typed index).append_empty hvalue)
  | same hindex hvalue hkind =>
      have htyped := h.typed index
      rw [hkind] at htyped
      refine h.withRow hindex ?_
      rw [hkind]
      exact htyped.append_same
  | first hindex hvalue hkind =>
      have htyped := h.typed index
      rw [hkind] at htyped
      have hlength : index < set.kinds.length := by
        rw [h.kinds_length, ← h.columns_length]
        exact hindex
      refine ⟨(width_withRow _ index value).trans h.columns_length, ?_, h.names_length, ?_⟩
      · simpa [ResultSet.withRow, withKind] using h.kinds_length
      · intro other
        by_cases hother : other = index
        · subst hother
          have hwithin : other < (set.withKind other value.kind).width := hindex
          rw [kind?_withRow, kind?_withKind_self value.kind hlength,
            rows_withRow_self value hwithin, rows_withKind]
          exact htyped.append_first hvalue
        · rw [kind?_withRow, kind?_withKind_of_ne value.kind hother,
            rows_withRow_of_ne value hother, rows_withKind]
          exact h.typed other

theorem append (h : set.WellFormed width) (index : Nat) (value : Value) :
    ((append index value).perform set).state.WellFormed width := by
  rcases append_decides set index value with ⟨next, happends, hperform⟩ | ⟨-, fault, hperform⟩
  · rw [hperform]
    exact h.appends happends
  · rw [hperform]
    exact h

theorem rename (h : set.WellFormed width) (index : Nat) (name : String) :
    ((rename index name).perform set).state.WellFormed width := by
  rcases rename_decides set index name with hperform | ⟨fault, hperform⟩
  · rw [hperform]
    exact { h with names_length := List.length_set.trans h.names_length, typed := h.typed }
  · rw [hperform]
    exact h

theorem replaceWith (h : set.WellFormed width) {other : ResultSet} {otherWidth : Nat}
    (hother : other.WellFormed otherWidth) :
    ((replaceWith other).perform set).state.WellFormed width := by
  rw [perform_replaceWith]
  by_cases hwidth : other.width = set.width
  · have hsame : otherWidth = width := by
      rw [← hother.columns_length, ← h.columns_length]
      exact hwidth
    rw [if_pos hwidth, ← hsame]
    exact hother
  · rw [if_neg hwidth]
    exact h

end WellFormed

/-- The containers that calls lead to, refused ones included, from an empty one of that many
columns. What takes the place of the contents is such a container too. -/
inductive Reachable : Nat → ResultSet → Prop where
  | start (width : Nat) : Reachable width (ofWidth width)
  | append {width : Nat} {set : ResultSet} (h : Reachable width set) (index : Nat) (value : Value) :
      Reachable width ((append index value).perform set).state
  | rename {width : Nat} {set : ResultSet} (h : Reachable width set) (index : Nat) (name : String) :
      Reachable width ((rename index name).perform set).state
  | replace {width otherWidth : Nat} {set other : ResultSet} (h : Reachable width set)
      (hother : Reachable otherWidth other) :
      Reachable width ((replaceWith other).perform set).state

theorem Reachable.wellFormed {width : Nat} {set : ResultSet} (h : Reachable width set) :
    set.WellFormed width := by
  induction h with
  | start width => exact wellFormed_ofWidth width
  | append _ index value ih => exact ih.append index value
  | rename _ index name ih => exact ih.rename index name
  | replace _ _ ih ihOther => exact ih.replaceWith ihOther

theorem Reachable.foldl_append {width : Nat} {set : ResultSet} (h : Reachable width set) (index : Nat)
    (rows : List Value) :
    Reachable width
      (rows.foldl (fun set value => ((ResultSet.append index value).perform set).state) set) := by
  induction rows generalizing set with
  | nil => exact h
  | cons value rows ih => exact ih (h.append index value)

/-- After any calls the lists are in step and every column is typed by its first value that is not
empty. A value is let in exactly when it is empty or of that kind, and a call that does not go
through changes nothing. -/
theorem reachable_columns_typed {width : Nat} {set : ResultSet} (h : Reachable width set) :
    (set.width = width ∧ set.columns.length = width ∧ set.kinds.length = width ∧
        set.names.length = width) ∧
      (∀ index,
        (set.kind? index = none ↔ ∀ value ∈ set.rows index, value.isEmpty = true) ∧
          ∀ kind, set.kind? index = some kind →
            (∃ earlier value later, set.rows index = earlier ++ value :: later ∧
                (∀ other ∈ earlier, other.isEmpty = true) ∧ value.isEmpty = false ∧
                value.kind = kind) ∧
              ∀ value ∈ set.rows index, value.isEmpty = false → value.kind = kind) ∧
      (∀ index value,
        (((append index value).perform set).isOk = true ↔
            index < width ∧
              (value.isEmpty = true ∨ set.kind? index = none ∨
                set.kind? index = some value.kind)) ∧
          (∀ noted, (append index value).perform set = .ok () noted →
            noted.value.rows index = set.rows index ++ [value] ∧
              noted.value.width = set.width ∧ noted.value.names = set.names ∧
              ∀ other, other ≠ index →
                noted.value.rows other = set.rows other ∧
                  noted.value.kind? other = set.kind? other) ∧
          ∀ fault noted, (append index value).perform set = .error fault noted →
            noted.value = set) ∧
      (∀ index name fault noted, (rename index name).perform set = .error fault noted →
        noted.value = set) ∧
      ∀ other, ∃ replaced noted, (replaceWith other).perform set = .ok replaced noted ∧
        (replaced = true ↔ other.width = set.width) ∧
        noted.value = if replaced then other else set := by
  have hformed := h.wellFormed
  refine ⟨⟨hformed.columns_length, hformed.columns_length, hformed.kinds_length,
    hformed.names_length⟩, ?_, ?_, ?_, ?_⟩
  · intro index
    have htyped := hformed.typed index
    refine ⟨htyped.kind_eq ▸ fixedKind?_eq_none_iff, ?_⟩
    intro kind hkind
    refine ⟨fixedKind?_eq_some_iff.mp (htyped.kind_eq ▸ hkind), ?_⟩
    intro value hvalue hnonempty
    have hsame := htyped.forall_mem value hvalue hnonempty
    rw [hkind] at hsame
    exact (Option.some.inj hsame).symm
  · intro index value
    refine ⟨?_, ?_, ?_⟩
    · have hwidth : set.width = width := hformed.columns_length
      rw [isOk_append_iff, Accepts, hwidth]
    · intro noted hperform
      exact (appends_of_append_eq_ok hperform).frame
    · intro fault noted hperform
      rw [append_error hperform]
  · intro index name fault noted hperform
    rw [rename_error hperform]
  · intro other
    rw [perform_replaceWith]
    by_cases hwidth : other.width = set.width
    · exact ⟨true, _, if_pos hwidth, by simp [hwidth], rfl⟩
    · exact ⟨false, _, if_neg hwidth, by simp [hwidth], rfl⟩

theorem reachable_columns_typed_replaced :
    let source := ((append 0 (.list .string ["a"])).perform
      ((append 0 .empty).perform (ofWidth 2)).state).state
    let set := ((replaceWith source).perform
      ((append 0 (.string "a")).perform (ofWidth 2)).state).state
    Reachable 2 set ∧ set.kind? 0 = some (.list .string) ∧
      (∃ earlier value later, set.rows 0 = earlier ++ value :: later ∧
        (∀ other ∈ earlier, other.isEmpty = true) ∧ value.isEmpty = false ∧
        value.kind = .list .string) ∧
      ((append 0 (.string "a")).perform set).isOk = false := by
  intro source set
  have hsource : Reachable 2 source := ((Reachable.start 2).append 0 _).append 0 _
  have hset : Reachable 2 set := ((Reachable.start 2).append 0 _).replace hsource
  have hkind : set.kind? 0 = some (.list .string) := rfl
  obtain ⟨-, hkinds, happend, -⟩ := reachable_columns_typed hset
  refine ⟨hset, hkind, ((hkinds 0).2 _ hkind).1, ?_⟩
  rw [Bool.eq_false_iff, ne_eq, (happend 0 (.string "a")).1, hkind]
  decide

end ObservationSql.ResultSet
