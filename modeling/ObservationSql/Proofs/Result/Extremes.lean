import ObservationSql.Proofs.Binary.Word
import ObservationSql.Proofs.Result.Invariant
import ObservationSql.Result.Extremes

namespace ObservationSql

open Binary

/-- A way to pick one of two numbers that comes before both. -/
structure Chooses (before : Double → Double → Bool) (pick : Double → Double → Double) : Prop where
  mem : ∀ x y, pick x y = x ∨ pick x y = y
  before_both : ∀ x y, x.isNan = false → y.isNan = false →
    before (pick x y) x = true ∧ before (pick x y) y = true
  trans : ∀ x y z, before x y = true → before y z = true → before x z = true

theorem chooses_of {before ahead : Double → Double → Bool}
    (hrefl : ∀ x, x.isNan = false → before x x = true)
    (hahead : ∀ x y, ahead x y = true → before x y = true)
    (htotal : ∀ x y, x.isNan = false → y.isNan = false → ahead x y = false → before y x = true)
    (htrans : ∀ x y z, before x y = true → before y z = true → before x z = true) :
    Chooses before fun x y => if ahead y x then y else x where
  mem x y := by
    cases ahead y x with
    | true => exact .inr rfl
    | false => exact .inl rfl
  before_both x y hx hy := by
    cases hpick : ahead y x with
    | true => exact ⟨hahead y x hpick, hrefl y hy⟩
    | false => exact ⟨hrefl x hx, htotal y x hy hx hpick⟩
  trans := htrans

theorem chooses_lesser : Chooses Double.le lesser :=
  chooses_of (fun _ => Double.le_refl) (fun _ _ => Double.le_of_lt)
    (fun _ _ => Double.le_of_lt_eq_false) fun _ _ _ => Double.le_trans

theorem chooses_greater : Chooses (fun x y => y.le x) greater :=
  chooses_of (fun _ => Double.le_refl) (fun _ _ => Double.le_of_lt)
    (fun _ _ hx hy => Double.le_of_lt_eq_false hy hx) fun _ _ _ hxy hyz => Double.le_trans hyz hxy

namespace Chooses

variable {before : Double → Double → Bool} {pick : Double → Double → Double}
  (h : Chooses before pick)

include h

theorem foldl_mem (xs : List Double) (first : Double) : xs.foldl pick first ∈ first :: xs := by
  induction xs generalizing first with
  | nil => exact List.mem_singleton_self first
  | cons x xs ih =>
      rcases List.mem_cons.mp (ih (pick first x)) with hpick | hrest
      · rw [List.foldl_cons, hpick]
        rcases h.mem first x with hfirst | hx
        · rw [hfirst]
          exact List.mem_cons_self
        · rw [hx]
          exact List.mem_cons_of_mem first List.mem_cons_self
      · exact List.mem_cons_of_mem first (List.mem_cons_of_mem x hrest)

theorem foldl_before {xs : List Double} {first : Double}
    (hxs : ∀ x ∈ first :: xs, x.isNan = false) :
    ∀ x ∈ first :: xs, before (xs.foldl pick first) x = true := by
  induction xs generalizing first with
  | nil =>
      intro x hx
      rw [List.mem_singleton.mp hx]
      have hfirst := hxs first List.mem_cons_self
      have hboth := h.before_both first first hfirst hfirst
      rcases h.mem first first with hpick | hpick <;> rw [hpick] at hboth <;> exact hboth.1
  | cons next xs ih =>
      have hfirst := hxs first (by simp)
      have hnext := hxs next (by simp)
      have hpick : (pick first next).isNan = false := by
        rcases h.mem first next with hpick | hpick <;> rw [hpick] <;> assumption
      have hrest : ∀ x ∈ pick first next :: xs, before (xs.foldl pick (pick first next)) x = true :=
        ih (List.forall_mem_cons.mpr ⟨hpick, fun x hx => hxs x (by simp [hx])⟩)
      -- the first choice comes before both of its numbers, and what the search ends at before that
      obtain ⟨hleft, hright⟩ := h.before_both first next hfirst hnext
      have hbest := hrest _ List.mem_cons_self
      intro x hx
      rcases List.mem_cons.mp hx with rfl | hx
      · exact h.trans _ _ _ hbest hleft
      rcases List.mem_cons.mp hx with rfl | hx
      · exact h.trans _ _ _ hbest hright
      · exact hrest x (List.mem_cons_of_mem _ hx)

/-- Started from a finite bound, the search ends at one of the numbers, unless all of them are the
infinity beyond the bound. -/
theorem foldl_bound {bound : Double} {negative : Bool} (hbound : bound.isNan = false)
    (hantisymm : ∀ x, before x bound = true → before bound x = true → x = bound)
    (hbeyond : ∀ x, x.isNan = false → (before x bound = true ↔ x.datum ≠ .infinite negative))
    {xs : List Double} (hxs : ∀ x ∈ xs, x.isNan = false) :
    (∀ x ∈ xs, before (xs.foldl pick bound) x = true) ∧
      ((∃ x ∈ xs, x.datum ≠ .infinite negative) → xs.foldl pick bound ∈ xs) ∧
      ((∀ x ∈ xs, x.datum = .infinite negative) → xs.foldl pick bound = bound) := by
  have hbefore := h.foldl_before (List.forall_mem_cons.mpr ⟨hbound, hxs⟩)
  have hmem := List.mem_cons.mp (h.foldl_mem xs bound)
  refine ⟨fun x hx => hbefore x (List.mem_cons_of_mem bound hx), ?_, ?_⟩
  · rintro ⟨x, hx, hinfinite⟩
    rcases hmem with hstart | hmem
    -- the search never left the bound, so a number within the bound is the bound itself
    · have hwithin := (hbeyond x (hxs x hx)).mpr hinfinite
      have hagain := hbefore x (List.mem_cons_of_mem bound hx)
      rw [hstart] at hagain ⊢
      rwa [← hantisymm x hwithin hagain]
    · exact hmem
  · intro hinfinite
    rcases hmem with hstart | hmem
    · exact hstart
    · have hbest := hbefore bound List.mem_cons_self
      exact absurd (hinfinite _ hmem) ((hbeyond _ (hxs _ hmem)).mp hbest)

end Chooses

theorem foldl_lesser {xs : List Double} (hxs : ∀ x ∈ xs, x.isNan = false) :
    (∀ x ∈ xs, (xs.foldl lesser .largest).le x = true) ∧
      ((∃ x ∈ xs, x.datum ≠ .infinite false) → xs.foldl lesser .largest ∈ xs) ∧
      ((∀ x ∈ xs, x.datum = .infinite false) → xs.foldl lesser .largest = .largest) := by
  apply chooses_lesser.foldl_bound (by decide +kernel) _ (fun x hx => (Double.bounds_iff hx).1) hxs
  intro x hxbound hboundx
  exact Double.eq_of_le_of_le (by decide +kernel) (by decide +kernel) hxbound hboundx

theorem foldl_greater {xs : List Double} (hxs : ∀ x ∈ xs, x.isNan = false) :
    (∀ x ∈ xs, x.le (xs.foldl greater .smallest) = true) ∧
      ((∃ x ∈ xs, x.datum ≠ .infinite true) → xs.foldl greater .smallest ∈ xs) ∧
      ((∀ x ∈ xs, x.datum = .infinite true) → xs.foldl greater .smallest = .smallest) := by
  apply chooses_greater.foldl_bound (by decide +kernel) _ (fun x hx => (Double.bounds_iff hx).2) hxs
  intro x hboundx hxbound
  exact Double.eq_of_le_of_le (by decide +kernel) (by decide +kernel) hxbound hboundx

theorem foldl_widenExtremes (xs : List Double) (least greatest : Double) :
    xs.foldl widenExtremes (least, greatest) =
      ((xs.filter fun x => !x.isNan).foldl lesser least,
        (xs.filter fun x => !x.isNan).foldl greater greatest) := by
  induction xs generalizing least greatest with
  | nil => rfl
  | cons x xs ih =>
      rw [List.foldl_cons, List.filter_cons, widenExtremes]
      cases x.isNan with
      | false => exact ih _ _
      | true => exact ih _ _

/-- A number of some rows, as a double: a floating-point number that is no NaN. -/
def ResultSet.HasNumber (set : ResultSet) (index start stop : Nat) (x : Double) : Prop :=
  ∃ row value, start ≤ row ∧ row < stop ∧ set.value? index row = some value ∧
    value.asDouble? = some x ∧ x.isNan = false

namespace ResultSet

/-- The numbers among which the extremes are searched, in the order of their rows. -/
def numbers (set : ResultSet) (index start stop : Nat) : List Double :=
  ((((set.rows index).take stop).drop start).filterMap Value.asDouble?).filter fun x => !x.isNan

theorem mem_numbers_iff {set : ResultSet} {index start stop : Nat} {x : Double} :
    x ∈ set.numbers index start stop ↔ set.HasNumber index start stop x := by
  have hrows : ∀ value, value ∈ ((set.rows index).take stop).drop start ↔
      ∃ row, start ≤ row ∧ row < stop ∧ set.value? index row = some value := by
    intro value
    rw [List.mem_iff_getElem?]
    constructor
    · rintro ⟨place, hplace⟩
      rw [List.getElem?_drop, List.getElem?_take] at hplace
      split at hplace
      · exact ⟨start + place, Nat.le_add_right _ _, ‹_›, hplace⟩
      · cases hplace
    · rintro ⟨row, hstart, hstop, hvalue⟩
      refine ⟨row - start, ?_⟩
      rw [List.getElem?_drop, Nat.add_sub_cancel' hstart, List.getElem?_take, if_pos hstop]
      exact hvalue
  rw [numbers, List.mem_filter, List.mem_filterMap]
  constructor
  · rintro ⟨⟨value, hvalue, hdouble⟩, hnan⟩
    obtain ⟨row, hstart, hstop, hvalue⟩ := (hrows value).mp hvalue
    exact ⟨row, value, hstart, hstop, hvalue, hdouble, by simpa using hnan⟩
  · rintro ⟨row, value, hstart, hstop, hvalue, hdouble, hnan⟩
    exact ⟨⟨value, (hrows value).mpr ⟨row, hstart, hstop, hvalue⟩, hdouble⟩, by simpa using hnan⟩

theorem extremes_eq {set : ResultSet} {index : Nat}
    (h : isFloating (set.kind? index) = true) (start stop : Nat) :
    set.extremes index start stop =
      ((set.numbers index start stop).foldl lesser .largest,
        (set.numbers index start stop).foldl greater .smallest) := by
  rw [extremes, if_pos h, noExtremes, foldl_widenExtremes]
  rfl

theorem isNan_of_mem_numbers {set : ResultSet} {index start stop : Nat} :
    ∀ x ∈ set.numbers index start stop, x.isNan = false := by
  intro x hx
  simpa using (List.mem_filter.mp hx).2

theorem Reachable.asDouble? {width index row : Nat} {set : ResultSet} {value : Value}
    (h : Reachable width set) (hvalue : set.value? index row = some value) :
    if isFloating (set.kind? index) = true then
      value = .empty ∨ (∃ x, value = .double x ∧ value.asDouble? = some x) ∨
        ∃ x y, value = .float x ∧ value.asDouble? = some y ∧ x.SameNumber y
    else value.asDouble? = none := by
  have hmem : value ∈ set.rows index := List.mem_of_getElem? hvalue
  have hkind := (h.wellFormed.typed index).forall_mem value hmem
  cases value with
  | empty => split <;> simp [Value.asDouble?]
  | list kind items =>
      rw [hkind rfl]
      rfl
  | scalar kind item =>
      rw [hkind rfl]
      cases kind with
      | float => exact .inr (.inr ⟨item, _, rfl, rfl, item.widen_sameNumber⟩)
      | double => exact .inr (.inl ⟨item, rfl, rfl⟩)
      | integer kind => rfl
      | string => rfl
      | timestamp => rfl

/-- The extremes are numbers of the rows that no number of the rows lies outside of, except that an
infinity on the far side of the bound where the search starts is missed if all numbers are that
infinity. Rows without numbers have the answer for no rows. -/
theorem extremes_of_rows {width : Nat} {set : ResultSet} (h : Reachable width set)
    (index start stop : Nat) :
    let extremes := set.extremes index start stop
    let number := set.HasNumber index start stop
    (∀ row value, set.value? index row = some value →
      if isFloating (set.kind? index) = true then
        value = .empty ∨ (∃ x, value = .double x ∧ value.asDouble? = some x) ∨
          ∃ x y, value = .float x ∧ value.asDouble? = some y ∧ x.SameNumber y
      else value.asDouble? = none) ∧
    ((isFloating (set.kind? index) = false ∨ ∀ x, ¬number x) → extremes = noExtremes) ∧
    (∀ x, number x → extremes.1.le x = true ∧ x.le extremes.2 = true) ∧
    ((∃ x, number x ∧ x.datum ≠ .infinite false) → number extremes.1) ∧
    ((∃ x, number x ∧ x.datum ≠ .infinite true) → number extremes.2) ∧
    ((∀ x, number x → x.datum = .infinite false) → extremes.1 = .largest) ∧
    ((∀ x, number x → x.datum = .infinite true) → extremes.2 = .smallest) := by
  intro extremes number
  refine ⟨fun row value => h.asDouble?, ?_⟩
  -- only a typed column rules out numbers under another kind, so this is where calls matter
  cases hfloating : isFloating (set.kind? index) with
  | false =>
      have hextremes : extremes = noExtremes := if_neg (by rw [hfloating]; decide)
      have hnone : ∀ x, ¬number x := by
        rintro x ⟨row, value, -, -, hvalue, hdouble, -⟩
        have hrow := h.asDouble? hvalue
        rw [hfloating, if_neg Bool.false_ne_true, hdouble] at hrow
        cases hrow
      refine ⟨fun _ => hextremes, fun x hx => absurd hx (hnone x), ?_, ?_, ?_, ?_⟩
      · rintro ⟨x, hx, -⟩
        exact absurd hx (hnone x)
      · rintro ⟨x, hx, -⟩
        exact absurd hx (hnone x)
      · intro _
        rw [hextremes]
        rfl
      · intro _
        rw [hextremes]
        rfl
  | true =>
      have hextremes : extremes = _ := extremes_eq hfloating start stop
      have hnumber : ∀ x, number x ↔ x ∈ set.numbers index start stop := fun _ =>
        mem_numbers_iff.symm
      have hnan : ∀ x ∈ set.numbers index start stop, x.isNan = false := isNan_of_mem_numbers
      obtain ⟨hleast, hleastMem, hleastBound⟩ := foldl_lesser hnan
      obtain ⟨hgreatest, hgreatestMem, hgreatestBound⟩ := foldl_greater hnan
      simp only [hextremes, hnumber]
      refine ⟨?_, fun x hx => ⟨hleast x hx, hgreatest x hx⟩, hleastMem, hgreatestMem, hleastBound,
        hgreatestBound⟩
      rintro (hother | hnone)
      · cases hother
      · rw [List.eq_nil_iff_forall_not_mem.mpr hnone]
        rfl

/-- A column of singles with an empty row, a NaN, the smallest single of all and an infinity. -/
theorem extremes_of_rows_singles :
    let rows : List Value := [.float ⟨0x00000001⟩, .empty, .float ⟨0x7FC00000⟩, .float ⟨0x3F800000⟩,
      .float ⟨0xFF800000⟩, .float ⟨0x7F800000⟩]
    let set := rows.foldl (fun set value => ((append 0 value).perform set).state) (ofWidth 1)
    Reachable 1 set ∧ set.extremes 0 0 4 = (⟨0x36A0000000000000⟩, ⟨0x3FF0000000000000⟩) ∧
      set.HasNumber 0 0 4 ⟨0x36A0000000000000⟩ ∧
      set.extremes 0 2 9 = (⟨0xFFF0000000000000⟩, ⟨0x7FF0000000000000⟩) ∧
      set.HasNumber 0 2 9 ⟨0x7FF0000000000000⟩ := by
  intro rows set
  have hset : Reachable 1 set := (Reachable.start 1).foldl_append 0 rows
  have hlow : set.extremes 0 0 4 = (⟨0x36A0000000000000⟩, ⟨0x3FF0000000000000⟩) := by
    decide +kernel
  have hhigh : set.extremes 0 2 9 = (⟨0xFFF0000000000000⟩, ⟨0x7FF0000000000000⟩) := by
    decide +kernel
  have hone : ∀ start stop, start ≤ 3 → 3 < stop →
      set.HasNumber 0 start stop ⟨0x3FF0000000000000⟩ := fun start stop hstart hstop =>
    ⟨3, .float ⟨0x3F800000⟩, hstart, hstop, by decide +kernel, by decide +kernel, by decide +kernel⟩
  have hleast := (extremes_of_rows hset 0 0 4).2.2.2.1
    ⟨_, hone 0 4 (by decide) (by decide), by decide +kernel⟩
  have hgreatest := (extremes_of_rows hset 0 2 9).2.2.2.2.1
    ⟨_, hone 2 9 (by decide) (by decide), by decide +kernel⟩
  rw [hlow] at hleast
  rw [hhigh] at hgreatest
  exact ⟨hset, hlow, hleast, hhigh, hgreatest⟩

/-- One infinite row, whose least number is then said to be the largest finite one. -/
theorem extremes_infinite_row :
    let set := ((append 0 (.double ⟨0x7FF0000000000000⟩)).perform (ofWidth 1)).state
    Reachable 1 set ∧ set.kind? 0 = some (.scalar .double) ∧
      set.HasNumber 0 0 1 ⟨0x7FF0000000000000⟩ ∧
      set.extremes 0 0 1 = (⟨0x7FEFFFFFFFFFFFFF⟩, ⟨0x7FF0000000000000⟩) ∧
      ¬set.HasNumber 0 0 1 (set.extremes 0 0 1).1 := by
  intro set
  refine ⟨(Reachable.start 1).append 0 _, by decide +kernel, ?_, by decide +kernel, ?_⟩
  · exact ⟨0, .double ⟨0x7FF0000000000000⟩, by decide, by decide, by decide +kernel,
      by decide +kernel, by decide +kernel⟩
  · rw [← mem_numbers_iff]
    decide +kernel

end ResultSet

end ObservationSql
