import Mathlib.Data.List.Infix
import ObservationSql.Text.Blank

namespace ObservationSql.Text

/-- Neither text goes on where the other ends. -/
def Apart (left right : String) : Prop :=
  ¬left.toList <+: right.toList ∧ ¬right.toList <+: left.toList

namespace Apart

variable {left right : String}

theorem ne (h : Apart left right) : left ≠ right := by
  rintro rfl
  exact h.1 List.prefix_rfl

theorem symm (h : Apart left right) : Apart right left :=
  ⟨h.2, h.1⟩

theorem not_prefix_append (h : Apart left right) (more more' : String) :
    ¬(left ++ more).toList <+: (right ++ more').toList := by
  intro hprefix
  rw [String.toList_append, String.toList_append] at hprefix
  have hleft := (List.prefix_append left.toList more.toList).trans hprefix
  rcases List.prefix_or_prefix_of_prefix hleft (List.prefix_append _ _) with hle | hge
  · exact h.1 hle
  · exact h.2 hge

theorem append (h : Apart left right) (more more' : String) :
    Apart (left ++ more) (right ++ more') :=
  ⟨h.not_prefix_append more more', h.symm.not_prefix_append more' more⟩

theorem prepend (h : Apart left right) (common : String) :
    Apart (common ++ left) (common ++ right) := by
  simpa only [Apart, String.toList_append, List.prefix_append_right_inj] using h

end Apart

/-- The texts are equal or come apart. -/
def Aligned (left right : String) : Prop :=
  left = right ∨ Apart left right

theorem Aligned.refl (text : String) : Aligned text text :=
  .inl rfl

theorem Aligned.append {left right more more' : String} (h : Aligned left right)
    (hmore : Aligned more more') : Aligned (left ++ more) (right ++ more') := by
  rcases h with rfl | hapart
  · rcases hmore with rfl | hapart
    · exact .refl _
    · exact .inr (hapart.prepend left)
  · exact .inr (hapart.append more more')

theorem Aligned.append_eq_iff {left right more more' : String} (h : Aligned left right) :
    left ++ more = right ++ more' ↔ left = right ∧ more = more' := by
  rcases h with rfl | hapart
  · simp
  · exact ⟨fun hsame => absurd hsame (hapart.append more more').ne,
      fun hsame => absurd hsame.1 hapart.ne⟩

section Join

variable {α : Type} {f g : α → String} {items : List α}

theorem aligned_joinWith (separator : String) (h : ∀ item ∈ items, Aligned (f item) (g item)) :
    Aligned (joinWith separator (items.map f)) (joinWith separator (items.map g)) := by
  induction items with
  | nil => exact .refl _
  | cons item rest ih =>
      have hitem := h item List.mem_cons_self
      have hrest := ih fun other hother => h other (List.mem_cons_of_mem _ hother)
      cases rest with
      | nil => exact hitem
      | cons next rest => exact (hitem.append (.refl separator)).append hrest

theorem joinWith_map_eq_iff (separator : String) (h : ∀ item ∈ items, Aligned (f item) (g item)) :
    joinWith separator (items.map f) = joinWith separator (items.map g) ↔
      ∀ item ∈ items, f item = g item := by
  induction items with
  | nil => simp
  | cons item rest ih =>
      have hitem := h item List.mem_cons_self
      have hrest := ih fun other hother => h other (List.mem_cons_of_mem _ hother)
      cases rest with
      | nil => simp [joinWith]
      | cons next rest =>
          rw [List.forall_mem_cons, ← hrest]
          exact (hitem.append (.refl separator)).append_eq_iff.trans
            (and_congr_left' (by simp))

end Join

end ObservationSql.Text
