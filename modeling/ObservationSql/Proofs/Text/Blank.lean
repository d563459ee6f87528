import ObservationSql.Proofs.Text.Case

namespace ObservationSql.Text

/-- Whether a text is a word with nothing but white space around it. -/
def Surrounds (text word : List Char) : Prop :=
  ∃ before after, text = before ++ word ++ after ∧
    (∀ c ∈ before, isBlank c = true) ∧ ∀ c ∈ after, isBlank c = true

theorem dropWhile_blanks_append {blanks word : List Char}
    (hblanks : ∀ c ∈ blanks, isBlank c = true) (hne : word ≠ [])
    (hword : ∀ c ∈ word, isBlank c = false) (rest : List Char) :
    (blanks ++ (word ++ rest)).dropWhile isBlank = word ++ rest := by
  obtain ⟨c, word, rfl⟩ := List.exists_cons_of_ne_nil hne
  have hc : isBlank c = false := hword c List.mem_cons_self
  rw [List.dropWhile_append_of_pos hblanks, List.cons_append, List.dropWhile_cons_of_neg]
  rw [hc]
  exact Bool.false_ne_true

theorem Surrounds.trimChars_eq {text word : List Char} (h : Surrounds text word) (hne : word ≠ [])
    (hword : ∀ c ∈ word, isBlank c = false) : trimChars text = word := by
  obtain ⟨before, after, rfl, hbefore, hafter⟩ := h
  have hfront : (before ++ word ++ after).dropWhile isBlank = word ++ after := by
    rw [List.append_assoc, dropWhile_blanks_append hbefore hne hword]
  have hback : (after.reverse ++ (word.reverse ++ [])).dropWhile isBlank = word.reverse ++ [] :=
    dropWhile_blanks_append (by simpa using hafter) (by simpa using hne) (by simpa using hword) []
  rw [List.append_nil] at hback
  rw [trimChars, hfront, List.reverse_append, hback, List.reverse_reverse]

theorem surrounds_trimChars (text : List Char) : Surrounds text (trimChars text) := by
  have hfront := List.takeWhile_append_dropWhile (p := isBlank) (l := text)
  have hback := List.takeWhile_append_dropWhile (p := isBlank)
    (l := (text.dropWhile isBlank).reverse)
  refine ⟨text.takeWhile isBlank, ((text.dropWhile isBlank).reverse.takeWhile isBlank).reverse,
    ?_, ?_, ?_⟩
  · rw [List.append_assoc, trimChars, ← List.reverse_append, hback, List.reverse_reverse, hfront]
  · exact fun c hc => List.mem_takeWhile_imp hc
  · exact fun c hc => List.mem_takeWhile_imp (List.mem_reverse.mp hc)

end ObservationSql.Text
