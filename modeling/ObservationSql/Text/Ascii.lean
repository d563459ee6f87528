namespace ObservationSql.Text

/-- The characters of a text with ASCII letters in lower case. -/
def folded (text : String) : List Char :=
  text.toList.map Char.toLower

/-- Whether two texts are the same but for the case of ASCII letters. Column names, operator names
and the names of result columns are compared this way. -/
def eqFold (left right : String) : Bool :=
  folded left == folded right

theorem eqFold_iff {left right : String} :
    eqFold left right = true ↔ folded left = folded right := by
  simp [eqFold]

@[simp] theorem eqFold_refl (text : String) : eqFold text text = true := by
  simp [eqFold]

theorem eqFold_comm (left right : String) : eqFold left right = eqFold right left := by
  rw [Bool.eq_iff_iff, eqFold_iff, eqFold_iff]
  exact eq_comm

def lower (text : String) : String :=
  String.ofList (folded text)

end ObservationSql.Text
