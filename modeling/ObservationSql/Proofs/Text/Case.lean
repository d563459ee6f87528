import Mathlib
import ObservationSql.Text.Ascii
import ObservationSql.Text.Blank
import ObservationSql.Text.Uppercase

namespace ObservationSql.Text

theorem isUpper_iff {c : Char} : c.isUpper = true ↔ 65 ≤ c.toNat ∧ c.toNat ≤ 90 := by
  simp [Char.isUpper, UInt32.le_iff_toNat_le]

theorem toNat_toLower {c : Char} (h : c.isUpper = true) : c.toLower.toNat = c.toNat + 32 := by
  have hrange := isUpper_iff.mp h
  have hvalid : (c.toNat + 32).isValidChar := by
    left
    omega
  rw [Char.toLower_eq_of_isUpper h, Char.toNat_ofNat, if_pos hvalid]

theorem isBlank_of_letter {c : Char} (hlow : 65 ≤ c.toNat) (hhigh : c.toNat ≤ 122) :
    isBlank c = false := by
  simp [isBlank, blankRanges]
  omega

theorem isBlank_toLower (c : Char) : isBlank c.toLower = isBlank c := by
  by_cases hupper : c.isUpper = true
  · have hrange := isUpper_iff.mp hupper
    have hlower := toNat_toLower hupper
    rw [isBlank_of_letter hrange.1 (by omega), isBlank_of_letter (by omega) (by omega)]
  · rw [Char.toLower_eq_of_not_isUpper hupper]

theorem upperChar_toLower (c : Char) : upperChar c.toLower = upperChar c := by
  by_cases hupper : c.isUpper = true
  · have hrange := isUpper_iff.mp hupper
    have hlower := toNat_toLower hupper
    rw [upperChar, upperChar, if_pos (by omega), if_pos (by omega), Char.toUpper_toLower_eq_toUpper]
  · rw [Char.toLower_eq_of_not_isUpper hupper]

@[simp] theorem toList_lower (text : String) : (lower text).toList = folded text :=
  String.toList_ofList

@[simp] theorem lower_append (left right : String) :
    lower (left ++ right) = lower left ++ lower right := by
  simp [lower, folded]

@[simp] theorem folded_lower (text : String) : folded (lower text) = folded text := by
  rw [folded, toList_lower, folded, List.map_map]
  exact List.map_congr_left fun c _ => Char.toLower_toLower_eq_toLower c

@[simp] theorem lower_lower (text : String) : lower (lower text) = lower text := by
  rw [lower, folded_lower, lower]

theorem eqFold_iff_lower_eq {left right : String} :
    eqFold left right = true ↔ lower left = lower right := by
  rw [eqFold_iff, lower, lower, String.ofList_inj]

@[simp] theorem eqFold_lower_right (left right : String) :
    eqFold left (lower right) = eqFold left right := by
  rw [eqFold, folded_lower, eqFold]

@[simp] theorem eqFold_lower_left (left right : String) :
    eqFold (lower left) right = eqFold left right := by
  rw [eqFold, folded_lower, eqFold]

@[simp] theorem lower_eq_empty_iff {text : String} : lower text = "" ↔ text = "" := by
  rw [← String.toList_inj, toList_lower, folded, ← String.toList_inj]
  simp

theorem lower_joinWith (separator : String) (texts : List String) :
    lower (joinWith separator texts) = joinWith (lower separator) (texts.map lower) := by
  induction texts with
  | nil => rfl
  | cons text rest ih =>
      cases rest with
      | nil => rfl
      | cons next rest =>
          rw [joinWith, lower_append, lower_append, ih]
          rfl

theorem upper_lower (text : String) : upper (lower text) = upper text := by
  rw [upper, toList_lower, folded, List.flatMap_map, upper]
  simp only [upperChar_toLower]

theorem dropWhile_isBlank_map (chars : List Char) :
    (chars.map Char.toLower).dropWhile isBlank = (chars.dropWhile isBlank).map Char.toLower := by
  rw [List.dropWhile_map]
  congr 1
  congr 1
  funext c
  exact isBlank_toLower c

theorem trim_lower (text : String) : trim (lower text) = lower (trim text) := by
  rw [trim, toList_lower, folded, trimChars, dropWhile_isBlank_map, ← List.map_reverse,
    dropWhile_isBlank_map, ← List.map_reverse, lower, folded, trim, String.toList_ofList]
  rfl

theorem wordsFrom_map (word chars : List Char) :
    wordsFrom (word.map Char.toLower) (chars.map Char.toLower)
      = (wordsFrom word chars).map (List.map Char.toLower) := by
  induction chars generalizing word with
  | nil => cases word <;> rfl
  | cons c rest ih =>
      have hnil := ih []
      have hword := ih (word ++ [c])
      rw [List.map_append] at hword
      rw [List.map_cons, wordsFrom, wordsFrom, isBlank_toLower, List.isEmpty_map]
      split
      · split
        · exact hnil
        · exact congrArg (word.map Char.toLower :: ·) hnil
      · exact hword

theorem lower_ofList (chars : List Char) :
    lower (String.ofList chars) = String.ofList (chars.map Char.toLower) := by
  rw [lower, folded, String.toList_ofList]

theorem words_lower (text : String) : words (lower text) = (words text).map lower := by
  have hwords := wordsFrom_map [] text.toList
  rw [List.map_nil] at hwords
  rw [words, toList_lower, folded, hwords, words, List.map_map, List.map_map]
  exact List.map_congr_left fun word _ => (lower_ofList word).symm

def isAscii (text : String) : Bool :=
  text.toList.all fun c => c.toNat < 0x80

theorem toList_upper {text : String} (h : isAscii text = true) :
    (upper text).toList = text.toList.map Char.toUpper := by
  rw [upper, String.toList_ofList, List.map_eq_flatMap]
  refine List.flatMap_congr fun c hc => ?_
  have hascii : c.toNat < 0x80 := by simpa using List.all_eq_true.mp h c hc
  rw [upperChar, if_pos hascii]

theorem folded_map_toUpper (text : String) :
    (text.toList.map Char.toUpper).map Char.toLower = folded text := by
  rw [List.map_map]
  exact List.map_congr_left fun c _ => Char.toLower_toUpper_eq_toLower c

theorem upper_eq_of_eqFold {left right : String} (h : eqFold left right = true) :
    upper left = upper right := by
  rw [← upper_lower left, ← upper_lower right, eqFold_iff_lower_eq.mp h]

/-- The converse fails beyond ASCII, where small letters may have the capitals of others. -/
theorem upper_eq_iff_of_isAscii {left right : String} (hleft : isAscii left = true)
    (hright : isAscii right = true) :
    upper left = upper right ↔ eqFold left right = true := by
  refine ⟨fun h => ?_, upper_eq_of_eqFold⟩
  rw [eqFold_iff, ← folded_map_toUpper left, ← folded_map_toUpper right, ← toList_upper hleft,
    ← toList_upper hright, h]

end ObservationSql.Text
