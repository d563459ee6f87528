import Mathlib.Data.List.Basic

/-!
Readers take an item off the front of a text. What a reader is said to read, it reads in front of
every text that does not begin with a character which would go on with the item.
-/

namespace ObservationSql.Text

/-- A reader has the characters that are left as its state. -/
abbrev Reader := StateT (List Char) Option

/-- Whether a text begins with a character of the class. -/
def beginsWith (barred : Char → Bool) (text : List Char) : Bool :=
  text.head?.any barred

theorem beginsWith_append {barred : Char → Bool} {text : List Char} (h : text ≠ [])
    (rest : List Char) : beginsWith barred (text ++ rest) = beginsWith barred text := by
  cases text with
  | nil => exact absurd rfl h
  | cons c text => rfl

theorem beginsWith_mono {barred wider : Char → Bool} (h : ∀ c, barred c = true → wider c = true)
    {text : List Char} (htext : beginsWith wider text = false) : beginsWith barred text = false := by
  cases text with
  | nil => rfl
  | cons c text =>
      rw [Bool.eq_false_iff] at htext ⊢
      exact fun hc => htext (h c hc)

def never : Char → Bool :=
  fun _ => false

theorem beginsWith_never (text : List Char) : beginsWith never text = false := by
  cases text <;> rfl

namespace Reader

variable {α β : Type}

/-- Reads nothing, and gives an item if there is one. -/
def ofOption (item : Option α) : Reader α :=
  fun input => item.map fun item => (item, input)

def exactly (text : String) : Reader Unit :=
  fun input =>
    if text.toList.isPrefixOf input then some ((), input.drop text.toList.length) else none

def notBefore (barred : Char → Bool) : Reader Unit :=
  fun input => if beginsWith barred input then none else some ((), input)

def run (taken : Char → Bool) : Reader (List Char) :=
  fun input => some (input.takeWhile taken, input.dropWhile taken)

def take (count : Nat) : Reader (List Char) :=
  fun input =>
    if count ≤ input.length then some (input.take count, input.drop count) else none

theorem bind_eq_none {reader : Reader α} {input : List Char} (h : reader input = none)
    (next : α → Reader β) : (reader >>= next) input = none := by
  change (reader input).bind (fun found => next found.1 found.2) = none
  rw [h]
  rfl

/-- The item that a reader finds when it reads the whole of a text. -/
def whole? (reader : Reader α) (text : String) : Option α :=
  (reader text.toList).bind fun (item, rest) => if rest.isEmpty then some item else none

end Reader

/-- The reader takes the item off the front of `text ++ rest` and leaves `rest`, for every rest that
does not begin with a barred character. -/
def Reads {α : Type} (reader : Reader α) (text : List Char) (item : α) (barred : Char → Bool) :
    Prop :=
  ∀ rest, beginsWith barred rest = false → reader (text ++ rest) = some (item, rest)

namespace Reads

open Reader

variable {α β : Type} {reader : Reader α} {text : List Char} {item : α} {barred wider : Char → Bool}

theorem mono (h : Reads reader text item barred) (hwider : ∀ c, barred c = true → wider c = true) :
    Reads reader text item wider :=
  fun rest hrest => h rest (beginsWith_mono hwider hrest)

theorem of_never (h : Reads reader text item never) : Reads reader text item barred :=
  h.mono fun _ hc => nomatch hc

theorem pure (item : α) : Reads (Pure.pure item) [] item barred :=
  fun _ _ => rfl

theorem bind {next : α → Reader β} {more : List Char} {result : β}
    (h : Reads reader text item barred) (hnext : Reads (next item) more result wider)
    (hclear : ∀ rest, beginsWith wider rest = false → beginsWith barred (more ++ rest) = false) :
    Reads (reader >>= next) (text ++ more) result wider := by
  intro rest hrest
  have hitem := h (more ++ rest) (hclear rest hrest)
  change (reader (text ++ more ++ rest)).bind (fun found => next found.1 found.2) = _
  rw [List.append_assoc, hitem]
  exact hnext rest hrest

/-- Where nothing can go on with the first item, the second may be any. -/
theorem bind_never {next : α → Reader β} {more : List Char} {result : β}
    (h : Reads reader text item never) (hnext : Reads (next item) more result barred) :
    Reads (reader >>= next) (text ++ more) result barred :=
  h.bind hnext fun rest _ => beginsWith_never (more ++ rest)

theorem bind_of_ne_nil {next : α → Reader β} {more : List Char} {result : β}
    (h : Reads reader text item barred) (hnext : Reads (next item) more result wider)
    (hmore : more ≠ []) (hclear : beginsWith barred more = false) :
    Reads (reader >>= next) (text ++ more) result wider :=
  h.bind hnext fun rest _ => (beginsWith_append hmore rest).trans hclear

theorem bind_nil {next : α → Reader β} {result : β} (h : Reads reader text item barred)
    (hnext : Reads (next item) [] result wider)
    (hwider : ∀ c, barred c = true → wider c = true) :
    Reads (reader >>= next) text result wider := by
  have hbind := h.bind hnext fun rest hrest => beginsWith_mono hwider hrest
  rw [List.append_nil] at hbind
  exact hbind

theorem returned {f : α → β} (h : Reads reader text item barred) :
    Reads (reader >>= fun item => Pure.pure (f item)) text (f item) barred :=
  h.bind_nil (pure (f item)) fun _ hc => hc

theorem ofOption {found : Option α} (h : found = some item) :
    Reads (Reader.ofOption found) [] item never := by
  subst h
  exact fun _ _ => rfl

theorem checked {check : α → Option β} {result : β} (h : Reads reader text item barred)
    (hcheck : check item = some result) :
    Reads (reader >>= fun item => Reader.ofOption (check item)) text result barred :=
  h.bind_nil (of_never (ofOption hcheck)) fun _ hc => hc

theorem exactly (text : String) : Reads (Reader.exactly text) text.toList () never := by
  intro rest _
  rw [Reader.exactly, if_pos (List.isPrefixOf_iff_prefix.mpr (List.prefix_append _ _)),
    List.drop_left]

theorem notBefore (barred : Char → Bool) : Reads (Reader.notBefore barred) [] () barred := by
  intro rest hrest
  rw [List.nil_append, Reader.notBefore, hrest]
  rfl

theorem run {taken : Char → Bool} (h : ∀ c ∈ text, taken c = true) :
    Reads (Reader.run taken) text text taken := by
  intro rest hrest
  have htake : rest.takeWhile taken = [] := by
    cases rest with
    | nil => rfl
    | cons c rest => exact List.takeWhile_cons_of_neg (by simpa [beginsWith] using hrest)
  have hdrop : rest.dropWhile taken = rest := by
    cases rest with
    | nil => rfl
    | cons c rest => exact List.dropWhile_cons_of_neg (by simpa [beginsWith] using hrest)
  rw [Reader.run, List.takeWhile_append_of_pos h, List.dropWhile_append_of_pos h, htake, hdrop,
    List.append_nil]

theorem take (text : List Char) : Reads (Reader.take text.length) text text never := by
  intro rest _
  rw [Reader.take, if_pos (by simp), List.take_left, List.drop_left]

theorem whole? {text : String} (h : Reads reader text.toList item barred) :
    reader.whole? text = some item := by
  have hitem := h [] rfl
  rw [List.append_nil] at hitem
  rw [Reader.whole?, hitem]
  rfl

end Reads

end ObservationSql.Text
