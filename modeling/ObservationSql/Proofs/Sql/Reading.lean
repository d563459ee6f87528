import ObservationSql.Proofs.Calendar.Reading
import ObservationSql.Proofs.Sql.Literal

/-!
SQL literals read back. A reader of literals of one kind takes every rendered value of that kind off
the front of a text, up to the fractions of its seconds. No text inside a literal ends it early or
runs on into the next.
-/

namespace ObservationSql

open Text Decimal Calendar

namespace ScalarKind

/-- The item as a literal can show it: an instant without the fraction of its second. -/
def toTheSecond : (kind : ScalarKind) → kind.Carrier → kind.Carrier
  | .timestamp, time => Timestamp.toTheSecond time
  | _, item => item

end ScalarKind

/-- The value with its instants cut to the second that a clock shows. -/
def Value.toTheSecond : Value → Value
  | .scalar kind item => .scalar kind (kind.toTheSecond item)
  | .list kind items => .list kind (items.map kind.toTheSecond)
  | .empty => .empty

theorem ScalarKind.toTheSecond_of_ne {kind : ScalarKind} (h : kind ≠ .timestamp)
    (item : kind.Carrier) : kind.toTheSecond item = item := by
  cases kind with
  | timestamp => exact absurd rfl h
  | integer _ => rfl
  | float => rfl
  | double => rfl
  | string => rfl

theorem Value.toTheSecond_of_ne {value : Value} (h : value.category ≠ .timestamp) :
    value.toTheSecond = value := by
  cases value with
  | scalar kind item =>
      have hkind : kind ≠ .timestamp := fun hkind => h (congrArg ScalarKind.category hkind)
      rw [toTheSecond, ScalarKind.toTheSecond_of_ne hkind]
  | list kind items =>
      have hkind : kind ≠ .timestamp := fun hkind => h (congrArg ScalarKind.category hkind)
      rw [toTheSecond, List.map_congr_left fun item _ => ScalarKind.toTheSecond_of_ne hkind item,
        List.map_id']
  | empty => rfl

theorem Value.eq_empty_iff {value : Value} : value = .empty ↔ value.kind = .empty := by
  cases value <;> simp [kind]

namespace Sql

def isQuote (c : Char) : Bool :=
  c == '\''

/-- The text up to the quote that ends it; two quotes in a row are one of the text. -/
def readBody : Reader (List Char)
  | [] => none
  | [c] => if c = '\'' then some ([], []) else none
  | c :: d :: rest =>
      if c ≠ '\'' then (readBody (d :: rest)).map fun (body, rest) => (c :: body, rest)
      else if d = '\'' then (readBody rest).map fun (body, rest) => (d :: body, rest)
      else some ([], d :: rest)

def readQuoted : Reader String := do
  Reader.exactly "'"
  let body ← readBody
  return String.ofList body

/-- An instant: the text of one, for Oracle together with the mask that tells how to read it. -/
def readTimestamp : Dialect → Reader Timestamp
  | .oracle => do
      Reader.exactly "TO_DATE("
      let time ← readQuoted
      Reader.exactly ","
      let mask ← readQuoted
      Reader.exactly ")"
      Reader.ofOption (if mask = timeMask then (readTime " ").whole? time else none)
  | .postgresql => do
      let time ← readQuoted
      Reader.ofOption ((readTime "T").whole? time)

/-- Reads a scalar of a kind that the caller knows. -/
def readScalar (dialect : Dialect) : (kind : ScalarKind) → Reader kind.Carrier
  | .integer kind => readNumber kind
  | .float => do
      let bits ← readDatum .binary32
      return (⟨bits.toUInt32⟩ : Binary.Single)
  | .double => do
      let bits ← readDatum .binary64
      return (⟨bits.toUInt64⟩ : Binary.Double)
  | .string => readQuoted
  | .timestamp => readTimestamp dialect

section Lists

variable {α : Type} (item : Reader α)

/-- The items behind the first one, each behind a comma, up to the closing parenthesis. There are
no more of them than characters are left. -/
def readMore : Nat → Reader (List α)
  | 0 => Reader.ofOption none
  | steps + 1 => do
      let mark ← Reader.take 1
      if mark = [')'] then return []
      else if mark = [','] then
        let first ← item
        let rest ← readMore steps
        return first :: rest
      else Reader.ofOption none

def readList : Reader (List α) := do
  Reader.exactly "("
  let input ← get
  if beginsWith (· == ')') input then
    Reader.exactly ")"
    return []
  else
    let first ← item
    let rest ← readMore item input.length
    return first :: rest

end Lists

def readValue (dialect : Dialect) : ValueKind → Reader Value
  | .scalar kind => do
      let item ← readScalar dialect kind
      return .scalar kind item
  | .list kind => do
      let items ← readList (readScalar dialect kind)
      return .list kind items
  | .empty => Reader.ofOption none

theorem reads_body (text : List Char) :
    Reads readBody (doubleQuotes text ++ ['\'']) text isQuote := by
  intro rest hrest
  rw [List.append_assoc, List.singleton_append]
  induction text with
  | nil =>
      rw [doubleQuotes, List.nil_append]
      cases rest with
      | nil => rfl
      | cons c rest =>
          have hc : c ≠ '\'' := by simpa [beginsWith, isQuote] using hrest
          simp [readBody, hc]
  | cons c text ih =>
      rw [doubleQuotes]
      split
      · next hc =>
        rw [List.cons_append, List.cons_append, readBody, ih, hc]
        rfl
      · next hc =>
        obtain ⟨d, tail, htail⟩ := List.exists_cons_of_ne_nil
          (show doubleQuotes text ++ '\'' :: rest ≠ [] by simp)
        rw [htail] at ih
        rw [List.cons_append, htail, readBody, if_pos hc, ih]
        rfl

theorem reads_quoted (text : String) : Reads readQuoted (quote text).toList text isQuote := by
  have hquote : (quote text).toList = "'".toList ++ (doubleQuotes text.toList ++ ['\'']) := by
    rw [quote, String.toList_ofList]
    rfl
  have hbody := (reads_body text.toList).returned (f := String.ofList)
  rw [String.ofList_toList] at hbody
  rw [hquote]
  exact (Reads.exactly "'").bind_never hbody

theorem timestampLiteral_oracle_toList (time : Timestamp) :
    (timestampLiteral time .oracle).toList = "TO_DATE(".toList
      ++ ((quote (time.text " ")).toList ++ (",".toList ++ ((quote timeMask).toList
      ++ ")".toList))) := by
  rw [Scanner.timestampLiteral_oracle]
  simp only [String.toList_append, List.append_assoc]
  rfl

theorem reads_timestamp (dialect : Dialect) (time : Timestamp) :
    Reads (readTimestamp dialect) (timestampLiteral time dialect).toList time.toTheSecond
      isQuote := by
  cases dialect with
  | oracle =>
      rw [timestampLiteral_oracle_toList]
      refine (Reads.exactly "TO_DATE(").bind_never ?_
      refine (reads_quoted (time.text " ")).bind_of_ne_nil ?_ (by simp) rfl
      refine (Reads.exactly ",").bind_never ?_
      refine (reads_quoted timeMask).bind_of_ne_nil ?_ (by simp) rfl
      refine (Reads.exactly ")").of_never.checked ?_
      rw [if_pos rfl]
      exact (reads_time " " time).whole?
  | postgresql =>
      rw [Scanner.timestampLiteral_postgresql]
      exact (reads_quoted (time.text "T")).checked (reads_time "T" time).whole?

theorem continuesNumber_of_isQuote : ∀ c, isQuote c = true → continuesNumber c = true := by
  intro c hc
  rw [isQuote] at hc
  rw [continuesNumber, hc, Bool.or_true]

theorem reads_scalar (dialect : Dialect) (kind : ScalarKind) (item : kind.Carrier)
    (hfinite : kind.isFinite item = true) :
    Reads (readScalar dialect kind) (renderScalar dialect kind item).toList (kind.toTheSecond item)
      continuesNumber := by
  cases kind with
  | integer kind => exact reads_number item
  | float =>
      have hbits : item.bits.toNat < 2 ^ 32 := item.bits.toNat_lt
      have h := (reads_datum (by decide) hbits hfinite).returned
        (f := fun bits => (⟨bits.toUInt32⟩ : Binary.Single))
      rw [Nat.toUInt32, UInt32.ofNat_toNat] at h
      exact h
  | double =>
      have hbits : item.bits.toNat < 2 ^ 64 := item.bits.toNat_lt
      have h := (reads_datum (by decide) hbits hfinite).returned
        (f := fun bits => (⟨bits.toUInt64⟩ : Binary.Double))
      rw [Nat.toUInt64, UInt64.ofNat_toNat] at h
      exact h
  | string => exact (reads_quoted item).mono continuesNumber_of_isQuote
  | timestamp => exact (reads_timestamp dialect item).mono continuesNumber_of_isQuote

theorem ne_close_of_numeral {text : List Char} (h : Numeral text) :
    text ≠ [] ∧ beginsWith (· == ')') text = false := by
  refine ⟨h.ne_nil, ?_⟩
  cases text with
  | nil => rfl
  | cons c rest =>
      rw [Bool.eq_false_iff]
      intro hc
      have hclose : c = ')' := by simpa [beginsWith] using hc
      exact absurd (hclose ▸ h.forall_mem c (by simp)) (by decide)

theorem ne_close_quote (text : String) :
    (quote text).toList ≠ [] ∧ beginsWith (· == ')') (quote text).toList = false := by
  rw [quote, String.toList_ofList]
  exact ⟨by simp, rfl⟩

theorem ne_close_timestampLiteral (time : Timestamp) (dialect : Dialect) :
    (timestampLiteral time dialect).toList ≠ [] ∧
      beginsWith (· == ')') (timestampLiteral time dialect).toList = false := by
  cases dialect with
  | oracle =>
      rw [Scanner.timestampLiteral_oracle, String.toList_append]
      exact ⟨by simp, rfl⟩
  | postgresql =>
      rw [Scanner.timestampLiteral_postgresql]
      exact ne_close_quote _

theorem ne_close_renderScalar (dialect : Dialect) {kind : ScalarKind} {item : kind.Carrier}
    (hfinite : kind.isFinite item = true) : (renderScalar dialect kind item).toList ≠ [] ∧
      beginsWith (· == ')') (renderScalar dialect kind item).toList = false := by
  cases kind with
  | integer kind => exact ne_close_of_numeral (numeral_ofInt _)
  | float => exact ne_close_of_numeral (numeral_shortest hfinite .binary32)
  | double => exact ne_close_of_numeral (numeral_shortest hfinite .binary64)
  | string => exact ne_close_quote item
  | timestamp => exact ne_close_timestampLiteral item dialect

section Lists

variable {α β : Type} {item : Reader β} {text : α → String} {shown : α → β}

theorem joinWith_toList (separator first : String) (texts : List String) :
    (joinWith separator (first :: texts)).toList
      = first.toList ++ texts.flatMap fun text => separator.toList ++ text.toList := by
  induction texts generalizing first with
  | nil => simp [joinWith]
  | cons next texts ih =>
      rw [joinWith, String.toList_append, String.toList_append, ih, List.flatMap_cons,
        List.append_assoc, List.append_assoc]

theorem beginsWith_more (texts : List String) :
    beginsWith continuesNumber
      ((texts.flatMap fun text => ",".toList ++ text.toList) ++ [')']) = false := by
  cases texts <;> rfl

theorem reads_more {xs : List α}
    (h : ∀ x ∈ xs, Reads item (text x).toList (shown x) continuesNumber) {steps : Nat}
    (hsteps : xs.length < steps) :
    Reads (readMore item steps)
      (((xs.map text).flatMap fun text => ",".toList ++ text.toList) ++ [')'])
      (xs.map shown) never := by
  induction xs generalizing steps with
  | nil =>
      obtain ⟨steps, rfl⟩ := Nat.exists_eq_succ_of_ne_zero (Nat.ne_of_gt hsteps)
      exact fun _ _ => rfl
  | cons x xs ih =>
      obtain ⟨steps, rfl⟩ := Nat.exists_eq_succ_of_ne_zero (Nat.ne_of_gt (Nat.zero_lt_of_lt hsteps))
      have hrest := ih (fun y hy => h y (List.mem_cons_of_mem x hy)) (Nat.lt_of_succ_lt_succ hsteps)
      rw [List.map_cons, List.flatMap_cons, List.append_assoc, List.append_assoc]
      refine (Reads.take [',']).bind_never ?_
      rw [if_neg (by decide), if_pos rfl]
      exact (h x (by simp)).bind_of_ne_nil hrest.returned (by simp) (beginsWith_more _)

theorem reads_items {x : α} {xs : List α}
    (h : ∀ y ∈ x :: xs, Reads item (text y).toList (shown y) continuesNumber) {steps : Nat}
    (hsteps : xs.length < steps) :
    Reads (do
        let first ← item
        let rest ← readMore item steps
        return first :: rest)
      ((joinWith "," ((x :: xs).map text)).toList ++ [')']) ((x :: xs).map shown) never := by
  have hmore := reads_more (fun y hy => h y (List.mem_cons_of_mem x hy)) hsteps
  rw [List.map_cons, joinWith_toList, List.append_assoc]
  exact (h x (by simp)).bind_of_ne_nil hmore.returned (by simp) (beginsWith_more _)

theorem length_le_joinWith {separator : String} (h : separator.toList ≠ []) (first : String)
    (texts : List String) : texts.length ≤ (joinWith separator (first :: texts)).toList.length := by
  have hseparator := List.length_pos_iff.mpr h
  rw [joinWith_toList, List.length_append]
  induction texts with
  | nil => exact Nat.zero_le _
  | cons next texts ih =>
      rw [List.flatMap_cons, List.length_append, List.length_append, List.length_cons]
      omega

theorem reads_list {xs : List α}
    (h : ∀ x ∈ xs, Reads item (text x).toList (shown x) continuesNumber)
    (hclose : ∀ x ∈ xs, (text x).toList ≠ [] ∧ beginsWith (· == ')') (text x).toList = false) :
    Reads (readList item) ("(" ++ joinWith "," (xs.map text) ++ ")").toList (xs.map shown) never := by
  rw [String.toList_append, String.toList_append, List.append_assoc]
  refine (Reads.exactly "(").bind_never ?_
  cases xs with
  | nil => exact fun _ _ => rfl
  | cons x xs =>
      intro rest hrest
      obtain ⟨hne, hfirst⟩ := hclose x (by simp)
      have hcomma : ",".toList ≠ [] := by decide
      have hlength := length_le_joinWith hcomma (text x) (xs.map text)
      have hopen : ¬ beginsWith (· == ')')
          ((joinWith "," ((x :: xs).map text)).toList ++ [')'] ++ rest) = true := by
        rw [List.map_cons, joinWith_toList, List.append_assoc, List.append_assoc,
          beginsWith_append hne, hfirst]
        decide
      have hsteps : xs.length
          < ((joinWith "," ((x :: xs).map text)).toList ++ [')'] ++ rest).length := by
        rw [List.length_map] at hlength
        rw [List.length_append, List.length_append, List.map_cons, List.length_singleton]
        omega
      have hitems := reads_items h hsteps
      change (ite (beginsWith (· == ')')
        ((joinWith "," ((x :: xs).map text)).toList ++ [')'] ++ rest) = true) _ _
          : Reader (List β)) _ = _
      rw [if_neg hopen]
      exact hitems rest hrest

end Lists

theorem reads_value (dialect : Dialect) {literal : Value} (hempty : literal ≠ .empty)
    (hfinite : literal.isFinite = true) :
    Reads (readValue dialect literal.kind) (render dialect literal).toList literal.toTheSecond
      continuesNumber := by
  cases literal with
  | scalar kind item => exact (reads_scalar dialect kind item hfinite).returned
  | list kind items =>
      rw [Value.isFinite, List.all_eq_true] at hfinite
      have hitems := reads_list (fun item hitem => reads_scalar dialect kind item (hfinite item hitem))
        fun item hitem => ne_close_renderScalar dialect (hfinite item hitem)
      exact hitems.returned.of_never
  | empty => exact absurd rfl hempty

end Sql

end ObservationSql
