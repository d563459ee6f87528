import ObservationSql.Power
import ObservationSql.Yaml.Scalar.Quoted

/-!
What the text of a scalar without quotes means: nothing, a truth value, a number or just a text. The
library from outside has the words and numbers of the core schema of YAML 1.2 for this, and binary
numbers besides; digits behind a leading zero are a text to it. A reader asks for one meaning; a
writer asks whether a text would be taken for anything but a text.
-/

namespace ObservationSql.Yaml

/-- The scalars that mean nothing at all. -/
def nullWords : List String := ["null", "Null", "NULL", "~"]

def flagOf? (text : String) : Option Bool :=
  if ["true", "True", "TRUE"].contains text then some true
  else if ["false", "False", "FALSE"].contains text then some false
  else none

/-- The bases of numbers that are marked by a letter behind a zero. -/
def baseOf? : Char → Option Nat
  | 'x' => some 16
  | 'o' => some 8
  | 'b' => some 2
  | _ => none

/-- The number that some digits write in a base up to sixteen, `value` being what came before. -/
def digitsFrom? (base value : Nat) : List Char → Option Nat
  | [] => some value
  | c :: rest => do
      let digit ← hexDigit? c
      if digit < base then digitsFrom? base (base * value + digit) rest else none

/-- The number that some digits, at least one, write in a base. -/
def digits? (base : Nat) : List Char → Option Nat
  | [] => none
  | digits => digitsFrom? base 0 digits

def withoutPlus : List Char → List Char
  | '+' :: rest => rest
  | text => text

def withoutSign : List Char → List Char
  | '+' :: rest | '-' :: rest => rest
  | text => text

/-- Whether a text is made of two or more digits with a zero in front. No number is written so. -/
def isZeroPadded (text : List Char) : Bool :=
  match withoutSign text with
  | '0' :: c :: rest => (c :: rest).all Char.isDigit
  | _ => false

/-- The natural number that a text without a sign writes: in decimal, or behind a zero and a letter
for the base. -/
def magnitude? : List Char → Option Nat
  | '0' :: letter :: digits =>
      match baseOf? letter with
      | some base => digits? base digits
      | none => digits? 10 ('0' :: letter :: digits)
  | digits => digits? 10 digits

/-- The natural number that a text writes. A plus sign is allowed. -/
def natural? (text : List Char) : Option Nat :=
  if isZeroPadded text then none else magnitude? (withoutPlus text)

/-- Whether a text writes an integer that fits into 128 bits, with a sign if it is negative. -/
def isInteger (text : List Char) : Bool :=
  match text with
  | '-' :: rest =>
      !isZeroPadded text
        && (match magnitude? rest with
          | some n => n ≤ twoTo 127
          | none => false)
  | _ =>
      match natural? text with
      | some n => n < twoTo 128
      | none => false

def exponent? : List Char → Option Int
  | '-' :: digits => (digits? 10 digits).map fun n => -(n : Int)
  | '+' :: digits => (digits? 10 digits).map fun n => (n : Int)
  | digits => (digits? 10 digits).map fun n => (n : Int)

/-- The digits of a decimal number as a natural number, and the power of ten that it is multiplied
with: digits, a point that may be anywhere, and an exponent that may be missing. -/
def decimal? (text : List Char) : Option (Nat × Int) := do
  let whole := text.takeWhile Char.isDigit
  let rest := text.dropWhile Char.isDigit
  let (places, rest) :=
    match rest with
    | '.' :: rest => (rest.takeWhile Char.isDigit, rest.dropWhile Char.isDigit)
    | _ => ([], rest)
  let number ← digits? 10 (whole ++ places)
  let exponent ←
    match rest with
    | [] => some 0
    | 'e' :: rest | 'E' :: rest => exponent? rest
    | _ => none
  return (number, exponent - places.length)

/-- Whether `number * 10 ^ exponent` is nearer to a double than to infinity. The bound lies halfway
between the largest double and the next power of two. Far from the bound the number of digits
decides, which keeps huge exponents from being computed. -/
def isFiniteDouble (number : Nat) (exponent : Int) : Bool :=
  let bound := twoTo 1024 - twoTo 970
  let scale : Int := (Nat.toDigits 10 number).length + exponent
  number == 0 || decide (scale ≤ 308)
    || (decide (scale ≤ 309)
      && (if 0 ≤ exponent then decide (number * tenTo exponent.toNat < bound)
        else decide (number < bound * tenTo (-exponent).toNat)))

/-- Whether a text writes a floating-point number: an infinity, a NaN or a finite decimal number. -/
def isFloat (text : List Char) : Bool :=
  let word := String.ofList text
  let unsigned := match text with
    | '-' :: rest => rest
    | _ => withoutPlus text
  [".nan", ".NaN", ".NAN"].contains word
    || [".inf", ".Inf", ".INF"].contains (String.ofList unsigned)
    || (match decimal? unsigned with
      | some (number, exponent) => isFiniteDouble number exponent
      | none => false)

/-- Whether a text would be taken for something other than a text if it stood without quotes. -/
def isAmbiguous (text : String) : Bool :=
  text.isEmpty || nullWords.contains text || (flagOf? text).isSome || isInteger text.toList
    || isFloat text.toList || isZeroPadded text.toList

end ObservationSql.Yaml
