/-!
# Digits in text

* `Decimal.natural?` — one or more ASCII digits.
* `Decimal.unsigned?` — an optional plus sign before them.
* `Decimal.integer?` — an optional sign before them.
* `Decimal.within?` — an integer inside given bounds.
* `Decimal.isReal` — whether a text writes a number, with or without point and exponent.
* `hexDigit?` — the value of a hexadecimal digit.
* `charOfNumber?` — the character that a number stands for.

Decimal numbers have no blanks, no separators and no other base; leading zeros are allowed.
-/

namespace UidPolicy

/-! ## Decimal numbers -/

namespace Decimal

/-- The number that a list of digits writes. -/
def value (digits : List Char) : Nat :=
  digits.foldl (fun n c => 10 * n + (c.toNat - '0'.toNat)) 0

/-- One or more ASCII digits. -/
def natural? (text : List Char) : Option Nat :=
  if text ≠ [] ∧ text.all Char.isDigit then some (value text) else none

def unsigned? : List Char → Option Nat
  | '+' :: digits => natural? digits
  | digits => natural? digits

/-- An optional sign and one or more ASCII digits. -/
def integer? : List Char → Option Int
  | '+' :: digits => (natural? digits).map Int.ofNat
  | '-' :: digits => (natural? digits).map fun n => -(n : Int)
  | digits => (natural? digits).map Int.ofNat

/-- An integer of the text that lies between two bounds, both included. -/
def within? (lo hi : Int) (text : List Char) : Option Int :=
  (integer? text).filter fun n => lo ≤ n ∧ n ≤ hi

def dropSign : List Char → List Char
  | '+' :: rest => rest
  | '-' :: rest => rest
  | text => text

/-- Whether a text is empty or an exponent. -/
def endsReal : List Char → Bool
  | [] => true
  | c :: rest => (c = 'e' || c = 'E') && (natural? (dropSign rest)).isSome

/-- Whether a text writes a number: a word for one that is none or without end, or digits with a
point before, among or behind them, and an exponent after them if need be. -/
def isReal (text : List Char) : Bool :=
  let body := dropSign text
  let whole := body.takeWhile Char.isDigit
  let rest := body.dropWhile Char.isDigit
  let (fraction, rest) :=
    match rest with
    | '.' :: rest => (rest.takeWhile Char.isDigit, rest.dropWhile Char.isDigit)
    | rest => ([], rest)
  ["inf", "infinity", "nan"].contains (String.ofList (body.map Char.toLower))
    || !(whole.isEmpty && fraction.isEmpty) && endsReal rest

end Decimal

/-! ## Hexadecimal digits -/

def hexDigit? (c : Char) : Option Nat :=
  if '0' ≤ c ∧ c ≤ '9' then some (c.toNat - '0'.toNat)
  else if 'a' ≤ c ∧ c ≤ 'f' then some (c.toNat - 'a'.toNat + 10)
  else if 'A' ≤ c ∧ c ≤ 'F' then some (c.toNat - 'A'.toNat + 10)
  else none

/-- The character of a number; surrogates and numbers past the last character are none. -/
def charOfNumber? (n : Nat) : Option Char :=
  if n < 0xd800 ∨ (0xdfff < n ∧ n < 0x110000) then some (Char.ofNat n) else none

end UidPolicy
