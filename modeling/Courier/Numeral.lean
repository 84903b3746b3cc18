/-!
# Numerals

Whole numbers in decimal digits, as they are read from a text that holds nothing
else: blanks may stand around the number and a sign in front of its digits. A
negative number that is read as an unsigned one is counted down from the limit,
if its magnitude is below that.
-/

namespace Courier.Numeral

/-- Blanks are the space and the control characters from tab to carriage return. -/
def isBlank (c : Char) : Bool := c == ' ' || ('\t' ≤ c && c ≤ '\r')

/-- A text without the blanks at both ends. -/
def trim (text : List Char) : List Char :=
  ((text.dropWhile isBlank).reverse.dropWhile isBlank).reverse

/-- The number that a sequence of digits writes. -/
def value (digits : List Char) : Nat :=
  digits.foldl (fun total digit => 10 * total + (digit.toNat - '0'.toNat)) 0

/-- The number that a text writes, if it consists of digits and is not empty. -/
def magnitude? (text : List Char) : Option Nat :=
  if !text.isEmpty && text.all Char.isDigit then some (value text) else none

/-- Whether the number is negative, and its magnitude. -/
def signed? : List Char → Option (Bool × Nat)
  | '-' :: digits => (magnitude? digits).map fun magnitude => (true, magnitude)
  | '+' :: digits => (magnitude? digits).map fun magnitude => (false, magnitude)
  | digits => (magnitude? digits).map fun magnitude => (false, magnitude)

/-- The unsigned number below a limit that a text writes. -/
def unsigned? (limit : Nat) (text : String) : Option Nat :=
  match signed? (trim text.toList) with
  | some (negative, magnitude) =>
      if magnitude < limit then some (if negative then (limit - magnitude) % limit else magnitude)
      else none
  | none => none

/-! ## Truth values -/

/-- Whether there is a minus at the front, and what follows the sign, if there is one. -/
def splitSign : List Char → Bool × List Char
  | '-' :: rest => (true, rest)
  | '+' :: rest => (false, rest)
  | text => (false, text)

/-- The truth value that some digits write with or without a minus: zero is false and one is true. -/
def flagOfDigits? (negative : Bool) (digits : List Char) : Option Bool :=
  if digits.isEmpty then none
  else
    match negative, value digits with
    | _, 0 => some false
    | false, 1 => some true
    | _, _ => none

/-- The truth value that a word at the front writes, and what follows the word. -/
def word? : List Char → Option (Bool × List Char)
  | 't' :: 'r' :: 'u' :: 'e' :: rest => some (true, rest)
  | 'f' :: 'a' :: 'l' :: 's' :: 'e' :: rest => some (false, rest)
  | _ => none

/-- The truth value that a text writes: a number that is zero or one, or a word. Before a word there may be
any other number, or a sign alone; it is passed over. -/
def flag? (text : String) : Option Bool :=
  let (negative, unsigned) := splitSign (text.toList.dropWhile isBlank)
  let rest := unsigned.dropWhile Char.isDigit
  let (found, rest) :=
    match flagOfDigits? negative (unsigned.takeWhile Char.isDigit) with
    | some flag => (some flag, rest)
    | none =>
        match word? (rest.dropWhile isBlank) with
        | some (flag, rest) => (some flag, rest)
        | none => (none, rest)
  if rest.all isBlank then found else none

end Courier.Numeral
