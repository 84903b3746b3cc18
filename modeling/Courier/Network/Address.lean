import Courier.ZeroTerminated

/-!
# Internet addresses

Addresses are written as four decimal numbers with points between them, or as
eight groups of hexadecimal digits with colons between them. In the second form
one run of groups may be left out, and the last two groups may be written in the
first form. They are read as zero-terminated texts, but kept whole: two texts
that write the same address in different ways are different addresses.
-/

namespace Courier.Address

/-- Whether a text is the number of one byte, without needless zeros. -/
def isByte (text : String) : Bool :=
  let digits := text.toList
  !digits.isEmpty && digits.length ≤ 3 && digits.all Char.isDigit
    && (digits.length == 1 || digits.head? != some '0')
    && (text.toNat?.getD 256) < 256

def isShort (text : String) : Bool :=
  let parts := text.splitOn "."
  parts.length == 4 && parts.all isByte

def isHexadecimal (c : Char) : Bool := c.isDigit || ('a' ≤ c && c ≤ 'f') || ('A' ≤ c && c ≤ 'F')

/-- Whether a text is one group. -/
def isGroup (text : String) : Bool :=
  let digits := text.toList
  !digits.isEmpty && digits.length ≤ 4 && digits.all isHexadecimal

/-- How many groups some texts stand for, if all are well formed; only the very last may be two in one. -/
def groupCount? (closing : Bool) : List String → Option Nat
  | [] => some 0
  | [text] => if isGroup text then some 1 else if closing && isShort text then some 2 else none
  | text :: rest => if isGroup text then (groupCount? closing rest).map (· + 1) else none

/-- The texts between the colons; none in an empty text. -/
def groups (text : String) : List String := if text.isEmpty then [] else text.splitOn ":"

def isLong (text : String) : Bool :=
  match text.splitOn "::" with
  | [whole] => groupCount? true (groups whole) == some 8
  | [left, right] =>
      match groupCount? false (groups left), groupCount? true (groups right) with
      | some left, some right => left + right < 8
      | _, _ => false
  | _ => false

/-- Whether a text is read as an address of the first form. -/
def isShortLiteral (text : String) : Bool := isShort (zeroTerminated text)

/-- Whether a text is read as an address of either form. -/
def isLiteral (text : String) : Bool := isShortLiteral text || isLong (zeroTerminated text)

/-- The address of the same machine. -/
def loopback : String := "127.0.0.1"

/-- The address that stands for all addresses of a machine. -/
def any : String := "0.0.0.0"

/-- The address that a host name leads to. Apart from addresses themselves, one name is known. -/
def resolve? (host : String) : Option String :=
  if isShortLiteral host then some host else if host == "localhost" then some loopback else none

/-- An address with a port. -/
def withPort (address : String) (port : Nat) : String := address ++ ":" ++ toString port

end Courier.Address
