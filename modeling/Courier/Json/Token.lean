import Courier.Json

/-!
# Tokens of JSON texts

A text is cut into tokens from left to right. Spaces, tabs and line ends may
stand between tokens and are dropped. Strings are given by the characters that
they stand for, numbers by their literals.
-/

namespace Courier.Json

inductive Token where
  | openArray
  | closeArray
  | openObject
  | closeObject
  | comma
  | colon
  | scalar (value : Json)

namespace Token

def isSpace (c : Char) : Bool := c == ' ' || c == '\t' || c == '\n' || c == '\r'

/-! ## Strings -/

/-- The value of a hexadecimal digit of either case. -/
def hexadecimal? (c : Char) : Option Nat :=
  if c.isDigit then some (c.toNat - '0'.toNat)
  else if 'a' ≤ c ∧ c ≤ 'f' then some (c.toNat - 'a'.toNat + 10)
  else if 'A' ≤ c ∧ c ≤ 'F' then some (c.toNat - 'A'.toNat + 10)
  else none

/-- The number that four hexadecimal digits write. -/
def unit? : List Char → Option (Nat × List Char)
  | first :: second :: third :: fourth :: rest => do
      let first ← hexadecimal? first
      let second ← hexadecimal? second
      let third ← hexadecimal? third
      let fourth ← hexadecimal? fourth
      pure (((first * 16 + second) * 16 + third) * 16 + fourth, rest)
  | _ => none

def isHighSurrogate (unit : Nat) : Bool := 0xD800 ≤ unit && unit < 0xDC00

def isLowSurrogate (unit : Nat) : Bool := 0xDC00 ≤ unit && unit < 0xE000

/-- The character whose code one escape, or two for a pair of surrogates, writes in hexadecimal digits;
the text begins after the first escape's letter. -/
def codePoint? (text : List Char) : Option (Char × List Char) :=
  match unit? text with
  | none => none
  | some (unit, rest) =>
      if isHighSurrogate unit then
        match rest with
        | '\\' :: 'u' :: second =>
            match unit? second with
            | some (low, rest) =>
                if isLowSurrogate low then
                  some (Char.ofNat (0x10000 + (unit - 0xD800) * 0x400 + (low - 0xDC00)), rest)
                else none
            | none => none
        | _ => none
      else if isLowSurrogate unit then none
      else some (Char.ofNat unit, rest)

/-- The character that an escape with one letter stands for. -/
def escaped? : Char → Option Char
  | '"' => some '"'
  | '\\' => some '\\'
  | '/' => some '/'
  | 'b' => some '\x08'
  | 'f' => some '\x0c'
  | 'n' => some '\n'
  | 'r' => some '\r'
  | 't' => some '\t'
  | _ => none

/-- What an escape stands for; the text begins after the backslash. -/
def escape? : List Char → Option (Char × List Char)
  | [] => none
  | letter :: rest =>
      if letter = 'u' then codePoint? rest else (escaped? letter).map fun meant => (meant, rest)

/-- One character of a string. Every character but the quote and the backslash, a control character too,
stands for itself. -/
def character? : List Char → Option (Char × List Char)
  | [] => none
  | c :: rest => if c = '\\' then escape? rest else if c = '"' then none else some (c, rest)

theorem length_of_unit? {text rest : List Char} {unit : Nat} (found : unit? text = some (unit, rest)) :
    rest.length < text.length := by
  unfold unit? at found
  split at found
  · simp only [Option.bind_eq_bind, Option.bind_eq_some_iff, Option.pure_def, Option.some.injEq,
      Prod.mk.injEq] at found
    obtain ⟨_, _, _, _, _, _, _, _, _, rfl⟩ := found
    simp only [List.length_cons]
    omega
  · cases found

theorem length_of_codePoint? {text rest : List Char} {c : Char} (found : codePoint? text = some (c, rest)) :
    rest.length < text.length := by
  unfold codePoint? at found
  split at found
  · cases found
  · rename_i first
    have shorter := length_of_unit? first
    split at found
    · split at found
      · split at found
        · rename_i second
          have shorterStill := length_of_unit? second
          split at found
          · simp only [Option.some.injEq, Prod.mk.injEq] at found
            obtain ⟨_, rfl⟩ := found
            simp only [List.length_cons] at shorter
            omega
          · cases found
        · cases found
      · cases found
    · split at found
      · cases found
      · simp only [Option.some.injEq, Prod.mk.injEq] at found
        obtain ⟨_, rfl⟩ := found
        exact shorter

theorem length_of_escape? {text rest : List Char} {c : Char} (found : escape? text = some (c, rest)) :
    rest.length < text.length := by
  cases text with
  | nil => cases found
  | cons letter after =>
      simp only [escape?] at found
      split at found
      · have shorter := length_of_codePoint? found
        exact Nat.lt_succ_of_lt shorter
      · simp only [Option.map_eq_some_iff, Prod.mk.injEq] at found
        obtain ⟨_, _, _, rfl⟩ := found
        simp

theorem length_of_character? {text rest : List Char} {c : Char}
    (found : character? text = some (c, rest)) : rest.length < text.length := by
  cases text with
  | nil => cases found
  | cons front after =>
      simp only [character?] at found
      split at found
      · exact Nat.lt_succ_of_lt (length_of_escape? found)
      · split at found
        · cases found
        · cases found
          simp

/-- The characters of a string up to its closing quote, and what follows that. -/
def string? (text : List Char) : Option (List Char × List Char) :=
  match text with
  | '"' :: rest => some ([], rest)
  | text =>
      match _found : character? text with
      | none => none
      | some (c, rest) => (string? rest).map fun found => (c :: found.1, found.2)
termination_by text.length
decreasing_by exact length_of_character? ‹_›

theorem length_of_string? {text content rest : List Char} (found : string? text = some (content, rest)) :
    rest.length < text.length := by
  fun_induction string? text generalizing content rest with
  | case1 after =>
      cases found
      simp
  | case2 => cases found
  | case3 text _ c after taken ih =>
      simp only [Option.map_eq_some_iff, Prod.mk.injEq] at found
      obtain ⟨⟨inner, outer⟩, closed, _, rfl⟩ := found
      exact Nat.lt_trans (ih closed) (length_of_character? taken)

/-! ## Numbers -/

/-- The digits at the front. -/
def digits (text : List Char) : List Char := text.takeWhile Char.isDigit

def afterDigits (text : List Char) : List Char := text.dropWhile Char.isDigit

/-- What stands at the front: nothing, or some characters and at least one digit after them. -/
def withDigits (front text : List Char) : List Char :=
  if (digits text).isEmpty then [] else front ++ digits text

/-- An integer without needless zeros; nothing if there is none. -/
def integer : List Char → List Char
  | '0' :: _ => ['0']
  | text => digits text

/-- A point and digits, if both are there. -/
def fraction : List Char → List Char
  | '.' :: text => withDigits ['.'] text
  | _ => []

/-- The mark of an exponent, perhaps a sign, and digits, if all are there. -/
def exponent : List Char → List Char
  | mark :: sign :: text =>
      if mark = 'e' ∨ mark = 'E' then
        if sign = '+' ∨ sign = '-' then withDigits [mark, sign] text else withDigits [mark] (sign :: text)
      else []
  | _ => []

/-- The literal of a number without its sign at the front; nothing if there is none. -/
def magnitude (text : List Char) : List Char :=
  let whole := integer text
  if whole.isEmpty then []
  else
    let part := fraction (text.drop whole.length)
    whole ++ part ++ exponent (text.drop (whole.length + part.length))

/-- The literal of a number at the front; nothing if there is none. -/
def number : List Char → List Char
  | '-' :: text => if (magnitude text).isEmpty then [] else '-' :: magnitude text
  | text => magnitude text

/-! ## Texts -/

/-- A word at the front, and what follows it. -/
def word? : List Char → Option (Json × List Char)
  | 'n' :: 'u' :: 'l' :: 'l' :: rest => some (.null, rest)
  | 't' :: 'r' :: 'u' :: 'e' :: rest => some (.bool true, rest)
  | 'f' :: 'a' :: 'l' :: 's' :: 'e' :: rest => some (.bool false, rest)
  | _ => none

/-- The token at the front of a text that does not begin with space, and what follows it. -/
def first? : List Char → Option (Token × List Char)
  | '[' :: rest => some (.openArray, rest)
  | ']' :: rest => some (.closeArray, rest)
  | '\x7b' :: rest => some (.openObject, rest)
  | '\x7d' :: rest => some (.closeObject, rest)
  | ',' :: rest => some (.comma, rest)
  | ':' :: rest => some (.colon, rest)
  | '"' :: rest => (string? rest).map fun found => (.scalar (.string (String.ofList found.1)), found.2)
  | text =>
      match word? text with
      | some (value, rest) => some (.scalar value, rest)
      | none =>
          if (number text).isEmpty then none
          else some (.scalar (.number (String.ofList (number text))), text.drop (number text).length)

theorem length_of_word? {text rest : List Char} {value : Json} (found : word? text = some (value, rest)) :
    rest.length < text.length := by
  unfold word? at found
  split at found <;> cases found <;> simp only [List.length_cons] <;> omega

theorem length_of_first? {text rest : List Char} {token : Token} (found : first? text = some (token, rest)) :
    rest.length < text.length := by
  unfold first? at found
  split at found
  case h_7 =>
    simp only [Option.map_eq_some_iff, Prod.mk.injEq] at found
    obtain ⟨⟨inner, outer⟩, closed, _, rfl⟩ := found
    have shorter := length_of_string? closed
    simp only [List.length_cons]
    omega
  case h_8 =>
    split at found
    · rename_i word
      cases found
      exact length_of_word? word
    · split at found
      · cases found
      · rename_i some
        cases found
        simp only [List.length_drop]
        have positive : 0 < (number text).length := by
          cases literal : number text with
          | nil => simp [literal] at some
          | cons => simp
        have inhabited : 0 < text.length := by
          cases text with
          | nil => simp [number, magnitude, integer, digits] at positive
          | cons => simp
        omega
  all_goals
    cases found
    simp

/-- The tokens of a text, if it can be cut into tokens. -/
def scan (text : List Char) : Option (List Token) :=
  match text with
  | [] => some []
  | c :: rest =>
      if isSpace c then scan rest
      else
        match _found : first? (c :: rest) with
        | none => none
        | some (token, after) => (scan after).map fun tokens => token :: tokens
termination_by text.length
decreasing_by
  · simp
  · exact length_of_first? ‹_›

end Token

end Courier.Json
