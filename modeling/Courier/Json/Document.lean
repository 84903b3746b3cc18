import Courier.Json.Token

/-!
# JSON documents

A document is one value of any kind, perhaps after a byte order mark. The
tokens are read one by one, while the containers that are still open wait on a
stack for what is inside them.
-/

namespace Courier.Json

/-- A container that is still open, with what it holds so far. -/
inductive Frame where
  | array (items : List Json)
  | object (members : List (String × Json)) (key : String)

/-- What the next token may be. -/
inductive Expected where
  | value
  | firstItem
  | firstKey
  | key (members : List (String × Json))
  | colon (members : List (String × Json)) (key : String)
  | after (value : Json)

/-- A document that has been read in part. -/
structure Reading where
  expected : Expected
  frames : List Frame

namespace Reading

/-- Begins a value. -/
def begin? (frames : List Frame) : Token → Option Reading
  | .openArray => some ⟨.firstItem, frames⟩
  | .openObject => some ⟨.firstKey, frames⟩
  | .scalar value => some ⟨.after value, frames⟩
  | _ => none

/-- Goes on after a value. -/
def continue? (value : Json) (frames : List Frame) (token : Token) : Option Reading :=
  match frames, token with
  | .array items :: frames, .comma => some ⟨.value, .array (items ++ [value]) :: frames⟩
  | .array items :: frames, .closeArray => some ⟨.after (.array (items ++ [value])), frames⟩
  | .object members key :: frames, .comma => some ⟨.key (members ++ [(key, value)]), frames⟩
  | .object members key :: frames, .closeObject =>
      some ⟨.after (.object (members ++ [(key, value)])), frames⟩
  | _, _ => none

/-- Takes one more token, if it may stand here. -/
def step? (reading : Reading) (token : Token) : Option Reading :=
  match reading.expected, token with
  | .value, token => begin? reading.frames token
  | .firstItem, .closeArray => some ⟨.after (.array []), reading.frames⟩
  | .firstItem, token => begin? (.array [] :: reading.frames) token
  | .firstKey, .closeObject => some ⟨.after (.object []), reading.frames⟩
  | .firstKey, .scalar (.string key) => some ⟨.colon [] key, reading.frames⟩
  | .key members, .scalar (.string key) => some ⟨.colon members key, reading.frames⟩
  | .colon members key, .colon => some ⟨.value, .object members key :: reading.frames⟩
  | .after value, token => continue? value reading.frames token
  | _, _ => none

/-- The value, once it is complete. -/
def value? : Reading → Option Json
  | ⟨.after value, []⟩ => some value
  | _ => none

end Reading

/-- The value that a sequence of tokens writes. -/
def ofTokens? (tokens : List Token) : Option Json :=
  (tokens.foldlM Reading.step? ⟨.value, []⟩).bind Reading.value?

/-- The mark that may stand in front of a document. -/
def byteOrderMark : Char := '\ufeff'

/-- The value that a text writes, if it is a document. -/
def parse? (text : String) : Option Json :=
  let characters := text.toList
  let body := if characters.head? = some byteOrderMark then characters.tail else characters
  (Token.scan body).bind ofTokens?

end Courier.Json
