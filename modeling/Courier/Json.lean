/-!
# JSON values

A number is kept as the text of its literal and a member list as it was written,
repetitions included. Readers that do not care about the kind of a value look at
its data, which is the text of a scalar, and at its children, among which the
items of an array have empty keys.
-/

namespace Courier

inductive Json where
  | null
  | bool (value : Bool)
  | number (literal : String)
  | string (text : String)
  | array (items : List Json)
  | object (members : List (String × Json))

namespace Json

/-- The text of a scalar; containers have none. -/
def data : Json → String
  | null => "null"
  | bool value => if value then "true" else "false"
  | number literal => literal
  | string text => text
  | array _ | object _ => ""

/-- The values inside a container, with their keys. -/
def children : Json → List (String × Json)
  | array items => items.map fun item => ("", item)
  | object members => members
  | _ => []

/-- The first child with a key. -/
def child? (value : Json) (key : String) : Option Json :=
  (value.children.find? fun child => child.1 == key).map Prod.snd

end Json

end Courier
