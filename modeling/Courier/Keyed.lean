/-!
# Tables in key order

A table from strings to values as the list of its entries, in ascending order
of the keys and without repetition. The order of strings is that of their code
points, which is also the order of their bytes.
-/

namespace Courier

/-- The entries of a table, with ascending keys. -/
abbrev Keyed (Value : Type) := List (String × Value)

namespace Keyed

variable {Value : Type}

/-- The value of a key. -/
def find? (key : String) (table : Keyed Value) : Option Value :=
  (List.find? (fun entry => entry.1 == key) table).map Prod.snd

def contains (key : String) (table : Keyed Value) : Bool := (table.find? key).isSome

/-- Gives a key a value, in the place of an earlier one or in the key's place in the order. -/
def insert (key : String) (value : Value) : Keyed Value → Keyed Value
  | [] => [(key, value)]
  | entry :: rest =>
      if key < entry.1 then (key, value) :: entry :: rest
      else if key = entry.1 then (key, value) :: rest
      else entry :: insert key value rest

def erase (key : String) (table : Keyed Value) : Keyed Value :=
  List.filter (fun entry => entry.1 != key) table

def keys (table : Keyed Value) : List String := List.map Prod.fst table

end Keyed

end Courier
