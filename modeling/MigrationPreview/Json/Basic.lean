/-!
# JSON values

The values that snapshot files and reports are made of. Members of an object keep the order and the
repetitions of the text they were read from, because a repeated field is an error in some places
and the last one wins in others.

Numbers are integers where the formats need them; a number with a fraction, with an exponent, or
outside the 64-bit ranges is kept as its literal and is refused wherever an integer is expected.

## Main definitions

* `Json`: the type of values
* `Json.optionalMember`, `Json.nonemptyMember`: members that are left out when there is nothing to say
-/

namespace MigrationPreview

/-- A JSON value. -/
inductive Json where
  | null
  | bool (value : Bool)
  /-- A number written without fraction and exponent, within the 64-bit ranges. -/
  | integer (value : Int)
  /-- Any other number, as it is written. -/
  | decimal (literal : String)
  | string (value : String)
  | array (items : List Json)
  | object (members : List (String × Json))
  /-- A well-formed value that holds an escape for half of a surrogate pair and so denotes no
  text. It may be skipped but not used. -/
  | unreadable
  deriving Inhabited

namespace Json

/-- The member of an optional field that is left out when it is absent. -/
def optionalMember {α : Type} (name : String) (encode : α → Json) : Option α → List (String × Json)
  | none => []
  | some a => [(name, encode a)]

/-- The member of a list that is left out when it is empty. -/
def nonemptyMember {α : Type} (name : String) (encode : α → Json) : List α → List (String × Json)
  | [] => []
  | xs => [(name, array (xs.map encode))]

end Json

end MigrationPreview
