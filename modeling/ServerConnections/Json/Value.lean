import ServerConnections.Json.Binary64
import ServerConnections.Keyed

/-!
# JSON values

The dynamic values that a settings document carries through untouched, and the
tree that every typed value is written from.

Design notes: an object is the list of its members in the order in which they
are written. Objects that were read hold their members in the order of the keys,
each key once.
-/

namespace ServerConnections.Json

/-- A number: an integer of 64 bits, signed or not, is kept exactly; any other
number is a binary64 value. -/
inductive Number where
  | int (i : Int)
  | float (x : Binary64)
deriving DecidableEq, Repr

/-- A JSON value. -/
inductive Value where
  | null
  | bool (b : Bool)
  | number (n : Number)
  | text (s : String)
  | array (items : List Value)
  | object (members : List (String × Value))
deriving Repr, Inhabited, BEq

/-- The members of an object, in the order in which they are written. -/
abbrev Members := Keyed Value

namespace Value

/-- The member of an object. -/
def member? (name : String) : Value → Option Value
  | .object members => Keyed.get? name members
  | _ => none

/-- The text that a value is. -/
def text? : Value → Option String
  | .text s => some s
  | _ => none

/-- The flag that a value is. -/
def flag? : Value → Option Bool
  | .bool b => some b
  | _ => none

/-- The items of an array. -/
def items? : Value → Option (List Value)
  | .array items => some items
  | _ => none

/-- The members of an object. -/
def members? : Value → Option Members
  | .object members => some members
  | _ => none

end Value

end ServerConnections.Json
