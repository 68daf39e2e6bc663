/-!
# JSON values

Numbers keep their literal and objects the order of their members.
-/

namespace ZeroVpn

inductive Json where
  | null
  | bool (b : Bool)
  | num (literal : String)
  | str (s : String)
  | arr (elems : List Json)
  | obj (members : List (String × Json))

/-- The members of an object, in insertion order. -/
abbrev JsonObject := List (String × Json)

namespace JsonObject

def get (o : JsonObject) (key : String) : Option Json := o.lookup key

def has (o : JsonObject) (key : String) : Bool := (o.get key).isSome

/-- Set a member; a new key goes to the end. -/
def add (o : JsonObject) (key : String) (value : Json) : JsonObject :=
  if o.has key then o.map fun m => if m.1 = key then (key, value) else m else o ++ [(key, value)]

def remove (o : JsonObject) (key : String) : JsonObject := o.filter (·.1 ≠ key)

/-- Change the value of a member that is there. -/
def modify (o : JsonObject) (key : String) (f : Json → Json) : JsonObject :=
  o.map fun m => if m.1 = key then (key, f m.2) else m

end JsonObject

namespace Json

/-- An integer, by its decimal literal. -/
def int (n : Int) : Json := .num (toString n)

def asObject : Json → Option JsonObject
  | .obj members => some members
  | _ => none

def asArray : Json → Option (List Json)
  | .arr elems => some elems
  | _ => none

def asString : Json → Option String
  | .str s => some s
  | _ => none

/-! ## Members that are `null`

A printer that does not serialise nulls leaves them out of objects; in arrays they stay. -/

mutual

def dropNulls : Json → Json
  | .arr elems => .arr (dropNullsElems elems)
  | .obj members => .obj (dropNullsMembers members)
  | j => j

def dropNullsElems : List Json → List Json
  | [] => []
  | j :: js => dropNulls j :: dropNullsElems js

def dropNullsMembers : JsonObject → JsonObject
  | [] => []
  | (_, .null) :: ms => dropNullsMembers ms
  | (key, j) :: ms => (key, dropNulls j) :: dropNullsMembers ms

end

/-- The members with a value. -/
def someMembers (members : List (String × Option Json)) : JsonObject :=
  members.filterMap fun m => m.2.map fun j => (m.1, j)

end Json
end ZeroVpn
