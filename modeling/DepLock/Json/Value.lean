/-!
# Document values

The values of the document format that manifests, trees, locks and registry answers
are exchanged in: null, booleans, numbers, strings, arrays and objects.

A number keeps the literal it was written with, so that it is written back unchanged
and so that a reader can tell `1` from `1e3`. An object keeps its members in the
order they were written, duplicates included; a reader that builds a map from it lets
the last of equal keys win.
-/

set_option autoImplicit false

namespace DepLock.Json

/-- A document value. -/
inductive Value where
  | null
  | bool (b : Bool)
  | number (literal : String)
  | string (s : String)
  | array (items : List Value)
  | object (members : List (String × Value))
deriving Repr, Inhabited

namespace Value

/-- The members of an object, or nothing for any other value. -/
def members : Value → List (String × Value)
  | .object ms => ms
  | _ => []

/-- The value of the last member named `k`, as a map built from the object would hold. -/
def get? (v : Value) (k : String) : Option Value :=
  (v.members.reverse.find? fun m => m.1 == k).map (·.2)

/-- The string of the last member named `k`, when it is a string. -/
def getString? (v : Value) (k : String) : Option String :=
  match v.get? k with
  | some (.string s) => some s
  | _ => none

/-- The kind of a value as messages name it. -/
def kindName : Value → String
  | .null => "null"
  | .bool _ => "bool"
  | .number _ => "number"
  | .string _ => "string"
  | .array _ => "array"
  | .object _ => "object"

end Value

/-- Inserts a member into a key-sorted member list, replacing an equal key. -/
def insertSorted (k : String) (v : Value) : List (String × Value) → List (String × Value)
  | [] => [(k, v)]
  | (k', v') :: rest =>
    if k < k' then (k, v) :: (k', v') :: rest
    else if k == k' then (k, v) :: rest
    else (k', v') :: insertSorted k v rest

/-- An object whose members are sorted by key, the last of equal keys kept: how a map
is written. -/
def sortedObject (ms : List (String × Value)) : Value :=
  .object (ms.foldl (fun acc m => insertSorted m.1 m.2 acc) [])

end DepLock.Json
