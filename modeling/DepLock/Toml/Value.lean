import DepLock.Text.Quoted
import DepLock.Number.Double
import DepLock.Timestamp
/-!
# Configuration documents

The values of the configuration format (TOML): strings, integers, floats, booleans,
date-times, arrays, tables, and arrays of tables. Tables keep their keys in the order
the document defines them.

A key path is written with its parts joined by dots (`Key.text`); a part that is not a
bare key (letters, digits, `_` and `-`) is written in double quotes.
-/

set_option autoImplicit false

namespace DepLock.Toml

/-- A value of a configuration document. -/
inductive Value where
  | string (s : String)
  | integer (n : Int)
  | float (d : Number.Double)
  | bool (b : Bool)
  /-- A date-time; a local one has no offset, and a local time falls on the first day of
  year zero. -/
  | datetime (t : Timestamp)
  | array (items : List Value)
  | table (entries : List (String × Value))
  | tables (items : List (List (String × Value)))
deriving Repr, Inhabited

/-- The name of a value's type as decoding messages give it. -/
def Value.typeName : Value → String
  | .string _ => "string"
  | .integer _ => "int64"
  | .float _ => "float64"
  | .bool _ => "bool"
  | .datetime _ => "time.Time"
  | .array _ => "[]any"
  | .table _ => "map[string]any"
  | .tables _ => "[]map[string]any"

/-- A character that may appear in a bare key. -/
def isBareKeyChar (c : Char) : Bool :=
  ('a' ≤ c && c ≤ 'z') || ('A' ≤ c && c ≤ 'Z') || ('0' ≤ c && c ≤ '9') || c == '_' || c == '-'

/-- One key part as written in a key path. -/
def keyPart (k : String) : String :=
  if k.isEmpty then "\"\""
  else if k.toList.all isBareKeyChar then k
  else
    let body := k.toList.flatMap fun c =>
      if c == '"' then ['\\', '"']
      else if c == '\\' then ['\\', '\\']
      else if c.toNat < 0x20 || c.toNat == 0x7F then '\\' :: 'u' :: Text.hexPadded 4 c.toNat
      else [c]
    String.ofList ('"' :: body ++ ['"'])

/-- A key path written with dots. -/
def keyText (path : List String) : String := ".".intercalate (path.map keyPart)

/-- The value at a key of a table. -/
def lookup (k : String) (t : List (String × Value)) : Option Value :=
  (t.find? (·.1 == k)).map (·.2)

/-- The table with the value at a key replaced, or added at the end. -/
def upsert (k : String) (v : Value) (t : List (String × Value)) : List (String × Value) :=
  if t.any (·.1 == k) then t.map fun e => if e.1 == k then (k, v) else e
  else t ++ [(k, v)]

end DepLock.Toml
