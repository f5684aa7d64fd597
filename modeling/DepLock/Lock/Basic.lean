import DepLock.Tree.Document
import DepLock.Manifest.Basic
import DepLock.Timestamp
import DepLock.Uuid
import DepLock.Json.Decode
import DepLock.Json.Write
import DepLock.Text.Quoted
/-!
# Lock files

A lock records one build: its identifier (a UUID), the format version, the name and
version of the root manifest, when it was made, how many nodes the tree has, and the
tree itself.

`Lock.toValue` writes the fields in that order, leaving out an empty name or version,
and fails when the time's offset has no RFC 3339 text;
`Lock.ofValue` reads them back, each field by its own rules (the time through
`Timestamp.parse`, the tree through `readTree`). `checkId` refuses an identifier that
is not a UUID, with `INVALID_INPUT`.
-/

set_option autoImplicit false

namespace DepLock

open DepLock.Json

/-- The format version written into new locks. -/
def lockFormatVersion : Int := 1

/-- A recorded build. -/
structure Lock where
  id : String := ""
  formatVersion : Int := 0
  name : String := ""
  version : String := ""
  createdAt : Timestamp := Timestamp.zero
  nodes : Int := 0
  tree : Tree := []

namespace Lock

/-- A new lock of a build; the node count is the tree's. -/
def create (id : String) (createdAt : Timestamp) (m : Option Manifest) (t : Tree) :
    Except NullNode Lock := do
  let count ← t.count
  pure { id, formatVersion := lockFormatVersion, createdAt, nodes := count, tree := t,
         name := (m.map (·.name)).getD "", version := (m.map (·.version)).getD "" }

/-- The message of a lock whose time has no RFC 3339 text. -/
def timeFailure (reason : String) : String :=
  "json: error calling MarshalJSON for type *time.Time: " ++ reason

/-- The document of a lock, fields in record order; a time whose offset cannot be
written fails. -/
def toValue (l : Lock) : Except String Value := do
  l.createdAt.checkWritable.mapError timeFailure
  pure (.object ([("id", .string l.id), ("lockfileVersion", .number (toString l.formatVersion))] ++
    (if l.name.isEmpty then [] else [("name", .string l.name)]) ++
    (if l.version.isEmpty then [] else [("version", .string l.version)]) ++
    [("createdAt", .string l.createdAt.text), ("nodes", .number (toString l.nodes)),
     ("tree", l.tree.toValue)]))

/-- The compact text of a lock. -/
def toText (l : Lock) : Except String String := l.toValue.map write

/-- The text of a lock indented by two spaces. -/
def toIndentedText (l : Lock) : Except String String := l.toValue.map (writeIndented "  ")

/-- Reads a time field: a string in RFC 3339 form; `null` leaves it. -/
def readTime (old : Timestamp) (v : Value) : Except DecodeError Timestamp :=
  match v with
  | .null => .ok old
  | .string s => (Timestamp.parse s).mapError .custom
  | _ => .error (.custom "Time.UnmarshalJSON: input is not a JSON string")

/-- The field names of a lock document. -/
def fields : List String := ["id", "lockfileVersion", "name", "version", "createdAt", "nodes", "tree"]

/-- Reads a lock at a place of a document. -/
def read : Reader Lock :=
  readRecord "lockfile.Lock" fields {} fun l field path v =>
    match field with
    | "id" => do pure { l with id := (← readString path v).getD l.id }
    | "lockfileVersion" => do pure { l with formatVersion := (← readInt "int" path v).getD l.formatVersion }
    | "name" => do pure { l with name := (← readString path v).getD l.name }
    | "version" => do pure { l with version := (← readString path v).getD l.version }
    | "createdAt" => do pure { l with createdAt := (← readTime l.createdAt v) }
    | "nodes" => do pure { l with nodes := (← readInt "int" path v).getD l.nodes }
    | _ => do pure { l with tree := (← readTree path v) }

/-- Reads a lock from a document value. -/
def ofValue (v : Value) : Except DecodeError Lock := read [] v

/-- Reads a lock from a whole text; the failure is its message. -/
def parse (text : String) : Except String Lock :=
  match readDocument text with
  | .error e => .error e.message
  | .ok v => (ofValue v).mapError (·.message "Lock")

end Lock

/-- Checks that a lock identifier is a UUID, as a UUID library reads it. -/
def checkId (uuid : Uuid.Library) (id : String) : Except Error Unit :=
  (uuid.parse id).mapError fun msg => .wrap .invalidInput (.plain msg) ("lock id " ++ Text.quote id)

end DepLock
