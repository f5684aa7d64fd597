import DepLock.Manifest.Basic
import DepLock.Json.Read
import DepLock.Json.Write
/-!
# Manifest documents

A manifest is read from a document that is an object (or `null`, which is the empty
manifest). Its `name` and `version` are taken when they are strings. Each known group,
when present and not `null`, must be an object of strings, and every dependency name
must pass `checkPackageName`. Every failure is `INVALID_MANIFEST`.

A manifest is written as one object with sorted keys: `name` and `version` when not
empty, and every group it holds, empty ones included, mapping names to specifier texts.
-/

set_option autoImplicit false

namespace DepLock

open DepLock.Json

/-- How the reader's dynamic types are named in messages. -/
def dynamicTypeName : Value → String
  | .null => "<nil>"
  | .bool _ => "bool"
  | .number _ => "json.Number"
  | .string _ => "string"
  | .array _ => "[]interface {}"
  | .object _ => "map[string]interface {}"

/-- The table of a document object: its members, the last of equal keys winning. -/
def objectTable (v : Value) : Table Value := Table.ofList v.members

/-- Reads one group's object. -/
def readGroup (g : Group) (v : Value) : Except Error (Table Specifier) :=
  match v with
  | .object _ =>
    (objectTable v).entries.foldlM (fun acc (name, spec) =>
      match spec with
      | .string s =>
        match checkPackageName name with
        | .ok () => pure (acc.insert name (Specifier.ofRaw s))
        | .error e => .error (.wrap .invalidManifest e (g.name ++ ": bad dependency name"))
      | other =>
        .error (.make .invalidManifest (g.name ++ ": specifier for " ++ Text.quote name ++
          " must be a string, got " ++ dynamicTypeName other))) Table.empty
  | other =>
    .error (.make .invalidManifest (g.name ++ " must be an object, got " ++ dynamicTypeName other))

/-- Reads a manifest from a document value that is an object or `null`. -/
def Manifest.ofValue (doc : Value) : Except Error Manifest := do
  let t := objectTable doc
  let str (k : String) : String := match t.get? k with
    | some (.string s) => s
    | _ => ""
  let mut m := Manifest.new (str "name") (str "version")
  for g in Group.known do
    match t.get? g.name with
    | none => pure ()
    | some .null => pure ()
    | some v =>
      let group ← readGroup g v
      m := { m with deps := m.deps.insert g.name group }
  pure m

/-- The message of a value that is not an object where an object of any values is
wanted. -/
def notAnObject (v : Value) : String :=
  "json: cannot unmarshal " ++ v.kindName ++ " into Go value of type map[string]interface {}"

/-- Reads a manifest from the first document of a text. -/
def Manifest.parse (text : String) : Except Error Manifest :=
  let fail (msg : String) : Except Error Manifest :=
    .error (.wrap .invalidManifest (.plain msg) "manifest is not a JSON object")
  match readFirst text with
  | .error e => fail e.message
  | .ok .null => Manifest.ofValue .null
  | .ok (.object ms) => Manifest.ofValue (.object ms)
  | .ok v => fail (notAnObject v)

/-- The document of a manifest. -/
def Manifest.toValue (m : Manifest) : Value :=
  let head : List (String × Value) :=
    (if m.name.isEmpty then [] else [("name", .string m.name)]) ++
    (if m.version.isEmpty then [] else [("version", .string m.version)])
  let groups := m.deps.entries.map fun (g, t) =>
    (g, sortedObject (t.entries.map fun (n, s) => (n, .string s.raw)))
  sortedObject (head ++ groups)

/-- The written document of a manifest. -/
def Manifest.toText (m : Manifest) : String := write m.toValue

end DepLock
