import DepLock.Json.Decode
import DepLock.Json.Write
import DepLock.Semver.Library
import DepLock.Error
/-!
# Registry documents

The registry describes a package by one document (a packument): its name, its tags
(`latest` among them) and a release record for every published version, holding the
dependencies and optional dependencies of that version.

* `Packument.read` reads the document the way the registry client decodes it, and
  `Packument.toValue` writes it back with the fields in record order and empty
  dependency maps left out.
* `selectVersionIn` picks the version a range resolves to, by a version library: the
  `latest` tag when it is published and in the range, else the first of the highest
  published versions in the range, in the order given; `selectVersion` looks at them in
  byte order.
-/

set_option autoImplicit false

namespace DepLock.Registry

open DepLock.Json

/-- One published version: its dependency maps and a deprecation notice. -/
structure Release where
  name : String := ""
  version : String := ""
  dependencies : Option (Table String) := none
  optionalDependencies : Option (Table String) := none
  deprecated : String := ""
deriving Repr, Inhabited

/-- The registry's document for one package. -/
structure Packument where
  name : String := ""
  distTags : Option (Table String) := none
  versions : Option (Table Release) := none
deriving Repr, Inhabited

/-- Adds the entries of a map read later to one read earlier: a map field that occurs
twice keeps the entries of both. -/
def mergeTables {α : Type} (old : Option (Table α)) : Option (Table α) → Option (Table α)
  | none => none
  | some t => some (t.entries.foldl (fun acc (k, v) => acc.insert k v) (old.getD Table.empty))

/-- Reads a map from names to strings. -/
def readStringTable : Reader (Option (Table String)) :=
  readTable "map[string]string" "" fun path v => do
    let s ← readString path v
    pure (s.getD "")

/-- Reads one release record. -/
def readRelease : Reader Release :=
  readRecord "npm.VersionInfo"
    ["name", "version", "dependencies", "optionalDependencies", "deprecated"] {}
    fun r field path v =>
      match field with
      | "name" => do pure { r with name := (← readString path v).getD r.name }
      | "version" => do pure { r with version := (← readString path v).getD r.version }
      | "dependencies" => do
        let t ← readStringTable path v
        pure { r with dependencies := mergeTables r.dependencies t }
      | "optionalDependencies" => do
        let t ← readStringTable path v
        pure { r with optionalDependencies := mergeTables r.optionalDependencies t }
      | _ => do pure { r with deprecated := (← readString path v).getD r.deprecated }

/-- Reads a packument from a document value. -/
def Packument.ofValue (v : Value) : Except DecodeError Packument :=
  readRecord "npm.Packument" ["name", "dist-tags", "versions"] {}
    (fun p field path x =>
      match field with
      | "name" => do pure { p with name := (← readString path x).getD p.name }
      | "dist-tags" => do
        let t ← readStringTable path x
        pure { p with distTags := mergeTables p.distTags t }
      | _ => do
        let vs ← readTable "map[string]npm.VersionInfo" {} readRelease path x
        pure { p with versions := mergeTables p.versions vs }) [] v

/-- The message of a packument that does not fit the record. -/
def Packument.failureMessage (e : DecodeError) : String := e.message "Packument"

/-- A map written as an object, or `null` when absent. -/
def tableValue {α : Type} (f : α → Value) : Option (Table α) → Value
  | none => .null
  | some t => .object (t.entries.map fun (k, a) => (k, f a))

/-- The document of a release; empty maps and an empty notice are left out. -/
def Release.toValue (r : Release) : Value :=
  let deps (key : String) : Option (Table String) → List (String × Value)
    | some t => if t.isEmpty then [] else [(key, tableValue Value.string (some t))]
    | none => []
  .object ([("name", .string r.name), ("version", .string r.version)] ++
    deps "dependencies" r.dependencies ++ deps "optionalDependencies" r.optionalDependencies ++
    (if r.deprecated.isEmpty then [] else [("deprecated", .string r.deprecated)]))

/-- The document of a packument, fields in record order. -/
def Packument.toValue (p : Packument) : Value :=
  .object [("name", .string p.name), ("dist-tags", tableValue Value.string p.distTags),
    ("versions", tableValue Release.toValue p.versions)]

/-- The version tagged `latest`, or the empty text. -/
def Packument.latest (p : Packument) : String :=
  ((p.distTags.getD Table.empty).get? "latest").getD ""

/-- The published versions, in byte order. -/
def Packument.versionList (p : Packument) : List String :=
  (p.versions.getD Table.empty).keys

/-- Whether a version is published. -/
def Packument.publishes (p : Packument) (v : String) : Bool :=
  (p.versions.getD Table.empty).contains v

/-- The release record of a version; an unpublished version has the empty record. -/
def Packument.release (p : Packument) (v : String) : Release :=
  ((p.versions.getD Table.empty).get? v).getD {}

/-- The version a range resolves to when the published versions are looked at in
`order`: `latest` when it is published and in the range, else the first of the highest
published versions in the range. -/
def selectVersionIn (lib : Semver.Library) (p : Packument) (range : String)
    (order : List String) : Option String :=
  let latest := p.latest
  if !latest.isEmpty && p.publishes latest && lib.satisfies latest range then some latest
  else lib.maxSatisfying range order

/-- The version a range resolves to, the published versions looked at in byte order. -/
def selectVersion (lib : Semver.Library) (p : Packument) (range : String) : Option String :=
  selectVersionIn lib p range p.versionList

/-- A packument with at least one version; one with none counts as a missing package. -/
def requirePublished (name : String) (p : Packument) : Except Error Packument :=
  if (p.versions.getD Table.empty).isEmpty then
    .error (.around "" .missing (": npm package " ++ name ++ " has no published versions"))
  else .ok p

end DepLock.Registry
