import DepLock.Table
import DepLock.Name
import DepLock.Semver.Check
/-!
# Manifests

A manifest names a package, gives its version, and declares its dependencies in
groups: production (`dependencies`), optional (`optionalDependencies`) and development
(`devDependencies`). Other group names may be held too, but only these three take
part in resolution.

Each declared dependency has a specifier, the text that says where it comes from. Its
kind is read from the text: a local path when it contains `file:`, a version range when
it reads as one, and a source-host reference otherwise.

`Manifest.dedupe` removes a production entry that the optional group declares with the
very same specifier text, so that such a dependency is resolved once, as optional.
-/

set_option autoImplicit false

namespace DepLock

/-- The name of a dependency group. -/
structure Group where
  name : String
deriving Repr, DecidableEq, Inhabited

namespace Group

/-- Production dependencies. -/
def production : Group := ⟨"dependencies"⟩

/-- Optional dependencies. -/
def optional : Group := ⟨"optionalDependencies"⟩

/-- Development dependencies. -/
def development : Group := ⟨"devDependencies"⟩

/-- The three groups that take part in resolution, in resolution order. -/
def known : List Group := [production, optional, development]

/-- Whether a group is one of the three known groups. -/
def valid (g : Group) : Bool := known.contains g

end Group

/-- Where a dependency comes from. -/
inductive SpecKind where
  /-- A path on the local file system. -/
  | localPath
  /-- A version range, resolved against the registry. -/
  | range
  /-- A repository on the source host. -/
  | source
deriving Repr, DecidableEq

/-- The written name of a specifier kind. -/
def SpecKind.name : SpecKind → String
  | .localPath => "local"
  | .range => "range"
  | .source => "source"

/-- A dependency's specifier: its kind and its text. -/
structure Specifier where
  kind : SpecKind
  raw : String
deriving Repr, DecidableEq

/-- The marker of a local path. -/
def fileMarker : String := "file:"

/-- Whether a text reads as a version range, by the library that runs. -/
def isRangeText (raw : String) : Bool :=
  Semver.library.validRange raw

/-- The specifier of a text: local when it contains `file:`, a range when it reads as
one, and a source reference otherwise. -/
def Specifier.ofRaw (raw : String) : Specifier :=
  if containsText raw fileMarker then ⟨.localPath, raw⟩
  else if isRangeText raw then ⟨.range, raw⟩
  else ⟨.source, raw⟩

/-- A manifest: name, version, and per group a table from dependency names to
specifiers. -/
structure Manifest where
  name : String
  version : String
  deps : Table (Table Specifier)
deriving Repr, Inhabited

namespace Manifest

/-- A manifest with no groups. -/
def new (name version : String) : Manifest := ⟨name, version, Table.empty⟩

/-- The manifest with `name` declared in group `g` with specifier text `raw`; the
group is created when absent. -/
def add (m : Manifest) (g : Group) (name raw : String) : Manifest :=
  let group := (m.deps.get? g.name).getD Table.empty
  { m with deps := m.deps.insert g.name (group.insert name (Specifier.ofRaw raw)) }

/-- The table of a group, when the manifest has the group. -/
def group? (m : Manifest) (g : Group) : Option (Table Specifier) := m.deps.get? g.name

/-- The dependency names of a group, in byte order. -/
def names (m : Manifest) (g : Group) : List String :=
  ((m.group? g).map Table.keys).getD []

/-- Removes the production entries that the optional group declares with the same
specifier text; gives the manifest and the names removed, in byte order. -/
def dedupe (m : Manifest) : Manifest × List String :=
  match m.group? .optional, m.group? .production with
  | some opt, some prod =>
    if opt.isEmpty || prod.isEmpty then (m, [])
    else
      let removed := prod.keys.filter fun n =>
        match opt.get? n, prod.get? n with
        | some o, some p => o.raw == p.raw
        | _, _ => false
      let prod' := removed.foldl Table.erase prod
      if removed.isEmpty then (m, [])
      else ({ m with deps := m.deps.insert Group.production.name prod' }, removed)
  | _, _ => (m, [])

end Manifest

/-- A copy of a manifest that may be absent; an absent one copies as the empty
manifest. -/
def cloneManifest : Option Manifest → Manifest
  | some m => m
  | none => Manifest.new "" ""

end DepLock
