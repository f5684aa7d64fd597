import DepLock.Manifest.Basic
import DepLock.Tree.Basic
import DepLock.Error
/-!
# Building a dependency tree

`build` resolves a manifest and everything it depends on into a `Tree`.

At each level the manifest is copied and deduplicated (a production entry that the
optional group declares with the same text goes), then its groups are resolved in
order: production, optional and, at the root only and unless left out, development.
Within a group the names are taken in byte order. A name is skipped when an ancestor
of that name already satisfies it (`satisfiedByAncestor`), which is how cycles end.
Otherwise its specifier goes to the backend of its kind, and the manifest that the
backend answers with is resolved one level down, with the dependency added to the
ancestry.

A failure ends the build: a backend's error is wrapped as `RESOLUTION_FAILED` naming
the group, name and specifier, and an ancestry longer than the depth limit fails with
`DEPTH_EXCEEDED` naming the chain. The siblings of a level run at once, and which of their
failures comes back first depends on timing; `build` takes one order of completion, and
`DepLock.Proofs.Resolve.Concurrent` relates every other order to it.

The recursion is on a fuel of one more than the depth limit: every level adds one
frame to the ancestry, so the depth check fails before the fuel runs out.
-/

set_option autoImplicit false

namespace DepLock

/-- What a backend answers for one dependency: the version it resolved to and the
manifest of that version. -/
structure Resolution where
  version : String
  manifest : Manifest
deriving Repr

/-- A dependency on the way from the root to the manifest being resolved. -/
structure Frame where
  group : Group
  name : String
  version : String
  spec : Specifier
deriving Repr

/-- The backends of a build, any of which may be missing, and the check whether an
ancestor's version satisfies a range. A backend answers with an error, with a resolution,
or with neither. -/
structure Backends where
  localFiles : Option (String → Except Error (Option Resolution))
  registry : Option (String → String → Except Error (Option Resolution))
  source : Option (String → Except Error (Option Resolution))
  satisfies : String → String → Bool

/-- The limits of a build. -/
structure BuildOptions where
  maxDepth : Nat := 64
  omitDev : Bool := false
deriving Repr

/-- The depth limit used when none is given. -/
def defaultMaxDepth : Nat := 64

/-- Options from a requested depth, where zero or less means the default. -/
def BuildOptions.ofRequest (maxDepth : Int) (omitDev : Bool) : BuildOptions :=
  ⟨if maxDepth ≤ 0 then defaultMaxDepth else maxDepth.toNat, omitDev⟩

/-- The names of a chain of frames joined by ` > `; a chain of more than eight names
shows the first four, `...` and the last three. -/
def chainText (frames : List Frame) : String :=
  let names := frames.map (·.name)
  let shown :=
    if names.length > 8 then names.take 4 ++ ["..."] ++ names.drop (names.length - 3)
    else names
  " > ".intercalate shown

/-- The failure of an ancestry deeper than the limit. -/
def depthError (maxDepth : Nat) (frames : List Frame) : Error :=
  .make .depthExceeded ("dependency chain deeper than " ++ toString maxDepth ++ ": " ++ chainText frames)

/-- The name of the backend of a kind, as messages give it. -/
def backendName : SpecKind → String
  | .localPath => "local"
  | .range => "registry"
  | .source => "source"

/-- The error of a build that has no backend of a kind. -/
def noBackend : SpecKind → Error
  | .localPath => .make .unsupported "no filesystem resolver configured"
  | .range => .make .unsupported "no registry resolver configured"
  | .source => .make .unsupported "no source-host resolver configured"

/-- The answer of the backend of a specifier's kind, or `none` when the build has no backend
of that kind. -/
def Backends.ask? (b : Backends) (name : String) (spec : Specifier) :
    Option (Except Error (Option Resolution)) :=
  match spec.kind with
  | .localPath => b.localFiles.map (· spec.raw)
  | .range => b.registry.map (· name spec.raw)
  | .source => b.source.map (· spec.raw)

/-- Sends a specifier to the backend of its kind. A missing backend fails as `UNSUPPORTED`,
and a backend that answers with neither an error nor a resolution as `INTERNAL_ERROR`. -/
def Backends.dispatch (b : Backends) (name : String) (spec : Specifier) : Except Error Resolution :=
  match b.ask? name spec with
  | none => .error (noBackend spec.kind)
  | some (.error e) => .error e
  | some (.ok none) =>
    .error (.make .internal (backendName spec.kind ++ " resolver returned no result for " ++ name))
  | some (.ok (some res)) => .ok res

/-- Whether the outermost ancestor named `name` satisfies a specifier: its version is
in the range, or, for a local or source specifier, it was declared with the same text. -/
def Backends.satisfiedByAncestor (b : Backends) (name : String) (spec : Specifier)
    (ancestors : List Frame) : Bool :=
  match ancestors.find? (·.name == name) with
  | none => false
  | some f => b.satisfies f.version spec.raw || (spec.kind != .range && f.spec.raw == spec.raw)

/-- The groups resolved at a level: development ones only where asked for. -/
def groupsAt (dev : Bool) : List Group :=
  if dev then [Group.production, Group.optional, Group.development]
  else [Group.production, Group.optional]

/-- A failed build: the error, and how many resolutions were made one after another
before it (the resolutions of its ancestry, and its own when that one failed). -/
structure Failure where
  error : Error
  step : Nat
deriving Repr

/-- The failure that happens first: `later` only when it is strictly earlier. -/
def firstFailure (current : Option Failure) (later : Failure) : Failure :=
  match current with
  | some f => if later.step < f.step then later else f
  | none => later

/-- The entries of a manifest's groups in resolution order: group by group, names in
byte order. -/
def Manifest.entriesAt (m : Manifest) (groups : List Group) : List (Group × String × Specifier) :=
  groups.flatMap fun g =>
    let table := (m.group? g).getD Table.empty
    (m.names g).map fun name => (g, name, (table.get? name).getD (Specifier.ofRaw ""))

/-- What a failed resolution is filed under: the group, the name and the specifier. -/
def resolveContext (g : Group) (name : String) (spec : Specifier) : String :=
  "resolve " ++ g.name ++ " " ++ name ++ "@" ++ spec.raw

/-- One entry of a level under `ancestors`, given the failure and the tree so far;
`below` builds the level one down for what the entry resolves to.

Siblings resolve independently and any of their failures may come back first; the one
reported here is the one with the fewest resolutions before it, and the first in
resolution order among those. A sibling is not looked into when no failure below it could
come before that one. -/
def Backends.visit (b : Backends) (ancestors : List Frame)
    (below : Resolution → Frame → Except Failure Tree) :
    Option Failure × Tree → Group × String × Specifier → Option Failure × Tree
  | (failed, tree), (g, name, spec) =>
    let here := ancestors.length + 1
    let hopeless := match failed with
      | some f => f.step ≤ here
      | none => false
    if hopeless || b.satisfiedByAncestor name spec ancestors then (failed, tree)
    else
      match b.dispatch name spec with
      | .error e =>
        (some (firstFailure failed ⟨Error.wrap .resolutionFailed e (resolveContext g name spec), here⟩), tree)
      | .ok res =>
        match below res ⟨g, name, res.version, spec⟩ with
        | .error f => (some (firstFailure failed f), tree)
        | .ok deps => (failed, tree.set g.name name (some (.mk res.version deps)))

/-- The tree of a manifest under an ancestry; `fuel` bounds the levels still allowed. -/
def buildLevel (b : Backends) (o : BuildOptions) :
    Nat → Option Manifest → List Frame → Bool → Except Failure Tree
  | 0, _, ancestors, _ => .error ⟨depthError o.maxDepth ancestors, ancestors.length⟩
  | fuel + 1, m, ancestors, dev =>
    if ancestors.length > o.maxDepth then .error ⟨depthError o.maxDepth ancestors, ancestors.length⟩
    else
      let below res frame := buildLevel b o fuel (some res.manifest) (ancestors ++ [frame]) false
      match ((cloneManifest m).dedupe.1.entriesAt (groupsAt dev)).foldl
          (b.visit ancestors below) (none, []) with
      | (some f, _) => .error f
      | (none, tree) => .ok tree

/-- The dependency tree of a manifest; an absent manifest has the empty tree. -/
def build (b : Backends) (o : BuildOptions) (m : Option Manifest) : Except Error Tree :=
  (buildLevel b o (o.maxDepth + 1) m [] (!o.omitDev)).mapError (·.error)

end DepLock
