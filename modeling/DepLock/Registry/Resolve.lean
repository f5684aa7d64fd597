import DepLock.Registry.Packument
import DepLock.Resolve.Builder
import DepLock.Text.Quoted
/-!
# Resolving a range against the registry

`Registry.resolve` fetches the packument of a name, picks the version that the range
resolves to (`selectVersion`), and answers with that version and a manifest holding
the version's dependencies and optional dependencies. A failed fetch is classified
under `fetch NAME`; a range that no published version satisfies fails with
`PACKAGE_NOT_FOUND`.
-/

set_option autoImplicit false

namespace DepLock.Registry

/-- The manifest of one release of a package. -/
def Release.manifest (name version : String) (r : Release) : Manifest :=
  let m := Manifest.new name version
  let m := (r.dependencies.getD Table.empty).entries.foldl
    (fun m (d, s) => m.add Group.production d s) m
  (r.optionalDependencies.getD Table.empty).entries.foldl
    (fun m (d, s) => m.add Group.optional d s) m

/-- Resolves a name and range with a packument source whose answers are in a monad `m`
(the source may keep state, such as a cache, between questions). -/
def resolveIn {m : Type → Type} [Monad m] (lib : Semver.Library)
    (fetch : String → m (Except Error Packument)) (name range : String) :
    m (Except Error Resolution) := do
  match ← fetch name with
  | .error e => pure (.error (e.classify ("fetch " ++ name)))
  | .ok doc =>
    pure <| match selectVersion lib doc range with
      | none =>
        .error (.make .packageNotFound ("no version of " ++ name ++ " satisfies " ++ Text.quote range))
      | some v => .ok ⟨v, (doc.release v).manifest name v⟩

/-- Resolves a name and range with a packument source. -/
def resolve (lib : Semver.Library) (fetch : String → Except Error Packument)
    (name range : String) : Except Error Resolution :=
  resolveIn (m := Id) lib fetch name range

end DepLock.Registry
