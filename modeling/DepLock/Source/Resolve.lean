import DepLock.Source.Reference
import DepLock.Manifest.Document
import DepLock.Resolve.Builder
/-!
# Resolving a source-host reference

`Source.resolve` reads a reference, asks the host for the commit that its ref names,
reads `package.json` at that commit and answers with the pinned version
`github:owner/repo#sha` and that manifest. Failures of the host are classified under
what was asked; a manifest that does not read keeps its code under
`package.json of owner/repo`.
-/

set_option autoImplicit false

namespace DepLock.Source

/-- What the resolver asks of the source host, with answers in a monad `m` (the host
may keep state, such as a cache, between questions). -/
structure HostIn (m : Type → Type) where
  /-- The commit a ref of a repository names; the empty ref is the default branch. -/
  resolveCommit : String → String → String → m (Except Error String)
  /-- The text of a file of a repository at a commit. -/
  fetchFile : String → String → String → String → m (Except Error String)

/-- A host that answers directly. -/
abbrev Host := HostIn Id

/-- Resolves a source-host specifier with a host whose answers are in `m`. -/
def resolveIn {m : Type → Type} [Monad m] (host : HostIn m) (spec : String) :
    m (Except Error Resolution) :=
  match Reference.parse spec with
  | .error e => pure (.error e)
  | .ok r => do
    match ← host.resolveCommit r.owner r.repo r.ref with
    | .error e => pure (.error (e.classify ("resolve " ++ r.text)))
    | .ok sha =>
      match ← host.fetchFile r.owner r.repo "package.json" sha with
      | .error e => pure (.error (e.classify ("fetch package.json of " ++ r.text ++ " at " ++ sha)))
      | .ok content =>
        pure <| match Manifest.parse content with
          | .error e => .error (.wrap (e.code?.getD (.other "")) e ("package.json of " ++ r.text))
          | .ok m => .ok ⟨r.pinned sha, m⟩

/-- Resolves a source-host specifier. -/
def resolve (host : Host) (spec : String) : Except Error Resolution := resolveIn host spec

end DepLock.Source
