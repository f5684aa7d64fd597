import DepLock.Local.Files
import DepLock.Manifest.Document
import DepLock.Resolve.Builder
import DepLock.Text.Blank
import DepLock.Text.Quoted
/-!
# Resolving local paths

A local specifier holds `file:` and a path after it. `localPath` finds the path the
specifier names: the text after the first `file:`, trimmed; `~/` starts from the home
directory (`INVALID_PATH` when `$HOME` is not defined), an absolute path is cleaned, and
any other path is taken from the base directory. `resolve` reads the manifest there (`package.json` inside a directory) and
answers with its version, or with the specifier when the manifest has none.
-/

set_option autoImplicit false

namespace DepLock.Local

open DepLock.Text

/-- The name of the manifest read from a directory. -/
def manifestName : String := "package.json"

/-- The home directory, from the value of `$HOME`: an empty value means it is not
defined. -/
def userHomeDir (home : String) : Except Error String :=
  if home.isEmpty then .error (.plain "$HOME is not defined") else .ok home

/-- The path a local specifier names, where `home` is the value of `$HOME`. -/
def localPath (home base spec : String) : Except Error String :=
  match (spec.splitOn fileMarker) with
  | [] | [_] => .error (.make .invalidSpecifier (quote spec ++ " does not contain " ++ quote fileMarker))
  | _ :: rest =>
    let path := trimBlank (fileMarker.intercalate rest)
    if path.isEmpty then .error (.make .invalidSpecifier (quote spec ++ " names no path"))
    else if path.startsWith "~/" then
      match userHomeDir home with
      | .ok dir => .ok (Path.join [dir, String.ofList (path.toList.drop 2)])
      | .error e => .error (.wrap .invalidPath e ("expand " ++ path))
    else if Path.isAbsolute path then .ok (Path.clean path)
    else .ok (Path.join [base, path])

/-- A failure of the file system as an error; a missing path becomes `FILE_NOT_FOUND`
under `message`. -/
def fileError (message : String) (f : FileFailure) : Error :=
  if f.fault == .missing then .wrap .fileNotFound (.plain f.text) message
  else .plain f.text

/-- Reads the manifest in a file. -/
def readManifest (fs : FileSystem) (path : String) : Except Error Manifest := do
  let text ← (fs.read path).mapError (fileError ("manifest " ++ path))
  (Manifest.parse text).mapError fun e => .wrap (e.code?.getD (.other "")) e ("parse " ++ path)

/-- Resolves a local specifier. -/
def resolve (fs : FileSystem) (home base spec : String) : Except Error Resolution := do
  let path ← localPath home base spec
  let entry ← (fs.stat path).mapError (fileError spec)
  let path := match entry with
    | .directory => Path.join [path, manifestName]
    | .file _ => path
  let m ← readManifest fs path
  pure ⟨if m.version.isEmpty then spec else m.version, m⟩

end DepLock.Local
