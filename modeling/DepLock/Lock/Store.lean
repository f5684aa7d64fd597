import DepLock.Lock.Basic
/-!
# Storing locks in a directory

A `LockStore` keeps the current lock in `ziplock.json` and every saved lock under
`.ziplock/ID.json`, both written indented with a final newline. The directory's files
are kept as data: a path and its text.

`save` checks the identifier, with the UUID library it is given, and writes both files;
`load` checks the identifier and reads the saved copy (`NOT_FOUND` when there is none); `current` reads the current
lock (`FILE_NOT_FOUND` when there is none). A file that does not read as a lock fails
with `INVALID_FORMAT`.
-/

set_option autoImplicit false

namespace DepLock

/-- A directory of locks. -/
structure LockStore where
  dir : String
  files : List (String × String) := []

namespace LockStore

/-- The path of the current lock. -/
def currentPath (s : LockStore) : String := s.dir ++ "/ziplock.json"

/-- The path of a saved lock. -/
def historyPath (s : LockStore) (id : String) : String := s.dir ++ "/.ziplock/" ++ id ++ ".json"

/-- The store with a file written. -/
def write (s : LockStore) (path text : String) : LockStore :=
  { s with files := (path, text) :: s.files.filter (·.1 != path) }

/-- The text of a file, if it exists. -/
def read? (s : LockStore) (path : String) : Option String :=
  (s.files.find? (·.1 == path)).map (·.2)

/-- Saves a lock as the current one and under its identifier. -/
def save (uuid : Uuid.Library) (s : LockStore) (l : Lock) : Except Error LockStore := do
  checkId uuid l.id
  let text ← l.toIndentedText.mapError Error.plain
  let text := text ++ "\n"
  pure ((s.write (s.historyPath l.id) text).write s.currentPath text)

/-- Reads a lock file that exists. -/
def decodeAt (path text : String) : Except Error Lock :=
  (Lock.parse text).mapError fun msg => .wrap .invalidFormat (.plain msg) ("decode " ++ path)

/-- Loads the lock saved under an identifier. -/
def load (uuid : Uuid.Library) (s : LockStore) (id : String) : Except Error Lock := do
  checkId uuid id
  match s.read? (s.historyPath id) with
  | none => .error (.make .notFound ("lock " ++ id ++ " not found"))
  | some text => decodeAt (s.historyPath id) text

/-- Reads the current lock. -/
def current (s : LockStore) : Except Error Lock :=
  match s.read? s.currentPath with
  | none => .error (.wrap .fileNotFound (.plain ("open " ++ s.currentPath ++ ": no such file or directory"))
      s.currentPath)
  | some text => decodeAt s.currentPath text

end LockStore

end DepLock
