import DepLock.Path.Lexical
/-!
# Files as data

A `FileSystem` is a set of files with their contents and a set of directories, all
named by absolute cleaned paths. Every ancestor of an entry is a directory too.

`stat` and `read` answer like the operating system. A path holding a zero character
is an invalid argument, and one of `pathMax` bytes or more is too long. Otherwise the
path is walked from the root name by name (`FileSystem.walk`): a name longer than
`nameMax` bytes is too long, a name that is not there is missing, and a name that is a
file with more names after it fails with "not a directory". Reading a directory fails
with "is a directory". A failure is written as the operation, the path and the fault
(`FileFailure.text`).
-/

set_option autoImplicit false

namespace DepLock.Local

/-- Why an operation on a path failed. -/
inductive Fault where
  | missing
  | notDirectory
  | isDirectory
  | nameTooLong
  | invalidArgument
deriving Repr, DecidableEq

/-- The text of a fault. -/
def Fault.text : Fault → String
  | .missing => "no such file or directory"
  | .notDirectory => "not a directory"
  | .isDirectory => "is a directory"
  | .nameTooLong => "file name too long"
  | .invalidArgument => "invalid argument"

/-- A failed operation on a path. -/
structure FileFailure where
  op : String
  path : String
  fault : Fault
deriving Repr

/-- The text of a failed operation. -/
def FileFailure.text (f : FileFailure) : String := f.op ++ " " ++ f.path ++ ": " ++ f.fault.text

/-- What a path names. -/
inductive Entry where
  | file (content : String)
  | directory
deriving Repr

/-- Files with their contents and directories, by absolute cleaned paths. -/
structure FileSystem where
  files : List (String × String)
  dirs : List String
deriving Repr

/-- The proper ancestors of an absolute path, from the root down. -/
def ancestors (p : String) : List String :=
  let parts := (p.splitOn "/").filter (fun s => !s.isEmpty)
  (List.range parts.length).map fun n => "/" ++ "/".intercalate (parts.take n)

/-- What a cleaned absolute path names, if anything. -/
def FileSystem.entry? (fs : FileSystem) (p : String) : Option Entry :=
  match fs.files.find? (·.1 == p) with
  | some (_, c) => some (.file c)
  | none =>
    if p == "/" || fs.dirs.contains p ||
        (fs.files.map (·.1) ++ fs.dirs).any (fun q => (ancestors q).contains p) then
      some .directory
    else none

/-- The longest name of a directory entry, in bytes. -/
def nameMax : Nat := 255

/-- The length in bytes from which a path is too long. -/
def pathMax : Nat := 4096

/-- Walks the names of an absolute path from the root below the directory `dir`: what
the last name is, or the fault of the first name that cannot be walked. -/
def FileSystem.walk (fs : FileSystem) (dir : String) : List String → Except Fault Entry
  | [] => .ok .directory
  | name :: rest =>
    if name.utf8ByteSize > nameMax then .error .nameTooLong
    else
      let here := if dir == "/" then "/" ++ name else dir ++ "/" ++ name
      match fs.entry? here, rest with
      | none, _ => .error .missing
      | some e, [] => .ok e
      | some (.file _), _ :: _ => .error .notDirectory
      | some .directory, _ :: _ => fs.walk here rest

/-- What a path names, or why it cannot be looked up. -/
def FileSystem.lookup (fs : FileSystem) (p : String) : Except Fault Entry :=
  if p.toList.contains '\x00' then .error .invalidArgument
  else
    let clean := Path.clean p
    if clean.utf8ByteSize ≥ pathMax then .error .nameTooLong
    else fs.walk "/" ((clean.splitOn "/").filter (fun s => !s.isEmpty))

/-- Looks a path up. -/
def FileSystem.stat (fs : FileSystem) (p : String) : Except FileFailure Entry :=
  (fs.lookup p).mapError fun fault => ⟨"stat", p, fault⟩

/-- Reads a file. -/
def FileSystem.read (fs : FileSystem) (p : String) : Except FileFailure String :=
  match fs.lookup p with
  | .ok (.file c) => .ok c
  | .ok .directory => .error ⟨"read", p, .isDirectory⟩
  | .error fault => .error ⟨"open", p, fault⟩

end DepLock.Local
