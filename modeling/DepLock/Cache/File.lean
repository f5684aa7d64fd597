import DepLock.Cache.Key
import DepLock.Json.Read
import DepLock.Json.Write
import DepLock.Json.Decode
import DepLock.Text.Base64
import DepLock.Timestamp
/-!
# Cache stores

A cache maps keys to bytes, each with an optional expiry. There are two stores: the
*null* store keeps nothing, and the *file* store keeps one file per key.

A file store names the file of key `k` by the hex SHA-256 digest `h` of `k`, as
`dir/h[0:2]/h[2:].json`. The file holds `{"data": base64, "expires_at": RFC 3339}`;
the zero time means no expiry. Reading a key whose file does not read as such an
entry, or whose expiry has passed, removes the file and misses. Writing with a
lifetime that is not positive stores the entry without expiry. Clearing removes every
file and says how many there were.

Times are instants in nanoseconds since 1970-01-01T00:00:00Z; every operation is
given the current one.
-/

set_option autoImplicit false

namespace DepLock.Cache

open DepLock.Json

/-- A stored entry: its bytes and when it expires (the zero time: never). -/
structure Entry where
  data : List UInt8 := []
  expiresAt : Timestamp := Timestamp.zero
deriving Repr

/-- The document of an entry. -/
def Entry.toValue (e : Entry) : Value :=
  .object [("data", .string (Text.base64Encode e.data)), ("expires_at", .string e.expiresAt.text)]

/-- Reads an entry from a document: `data` in base64 and `expires_at` in RFC 3339,
`null` leaving either as it is; other members are ignored. -/
def readEntry : Reader Entry :=
  readRecord "cache.cacheEntry" ["data", "expires_at"] {} fun e field path v =>
    match field, v with
    | _, .null => .ok e
    | "data", .string s =>
      match Text.base64Decode s with
      | .ok bs => .ok { e with data := bs }
      | .error m => .error (.custom m)
    | "data", _ => mismatch "[]uint8" path v
    | _, .string s =>
      match Timestamp.parse s with
      | .ok t => .ok { e with expiresAt := t }
      | .error m => .error (.custom m)
    | _, _ => .error (.custom "Time.UnmarshalJSON: input is not a JSON string")

/-- The entry a file's text holds, if it holds one. -/
def Entry.ofText (text : String) : Option Entry :=
  match readDocument text with
  | .ok v => match readEntry [] v with
    | .ok e => some e
    | .error _ => none
  | .error _ => none

/-- Whether an entry has expired at instant `now`. -/
def Entry.expired (e : Entry) (now : Int) : Bool :=
  !e.expiresAt.isZero && now > e.expiresAt.toUnixNanos

/-- A file store: its directory and the files in it, by path. -/
structure FileCache where
  dir : String
  files : List (String × String) := []
deriving Repr

namespace FileCache

/-- The digest that names a key's file. -/
def hashOf (key : String) : String := digest key

/-- The path of a key's file. -/
def pathOf (c : FileCache) (key : String) : String :=
  let h := hashOf key
  c.dir ++ "/" ++ String.ofList (h.toList.take 2) ++ "/" ++ String.ofList (h.toList.drop 2) ++ ".json"

/-- The text of the file at a path. -/
def read? (c : FileCache) (path : String) : Option String :=
  (c.files.find? (·.1 == path)).map (·.2)

/-- The store with the file at a path removed. -/
def remove (c : FileCache) (path : String) : FileCache :=
  { c with files := c.files.filter (·.1 != path) }

/-- The store with a file written. -/
def writeFile (c : FileCache) (path text : String) : FileCache :=
  { c with files := (c.remove path).files ++ [(path, text)] }

/-- Reads a key at instant `now`: its bytes, if a live entry holds them. An entry that
does not read or has expired is removed. -/
def get (c : FileCache) (now : Int) (key : String) : FileCache × Option (List UInt8) :=
  let path := c.pathOf key
  match c.read? path with
  | none => (c, none)
  | some text =>
    match Entry.ofText text with
    | none => (c.remove path, none)
    | some e => if e.expired now then (c.remove path, none) else (c, some e.data)

/-- Writes a key at instant `now` with a lifetime in nanoseconds. -/
def set (c : FileCache) (now : Int) (key : String) (data : List UInt8) (ttl : Int) : FileCache :=
  let expiresAt := if ttl > 0 then Timestamp.ofUnixNanos (now + ttl) else Timestamp.zero
  c.writeFile (c.pathOf key) (write (Entry.toValue ⟨data, expiresAt⟩))

/-- Removes a key. -/
def delete (c : FileCache) (key : String) : FileCache := c.remove (c.pathOf key)

/-- Removes every file; gives the number removed. -/
def clear (c : FileCache) : FileCache × Nat := ({ c with files := [] }, c.files.length)

end FileCache

/-- A cache store. -/
inductive Store where
  /-- Keeps nothing. -/
  | none
  /-- Keeps files. -/
  | file (c : FileCache)
deriving Repr

namespace Store

/-- Reads a key at instant `now`. -/
def get (s : Store) (now : Int) (key : String) : Store × Option (List UInt8) :=
  match s with
  | .none => (.none, Option.none)
  | .file c => let (c, r) := c.get now key; (.file c, r)

/-- Writes a key at instant `now` with a lifetime in nanoseconds. -/
def set (s : Store) (now : Int) (key : String) (data : List UInt8) (ttl : Int) : Store :=
  match s with
  | .none => .none
  | .file c => .file (c.set now key data ttl)

/-- Removes a key. -/
def delete (s : Store) (key : String) : Store :=
  match s with
  | .none => .none
  | .file c => .file (c.delete key)

end Store

end DepLock.Cache
