import DepLock.Digest.Sha256
/-!
# Cache keys

A cache key is a namespace followed by its parts, each after a colon
(`npm:packument:react`). Stored entries are named by the SHA-256 digest of their key.
-/

set_option autoImplicit false

namespace DepLock.Cache

/-- The key of a namespace and its parts. -/
def key (namespace_ : String) (parts : List String) : String :=
  parts.foldl (fun acc p => acc ++ ":" ++ p) namespace_

/-- The digest of a text, in hex. -/
def digest (data : String) : String := Digest.sha256Text data

end DepLock.Cache
