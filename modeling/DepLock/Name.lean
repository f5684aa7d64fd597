import DepLock.Error
import DepLock.Text.Blank
import DepLock.Text.Quoted
/-!
# Package names

Two checks on the names that manifests declare and that registries are asked for.

* `checkPackageName` keeps names safe to use as map keys and path pieces: not empty, at
  most 214 bytes, no control character, and none of `..`, `//` or a backslash.
* `checkRegistryName` adds the registry's spelling: an optional `@scope/` and a name,
  each starting with a letter, digit, `-` or `~` and going on with those and `.` or `_`.
  Letters are compared without case, so the long s `U+017F` and the Kelvin sign `U+212A` count as
  letters too.

Both fail with `INVALID_PACKAGE`. A web address must start with `http://` or
`https://` (`checkUrl`, `INVALID_INPUT`).
-/

set_option autoImplicit false

namespace DepLock

open DepLock.Text

/-- The longest name, in bytes. -/
def maxNameBytes : Nat := 214

/-- Whether `pat` occurs in `s`. -/
def containsText (s pat : String) : Bool :=
  let p := pat.toList
  go p s.toList
where
  /-- Whether `p` occurs in `cs`. -/
  go (p : List Char) : List Char → Bool
    | [] => p.isEmpty
    | c :: rest => p.isPrefixOf (c :: rest) || go p rest

/-- The pieces that may not occur in a name, in the order they are looked for. -/
def forbiddenPieces : List String := ["..", "//", "\\"]

/-- Checks that a name is safe to use. -/
def checkPackageName (name : String) : Except Error Unit :=
  if name.isEmpty then .error (.make .invalidPackage "package name cannot be empty")
  else if name.utf8ByteSize > maxNameBytes then
    .error (.make .invalidPackage ("package name too long (max 214 characters): " ++ quote name))
  else if name.toList.any isControl then
    .error (.make .invalidPackage ("package name contains invalid control characters: " ++ quote name))
  else match forbiddenPieces.find? (containsText name) with
    | some p =>
      .error (.make .invalidPackage ("package name " ++ quote name ++ " contains invalid characters: " ++ quote p))
    | none => .ok ()

/-- A letter compared without case: an ASCII letter, the long s or the Kelvin sign. -/
def isFoldedLetter (c : Char) : Bool :=
  ('a' ≤ c && c ≤ 'z') || ('A' ≤ c && c ≤ 'Z') || c == '\u017F' || c == '\u212A'

/-- A character that may start a registry name or scope. -/
def isNameStart (c : Char) : Bool := isFoldedLetter c || c.isDigit || c == '-' || c == '~'

/-- A character that may follow in a registry name or scope. -/
def isNameChar (c : Char) : Bool := isNameStart c || c == '.' || c == '_'

/-- A registry name piece: a start character and then name characters. -/
def isNamePiece : List Char → Bool
  | [] => false
  | c :: rest => isNameStart c && rest.all isNameChar

/-- Whether a text has the registry's spelling of a name. -/
def hasRegistrySpelling (name : String) : Bool :=
  match name.toList with
  | '@' :: rest =>
    let scope := rest.takeWhile (· != '/')
    let after := rest.dropWhile (· != '/')
    match after with
    | '/' :: pkg => isNamePiece scope && isNamePiece pkg
    | _ => false
  | cs => isNamePiece cs

/-- Checks that a name is safe and spelled as the registry spells names. -/
def checkRegistryName (name : String) : Except Error Unit := do
  checkPackageName name
  if hasRegistrySpelling name then pure ()
  else .error (.make .invalidPackage ("invalid npm package name: " ++ quote name))

/-- Checks that a text is a web address with the `http` or `https` scheme. -/
def checkUrl (url : String) : Except Error Unit :=
  if url.isEmpty then .error (.make .invalidInput "URL cannot be empty")
  else if url.startsWith "http://" || url.startsWith "https://" then .ok ()
  else .error (.make .invalidInput ("URL must use http or https scheme: " ++ quote url))

end DepLock
