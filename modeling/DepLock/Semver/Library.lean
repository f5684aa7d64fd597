import DepLock.Text.Blank
import DepLock.Text.Quoted
/-!
# The version library

Versions and ranges are read, checked and ordered by a semantic-version library; this
module is the thin layer over it that the rest of the program calls. `Library` is what the
layer uses of the library: reading a version and a range, checking a version against a
range, the order of versions, and the text a version was read from. The layer does not
depend on which library it is; `Semver.library` (`DepLock.Semver.Check`) is the one that
runs.

On top of the library the layer

* trims range text, and reads blank text as every version (`normalizeRange`);
* names the text that did not read in its errors;
* lets unreadable text on either side satisfy nothing (`Library.satisfies`);
* orders an unset version before every version (`Library.compareSet`);
* scans candidates once and keeps the first of the greatest that satisfy a range, passing
  over those that do not read (`Library.maxSatisfying`).

What the layer's guarantees rest on is `Library.Lawful`: the order is a total preorder, a
version keeps the text it was read from, and the empty text is no version.
-/

set_option autoImplicit false

namespace DepLock

/-- Changing the error of an answer leaves a success as it is. -/
theorem mapError_eq_ok {ε ε' α : Type} {x : Except ε α} {f : ε → ε'} {a : α} :
    x.mapError f = .ok a ↔ x = .ok a := by
  cases x with
  | error e =>
    constructor <;> intro h <;> cases h
  | ok b =>
    constructor <;> intro h <;> cases h <;> rfl

namespace Semver

/-- The operations of a semantic-version library. -/
structure Library where
  /-- Versions as the library reads them. -/
  Version : Type
  /-- Ranges as the library reads them. -/
  Constraints : Type
  /-- Reads a version, or says why the text is not one. -/
  newVersion : String → Except String Version
  /-- Reads a range, or says why the text is not one. -/
  newConstraint : String → Except String Constraints
  /-- Whether a range admits a version. -/
  check : Constraints → Version → Bool
  /-- The order of versions. -/
  compare : Version → Version → Ordering
  /-- The text a version was read from. -/
  original : Version → String

/-- What the layer's guarantees assume of a library. -/
structure Library.Lawful (lib : Library) : Prop where
  /-- The order of versions is a total preorder. -/
  compare_trans : Std.TransCmp lib.compare
  /-- A version keeps the text it was read from. -/
  original_newVersion : ∀ {raw : String} {v : lib.Version}, lib.newVersion raw = .ok v →
    lib.original v = raw
  /-- The empty text, which stands for an unset tag, is no version. -/
  newVersion_empty : ∀ v : lib.Version, lib.newVersion "" ≠ .ok v

/-- The text a range is read from: trimmed of blanks, with the empty range read as `*`. -/
def normalizeRange (raw : String) : String :=
  let t := Text.trimBlank raw
  if t.isEmpty then "*" else t

namespace Library

variable (lib : Library)

/-- Reads a version; the error names the text. -/
def parseVersion (raw : String) : Except String lib.Version :=
  (lib.newVersion raw).mapError fun e => "semver: parse version " ++ Text.quote raw ++ ": " ++ e

/-- Reads a range, blank text meaning every version; the error names the text as given. -/
def parseConstraint (raw : String) : Except String lib.Constraints :=
  (lib.newConstraint (normalizeRange raw)).mapError fun e =>
    "semver: parse constraint " ++ Text.quote raw ++ ": " ++ e

/-- Whether a text reads as a range. -/
def validRange (raw : String) : Bool :=
  match lib.parseConstraint raw with
  | .ok _ => true
  | .error _ => false

/-- Whether a version text satisfies a range text; unreadable text satisfies nothing. -/
def satisfies (version range : String) : Bool :=
  match lib.parseVersion version, lib.parseConstraint range with
  | .ok v, .ok c => lib.check c v
  | _, _ => false

/-- The order of versions that may be unset: an unset version comes first. -/
def compareSet : Option lib.Version → Option lib.Version → Ordering
  | none, none => .eq
  | none, some _ => .lt
  | some _, none => .gt
  | some v, some w => lib.compare v w

/-- One step of the scan of `maxSatisfying`: a candidate that reads as a version the range
admits is kept when nothing is kept yet or when it is greater than the version kept. -/
def scanStep (c : lib.Constraints) (best : Option lib.Version) (raw : String) :
    Option lib.Version :=
  match lib.parseVersion raw with
  | .ok v =>
    if lib.check c v then
      match best with
      | none => some v
      | some b => if lib.compare v b == .gt then some v else best
    else best
  | .error _ => best

/-- The first of the greatest candidates that read as versions admitted by `c`. -/
def bestAdmitted (c : lib.Constraints) (candidates : List String) : Option lib.Version :=
  candidates.foldl (lib.scanStep c) none

/-- The text of the first of the greatest candidates that satisfy a range, or `none`
when the range is unreadable or no candidate satisfies it. -/
def maxSatisfying (range : String) (candidates : List String) : Option String :=
  match lib.parseConstraint range with
  | .ok c => (lib.bestAdmitted c candidates).map lib.original
  | .error _ => none

variable {lib}

/-- The layer reads the versions the library reads. -/
@[simp] theorem parseVersion_eq_ok {raw : String} {v : lib.Version} :
    lib.parseVersion raw = .ok v ↔ lib.newVersion raw = .ok v :=
  mapError_eq_ok

/-- The layer reads a range as the library reads its normalized text. -/
@[simp] theorem parseConstraint_eq_ok {raw : String} {c : lib.Constraints} :
    lib.parseConstraint raw = .ok c ↔ lib.newConstraint (normalizeRange raw) = .ok c :=
  mapError_eq_ok

end Library

end Semver

end DepLock
