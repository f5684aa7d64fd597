import DepLock.Semver.Range
import DepLock.Semver.Library
/-!
# Which versions a range admits

A version satisfies a range when it satisfies every comparator of one of its
conjunctions. A comparator admits a pre-release version only when its own bound carries
a pre-release tag, so every comparator of a conjunction must opt in; the inequality
`!=` applies that rule only to a partial bound.

The operators, for a bound `b` whose open parts are read as zeros:

* `=`: the same version; for a partial bound, the tilde rule;
* `>`: greater; for a partial bound, beyond every version the bound covers;
* `<`, `>=`: by the order of versions;
* `<=`: at most; for a partial bound, any version the bound covers counts;
* `~`: at least `b` and on the same minor line (the same major line when the minor part
  is open); `~0.0.0` and a wildcard bound admit everything at least `b`;
* `^`: at least `b` and the same leftmost non-zero part;
* `!=`: not equal; for a partial bound, outside the versions it covers.

These rules, with the reading of versions and ranges, make `library`: the library that
runs behind the layer of `DepLock.Semver.Library`.
-/

set_option autoImplicit false

namespace DepLock.Semver

/-- `v` comes before `w`. -/
def Version.lt (v w : Version) : Bool := v.compare w == .lt

/-- The tilde rule. -/
def admitsTilde (b : Version) (o : Partial) (v : Version) : Bool :=
  if v.lt b then false
  else if b.major == 0 && b.minor == 0 && b.patch == 0 && o != .minor && o != .patch then true
  else if v.major != b.major then false
  else if v.minor != b.minor && o != .minor then false
  else true

/-- The caret rule. -/
def admitsCaret (b : Version) (o : Partial) (v : Version) : Bool :=
  if v.lt b then false
  else if b.major > 0 || o == .minor then v.major == b.major
  else if v.major > 0 then false
  else if b.minor > 0 || o == .patch then v.minor == b.minor
  else if v.minor > 0 then false
  else v.patch == b.patch

/-- The rule of `>`. -/
def admitsGreater (b : Version) (o : Partial) (v : Version) : Bool :=
  if o == .whole then v.compare b == .gt
  else if v.major > b.major then true
  else if v.major < b.major then false
  else if o == .minor then false
  else if o == .patch then v.minor > b.minor
  else v.compare b == .gt

/-- The rule of `<=`. -/
def admitsAtMost (b : Version) (o : Partial) (v : Version) : Bool :=
  if o == .whole then v.compare b != .gt
  else if v.major > b.major then false
  else if v.major == b.major && v.minor > b.minor && o != .minor then false
  else true

/-- The rule of `!=`. -/
def admitsNotEqual (b : Version) (o : Partial) (v : Version) : Bool :=
  if o == .whole then v.compare b != .eq
  else if !v.pre.isEmpty && b.pre.isEmpty then false
  else if b.major != v.major then true
  else if b.minor != v.minor && o != .minor then true
  else if o == .minor then false
  else if b.patch != v.patch && o != .patch then true
  else if o == .patch then
    if !v.pre.isEmpty || !b.pre.isEmpty then comparePre v.pre b.pre != .eq else false
  else v.compare b != .eq

/-- Whether a comparator admits a version. A pre-release version takes part only when
the comparator's bound is itself a pre-release. -/
def Comparator.admits (c : Comparator) (v : Version) : Bool :=
  match c.op with
  | .notEqual => admitsNotEqual c.bound c.open_ v
  | op =>
    if !v.pre.isEmpty && c.bound.pre.isEmpty then false
    else match op with
      | .equal => if c.open_ == .whole then v.compare c.bound == .eq
                  else admitsTilde c.bound c.open_ v
      | .greater => admitsGreater c.bound c.open_ v
      | .less => v.compare c.bound == .lt
      | .atLeast => v.compare c.bound != .lt
      | .atMost => admitsAtMost c.bound c.open_ v
      | .tilde => admitsTilde c.bound c.open_ v
      | .caret => admitsCaret c.bound c.open_ v
      | .notEqual => false

/-- Whether a range admits a version. -/
def Range.admits (r : Range) (v : Version) : Bool :=
  r.alternatives.any fun cs => cs.all fun c => c.admits v

/-- The library that runs: versions are the ones reading gives, whose tags are canonical,
ordered by `Version.compare`; ranges are read by `Range.parseTrimmed` and checked by
`Range.admits`. -/
def library : Library where
  Version := {v : Version // v.Canonical}
  Constraints := Range
  newVersion s := (Version.read s).mapError VersionError.message
  newConstraint s := (Range.parseTrimmed s).mapError RangeError.message
  check r v := r.admits v.1
  compare v w := v.1.compare w.1
  original v := v.1.text

end DepLock.Semver
