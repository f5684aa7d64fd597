import DepLock.Semver.Version
import DepLock.Text.Blank
/-!
# Version ranges

A range is a disjunction, separated by `||`, of conjunctions of comparators. A
comparator is an operator followed by a bound; comparators of one conjunction are
separated by blanks or commas, and `A - B` between two bounds means `>= A, <= B`.

A bound is written like a version but may leave out, or write as `x`, `X` or `*`,
its trailing parts: `1.x`, `1.2`, `*`. Such a bound is partial, and the comparator
then ranges over all versions that agree on the parts written (`Partial`).

Reading follows a fixed grammar over the characters, with pattern blanks (tab, line
feed, form feed, carriage return and space) between items:

* `Bound.scan` reads the longest bound at the front of a text;
* `Range.segmentWellFormed` decides whether one `||`-separated segment is a
  well-formed conjunction;
* `Range.comparatorTexts` cuts a segment into its comparators, from left to right;
* `Range.expandHyphens` rewrites each `A - B` into `>= A, <= B ` before anything else.

A segment that is not well-formed is refused as improper; a comparator whose bound
does not read as a version, once its wildcards are filled with zeros, is refused too.
-/

set_option autoImplicit false

namespace DepLock.Semver

open DepLock.Text

/-- How a comparator relates a version to its bound. -/
inductive Op where
  /-- `=` or no operator: the same version, or within a partial bound. -/
  | equal
  /-- `!=`. -/
  | notEqual
  /-- `>`. -/
  | greater
  /-- `<`. -/
  | less
  /-- `>=` or `=>`. -/
  | atLeast
  /-- `<=` or `=<`. -/
  | atMost
  /-- `~` or `~>`: the same minor line, or the same major line for a major-only bound. -/
  | tilde
  /-- `^`: the same leftmost non-zero part. -/
  | caret
deriving Repr, DecidableEq

/-- The operator spellings, in the order in which reading tries them; the empty
spelling comes second. -/
def opSpellings : List (String × Op) :=
  [("=", .equal), ("", .equal), ("!=", .notEqual), (">", .greater), ("<", .less),
   (">=", .atLeast), ("=>", .atLeast), ("<=", .atMost), ("=<", .atMost),
   ("~", .tilde), ("~>", .tilde), ("^", .caret)]

/-- Which trailing parts of a bound were wildcards or left out. -/
inductive Partial where
  /-- Every part written. -/
  | whole
  /-- The patch part is open: `1.2`, `1.2.x`. -/
  | patch
  /-- The minor and patch parts are open: `1`, `1.x`. -/
  | minor
  /-- The major part is a wildcard: `x`, `*`. -/
  | major
deriving Repr, DecidableEq

/-- One comparator: an operator, its bound with wildcards read as zeros, and which
parts were open. -/
structure Comparator where
  op : Op
  bound : Version
  open_ : Partial
deriving Repr

/-- A range: a disjunction of conjunctions of comparators. -/
structure Range where
  alternatives : List (List Comparator)
deriving Repr

/-- Why a text is not a range. -/
inductive RangeError where
  /-- A `||`-separated segment is not a well-formed conjunction. -/
  | improper (segment : String)
  /-- A bound does not read as a version once its wildcards are filled in. -/
  | badBound
deriving Repr, DecidableEq

/-- The message of a range error. -/
def RangeError.message : RangeError → String
  | .improper seg => "improper constraint: " ++ seg
  | .badBound => "constraint Parser Error"

/-- Characters of a bound's numeric parts: digits, the wildcards `x`, `X`, `*`, and
the bar. -/
def isBoundChar (c : Char) : Bool :=
  c.isDigit || c == 'x' || c == 'X' || c == '*' || c == '|'

/-- Drops leading pattern blanks. -/
def skipBlanks (cs : List Char) : List Char :=
  cs.dropWhile isPatternBlank

/-- The longest run of tag characters, then of `.`-separated further runs:
`(run, rest)` when the first run is not empty. -/
def scanDotted (cs : List Char) : Option (List Char × List Char) :=
  let first := cs.takeWhile isTagChar
  if first.isEmpty then none
  else some (go (cs.length + 1) first (cs.dropWhile isTagChar))
where
  /-- Extends `acc` by `.run` pieces while they are present. -/
  go : Nat → List Char → List Char → List Char × List Char
    | 0, acc, rest => (acc, rest)
    | fuel + 1, acc, rest =>
      match rest with
      | '.' :: more =>
        let run := more.takeWhile isTagChar
        if run.isEmpty then (acc, rest)
        else go fuel (acc ++ '.' :: run) (more.dropWhile isTagChar)
      | _ => (acc, rest)

/-- A bound as written: its numeric parts, its tag and metadata, and the text read. -/
structure BoundText where
  major : List Char
  minor : Option (List Char)
  patch : Option (List Char)
  pre : Option (List Char)
  build : Option (List Char)
  text : List Char
deriving Repr

/-- Reads `.part` at the front, when a bound character follows the dot. -/
def scanPart (cs : List Char) : Option (List Char) × List Char :=
  match cs with
  | '.' :: more =>
    let run := more.takeWhile isBoundChar
    if run.isEmpty then (none, cs) else (some run, more.dropWhile isBoundChar)
  | _ => (none, cs)

/-- Reads `sep` followed by dotted tag runs at the front, when present. -/
def scanTag (sep : Char) (cs : List Char) : Option (List Char) × List Char :=
  match cs with
  | c :: more =>
    if c == sep then
      match scanDotted more with
      | some (t, rest) => (some t, rest)
      | none => (none, cs)
    else (none, cs)
  | [] => (none, cs)

/-- Reads the longest bound at the front of a text: an optional `v`, a run of bound
characters, up to two `.` parts, a `-` tag and a `+` metadata. -/
def Bound.scan (cs : List Char) : Option (BoundText × List Char) :=
  let afterV := match cs with
    | 'v' :: rest => rest
    | _ => cs
  let major := afterV.takeWhile isBoundChar
  if major.isEmpty then none
  else
    let r1 := afterV.dropWhile isBoundChar
    let (minor, r2) := scanPart r1
    let (patch, r3) := scanPart r2
    let (pre, r4) := scanTag '-' r3
    let (build, r5) := scanTag '+' r4
    some ({ major, minor, patch, pre, build, text := cs.take (cs.length - r5.length) }, r5)

/-- An operator spelling at the front of a text, followed by blanks and a bound:
the operator and the bound read, with the rest of the text. -/
def matchAt (spelling : String) (cs : List Char) : Option (BoundText × List Char) :=
  let sp := spelling.toList
  if sp.isPrefixOf cs then Bound.scan (skipBlanks (cs.drop sp.length)) else none

/-- The first operator spelling, in reading order, after which a bound follows. -/
def firstMatch (cs : List Char) : Option (Op × BoundText × List Char) :=
  opSpellings.findSome? fun (sp, op) =>
    (matchAt sp cs).map fun r => (op, r)

/-- A wildcard part: `x`, `X` or `*`. -/
def isWild (cs : List Char) : Bool :=
  cs == ['x'] || cs == ['X'] || cs == ['*']

/-- Reads a comparator whose whole text is blanks, an operator, blanks, a bound and
blanks. -/
def Comparator.parseText (cs : List Char) : Except RangeError Comparator :=
  let body := skipBlanks cs
  let found := opSpellings.findSome? fun (sp, op) =>
    match matchAt sp body with
    | some (b, rest) => if (skipBlanks rest).isEmpty then some (op, b) else none
    | none => none
  match found with
  | none => .error (.improper (String.ofList cs))
  | some (op, b) =>
    let preText := match b.pre with
      | some p => '-' :: p
      | none => []
    let (openPart, text) :=
      if isWild b.major then (Partial.major, "0.0.0".toList ++ preText)
      else match b.minor with
        | none => (Partial.minor, b.major ++ ".0.0".toList ++ preText)
        | some m =>
          if isWild m then (Partial.minor, b.major ++ ".0.0".toList ++ preText)
          else match b.patch with
            | none => (Partial.patch, b.major ++ '.' :: m ++ ".0".toList ++ preText)
            | some p =>
              if isWild p then (Partial.patch, b.major ++ '.' :: m ++ ".0".toList ++ preText)
              else (Partial.whole, b.text)
    match Version.parse (String.ofList text) with
    | .ok v => .ok { op, bound := v, open_ := openPart }
    | .error _ => .error .badBound

/-- Whether a segment is a well-formed conjunction: comparators separated by blanks
or by a comma with optional blanks, with blanks allowed around everything. -/
def Range.segmentWellFormed (cs : List Char) : Bool :=
  items (cs.length + 1) (skipBlanks cs)
where
  /-- Whether the text is one or more comparators, each followed by blanks and a
  separator or the end. -/
  items : Nat → List Char → Bool
    | 0, _ => false
    | fuel + 1, cs =>
      opSpellings.any fun (sp, _) =>
        match matchAt sp cs with
        | none => false
        | some (_, rest) =>
          let afterBlanks := skipBlanks rest
          match afterBlanks with
          | [] => true
          | ',' :: more => items fuel (skipBlanks more)
          | _ => afterBlanks.length < rest.length && items fuel afterBlanks

/-- Cuts a segment into comparator texts: from left to right, the first place where an
operator spelling (tried in reading order) is followed by blanks and a bound starts
the next comparator, which ends with the longest bound. -/
def Range.comparatorTexts (cs : List Char) : List (List Char) :=
  go (cs.length + 1) cs
where
  /-- Scans forward for the next comparator. -/
  go : Nat → List Char → List (List Char)
    | 0, _ => []
    | _, [] => []
    | fuel + 1, c :: more =>
      match firstMatch (c :: more) with
      | some (_, _, rest) =>
        (c :: more).take ((c :: more).length - rest.length) :: go fuel rest
      | none => go fuel more

/-- A hyphen range at the front of a text: blanks, a bound, blanks, `-`, blanks, a
bound and blanks. Gives the text matched, the two bounds and the rest. -/
def hyphenAt (cs : List Char) : Option (List Char × List Char × List Char × List Char) := do
  let (lo, r1) ← Bound.scan (skipBlanks cs)
  let r2 := skipBlanks r1
  if r2.length == r1.length then none
  match r2 with
  | '-' :: r3 =>
    let r4 := skipBlanks r3
    if r4.length == r3.length then none
    let (hi, r5) ← Bound.scan r4
    let r6 := skipBlanks r5
    pure (cs.take (cs.length - r6.length), lo.text, hi.text, r6)
  | _ => none

/-- Every hyphen range of a text, from left to right, without overlaps: the text
matched and the two bounds. -/
def hyphenRanges (cs : List Char) : List (List Char × List Char × List Char) :=
  go (cs.length + 1) cs
where
  /-- Scans forward for the next hyphen range. -/
  go : Nat → List Char → List (List Char × List Char × List Char)
    | 0, _ => []
    | _, [] => []
    | fuel + 1, c :: more =>
      match hyphenAt (c :: more) with
      | some (m, lo, hi, rest) => (m, lo, hi) :: go fuel rest
      | none => go fuel more

/-- Replaces the first occurrence of a non-empty `pat` in `cs` by `rep`. -/
def replaceFirst (pat rep : List Char) : List Char → List Char
  | [] => []
  | c :: more =>
    if pat.isPrefixOf (c :: more) && !pat.isEmpty then rep ++ (c :: more).drop pat.length
    else c :: replaceFirst pat rep more

/-- Rewrites each hyphen range `A - B` as `>= A, <= B `: each matched text in turn is
replaced where it first occurs in the text rewritten so far. -/
def Range.expandHyphens (cs : List Char) : List Char :=
  (hyphenRanges cs).foldl
    (fun acc (m, lo, hi) => replaceFirst m (">= ".toList ++ lo ++ ", <= ".toList ++ hi ++ [' ']) acc)
    cs

/-- Splits a text at every `||`. -/
def splitBars : List Char → List (List Char)
  | [] => [[]]
  | '|' :: '|' :: more => [] :: splitBars more
  | c :: more =>
    match splitBars more with
    | [] => [[c]]
    | first :: rest => (c :: first) :: rest

/-- Reads one `||`-separated segment as a conjunction. -/
def Range.parseSegment (seg : List Char) : Except RangeError (List Comparator) :=
  if Range.segmentWellFormed seg then
    let texts := match Range.comparatorTexts seg with
      | [] => [seg]
      | ts => ts
    texts.mapM Comparator.parseText
  else .error (.improper (String.ofList seg))

/-- Reads a range. The text is trimmed and non-empty: the layer over the library sees to
that (`normalizeRange`). -/
def Range.parseTrimmed (s : String) : Except RangeError Range := do
  let segs := splitBars (Range.expandHyphens s.toList)
  let alts ← segs.mapM Range.parseSegment
  pure { alternatives := alts }

end DepLock.Semver
