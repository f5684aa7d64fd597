import DepLock.Text.Quoted
/-!
# Semantic versions

A version is three numeric parts, an optional pre-release tag and optional build
metadata, written `1.2.3-rc.1+build.5`. Reading is strict:

* a leading `v` is allowed; the minor and patch parts may be left out and count as `0`;
* a numeric part is `0` or has no leading zero, and fits in 64 bits;
* the pre-release tag is dot-separated identifiers over letters, digits and `-`,
  where an all-digit identifier has no leading zero;
* the build metadata is dot-separated non-empty identifiers over the same letters.

Versions are ordered by their numeric parts and then by pre-release tag: a version
without a tag comes after every tagged one of the same numbers, and tags compare
identifier by identifier (numbers by value, numbers before words, words by their
characters, a missing identifier first). Build metadata never takes part.
-/

set_option autoImplicit false

namespace DepLock.Semver

/-- A version as read from text; `pre` and `build` are empty when absent, and `text`
keeps the text it was read from. -/
structure Version where
  major : Nat
  minor : Nat
  patch : Nat
  pre : String
  build : String
  text : String
deriving Repr, DecidableEq, Inhabited

/-- Why a text is not a version. -/
inductive VersionError where
  /-- The text does not have the shape of a version. -/
  | malformed
  /-- A numeric part does not fit in 64 bits. -/
  | partTooLarge (digits : String)
deriving Repr, DecidableEq

/-- The largest numeric part: `2^64 - 1`. -/
def partLimit : Nat := Nat.pow 2 64 - 1

/-- The message of a version error. -/
def VersionError.message : VersionError → String
  | .malformed => "Invalid Semantic Version"
  | .partTooLarge d =>
    "Error parsing version segment: strconv.ParseUint: parsing " ++ Text.quote d ++
      ": value out of range"

/-- The value of a list of decimal digits. -/
def digitsValue (cs : List Char) : Nat :=
  cs.foldl (fun n c => 10 * n + (c.toNat - '0'.toNat)) 0

/-- Letters, digits and `-`: the characters of tag identifiers. -/
def isTagChar (c : Char) : Bool := c.isAlphanum || c == '-'

/-- A numeric part: `0`, or digits without a leading zero. -/
def isNumericPart (cs : List Char) : Bool :=
  match cs with
  | [] => false
  | ['0'] => true
  | '0' :: _ => false
  | _ => cs.all Char.isDigit

/-- A pre-release identifier: a numeric part, or a non-empty word over tag characters
that is not all digits. -/
def isPreIdent (cs : List Char) : Bool :=
  !cs.isEmpty && cs.all isTagChar && (isNumericPart cs || !cs.all Char.isDigit)

/-- A build identifier: a non-empty word over tag characters. -/
def isBuildIdent (cs : List Char) : Bool :=
  !cs.isEmpty && cs.all isTagChar

/-- Splits a list at the first occurrence of `sep`, if any. -/
def splitFirst (sep : Char) : List Char → List Char × Option (List Char)
  | [] => ([], none)
  | c :: cs =>
    if c == sep then ([], some cs)
    else
      let r := splitFirst sep cs
      (c :: r.1, r.2)

/-- The shape of a version text after the optional `v`: numeric parts, pre-release
identifiers and build identifiers, or `none` when the shape is wrong. -/
def shape (cs : List Char) : Option (List (List Char) × Option (List Char) × Option (List Char)) :=
  let (main, build) := splitFirst '+' cs
  let (core, pre) := splitFirst '-' main
  let parts := core.splitOn '.'
  if parts.length > 3 || !parts.all isNumericPart then none
  else if !(pre.all fun p => (p.splitOn '.').all isPreIdent) then none
  else if !(build.all fun b => (b.splitOn '.').all isBuildIdent) then none
  else some (parts, pre, build)

/-- The value of a numeric part, or the error when it is too large. -/
def partValue (cs : List Char) : Except VersionError Nat :=
  let n := digitsValue cs
  if n ≤ partLimit then .ok n else .error (.partTooLarge (String.ofList cs))

/-- Reads a version. -/
def Version.parse (s : String) : Except VersionError Version :=
  let cs := s.toList
  let body := match cs with
    | 'v' :: rest => rest
    | _ => cs
  match shape body with
  | none => .error .malformed
  | some (parts, pre, build) => do
    let major ← partValue (parts.getD 0 [])
    let minor ← match parts[1]? with
      | some p => partValue p
      | none => pure 0
    let patch ← match parts[2]? with
      | some p => partValue p
      | none => pure 0
    pure { major, minor, patch,
           pre := String.ofList (pre.getD []),
           build := String.ofList (build.getD []),
           text := s }

/-- A pre-release identifier read as a 64-bit number, if it is one. -/
def identNumber (s : String) : Option Nat :=
  let cs := s.toList
  if !cs.isEmpty && cs.all Char.isDigit && digitsValue cs ≤ partLimit then
    some (digitsValue cs) else none

/-- Compares two pre-release identifiers; a missing identifier is the empty one. -/
def compareIdent (a b : String) : Ordering :=
  if a == b then .eq
  else if a.isEmpty then .lt
  else if b.isEmpty then .gt
  else match identNumber a, identNumber b with
    | some x, some y => if x > y then .gt else .lt
    | some _, none => .lt
    | none, some _ => .gt
    | none, none => if a > b then .gt else .lt

/-- Compares identifier lists position by position, padding the shorter with empty
identifiers. -/
def compareIdents : List String → List String → Ordering
  | [], [] => .eq
  | a :: as, [] => (compareIdent a "").then (compareIdents as [])
  | [], b :: bs => (compareIdent "" b).then (compareIdents [] bs)
  | a :: as, b :: bs => (compareIdent a b).then (compareIdents as bs)

/-- The identifiers of a pre-release tag: its pieces between dots. -/
def preIdents (tag : String) : List String := (tag.toList.splitOn '.').map String.ofList

/-- Compares two pre-release tags; both are non-empty. -/
def comparePre (a b : String) : Ordering :=
  compareIdents (preIdents a) (preIdents b)

/-- The order of versions: numeric parts first, then the pre-release tag. -/
def Version.compare (v w : Version) : Ordering :=
  (Ord.compare v.major w.major).then <|
  (Ord.compare v.minor w.minor).then <|
  (Ord.compare v.patch w.patch).then <|
    if v.pre.isEmpty && w.pre.isEmpty then .eq
    else if v.pre.isEmpty then .gt
    else if w.pre.isEmpty then .lt
    else comparePre v.pre w.pre

/-! ## Reading gives canonical versions -/

/-- A version as reading leaves it: a pre-release tag it has is made of well-formed
identifiers. -/
def Version.Canonical (v : Version) : Prop :=
  v.pre.isEmpty = false → ∀ i ∈ preIdents v.pre, isPreIdent i.toList = true

/-- Every identifier of a tag that `shape` finds is well formed. -/
theorem shape_pre {cs : List Char} {parts : List (List Char)} {pre build : Option (List Char)}
    (h : shape cs = some (parts, pre, build)) :
    ∀ p ∈ pre, ∀ i ∈ p.splitOn '.', isPreIdent i = true := by
  unfold shape at h
  dsimp only at h
  split at h
  · cases h
  split at h
  · cases h
  split at h
  · cases h
  rename_i _ hpre _
  cases h
  intro p hp
  rw [Option.mem_def] at hp
  simpa [hp, List.all_eq_true] using hpre

/-- A read version keeps its text, and its tag is the one its shape found. -/
theorem Version.parse_fields {s : String} {v : Version} (h : Version.parse s = .ok v) :
    ∃ body parts pre build, shape body = some (parts, pre, build) ∧
      v.pre = String.ofList (pre.getD []) ∧ v.text = s := by
  unfold Version.parse at h
  dsimp only at h
  split at h
  · cases h
  · rename_i parts pre build hshape
    refine ⟨_, parts, pre, build, hshape, ?_⟩
    -- each numeric part is read or refused; every version built has the same tag and text
    simp only [bind, Except.bind, pure, Except.pure] at h
    repeat' split at h
    all_goals (cases h <;> exact ⟨rfl, rfl⟩)

/-- A read version keeps the text it was read from. -/
theorem Version.parse_text {s : String} {v : Version} (h : Version.parse s = .ok v) :
    v.text = s := by
  obtain ⟨-, -, -, -, -, -, htext⟩ := Version.parse_fields h
  exact htext

/-- Reading gives canonical versions: an all-digit identifier with a leading zero, which
would compare below its canonical spelling, is refused. -/
theorem Version.parse_canonical {s : String} {v : Version} (h : Version.parse s = .ok v) :
    v.Canonical := by
  obtain ⟨body, parts, pre, build, hshape, hpre, -⟩ := Version.parse_fields h
  intro hfull i hi
  cases hp : pre with
  | none => simp [hpre, hp] at hfull
  | some p =>
    rw [hpre, hp, Option.getD_some, preIdents, String.toList_ofList, List.mem_map] at hi
    obtain ⟨q, hq, rfl⟩ := hi
    rw [String.toList_ofList]
    exact shape_pre hshape p (by simp [hp]) q hq

/-- Reads a version, with the fact that its tag is canonical. -/
def Version.read (s : String) : Except VersionError {v : Version // v.Canonical} :=
  match h : Version.parse s with
  | .ok v => .ok ⟨v, Version.parse_canonical h⟩
  | .error e => .error e

/-- `Version.read` reads what `Version.parse` reads. -/
theorem Version.read_eq_ok {s : String} {v : {v : Version // v.Canonical}} :
    Version.read s = .ok v ↔ Version.parse s = .ok v.1 := by
  unfold Version.read
  split
  · rename_i w hw
    constructor
    · intro h
      cases h
      exact hw
    · intro h
      rw [hw] at h
      exact congrArg Except.ok (Subtype.ext (Except.ok.inj h))
  · rename_i e he
    rw [he]
    simp

end DepLock.Semver
