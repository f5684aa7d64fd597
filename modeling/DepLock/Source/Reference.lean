import DepLock.Error
import DepLock.Name
/-!
# Source-host references

A dependency can name a repository on the source host instead of a version range:
`github:owner/repo#ref`, a bare `owner/repo#ref`, or one of the repository web
addresses that package manifests use (`https://`, `git+https://`, `git://`,
`git@host:` and `git+ssh://` forms, with or without `.git`).

* `normalizeRepoUrl` rewrites the clone addresses of the host to its web address,
  drops `git+` and `.git`, and keeps a `#fragment`.
* `checkOwner`, `checkRepo` and `checkRef` are the host's spelling rules; `splitRepoPath`
  reads `owner/repo`.
* `Reference.parse` reads a specifier into a `Reference`, failing with
  `INVALID_SPECIFIER`; `Reference.text` and `Reference.pinned` write it back.
-/

set_option autoImplicit false

namespace DepLock.Source

open DepLock.Text

/-- The rewrites of `normalizeRepoUrl`, in the order they are tried at each position. -/
def hostRewrites : List (String × String) :=
  [("git@github.com:", "https://github.com/"),
   ("git://github.com/", "https://github.com/"),
   ("git+ssh://git@github.com/", "https://github.com/"),
   ("ssh://git@github.com/", "https://github.com/")]

/-- Replaces, from left to right and without overlaps, each occurrence of a rule's
pattern by its replacement; where several patterns start at one position, the first
rule wins. -/
def replaceEach (rules : List (List Char × List Char)) : List Char → List Char
  | [] => []
  | c :: rest =>
    match rules.find? (fun r => !r.1.isEmpty && r.1.isPrefixOf (c :: rest)) with
    | some r => r.2 ++ replaceEach rules (rest.drop (r.1.length - 1))
    | none => c :: replaceEach rules rest
termination_by cs => cs.length
decreasing_by all_goals (simp only [List.length_drop, List.length_cons]; omega)

/-- The text before the first `sep`, and the text after it when `sep` occurs. -/
def cutAt (s : String) (sep : Char) : String × Option String :=
  match s.toList.span (· != sep) with
  | (before, _ :: after) => (String.ofList before, some (String.ofList after))
  | (_, []) => (s, none)

/-- The text without a leading `p`, when it starts with `p`. -/
def dropPrefix? (s p : String) : Option String :=
  if s.startsWith p then some (String.ofList (s.toList.drop p.length)) else none

/-- The text without a trailing `p`, when it ends with `p`. -/
def dropSuffix (s p : String) : String :=
  if s.endsWith p then String.ofList (s.toList.take (s.length - p.length)) else s

/-- The web address of a repository address: the host's clone forms become its web
form, a leading `git+` and a trailing `.git` go, and a `#fragment` is kept. -/
def normalizeRepoUrl (raw : String) : String :=
  if raw.isEmpty then ""
  else
    let (body, fragment) := cutAt (trimBlank raw) '#'
    let rules := hostRewrites.map fun (a, b) => (a.toList, b.toList)
    let s := String.ofList (replaceEach rules body.toList)
    let s := ((dropPrefix? s "git+").getD s)
    let s := dropSuffix s ".git"
    match fragment with
    | some f => s ++ "#" ++ f
    | none => s

/-- An ASCII letter or digit. -/
def isAsciiAlnum (c : Char) : Bool :=
  ('a' ≤ c && c ≤ 'z') || ('A' ≤ c && c ≤ 'Z') || ('0' ≤ c && c ≤ '9')

/-- An owner: one to 39 letters, digits or hyphens, not starting with a hyphen. -/
def isOwnerName (s : String) : Bool :=
  match s.toList with
  | [] => false
  | c :: rest => isAsciiAlnum c && rest.length ≤ 38 && rest.all fun d => isAsciiAlnum d || d == '-'

/-- A repository: one to 100 letters, digits, dots, hyphens or underscores, and not
`.` or `..`. -/
def isRepoName (s : String) : Bool :=
  let cs := s.toList
  !cs.isEmpty && cs.length ≤ 100 &&
    cs.all (fun d => isAsciiAlnum d || d == '.' || d == '_' || d == '-') &&
    s != "." && s != ".."

/-- The characters that may not occur in a ref. -/
def isRefBreaker (c : Char) : Bool :=
  c == '\t' || c == '\n' || c == '\x0c' || c == '\r' || c == ' ' ||
  c == '~' || c == '^' || c == ':' || c == '?' || c == '*' || c == '[' || c == '\\'

/-- A ref: no blank, none of `~ ^ : ? * [ \`, and no `..`. -/
def isRefName (s : String) : Bool :=
  !s.isEmpty && !s.toList.any isRefBreaker && !containsText s ".."

/-- Checks an owner name. -/
def checkOwner (owner : String) : Except Error Unit :=
  if owner.isEmpty then .error (.make .invalidSpecifier "github owner is required")
  else if isOwnerName owner then .ok ()
  else .error (.make .invalidSpecifier ("invalid github owner " ++ quote owner))

/-- Checks a repository name. -/
def checkRepo (repo : String) : Except Error Unit :=
  if repo.isEmpty then .error (.make .invalidSpecifier "github repo is required")
  else if isRepoName repo then .ok ()
  else .error (.make .invalidSpecifier ("invalid github repo " ++ quote repo))

/-- Checks a ref; the empty ref stands for the default branch. -/
def checkRef (ref : String) : Except Error Unit :=
  if ref.isEmpty || isRefName ref then .ok ()
  else .error (.make .invalidSpecifier ("invalid git ref " ++ quote ref))

/-- Reads `owner/repo`, with an optional `.git` after the repository. -/
def splitRepoPath (path : String) : Except Error (String × String) := do
  match cutAt path '/' with
  | (_, none) => .error (.make .invalidSpecifier ("invalid repo " ++ quote path ++ ": use owner/repo"))
  | (owner, some repo) =>
    let repo := dropSuffix repo ".git"
    checkOwner owner
    checkRepo repo
    pure (owner, repo)

/-- A repository on the source host and a ref in it; the empty ref is the default
branch. -/
structure Reference where
  owner : String
  repo : String
  ref : String
deriving Repr, DecidableEq

/-- `owner/repo`, followed by `#ref` when there is a ref. -/
def Reference.text (r : Reference) : String :=
  r.owner ++ "/" ++ r.repo ++ (if r.ref.isEmpty then "" else "#" ++ r.ref)

/-- The version recorded for a reference resolved to a commit. -/
def Reference.pinned (r : Reference) (sha : String) : String :=
  "github:" ++ r.owner ++ "/" ++ r.repo ++ "#" ++ sha

/-- The web prefixes of the host that a normalized address may start with. -/
def webPrefixes : List String :=
  ["https://github.com/", "http://github.com/", "https://www.github.com/"]

/-- The `owner/repo` part of a specifier, by its form. -/
def repoPath (spec body : String) : Except Error String :=
  match dropPrefix? body "github:" with
  | some rest => .ok rest
  | none =>
    if containsText body "://" || body.startsWith "git@" then
      let u := normalizeRepoUrl body
      match webPrefixes.findSome? (dropPrefix? u) with
      | some rest => .ok (dropSuffix rest "/")
      | none => .error (.make .invalidSpecifier (quote spec ++ " is not a GitHub reference"))
    else if !containsText body ":" && (body.toList.filter (· == '/')).length == 1 &&
        !body.startsWith "@" then .ok body
    else .error (.make .invalidSpecifier
      (quote spec ++ " is not a version range, file path or GitHub reference"))

/-- Reads a source-host specifier. -/
def Reference.parse (spec : String) : Except Error Reference := do
  let (body, ref) := cutAt (trimBlank spec) '#'
  let ref := ref.getD ""
  let path ← repoPath spec body
  let wrapped (e : Error) : Error := .wrap .invalidSpecifier e ("parse " ++ quote spec)
  let (owner, repo) ← (splitRepoPath path).mapError wrapped
  (checkRef ref).mapError wrapped
  pure ⟨owner, repo, ref⟩

end DepLock.Source
