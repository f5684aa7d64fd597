import DepLock.Text.Percent
import DepLock.Text.Quoted
/-!
# Web addresses

`Url.parse` splits an address into scheme, host, path, query and fragment, as a web
client reads it: the fragment follows the first `#` and the query the first `?`; a
scheme is a letter followed by letters, digits, `+`, `-` or `.`, ending in `:`, and is
read in lower case; `//` after it opens the host, which runs to the next `/`, and
what follows the host's last `:` must be digits. Before the `#`, a control character,
an escape that is not `%` and two hex digits, a colon in the first segment of a path
without a scheme, and a leading colon are refused, and the refusal names the part
before the `#`; a malformed escape in the fragment is refused naming the whole address.

`Url.text` writes an address back: the path and the fragment as they were written when
every character of them may stand there, and re-encoded otherwise. `Url.dialAddress` is where a
connection goes: the host as written when it names its service number, else the host
with 80 for `http` and 443 for `https`.
-/

set_option autoImplicit false

namespace DepLock.Web

/-- A parsed web address. -/
structure Url where
  scheme : String
  host : String
  path : String
  query : Option String
  fragment : Option String
  /-- The part after the scheme of an address with a scheme and no `/`. -/
  schemeSpecific : String := ""
deriving Repr, DecidableEq

/-- Whether a character may continue a scheme. -/
def isSchemeChar (c : Char) : Bool :=
  c.isAlpha || c.isDigit || c == '+' || c == '-' || c == '.'

/-- The scheme of an address and the rest after its colon; no scheme when the
address does not start with one. -/
def splitScheme (cs : List Char) : Except String (String × List Char) :=
  match cs with
  | c :: _ =>
    if !c.isAlpha then
      if c == ':' then .error "missing protocol scheme" else .ok ("", cs)
    else
      let name := cs.takeWhile isSchemeChar
      match cs.drop name.length with
      | ':' :: rest => .ok (String.ofList name, rest)
      | _ => .ok ("", cs)
  | [] => .ok ("", [])

/-- Checks the service number after a host's last colon. -/
def checkServiceNumber (host : String) : Except String Unit :=
  let cs := host.toList
  let afterBracket := if cs.head? == some '[' then
      match (cs.reverse.takeWhile (· != ']')).reverse with
      | ':' :: digits => some digits
      | _ => none
    else
      if cs.contains ':' then some (cs.reverse.takeWhile (· != ':')).reverse else none
  match afterBracket with
  | some digits =>
    if digits.all Char.isDigit then .ok ()
    else .error ("invalid port " ++ Text.quote (":" ++ String.ofList digits) ++ " after host")
  | none => .ok ()

/-- Whether a character is a hex digit. -/
def isHexChar (c : Char) : Bool :=
  c.isDigit || ('a' ≤ c && c ≤ 'f') || ('A' ≤ c && c ≤ 'F')

/-- The first malformed escape of a text: a `%` that two hex digits do not follow, with
what follows it, three characters at most. -/
def badEscape? : List Char → Option (List Char)
  | [] => none
  | '%' :: h :: l :: rest => if isHexChar h && isHexChar l then badEscape? rest else some ['%', h, l]
  | '%' :: rest => some ('%' :: rest)
  | _ :: rest => badEscape? rest

/-- The refusal of a malformed escape. -/
def escapeRefusal (bad : List Char) : String :=
  "invalid URL escape " ++ Text.quote (String.ofList bad)

/-- Parses an address with no fragment, or gives the reason it does not parse. -/
def parseMain (cs : List Char) : Except String Url := do
  if cs.any fun c => c.toNat < 0x20 || c.toNat == 0x7F then
    .error "net/url: invalid control character in URL"
  let (scheme, rest) ← splitScheme cs
  let scheme := String.ofList (scheme.toList.map Char.toLower)
  let (rest, query) := match rest.splitOn '?' with
    | [] => (rest, none)
    | r :: qs => if qs.isEmpty then (r, none) else (r, some (String.ofList ("?".toList.intercalate qs)))
  if !scheme.isEmpty && rest.head? != some '/' then
    pure ⟨scheme, "", "", query, none, String.ofList rest⟩
  else
    if scheme.isEmpty && ((rest.takeWhile (· != '/')).contains ':') then
      .error "first path segment in URL cannot contain colon"
    let (host, path) := match rest with
      | '/' :: '/' :: more =>
        (String.ofList (more.takeWhile (· != '/')), String.ofList (more.dropWhile (· != '/')))
      | _ => ("", String.ofList rest)
    let host := String.ofList ((host.toList.reverse.takeWhile (· != '@')).reverse)
    checkServiceNumber host
    match badEscape? path.toList with
    | some bad => .error (escapeRefusal bad)
    | none => pure ⟨scheme, host, path, query, none, ""⟩

/-- Why an address does not parse, with the text that was being read. -/
structure UrlError where
  text : String
  reason : String
deriving Repr, DecidableEq

/-- The message of a refused address: `parse "TEXT": reason`. -/
def UrlError.message (e : UrlError) : String :=
  "parse " ++ Text.quote e.text ++ ": " ++ e.reason

/-- Parses an address: the part before the first `#` as an address, then what follows it
as the fragment, whose escapes must be well formed. A refusal of the first part names that
part, and a refusal of the fragment the whole address. -/
def Url.parse (raw : String) : Except UrlError Url :=
  let main := raw.toList.takeWhile (· != '#')
  match parseMain main with
  | .error reason => .error ⟨String.ofList main, reason⟩
  | .ok u =>
    match raw.toList.dropWhile (· != '#') with
    | _ :: fragment@(_ :: _) =>
      match badEscape? fragment with
      | some bad => .error ⟨raw, escapeRefusal bad⟩
      | none => .ok { u with fragment := some (String.ofList fragment) }
    | _ => .ok u

/-- A byte that a fragment writes as itself. -/
def keptInFragment (b : UInt8) : Bool :=
  Text.isUnreservedByte b || "$&+,/:;=?@!()*".toList.contains (Char.ofNat b.toNat)

/-- Whether a fragment may be written as it is: every character either stays unescaped in
a fragment, is a quote or a bracket, or starts an escape. -/
def isWrittenFragment (f : String) : Bool :=
  f.toUTF8.toList.all fun b => keptInFragment b || "'[]%".toList.contains (Char.ofNat b.toNat)

/-- A fragment as an address writes it: as it was written, or with its bytes re-encoded. -/
def writtenFragment (f : String) : String :=
  if isWrittenFragment f then f
  else match Text.decodeBytes false f.toUTF8.toList with
    | some bs => String.ofList (bs.flatMap fun b =>
        if keptInFragment b then [Char.ofNat b.toNat] else Text.percentByte b)
    | none => f

/-- Whether a path may be written as it is: every character either stays unescaped in
a path, is a sub-delimiter, a bracket, or starts an escape. -/
def isWrittenPath (p : String) : Bool :=
  p.toUTF8.toList.all fun b => Text.keptInPath b || "!$&'()*+,;=:@[]%".toList.contains (Char.ofNat b.toNat)

/-- The path as an address writes it. -/
def Url.escapedPath (u : Url) : String :=
  if isWrittenPath u.path then u.path
  else match Text.percentDecode false u.path with
    | some d => Text.escapePath d
    | none => u.path

/-- The text of an address. -/
def Url.text (u : Url) : String :=
  let head := if u.scheme.isEmpty then "" else u.scheme ++ ":"
  let body :=
    if !u.schemeSpecific.isEmpty then u.schemeSpecific
    else
      let authority := if !u.scheme.isEmpty || !u.host.isEmpty then
          (if !u.host.isEmpty || !u.path.isEmpty then "//" else "") ++ u.host
        else ""
      let p := u.escapedPath
      authority ++ (if !p.isEmpty && !p.startsWith "/" && !u.host.isEmpty then "/" else "") ++ p
  let q := match u.query with
    | some q => if q.isEmpty then "" else "?" ++ q
    | none => ""
  let f := match u.fragment with
    | some f => if f.isEmpty then "" else "#" ++ writtenFragment f
    | none => ""
  head ++ body ++ q ++ f

/-- Whether a host names its service number. -/
def namesService (host : String) : Bool :=
  let cs := host.toList
  if cs.head? == some '[' then (cs.reverse.takeWhile (· != ']')).contains ':'
  else cs.contains ':'

/-- Where a connection to an address goes: host and service number. -/
def Url.dialAddress (u : Url) : String :=
  if namesService u.host then u.host
  else u.host ++ (if u.scheme == "https" then ":443" else ":80")

end DepLock.Web
