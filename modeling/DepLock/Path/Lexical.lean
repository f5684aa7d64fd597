/-!
# Lexical paths

Slash-separated paths handled as text, without asking a file system. `Path.clean`
gives the shortest path that names the same place by lexical rules alone: repeated
slashes become one, `.` elements go, a `..` element removes the element before it
(and at the root it is dropped), and the empty result is `.`. `Path.join` joins the
non-empty elements with slashes and cleans the result.

The elements of a cleaned path are kept on a stack (`pushElement`), so that every
rule is one case of a fold over the elements of the input.
-/

set_option autoImplicit false

namespace DepLock.Path

/-- Whether a path starts at the root. -/
def isAbsolute (p : String) : Bool := p.startsWith "/"

/-- Pushes one element onto the reversed elements of a cleaned path: `.` and empty
elements are skipped; `..` removes the last element unless that is itself a `..`,
and is dropped at the root. -/
def pushElement (rooted : Bool) (stack : List String) (e : String) : List String :=
  if e.isEmpty || e == "." then stack
  else if e == ".." then
    match stack with
    | top :: rest => if top == ".." then ".." :: stack else rest
    | [] => if rooted then [] else [".."]
  else e :: stack

/-- The shortest lexical form of a path. -/
def clean (p : String) : String :=
  let rooted := isAbsolute p
  let elements := ((p.splitOn "/").foldl (pushElement rooted) []).reverse
  let body := "/".intercalate elements
  if rooted then "/" ++ body
  else if body.isEmpty then "."
  else body

/-- The non-empty elements joined by slashes and cleaned; nothing to join gives the
empty path. -/
def join (parts : List String) : String :=
  match parts.filter (fun s => !s.isEmpty) with
  | [] => ""
  | kept => clean ("/".intercalate kept)

/-- The last element of a path. -/
def baseName (p : String) : String :=
  ((p.splitOn "/").getLast?).getD p

end DepLock.Path
