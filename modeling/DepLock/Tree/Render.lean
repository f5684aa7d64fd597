import DepLock.Tree.Basic
import DepLock.Text.Quoted
/-!
# Drawing trees

Two drawings of a tree.

* `Tree.text` draws one line for the root (`.` when it has no name), then the entries of
  the root's known groups, groups in resolution order and names in byte order. An
  entry's line is the indent it is drawn under, the branch `├── ` or, for the last entry
  of its node, `└── `, then `name@version`, followed by ` (optional)` or ` (dev)` for
  those groups. The entries below it follow, drawn under the indent extended by `│   `,
  or by four spaces below a last entry.
* `Tree.dot` is a graph description read off the walk: a root node `"/"` and, for each
  visited node, one node named by its path and one edge from its parent's path, dashed
  for optional and dotted for development dependencies. Names and labels are quoted
  text.
-/

set_option autoImplicit false

namespace DepLock

/-- The parent path of a path. -/
def parentPath (p : List Step) : List Step := p.dropLast

/-- The tag written after a node of a group. -/
def groupTag (g : String) : String :=
  if g == Group.optional.name then " (optional)"
  else if g == Group.development.name then " (dev)"
  else ""

/-- Whether some of the groups `gs` of `t` has an entry. -/
def hasEntries (t : Tree) (gs : List Group) : Bool :=
  gs.any fun g => match lookupKeyed g.name t with
    | some (some (_ :: _)) => true
    | _ => false

mutual
/-- The lines of the entries of group `g` of `t` under `indent`, when `t` has that group;
`later` says whether entries of later groups follow them. -/
def drawGroup (indent g : String) (later : Bool) : Tree → Except NullNode String
  | [] => .ok ""
  | (g', table) :: rest =>
    if g' == g then
      match table with
      | some es => drawNames indent g later es
      | none => .ok ""
    else drawGroup indent g later rest
/-- The lines of the entries of one group's table: each entry's line, then the lines of
the entries below it. -/
def drawNames (indent g : String) (later : Bool) :
    List (String × Option Node) → Except NullNode String
  | [] => .ok ""
  | (_, none) :: _ => .error {}
  | (name, some n) :: rest => do
    let last := rest.isEmpty && !later
    let branch := if last then "└── " else "├── "
    let next := if last then "    " else "│   "
    let below ← drawNode (indent ++ next) n
    let after ← drawNames indent g later rest
    pure (indent ++ branch ++ name ++ "@" ++ n.version ++ groupTag g ++ "\n" ++ below ++ after)
/-- The lines of the entries below one node: its known groups in resolution order. -/
def drawNode (indent : String) : Node → Except NullNode String
  | .mk _ deps => do
    let a ← drawGroup indent Group.production.name
      (hasEntries deps [Group.optional, Group.development]) deps
    let b ← drawGroup indent Group.optional.name (hasEntries deps [Group.development]) deps
    let c ← drawGroup indent Group.development.name false deps
    pure (a ++ b ++ c)
end

/-- The text drawing of a tree under a root name. -/
def Tree.text (t : Tree) (root : String) : Except NullNode String := do
  let lines ← drawNode "" (.mk "" t)
  pure ((if root.isEmpty then "." else root) ++ "\n" ++ lines)

/-- The name of a path in the graph: `/` and its steps as `group:name`, separated by
`/`. -/
def pathId (p : List Step) : String :=
  "/" ++ "/".intercalate (p.map fun s => s.group ++ ":" ++ s.name)

/-- The edge style of a group. -/
def edgeStyle (g : String) : String :=
  if g == Group.optional.name then " [style=dashed]"
  else if g == Group.development.name then " [style=dotted]"
  else ""

/-- The two lines of one visit in the graph: its node and its edge. -/
def dotLines (v : List Step × Node) : String :=
  match v.1.getLast? with
  | some s =>
    "  " ++ Text.quote (pathId v.1) ++ " [label=" ++ Text.quote (s.name ++ "\n" ++ v.2.version) ++ "];\n" ++
    "  " ++ Text.quote (pathId (parentPath v.1)) ++ " -> " ++ Text.quote (pathId v.1) ++ edgeStyle s.group ++ ";\n"
  | none => ""

/-- The graph description of a tree under a root name. -/
def Tree.dot (t : Tree) (root : String) : Except NullNode String := do
  let visits ← t.walk
  let top := if root.isEmpty then "root" else root
  pure ("digraph G \x7b\n  rankdir=LR;\n  bgcolor=\"transparent\";\n" ++
    "  node [shape=box, style=\"rounded,filled\", fillcolor=white, fontsize=14];\n\n" ++
    "  " ++ Text.quote "/" ++ " [label=" ++ Text.quote top ++ ", fillcolor=lightgrey];\n" ++
    String.join (visits.map dotLines) ++ "\x7d\n")

end DepLock
