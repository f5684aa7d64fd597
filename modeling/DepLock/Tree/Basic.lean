import DepLock.Manifest.Basic
/-!
# Dependency trees

A tree gives, per group and per name, the node a dependency resolved to: its version
and the tree of its own dependencies. Group names and dependency names are kept in
byte order, each once.

A group's table and a node may be absent. Such holes never come out of resolution;
they come from documents that write `null` there, and are kept so that such documents
are written back unchanged. Walking meets a hole as a failure (`NullNode`), because a
hole has neither a version nor dependencies.

* `Tree.walk` visits the nodes under the three known groups depth first: at each level
  the groups in resolution order, then the names in byte order. Nodes under other
  groups are never visited.
* `Tree.count` is the number of nodes visited.
* `Tree.walkWith` calls a function on each node in the order of the walk, within a monad:
  a failure of the function ends the walk.
* `Tree.lookup` follows a path of (group, name) steps from the top, through any group.
-/

set_option autoImplicit false

namespace DepLock

/-- A resolved dependency: its version and, per group, the table of its own
dependencies. A group's table or an entry may be absent. -/
inductive Node where
  | mk (version : String) (deps : List (String × Option (List (String × Option Node))))
deriving Repr, Inhabited

/-- A dependency tree: per group, a table from names to nodes, sorted by key. -/
abbrev Tree := List (String × Option (List (String × Option Node)))

/-- One step of a path: a group and a name in it. -/
structure Step where
  group : String
  name : String
deriving Repr, DecidableEq

/-- Walking met a hole where a node was expected. -/
structure NullNode where
deriving Repr

namespace Node

/-- The version of a node. -/
def version : Node → String
  | .mk v _ => v

/-- The dependencies of a node. -/
def deps : Node → Tree
  | .mk _ d => d

end Node

/-- Inserts into a key-sorted list, replacing an equal key. -/
def insertKeyed {α : Type} (k : String) (v : α) : List (String × α) → List (String × α)
  | [] => [(k, v)]
  | (k', v') :: rest =>
    if k < k' then (k, v) :: (k', v') :: rest
    else if k == k' then (k, v) :: rest
    else (k', v') :: insertKeyed k v rest

/-- The value at a key of a keyed list. -/
def lookupKeyed {α : Type} (k : String) (es : List (String × α)) : Option α :=
  (es.find? fun e => e.1 == k).map (·.2)

namespace Tree

/-- The tree with `name` in group `g` set to `n`; the group's table is created when
absent. -/
def set (t : Tree) (g name : String) (n : Option Node) : Tree :=
  let table := ((lookupKeyed g t).getD none).getD []
  insertKeyed g (some (insertKeyed name n table)) t

/-- The entry of `name` in group `g`, when there is one (it may be a hole). -/
def get (t : Tree) (g name : String) : Option (Option Node) :=
  match lookupKeyed g t with
  | some (some table) => lookupKeyed name table
  | _ => none

/-- Sets every entry of `other` into `t`. -/
def merge (t other : Tree) : Tree :=
  other.foldl (fun acc (g, table) =>
    match table with
    | some es => es.foldl (fun acc' (name, n) => acc'.set g name n) acc
    | none => acc) t

/-- Follows a path of steps. An empty path finds nothing; a path that runs into a hole
fails. -/
def lookup (t : Tree) : List Step → Except NullNode (Option Node)
  | [] => .ok none
  | s :: rest =>
    match t.get s.group s.name with
    | none => .ok none
    | some none => .error {}
    | some (some n) =>
      match rest with
      | [] => .ok (some n)
      | _ => lookup n.deps rest

end Tree

mutual
/-- The visits below the path `path` of the nodes in the table of group `g`, when `t`
has that group: in byte order of names, each node followed by the visits below it. -/
def walkGroup (path : List Step) (g : String) : Tree → Except NullNode (List (List Step × Node))
  | [] => .ok []
  | (g', table) :: rest =>
    if g' == g then
      match table with
      | some es => walkNames path g es
      | none => .ok []
    else walkGroup path g rest
/-- The visits of the nodes of one group's table. -/
def walkNames (path : List Step) (g : String) :
    List (String × Option Node) → Except NullNode (List (List Step × Node))
  | [] => .ok []
  | (_, none) :: _ => .error {}
  | (name, some n) :: rest => do
    let p := path ++ [⟨g, name⟩]
    let below ← walkNode p n
    let after ← walkNames path g rest
    pure ((p, n) :: below ++ after)
/-- The visits below one node: its three known groups in resolution order. -/
def walkNode (path : List Step) : Node → Except NullNode (List (List Step × Node))
  | .mk _ deps => do
    let a ← walkGroup path Group.production.name deps
    let b ← walkGroup path Group.optional.name deps
    let c ← walkGroup path Group.development.name deps
    pure (a ++ b ++ c)
end

namespace Tree

/-- Every node under the known groups, with its path, depth first: at each level the
groups in resolution order, the names in byte order. -/
def walk (t : Tree) : Except NullNode (List (List Step × Node)) :=
  walkNode [] (.mk "" t)

/-- The number of nodes a walk visits. -/
def count (t : Tree) : Except NullNode Nat := t.walk.map List.length

end Tree

section Callback

variable {m : Type → Type} [Monad m] [MonadExceptOf NullNode m]

mutual
/-- Calls `fn` on the nodes of group `g` below the path `path`, when `t` has that group:
in byte order of names, each node before the nodes below it. -/
def walkGroupWith (fn : List Step → Node → m Unit) (path : List Step) (g : String) :
    Tree → m Unit
  | [] => pure ()
  | (g', table) :: rest =>
    if g' == g then
      match table with
      | some es => walkNamesWith fn path g es
      | none => pure ()
    else walkGroupWith fn path g rest
/-- Calls `fn` on the nodes of one group's table and below them. -/
def walkNamesWith (fn : List Step → Node → m Unit) (path : List Step) (g : String) :
    List (String × Option Node) → m Unit
  | [] => pure ()
  | (_, none) :: _ => throwThe NullNode {}
  | (name, some n) :: rest => do
    let p := path ++ [⟨g, name⟩]
    fn p n
    walkNodeWith fn p n
    walkNamesWith fn path g rest
/-- Calls `fn` on the nodes below one node: its three known groups in resolution order. -/
def walkNodeWith (fn : List Step → Node → m Unit) (path : List Step) : Node → m Unit
  | .mk _ deps => do
    walkGroupWith fn path Group.production.name deps
    walkGroupWith fn path Group.optional.name deps
    walkGroupWith fn path Group.development.name deps
end

/-- Calls `fn` on every node under the known groups, with its path, in the order of
`Tree.walk`. A failure of `fn` ends the walk and is its result. -/
def Tree.walkWith (t : Tree) (fn : List Step → Node → m Unit) : m Unit :=
  walkNodeWith fn [] (.mk "" t)

end Callback

end DepLock
