import DepLock.Tree.Basic
import DepLock.Json.Read
import DepLock.Json.Write
import DepLock.Json.Decode
/-!
# Tree documents

A tree is written as an object from groups to objects from names to nodes, and a node
as an object holding its `version` and its groups; keys are sorted, and a hole is
written `null`.

Reading a tree takes every group of the top object, and a hole for each `null`. A
node is read from an object: its `version` when present (a string or `null`), and its
three known groups, in resolution order; other members are ignored. Errors name the
kind of value found and the type that was wanted.
-/

set_option autoImplicit false

namespace DepLock

open DepLock.Json

mutual
/-- The document of a node. -/
def nodeValue : Node → Value
  | .mk v deps => sortedObject (("version", .string v) :: groupValues deps)
/-- The members of a tree's groups. -/
def groupValues : List (String × Option (List (String × Option Node))) → List (String × Value)
  | [] => []
  | (g, none) :: rest => (g, .null) :: groupValues rest
  | (g, some es) :: rest => (g, sortedObject (entryValues es)) :: groupValues rest
/-- The members of one group's table. -/
def entryValues : List (String × Option Node) → List (String × Value)
  | [] => []
  | (name, none) :: rest => (name, .null) :: entryValues rest
  | (name, some n) :: rest => (name, nodeValue n) :: entryValues rest
end

/-- The document of a tree. -/
def Tree.toValue (t : Tree) : Value := sortedObject (groupValues t)

/-- The written document of a tree. -/
def Tree.toText (t : Tree) : String := write t.toValue

/-- The failure of a node's own reading: a value of the wrong kind, reported as if it
were read on its own. -/
def nodeFailure (v : Value) (wanted : String) : DecodeError :=
  .custom (Mismatch.message "" ⟨v.kindName, wanted, []⟩)

/-- The members of an object as a table, the last of equal keys winning. -/
def memberTable (ms : List (String × Value)) : List (String × Value) :=
  ms.foldl (fun acc (k, v) => insertKeyed k v acc) []

/-- The decoding of a node and of a table of nodes; the fuel bounds the depth. -/
def readNode : Nat → Value → Except DecodeError Node
  | 0, _ => .ok (.mk "" [])
  | fuel + 1, v =>
    match v with
    | .object ms => do
      let raw := memberTable ms
      let version ← match lookupKeyed "version" raw with
        | none => pure ""
        | some .null => pure ""
        | some (.string s) => pure s
        | some other => .error (nodeFailure other "string")
      let mut deps : Tree := []
      for g in Group.known do
        match lookupKeyed g.name raw with
        | none => pure ()
        | some .null => deps := insertKeyed g.name none deps
        | some (.object es) =>
          let table ← readTable fuel es
          deps := insertKeyed g.name (some table) deps
        | some other => .error (nodeFailure other "map[string]*tree.Node")
      pure (.mk version deps)
    | other => .error (nodeFailure other "map[string]jsontext.Value")
where
  /-- Reads the members of a group object as a table of nodes. -/
  readTable : Nat → List (String × Value) → Except DecodeError (List (String × Option Node))
    | fuel, es => es.foldlM (fun acc (name, v) =>
        match v with
        | .null => pure (insertKeyed name none acc)
        | _ => do
          let n ← readNode fuel v
          pure (insertKeyed name (some n) acc)) []

/-- The depth of a value, which bounds how deep a node can be nested in it. -/
def valueDepth : Value → Nat
  | .object ms => 1 + depthMembers ms
  | .array vs => 1 + depthItems vs
  | _ => 1
where
  /-- The deepest member. -/
  depthMembers : List (String × Value) → Nat
    | [] => 0
    | (_, v) :: rest => max (valueDepth v) (depthMembers rest)
  /-- The deepest item. -/
  depthItems : List Value → Nat
    | [] => 0
    | v :: rest => max (valueDepth v) (depthItems rest)

/-- Reads a tree at a place of a document: `null` is the empty tree, and a group holding
`null` is a hole. -/
def readTree : Reader Tree := fun path v =>
  match v with
  | .null => .ok []
  | .object ms =>
    ms.foldlM (fun acc (g, gv) =>
      match gv with
      | .null => pure (insertKeyed g none acc)
      | .object es => do
        let table ← readNode.readTable (valueDepth v) es
        pure (insertKeyed g (some table) acc)
      | other => mismatch "map[string]*tree.Node" (path ++ [g]) other) []
  | other => mismatch "tree.Tree" path other

/-- Reads a tree from a document value. -/
def Tree.ofValue (v : Value) : Except DecodeError Tree := readTree [] v

/-- Reads a tree from a whole text. -/
def Tree.parse (text : String) : Except Error Tree :=
  match readDocument text with
  | .error e => .error (.plain e.message)
  | .ok v => (Tree.ofValue v).mapError fun e => .plain (e.message "Tree")

end DepLock
