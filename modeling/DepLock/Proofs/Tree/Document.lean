import DepLock.Proofs.Json.RoundTrip
import DepLock.Proofs.Keyed
import DepLock.Tree.Document

/-!
# A written tree reads back as itself

`Tree.parse_toText`: a tree held as maps hold it (`Tree.Canonical`: keys in order at every
level, and only the three known groups below the top) is read back from its text as the
same tree, holes included. Reading a node keeps only its version and its known groups,
so below the top nothing else may stand; the top keeps every group.

The proof reads the document layer by layer. An object's members are put in key order
(`memberTable`), and reading inserts them one by one, so each layer is settled by
look-ups (`lookupKeyed_memberTable`) and the extensionality of sorted lists. A node is
read with fuel, which the depth of the tree's document always covers
(`Node.Canonical.height_le`).
-/

set_option autoImplicit false

namespace DepLock

open DepLock.Json

/-! ## Loops and folds that insert -/

section Folds

variable {ε α β : Type}

/-- A loop whose every step yields what a fold's step gives is that fold. -/
theorem forIn_eq_foldlM (xs : List α) (step : β → α → Except ε β)
    (f : α → β → Except ε (ForInStep β)) (h : ∀ x ∈ xs, ∀ acc, f x acc = (step acc x).map .yield)
    (acc : β) : forIn xs acc f = xs.foldlM step acc := by
  induction xs generalizing acc with
  | nil => rfl
  | cons x rest ih =>
    rw [List.forIn_cons, List.foldlM_cons, h x List.mem_cons_self]
    cases step acc x with
    | error e => rfl
    | ok next => exact ih (fun y hy => h y (List.mem_cons_of_mem _ hy)) next

/-- A fold whose every step succeeds ends where the pure fold ends. -/
theorem foldlM_eq_ok_foldl {f : β → α → Except ε β} {next : β → α → β} (xs : List α)
    (h : ∀ x ∈ xs, ∀ acc, f acc x = .ok (next acc x)) (acc : β) :
    xs.foldlM f acc = .ok (xs.foldl next acc) := by
  induction xs generalizing acc with
  | nil => rfl
  | cons x rest ih =>
    rw [List.foldlM_cons, h x List.mem_cons_self, List.foldl_cons]
    exact ih (fun y hy => h y (List.mem_cons_of_mem _ hy)) _

/-- A loop whose every step yields ends with the fold of its steps. -/
theorem forIn_yield_ok (xs : List α) (step : β → α → β)
    (f : α → β → Except ε (ForInStep β)) (h : ∀ x ∈ xs, ∀ acc, f x acc = .ok (.yield (step acc x)))
    (acc : β) : forIn xs acc f = .ok (xs.foldl step acc) := by
  rw [forIn_eq_foldlM xs (fun acc x => .ok (step acc x)) f (fun x hx acc => h x hx acc)]
  exact foldlM_eq_ok_foldl xs (fun _ _ _ => rfl) acc

/-- Reading the members of an object one by one and inserting what each reads as. -/
theorem foldlM_insertKeyed_ok (es : List (String × β)) (enc : β → Value)
    (f : List (String × β) → String × Value → Except ε (List (String × β)))
    (h : ∀ e ∈ es, ∀ acc, f acc (e.1, enc e.2) = .ok (insertKeyed e.1 e.2 acc))
    (acc : List (String × β)) :
    (es.map fun e => (e.1, enc e.2)).foldlM f acc =
      .ok (es.foldl (fun acc e => insertKeyed e.1 e.2 acc) acc) := by
  rw [List.foldlM_map]
  exact foldlM_eq_ok_foldl es h acc

end Folds

/-! ## Objects -/

/-- The table of an object's members inserts them one after another. -/
theorem memberTable_eq_foldl (ms : List (String × Value)) :
    memberTable ms = ms.foldl (fun acc e => insertKeyed e.1 e.2 acc) [] := rfl

/-- A sorted object is the object of its members' table. -/
theorem sortedObject_eq_memberTable (ms : List (String × Value)) :
    sortedObject ms = .object (memberTable ms) := by
  simp only [sortedObject, memberTable_eq_foldl, insertSorted_eq_insertKeyed]

/-- The table of an object's members is sorted by key. -/
theorem memberTable_sorted (ms : List (String × Value)) : KeysSorted (memberTable ms) :=
  keysSorted_nil.foldl_insertKeyed ms

/-- Members already sorted are their own table. -/
theorem memberTable_of_sorted {ms : List (String × Value)} (h : KeysSorted ms) :
    memberTable ms = ms :=
  foldl_insertKeyed_of_sorted [] ms (by simpa using h)

/-- The table of members with distinct names finds each name's value. -/
theorem lookupKeyed_memberTable {ms : List (String × Value)} (h : (ms.map Prod.fst).Nodup)
    (k : String) : lookupKeyed k (memberTable ms) = lookupKeyed k ms := by
  rw [memberTable_eq_foldl, lookupKeyed_foldl_insertKeyed k [] ms h]
  simp

/-- With distinct keys, every member stays a member of the table. -/
theorem mem_memberTable {ms : List (String × Value)} {m : String × Value}
    (h : (ms.map Prod.fst).Nodup) (hm : m ∈ ms) : m ∈ memberTable ms := by
  apply mem_of_lookupKeyed
  rw [lookupKeyed_memberTable h]
  exact lookupKeyed_of_mem h hm

/-- Members hold no number exactly when no member's value does. -/
theorem membersNumberFree_iff (ms : List (String × Value)) :
    membersNumberFree ms = true ↔ ∀ m ∈ ms, numberFree m.2 = true := by
  induction ms with
  | nil => simp [membersNumberFree]
  | cons m rest ih =>
    obtain ⟨k, v⟩ := m
    simp [membersNumberFree, ih]

/-- A sorted object of values with no number holds no number. -/
theorem numberFree_sortedObject {ms : List (String × Value)} (h : ∀ m ∈ ms, numberFree m.2 = true) :
    numberFree (sortedObject ms) = true := by
  rw [sortedObject_eq_memberTable, numberFree, membersNumberFree_iff]
  intro m hm
  rcases mem_foldl_insertKeyed hm with hm | hm
  · exact h m hm
  · cases hm

/-- A member's value is no deeper than the members it is among. -/
theorem le_depthMembers {ms : List (String × Value)} {m : String × Value} (h : m ∈ ms) :
    valueDepth m.2 ≤ valueDepth.depthMembers ms := by
  induction ms with
  | nil => cases h
  | cons m' rest ih =>
    obtain ⟨k, v⟩ := m'
    rw [valueDepth.depthMembers]
    rcases List.mem_cons.mp h with rfl | h
    · exact Nat.le_max_left _ _
    · exact Nat.le_trans (ih h) (Nat.le_max_right _ _)

/-! ## The documents of trees -/

/-- The document of an entry of a table: `null` for a hole. -/
def entryValue : Option Node → Value
  | none => .null
  | some n => nodeValue n

/-- The document of a group's table: `null` for a hole. -/
def groupValue : Option (List (String × Option Node)) → Value
  | none => .null
  | some es => sortedObject (entryValues es)

/-- The values of a table are the values of its entries. -/
theorem entryValues_eq_map (es : List (String × Option Node)) :
    entryValues es = es.map fun e => (e.1, entryValue e.2) := by
  induction es with
  | nil => rfl
  | cons e rest ih =>
    obtain ⟨name, _ | n⟩ := e <;> simp [entryValues, entryValue, ih]

/-- The values of a tree are the values of its groups. -/
theorem groupValues_eq_map (t : Tree) : groupValues t = t.map fun e => (e.1, groupValue e.2) := by
  induction t with
  | nil => rfl
  | cons e rest ih =>
    obtain ⟨g, _ | es⟩ := e <;> simp [groupValues, groupValue, ih]

/-- A sorted table is written as the object of its entries. -/
theorem groupValue_some {es : List (String × Option Node)} (h : KeysSorted es) :
    groupValue (some es) = .object (entryValues es) := by
  rw [groupValue, sortedObject_eq_memberTable, memberTable_of_sorted]
  rw [entryValues_eq_map]
  exact h.map_values entryValue

/-- The members of a node's document before they are put in key order. -/
def nodeMembers (version : String) (deps : Tree) : List (String × Value) :=
  ("version", .string version) :: groupValues deps

/-- A node is written as the object of its version and groups, in key order. -/
theorem nodeValue_mk (version : String) (deps : Tree) :
    nodeValue (.mk version deps) = .object (memberTable (nodeMembers version deps)) := by
  rw [nodeValue, sortedObject_eq_memberTable, nodeMembers]

/-- The names of the groups that take part in resolution. -/
def knownGroupNames : List String := Group.known.map Group.name

/-- A node held as maps hold it: at every level its groups are known ones, and groups and
tables list their entries in key order. -/
inductive Node.Canonical : Node → Prop
  | mk {version : String} {deps : Tree} (sorted : KeysSorted deps)
      (known : ∀ e ∈ deps, e.1 ∈ knownGroupNames)
      (tables : ∀ g es, (g, some es) ∈ deps → KeysSorted es)
      (nodes : ∀ g es, (g, some es) ∈ deps → ∀ name n, (name, some n) ∈ es → Node.Canonical n) :
      Node.Canonical (.mk version deps)

/-- A tree held as maps hold it: groups and tables in key order and every node canonical.
The top level may hold any group. -/
structure Tree.Canonical (t : Tree) : Prop where
  sorted : KeysSorted t
  tables : ∀ g es, (g, some es) ∈ t → KeysSorted es
  nodes : ∀ g es, (g, some es) ∈ t → ∀ name n, (name, some n) ∈ es → Node.Canonical n

/-- The members of a node's document have distinct keys: its groups are known ones, and
no known group is called `version`. -/
theorem nodeMembers_nodup {version : String} {deps : Tree} (sorted : KeysSorted deps)
    (known : ∀ e ∈ deps, e.1 ∈ knownGroupNames) :
    ((nodeMembers version deps).map Prod.fst).Nodup := by
  have keys : (groupValues deps).map Prod.fst = deps.map Prod.fst := by
    simp [groupValues_eq_map, Function.comp_def]
  rw [nodeMembers, List.map_cons, List.nodup_cons, keys]
  refine ⟨fun h => ?_, sorted.nodup⟩
  obtain ⟨e, he, hk⟩ := List.mem_map.mp h
  have hv : "version" ∈ knownGroupNames := by simpa [hk] using known e he
  exact absurd hv (by decide)

/-- A known group's member of a node's document is the value of that group. -/
theorem lookupKeyed_nodeMembers_group {version : String} {deps : Tree} {g : Group}
    (hg : g ∈ Group.known) :
    lookupKeyed g.name (nodeMembers version deps) = (lookupKeyed g.name deps).map groupValue := by
  have hne : "version" ≠ g.name := by
    revert hg
    decide +revert
  rw [nodeMembers, lookupKeyed_cons, if_neg hne, groupValues_eq_map, lookupKeyed_map]

namespace Node.Canonical

/-- A canonical node is no higher than its document is deep. -/
theorem height_le {n : Node} (h : n.Canonical) : n.height ≤ valueDepth (nodeValue n) := by
  induction h with
  | @mk version deps sorted known tables nodes ih =>
    rw [Tree.height_mk, nodeValue_mk, valueDepth]
    -- every group's table stands among the members of the node's document
    have below : deps.height ≤ valueDepth.depthMembers (memberTable (nodeMembers version deps)) := by
      rw [Tree.height_le_iff]
      rintro ⟨g, _ | es⟩ he
      · simp [Tree.groupHeight]
      · have member : (g, groupValue (some es)) ∈ memberTable (nodeMembers version deps) :=
          mem_memberTable (nodeMembers_nodup sorted known) (List.mem_cons_of_mem _ (by
            rw [groupValues_eq_map]
            exact List.mem_map_of_mem (f := fun e => (e.1, groupValue e.2)) he))
        have group := le_depthMembers member
        rw [groupValue_some (tables g es he), valueDepth] at group
        simp only [Tree.groupHeight, Tree.tableHeight_le_iff]
        rintro ⟨name, _ | n⟩ hn
        · simp [Tree.entryHeight]
        · have entry := @le_depthMembers (entryValues es) (name, nodeValue n) (by
            rw [entryValues_eq_map]
            exact List.mem_map_of_mem (f := fun e => (e.1, entryValue e.2)) hn)
          have := ih g es he name n hn
          dsimp only at entry
          simp only [Tree.entryHeight_some]
          omega
    omega

/-- A canonical node's document holds no number. -/
theorem numberFree {n : Node} (h : n.Canonical) : numberFree (nodeValue n) = true := by
  induction h with
  | @mk version deps sorted known tables nodes ih =>
    rw [nodeValue]
    apply numberFree_sortedObject
    rintro ⟨k, v⟩ hm
    rcases List.mem_cons.mp hm with hm | hm
    · cases hm
      rfl
    rw [groupValues_eq_map] at hm
    obtain ⟨⟨g, _ | es⟩, he, hm⟩ := List.mem_map.mp hm <;> cases hm
    · rfl
    · apply numberFree_sortedObject
      rintro ⟨name, x⟩ hx
      rw [entryValues_eq_map] at hx
      obtain ⟨⟨name, _ | n⟩, hn, hx⟩ := List.mem_map.mp hx <;> cases hx
      · rfl
      · exact ih g es he name n hn

end Node.Canonical

/-! ## Reading -/

/-- A table of entries whose nodes read back reads back. -/
theorem readTable_entryValues {fuel : Nat} {es : List (String × Option Node)} (sorted : KeysSorted es)
    (nodes : ∀ name n, (name, some n) ∈ es → readNode fuel (nodeValue n) = .ok n) :
    readNode.readTable fuel (entryValues es) = .ok es := by
  rw [readNode.readTable, entryValues_eq_map, foldlM_insertKeyed_ok es entryValue,
    foldl_insertKeyed_of_sorted [] es (by simpa using sorted), List.nil_append]
  rintro ⟨name, _ | n⟩ he acc
  · rfl
  · -- a node's document is an object, so it is read as a node
    obtain ⟨version, deps⟩ := n
    have read := nodes name _ he
    rw [nodeValue_mk] at read
    simp [entryValue, nodeValue_mk, read, bind, Except.bind, pure, Except.pure]

/-- The step of a node's reading for one known group: the group's table, when it has one. -/
def keepGroup (deps acc : Tree) (g : Group) : Tree :=
  match lookupKeyed g.name deps with
  | none => acc
  | some table => insertKeyed g.name table acc

/-- Keeping a node's groups inserts each group the node has. -/
theorem keepGroup_eq_insertGroup (deps : Tree) :
    keepGroup deps = insertGroup fun g => lookupKeyed g.name deps := by
  funext acc g
  unfold keepGroup insertGroup
  beta_reduce
  cases lookupKeyed g.name deps <;> rfl

/-- After keeping groups, a key finds the node's group when it was kept, and its old value
otherwise. -/
theorem lookupKeyed_foldl_keepGroup (deps : Tree) (gs : List Group) (acc : Tree) (k : String) :
    lookupKeyed k (gs.foldl (keepGroup deps) acc) =
      if k ∈ gs.map Group.name then (lookupKeyed k deps).or (lookupKeyed k acc)
      else lookupKeyed k acc := by
  rw [keepGroup_eq_insertGroup, lookupKeyed_foldl_insertGroup]

/-- Keeping groups keeps a tree sorted. -/
theorem keepGroup_sorted (deps : Tree) (gs : List Group) {acc : Tree} (h : KeysSorted acc) :
    KeysSorted (gs.foldl (keepGroup deps) acc) := by
  rw [keepGroup_eq_insertGroup]
  exact h.foldl_insertGroup _ gs

namespace Node.Canonical

/-- A canonical node reads back from its document, given fuel for its height. -/
theorem readNode {n : Node} (h : n.Canonical) :
    ∀ fuel, n.height ≤ fuel → DepLock.readNode fuel (nodeValue n) = .ok n := by
  induction h with
  | @mk version deps sorted known tables nodes ih =>
    intro fuel hfuel
    obtain ⟨fuel, rfl⟩ : ∃ f, fuel = f + 1 := ⟨fuel - 1, by rw [Tree.height_mk] at hfuel; omega⟩
    have hdeps : deps.height ≤ fuel := by rw [Tree.height_mk] at hfuel; omega
    -- the node's table of members has the look-ups of its members
    have raw : ∀ k, lookupKeyed k (memberTable (memberTable (nodeMembers version deps))) =
        lookupKeyed k (nodeMembers version deps) := fun k => by
      rw [memberTable_of_sorted (memberTable_sorted _),
        lookupKeyed_memberTable (nodeMembers_nodup sorted known)]
    have version : lookupKeyed "version" (nodeMembers version deps) = some (.string version) := by
      simp [nodeMembers, lookupKeyed_cons]
    rw [nodeValue_mk]
    simp only [DepLock.readNode]
    rw [raw "version", version]
    simp only
    rw [forIn_yield_ok Group.known (keepGroup deps)]
    · simp only [bind, Except.bind, pure, Except.pure]
      congr
      apply eq_of_lookupKeyed_eq (keepGroup_sorted deps _ keysSorted_nil) sorted
      intro k
      rw [lookupKeyed_foldl_keepGroup]
      split
      · simp
      · -- the node holds no group other than the known ones
        rename_i hk
        exact (lookupKeyed_eq_none fun e he hek => hk (by rw [← hek]; exact known e he)).symm
    · intro g hg acc
      rw [raw, lookupKeyed_nodeMembers_group hg]
      unfold keepGroup
      cases hlook : lookupKeyed g.name deps with
      | none => rfl
      | some table =>
        have mem := mem_of_lookupKeyed hlook
        cases table with
        | none => rfl
        | some es =>
          have read := @readTable_entryValues fuel es (tables _ es mem) fun name n hn => by
            apply ih _ es mem name n hn
            rw [Tree.height_le_iff] at hdeps
            have := hdeps _ mem
            simp only [Tree.groupHeight, Tree.tableHeight_le_iff] at this
            simpa using this _ hn
          simp [groupValue_some (tables _ es mem), read, bind, Except.bind, pure, Except.pure]

end Node.Canonical

/-- A canonical tree's document holds no number. -/
theorem Tree.Canonical.numberFree {t : Tree} (h : t.Canonical) :
    numberFree t.toValue = true := by
  rw [Tree.toValue]
  apply numberFree_sortedObject
  rw [groupValues_eq_map]
  rintro _ hm
  obtain ⟨⟨g, _ | es⟩, he, rfl⟩ := List.mem_map.mp hm
  · rfl
  · apply numberFree_sortedObject
    rintro _ hx
    rw [entryValues_eq_map] at hx
    obtain ⟨⟨name, _ | n⟩, hn, rfl⟩ := List.mem_map.mp hx
    · rfl
    · exact (h.nodes g es he name n hn).numberFree

/-- A canonical tree reads back from its document, wherever in a document it stands. -/
theorem Tree.Canonical.readTree {t : Tree} (h : t.Canonical) (path : List String) :
    DepLock.readTree path t.toValue = .ok t := by
  have value : t.toValue = .object (groupValues t) := by
    rw [Tree.toValue, sortedObject_eq_memberTable, memberTable_of_sorted]
    rw [groupValues_eq_map]
    exact h.sorted.map_values groupValue
  rw [value, DepLock.readTree]
  simp only
  rw [groupValues_eq_map, foldlM_insertKeyed_ok t groupValue,
    foldl_insertKeyed_of_sorted [] t (by simpa using h.sorted), List.nil_append]
  rintro ⟨g, _ | es⟩ he acc
  · rfl
  · -- each node sits two levels inside the document, within the depth it gives as fuel
    have read := @readTable_entryValues (valueDepth (.object (groupValues t))) es
      (h.tables g es he) fun name n hn => by
        apply (h.nodes g es he name n hn).readNode
        have group := @le_depthMembers (groupValues t) (g, groupValue (some es)) (by
          rw [groupValues_eq_map]
          exact List.mem_map_of_mem (f := fun e => (e.1, groupValue e.2)) he)
        have entry := @le_depthMembers (entryValues es) (name, nodeValue n) (by
          rw [entryValues_eq_map]
          exact List.mem_map_of_mem (f := fun e => (e.1, entryValue e.2)) hn)
        have own := (h.nodes g es he name n hn).height_le
        rw [groupValue_some (h.tables g es he), valueDepth] at group
        simp only [valueDepth] at entry ⊢
        omega
    rw [groupValues_eq_map] at read
    simp [groupValue_some (h.tables g es he), read, bind, Except.bind, pure, Except.pure]

/-- A canonical tree reads back from its document. -/
theorem Tree.Canonical.ofValue {t : Tree} (h : t.Canonical) : Tree.ofValue t.toValue = .ok t :=
  h.readTree []

/-- A canonical tree reads back from its text. -/
theorem Tree.parse_toText {t : Tree} (h : t.Canonical) : Tree.parse t.toText = .ok t := by
  rw [Tree.parse, Tree.toText, readDocument_write h.numberFree]
  simp [h.ofValue, Except.mapError]

end DepLock
