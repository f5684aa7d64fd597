import DepLock.Tree.Basic
import Mathlib.Tactic.SplitIfs

/-!
# The shape of a tree

`Tree.height` is the depth of the deepest node of a tree, the nodes of its top level
being at depth one. `Tree.get` finds the entry of a name in a group. This file says what
`Tree.set` does to both:

* `Tree.get_set_self` and `Tree.get_set_of_ne`: setting an entry changes the entry of
  that group and name, and no other;
* `Tree.height_set_le`: the height afterwards is at most the larger of the height before
  and the height of the entry set.

Both rest on the same two facts about keyed lists: an insertion holds the inserted entry
and entries that were there (`mem_insertKeyed`), and a look-up after an insertion finds
the inserted value at its key and the old value elsewhere. Neither needs the list to be
sorted.
-/

set_option autoImplicit false

namespace DepLock

mutual

/-- The height of a node: one more than the height of its dependencies. -/
def Node.height : Node → Nat
  | .mk _ deps => Tree.height deps + 1

/-- The height of a tree: the depth of its deepest node, where the nodes of the top level
are at depth one and a hole is no node. -/
def Tree.height : Tree → Nat
  | [] => 0
  | (_, table) :: rest => max (Tree.groupHeight table) (Tree.height rest)

/-- The height of the table of a group, when the group has one. -/
def Tree.groupHeight : Option (List (String × Option Node)) → Nat
  | none => 0
  | some entries => Tree.tableHeight entries

/-- The height of a table: that of its highest entry. -/
def Tree.tableHeight : List (String × Option Node) → Nat
  | [] => 0
  | (_, entry) :: rest => max (Tree.entryHeight entry) (Tree.tableHeight rest)

/-- The height of an entry: that of its node, and zero for a hole. -/
def Tree.entryHeight : Option Node → Nat
  | none => 0
  | some n => n.height

end

section Keyed

variable {α : Type}

/-- Tables insert entries as trees do. -/
theorem Table.insertEntry_eq_insertKeyed (k : String) (v : α)
    (es : List (String × α)) : Table.insertEntry k v es = insertKeyed k v es := by
  induction es with
  | nil => rfl
  | cons e rest ih =>
    obtain ⟨k', v'⟩ := e
    simp only [Table.insertEntry, insertKeyed, ih]

/-- An entry of an insertion is the one inserted or one that was there. -/
theorem mem_insertKeyed {k : String} {v : α} {es : List (String × α)} {e : String × α}
    (h : e ∈ insertKeyed k v es) : e = (k, v) ∨ e ∈ es := by
  rw [← Table.insertEntry_eq_insertKeyed] at h
  exact Table.mem_insertEntry h

/-- A value looked up by key is the value of an entry with that key. -/
theorem mem_of_lookupKeyed {k : String} {es : List (String × α)} {v : α}
    (h : lookupKeyed k es = some v) : (k, v) ∈ es := by
  unfold lookupKeyed at h
  obtain ⟨e, he, rfl⟩ := Option.map_eq_some_iff.mp h
  have hk : e.1 = k := by simpa using List.find?_some he
  rw [← hk]
  exact List.mem_of_find?_eq_some he

/-- An inserted key finds its new value. -/
theorem lookupKeyed_insertKeyed_self (k : String) (v : α) (es : List (String × α)) :
    lookupKeyed k (insertKeyed k v es) = some v := by
  induction es with
  | nil => simp [insertKeyed, lookupKeyed]
  | cons e rest ih =>
    obtain ⟨k', v'⟩ := e
    simp only [insertKeyed]
    split_ifs with hlt heq
    · simp [lookupKeyed]
    · simp [lookupKeyed]
    · have hne : k' ≠ k := fun h => heq (by simp [h])
      simpa [lookupKeyed, List.find?_cons, hne] using ih

/-- An insertion leaves every other key's value as it was. -/
theorem lookupKeyed_insertKeyed_of_ne {j k : String} (hne : j ≠ k) (v : α)
    (es : List (String × α)) :
    lookupKeyed j (insertKeyed k v es) = lookupKeyed j es := by
  induction es with
  | nil => simp [insertKeyed, lookupKeyed, Ne.symm hne]
  | cons e rest ih =>
    obtain ⟨k', v'⟩ := e
    simp only [insertKeyed]
    split_ifs with hlt heq
    · simp [lookupKeyed, List.find?_cons, Ne.symm hne]
    · have hk : k = k' := by simpa using heq
      subst hk
      simp [lookupKeyed, Ne.symm hne]
    · by_cases hj : k' = j
      · simp [lookupKeyed, hj]
      · simpa [lookupKeyed, List.find?_cons, hj] using ih

end Keyed

namespace Tree

/-- A tree is at most a height exactly when each of its groups is. -/
theorem height_le_iff {t : Tree} {h : Nat} : t.height ≤ h ↔ ∀ e ∈ t, groupHeight e.2 ≤ h := by
  induction t with
  | nil => simp [Tree.height]
  | cons e rest ih =>
    obtain ⟨g, table⟩ := e
    rw [Tree.height, Nat.max_le, ih, List.forall_mem_cons]

/-- A table is at most a height exactly when each of its entries is. -/
theorem tableHeight_le_iff {es : List (String × Option Node)} {h : Nat} :
    tableHeight es ≤ h ↔ ∀ e ∈ es, entryHeight e.2 ≤ h := by
  induction es with
  | nil => simp [tableHeight]
  | cons e rest ih =>
    obtain ⟨name, entry⟩ := e
    rw [tableHeight, Nat.max_le, ih, List.forall_mem_cons]

/-- An entry with a node is as high as the node. -/
@[simp] theorem entryHeight_some (n : Node) : entryHeight (some n) = n.height := by
  simp [entryHeight]

/-- A node is one higher than its groups. -/
@[simp] theorem height_mk (version : String) (deps : Tree) :
    (Node.mk version deps).height = deps.height + 1 := by
  simp [Node.height]

/-- Setting an entry raises the height of a tree at most to the height of the entry. -/
theorem height_set_le {t : Tree} {g name : String} {n : Option Node} {h : Nat}
    (ht : t.height ≤ h) (hn : entryHeight n ≤ h) : (t.set g name n).height ≤ h := by
  rw [height_le_iff] at ht ⊢
  intro e he
  rcases mem_insertKeyed he with rfl | he
  · -- the group's new table holds the entry set and entries of the table it had
    simp only [groupHeight, tableHeight_le_iff]
    intro x hx
    rcases mem_insertKeyed hx with rfl | hx
    · exact hn
    · cases hl : lookupKeyed g t with
      | none => simp [hl] at hx
      | some table =>
        cases table with
        | none => simp [hl] at hx
        | some es =>
          simp only [hl, Option.getD_some] at hx
          have old := ht _ (mem_of_lookupKeyed hl)
          simp only [groupHeight, tableHeight_le_iff] at old
          exact old x hx
  · exact ht e he

/-- Setting an entry makes it the entry of its group and name. -/
theorem get_set_self (t : Tree) (g name : String) (n : Option Node) :
    (t.set g name n).get g name = some n := by
  simp [Tree.set, Tree.get, lookupKeyed_insertKeyed_self]

/-- Setting an entry leaves the entries of every other group and name. -/
theorem get_set_of_ne (t : Tree) {g name g' name' : String} (h : (g', name') ≠ (g, name))
    (n : Option Node) : (t.set g name n).get g' name' = t.get g' name' := by
  by_cases hg : g' = g
  · subst hg
    have hname : name' ≠ name := fun h' => h (by rw [h'])
    simp only [Tree.set, Tree.get, lookupKeyed_insertKeyed_self,
      lookupKeyed_insertKeyed_of_ne hname]
    cases lookupKeyed g' t with
    | none => simp [lookupKeyed]
    | some table => cases table <;> simp [lookupKeyed]
  · simp [Tree.set, Tree.get, lookupKeyed_insertKeyed_of_ne hg]

end Tree

end DepLock
