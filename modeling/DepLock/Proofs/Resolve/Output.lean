import DepLock.Proofs.Tree.Document
import DepLock.Proofs.Resolve.Cycle
/-!
# The trees a build returns

A build adds one node at a time, under a group of the level and holding the tree that the
level below returned. So every tree it returns is `Tree.Resolved`: groups and tables in
key order, every group a known one with a table that is not empty, every entry a node, and
the tree of every node alike.

A resolved tree is canonical (`Tree.Resolved.canonical`), so it is stored by its text
exactly. `Tree.text_round_trip` states that with the round trip of every canonical tree:
such a tree is written and read back unchanged, and the text of what is read is the text
it was read from.
-/

set_option autoImplicit false

namespace DepLock

/-- A tree as a build leaves it: groups and tables in key order, every group a known one
with a table that is not empty, every entry a node, and every node's tree alike. -/
inductive Tree.Resolved : Tree → Prop
  | mk {t : Tree} (sorted : KeysSorted t)
      (known : ∀ e ∈ t, e.1 ∈ knownGroupNames)
      (tables : ∀ e ∈ t, ∃ es, e.2 = some es ∧ es ≠ [] ∧ KeysSorted es)
      (nodes : ∀ g es, (g, some es) ∈ t → ∀ e ∈ es, e.2.isSome)
      (below : ∀ g es, (g, some es) ∈ t → ∀ name n, (name, some n) ∈ es → Tree.Resolved n.deps) :
      Tree.Resolved t

/-- An inserted entry is in the list it was inserted into. -/
theorem mem_insertKeyed_self {α : Type} (k : String) (v : α) (es : List (String × α)) :
    (k, v) ∈ insertKeyed k v es := by
  induction es with
  | nil => simp [insertKeyed]
  | cons e rest ih =>
    simp only [insertKeyed]
    split_ifs <;> simp [ih]

/-- The table that `Tree.set` extends holds entries of the group's table in the tree. -/
theorem mem_table_of_lookupKeyed {t : Tree} {g : String} {x : String × Option Node}
    (hx : x ∈ ((lookupKeyed g t).getD none).getD []) : ∃ es, (g, some es) ∈ t ∧ x ∈ es := by
  cases hl : lookupKeyed g t with
  | none => simp [hl] at hx
  | some table =>
    cases table with
    | none => simp [hl] at hx
    | some es =>
      simp only [hl, Option.getD_some] at hx
      exact ⟨es, mem_of_lookupKeyed hl, hx⟩

namespace Tree.Resolved

/-- The empty tree is resolved. -/
theorem nil : Tree.Resolved [] :=
  .mk keysSorted_nil (by simp) (by simp) (by simp) (by simp)

/-- The group tables of a resolved tree are in key order, an absent one read as empty. -/
theorem table_sorted {t : Tree} (h : t.Resolved) (g : String) :
    KeysSorted (((lookupKeyed g t).getD none).getD []) := by
  obtain ⟨-, -, tables, -, -⟩ := h
  cases hl : lookupKeyed g t with
  | none => simp
  | some table =>
    obtain ⟨es, hes, -, sorted⟩ := tables _ (mem_of_lookupKeyed hl)
    simp only at hes
    simpa [hes] using sorted

/-- Setting a node into a known group keeps a tree resolved, when the node's own tree is. -/
theorem set {t : Tree} {g name : String} {n : Node} (h : t.Resolved)
    (hg : g ∈ knownGroupNames) (hn : n.deps.Resolved) : (t.set g name (some n)).Resolved := by
  have table_sorted := h.table_sorted g
  obtain ⟨sorted, known, tables, nodes, below⟩ := h
  -- every entry of the group's new table is the node set or an entry of its old table
  have entry : ∀ x ∈ insertKeyed name (some n) (((lookupKeyed g t).getD none).getD []),
      x = (name, some n) ∨ ∃ es, (g, some es) ∈ t ∧ x ∈ es :=
    fun x hx => (mem_insertKeyed hx).imp_right mem_table_of_lookupKeyed
  refine .mk sorted.insertKeyed ?_ ?_ ?_ ?_
  · intro e he
    rcases mem_insertKeyed he with rfl | he
    · exact hg
    · exact known e he
  · intro e he
    rcases mem_insertKeyed he with rfl | he
    · exact ⟨_, rfl, List.ne_nil_of_mem (mem_insertKeyed_self _ _ _), table_sorted.insertKeyed⟩
    · exact tables e he
  · intro g' es he x hx
    rcases mem_insertKeyed he with he | he
    · simp only [Prod.mk.injEq, Option.some.injEq] at he
      obtain ⟨rfl, rfl⟩ := he
      rcases entry x hx with rfl | ⟨es', he', hx'⟩
      · rfl
      · exact nodes g' es' he' x hx'
    · exact nodes g' es he x hx
  · intro g' es he name' n' hn'
    rcases mem_insertKeyed he with he | he
    · simp only [Prod.mk.injEq, Option.some.injEq] at he
      obtain ⟨rfl, rfl⟩ := he
      rcases entry _ hn' with hx | ⟨es', he', hx'⟩
      · simp only [Prod.mk.injEq, Option.some.injEq] at hx
        obtain ⟨rfl, rfl⟩ := hx
        exact hn
      · exact below g' es' he' name' n' hx'
    · exact below g' es he name' n' hn'

/-- A node of any version over a resolved tree is canonical. -/
theorem node_canonical {t : Tree} (h : t.Resolved) (version : String) :
    (Node.mk version t).Canonical := by
  induction h generalizing version with
  | @mk t sorted known tables nodes below ih =>
    refine .mk sorted known (fun g es he => ?_) (fun g es he name n hn => ?_)
    · obtain ⟨es', hes, -, sorted'⟩ := tables _ he
      obtain rfl : es = es' := Option.some.inj hes
      exact sorted'
    · obtain ⟨v, deps⟩ := n
      exact ih g es he name _ hn v

/-- A resolved tree is canonical: its groups being known is more than the top level needs. -/
theorem canonical {t : Tree} (h : t.Resolved) : t.Canonical := by
  cases h.node_canonical "" with
  | mk sorted _ tables nodes => exact ⟨sorted, tables, nodes⟩

end Tree.Resolved

section Build

variable {b : Backends} {o : BuildOptions}

/-- The groups a level resolves are known ones. -/
theorem Level.name_mem_known_of_mem_entries {ℓ : Level} {g : Group} {name : String}
    {spec : Specifier} (h : (g, name, spec) ∈ ℓ.entries) : g.name ∈ knownGroupNames := by
  have hg := (Manifest.mem_entriesAt.mp h).1
  apply List.mem_map_of_mem
  unfold groupsAt at hg
  split at hg
  · exact hg
  · simp only [Group.known, List.mem_cons] at hg ⊢
    tauto

/-- Every tree a level settles on is resolved. -/
theorem Level.resolved_of_outcome_eq_ok (ℓ : Level) {tree : Tree} (h : ℓ.outcome b o = .ok tree) :
    tree.Resolved := by
  induction ℓ using Level.induction_on_depth o generalizing tree with
  | deep ℓ hdeep =>
    rw [Level.outcome_of_deep hdeep] at h
    cases h
  | within ℓ hwithin ih =>
    rw [Level.outcome_of_within hwithin, Level.settle_eq_ok] at h
    -- each node is added under a group of the level and holds the tree of the level below
    have resolved := @foldl_visit_tree b ℓ.ancestors
      (fun res frame => (ℓ.below res frame).outcome b o) Tree.Resolved ℓ.entries
      (fun _ _ _ _ res _ hmem _ _ hdeps ht =>
        ht.set (Level.name_mem_known_of_mem_entries hmem) (ih res _ hdeps))
      (none, []) Tree.Resolved.nil
    rw [h] at resolved
    exact resolved

/-- Every tree a build returns is resolved. -/
theorem build_resolved {m : Option Manifest} {tree : Tree} (h : build b o m = .ok tree) :
    tree.Resolved :=
  (Level.root o m).resolved_of_outcome_eq_ok (Level.build_eq_ok_iff.mp h)

end Build

/-- A canonical tree is written and read back unchanged, so the text of a tree read from a
written one is that text again. A tree a build returns is resolved, hence canonical, and
comes back from its text. -/
theorem Tree.text_round_trip :
    (∀ t : Tree, t.Canonical →
      Tree.parse t.toText = .ok t ∧ (Tree.parse t.toText).map Tree.toText = .ok t.toText) ∧
    (∀ b o m t, build b o m = .ok t → t.Resolved ∧ Tree.parse t.toText = .ok t) := by
  refine ⟨fun t h => ?_, fun b o m t h => ?_⟩
  · have read := Tree.parse_toText h
    refine ⟨read, ?_⟩
    rw [read]
    rfl
  · have resolved := build_resolved h
    exact ⟨resolved, Tree.parse_toText resolved.canonical⟩

end DepLock
