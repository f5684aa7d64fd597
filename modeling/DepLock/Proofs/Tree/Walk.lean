import DepLock.Proofs.Tree.Document

/-!
# What a walk visits

A walk of a tree (`Tree.walk`) and look-ups along paths (`Tree.lookup`) describe the same
nodes. A *position* of a tree (`Tree.Position`) is a path that goes through known groups
only and that look-up follows to a node. For a tree held as a map holds it, with a node
under every name (`Tree.Filled`), the walk lists exactly its positions, each once, in
preorder: a node before the nodes below it, and siblings by the place of their group in
resolution order, then by name (`Step.Before`). Over paths this order is `List.Lex`.

The proof follows the walk: a table is visited entry by entry, each entry's block being
its own path and then the positions of its node (`walkNames_filled`); a node's three
groups are visited in turn (`Node.Filled.walk_visits`). The walk that calls a function on
each node (`Tree.walkWith`) makes its calls along the same list (`walkNodeWith_eq_forM`),
and `Tree.count` is the length of that list.
-/

set_option autoImplicit false

namespace DepLock

/-! ## Trees held as maps -/

/-- A node held as a map holds it, with a node under every name: each table of its groups
lists its names in byte order, each once, holds no hole, and its nodes are filled too. -/
inductive Node.Filled : Node → Prop
  | mk {version : String} {deps : Tree}
      (sorted : ∀ g es, (g, some es) ∈ deps → KeysSorted es)
      (noHole : ∀ g es, (g, some es) ∈ deps → ∀ e ∈ es, e.2.isSome)
      (nodes : ∀ g es, (g, some es) ∈ deps → ∀ name n, (name, some n) ∈ es → Node.Filled n) :
      Node.Filled (.mk version deps)

/-- A tree held as a map holds it, with a node under every name. -/
def Tree.Filled (t : Tree) : Prop := Node.Filled (.mk "" t)

instance {α : Type} (es : List (String × α)) : Decidable (KeysSorted es) :=
  inferInstanceAs (Decidable (es.Pairwise _))

mutual
/-- Checks that a node is filled. -/
def Node.checkFilled : Node → Bool
  | .mk _ deps => checkGroups deps
/-- Checks that every table of a tree is in order and holds filled nodes only. -/
def checkGroups : Tree → Bool
  | [] => true
  | (_, none) :: rest => checkGroups rest
  | (_, some es) :: rest => decide (KeysSorted es) && checkTable es && checkGroups rest
/-- Checks that a table holds filled nodes only. -/
def checkTable : List (String × Option Node) → Bool
  | [] => true
  | (_, none) :: _ => false
  | (_, some n) :: rest => n.checkFilled && checkTable rest
end

/-- What the check of a tree's tables establishes. -/
def TablesFilled (t : Tree) : Prop :=
  ∀ g es, (g, some es) ∈ t → KeysSorted es ∧ (∀ e ∈ es, e.2.isSome) ∧
    ∀ name n, (name, some n) ∈ es → n.Filled

/-- A node that passes the check is filled. -/
theorem Node.filled_of_check : ∀ n : Node, n.checkFilled = true → n.Filled := by
  refine Node.checkFilled.induct (fun n => n.checkFilled = true → n.Filled)
    (fun t => checkGroups t = true → TablesFilled t)
    (fun es => checkTable es = true → (∀ e ∈ es, e.2.isSome) ∧
      ∀ name n, (name, some n) ∈ es → n.Filled)
    ?node ?noGroups ?nullTable ?table ?noNames ?hole ?entry
  case node =>
    intro version deps ih h
    rw [Node.checkFilled] at h
    have tables := ih h
    exact .mk (fun g es hg => (tables g es hg).1) (fun g es hg => (tables g es hg).2.1)
      (fun g es hg => (tables g es hg).2.2)
  case noGroups => intro _ g es h; cases h
  case nullTable =>
    intro g rest ih h g' es hmem
    rw [checkGroups] at h
    rcases List.mem_cons.mp hmem with heq | hmem
    · cases heq
    · exact ih h g' es hmem
  case table =>
    intro g es rest ihTable ihRest h g' es' hmem
    simp only [checkGroups, Bool.and_eq_true, decide_eq_true_eq] at h
    obtain ⟨⟨sorted, htable⟩, hrest⟩ := h
    rcases List.mem_cons.mp hmem with heq | hmem
    · cases heq
      exact ⟨sorted, ihTable htable⟩
    · exact ihRest hrest g' es' hmem
  case noNames => intro _; simp
  case hole => intro name rest h; cases h
  case entry =>
    intro name n rest ihNode ihRest h
    simp only [checkTable, Bool.and_eq_true] at h
    obtain ⟨full, rest'⟩ := ihRest h.2
    refine ⟨?_, fun name' n' hmem => ?_⟩
    · intro e he
      rcases List.mem_cons.mp he with rfl | he
      · rfl
      · exact full e he
    · rcases List.mem_cons.mp hmem with heq | hmem
      · cases heq
        exact ihNode h.1
      · exact rest' name' n' hmem

/-! ## Positions and their order -/

/-- The order of siblings: by the place of their group in resolution order, then by
name. -/
def Step.Before (s s' : Step) : Prop :=
  knownGroupNames.idxOf s.group < knownGroupNames.idxOf s'.group ∨
    (s.group = s'.group ∧ s.name < s'.name)

instance : DecidableRel Step.Before := fun _ _ =>
  inferInstanceAs (Decidable (_ ∨ _))

/-- No step comes before itself. -/
theorem Step.before_irrefl (s : Step) : ¬ s.Before s := by
  rintro (h | ⟨-, h⟩)
  · exact lt_irrefl _ h
  · exact lt_irrefl _ h

/-- Two paths whose first steps are in sibling order are in walk order. -/
theorem lex_of_head_before {s s' : Step} {q q' : List Step} (h : s.Before s') :
    List.Lex Step.Before (s :: q) (s' :: q') :=
  .rel h

/-- A position of a tree: a path through known groups that look-up follows to a node. -/
def Tree.Position (t : Tree) (p : List Step) (n : Node) : Prop :=
  p ≠ [] ∧ (∀ s ∈ p, s.group ∈ knownGroupNames) ∧ t.lookup p = .ok (some n)

/-- A position is a first step to a node of the top level, then a position of that node,
unless the path ends there. -/
theorem Tree.position_cons {t : Tree} {s : Step} {q : List Step} {m : Node} :
    t.Position (s :: q) m ↔ s.group ∈ knownGroupNames ∧
      ∃ n, t.get s.group s.name = some (some n) ∧ (q = [] ∧ n = m ∨ n.deps.Position q m) := by
  unfold Tree.Position
  rw [List.forall_mem_cons, Tree.lookup]
  cases hget : t.get s.group s.name with
  | none => simp
  | some e =>
    cases e with
    | none => simp
    | some n =>
      cases q with
      | nil => simp
      | cons s' q' => simp [and_assoc]

/-- The entries of a group of a tree are those of its first table under that name. -/
theorem Tree.get_eq (t : Tree) (g name : String) :
    t.get g name = ((lookupKeyed g t).getD none).bind (lookupKeyed name) := by
  unfold Tree.get
  cases lookupKeyed g t with
  | none => rfl
  | some table => cases table <;> rfl

/-- In a table that lists each name once, look-up finds exactly the entries. -/
theorem lookupKeyed_eq_some_iff {α : Type} {es : List (String × α)} (h : KeysSorted es)
    {k : String} {v : α} : lookupKeyed k es = some v ↔ (k, v) ∈ es :=
  ⟨mem_of_lookupKeyed, lookupKeyed_of_mem h.nodup⟩

/-- `vs` lists the paths and nodes that `P` holds of, each once, in walk order. -/
structure Enumerates (P : List Step → Node → Prop) (vs : List (List Step × Node)) : Prop where
  mem_iff : ∀ p n, (p, n) ∈ vs ↔ P p n
  ordered : (vs.map Prod.fst).Pairwise (List.Lex Step.Before)

/-- `vs` lists the positions of `t`, each once, in walk order. -/
abbrev Tree.Visits (t : Tree) (vs : List (List Step × Node)) : Prop := Enumerates t.Position vs

/-- The paths of a visit list, all set below `path`. -/
def shiftVisits (path : List Step) (vs : List (List Step × Node)) : List (List Step × Node) :=
  vs.map fun v => (path ++ v.1, v.2)

/-- Setting visits below the root leaves them as they are. -/
@[simp] theorem shiftVisits_nil_left (vs : List (List Step × Node)) : shiftVisits [] vs = vs := by
  simp [shiftVisits]

/-- Setting two visit lists below a path sets each of them below it. -/
theorem shiftVisits_append (path : List Step) (vs ws : List (List Step × Node)) :
    shiftVisits path (vs ++ ws) = shiftVisits path vs ++ shiftVisits path ws :=
  List.map_append

/-- A visit set below a path is a visit whose path extends the given one. -/
theorem mem_shiftVisits {path p : List Step} {m : Node} {vs : List (List Step × Node)} :
    (p, m) ∈ shiftVisits path vs ↔ ∃ q, p = path ++ q ∧ (q, m) ∈ vs := by
  simp only [shiftVisits, List.mem_map, Prod.mk.injEq]
  constructor
  · rintro ⟨v, hv, rfl, rfl⟩
    exact ⟨v.1, rfl, hv⟩
  · rintro ⟨q, rfl, hq⟩
    exact ⟨(q, m), hq, rfl, rfl⟩

/-- The positions of one group's table below a step into it. -/
def tableBelow (g : String) (es : List (String × Option Node)) (p : List Step) (m : Node) : Prop :=
  ∃ name n q, (name, some n) ∈ es ∧ p = ⟨g, name⟩ :: q ∧ (q = [] ∧ n = m ∨ n.deps.Position q m)

/-! ## The walk lists the positions -/

section Walk

open Except in
/-- A computation followed by a continuation succeeds exactly when both steps do. -/
theorem bind_eq_ok_iff {ε α β : Type} {x : Except ε α} {f : α → Except ε β} {b : β} :
    x >>= f = .ok b ↔ ∃ a, x = .ok a ∧ f a = .ok b := by
  cases x <;> simp [bind, Except.bind]

/-- The walk of a group visits the first table of that name, if there is one. -/
theorem walkGroup_eq (path : List Step) (g : String) (t : Tree) :
    walkGroup path g t = (((lookupKeyed g t).getD none).map (walkNames path g)).getD (.ok []) := by
  induction t with
  | nil => simp [walkGroup]
  | cons e rest ih =>
    obtain ⟨g', _ | es⟩ := e <;>
      by_cases h : g' = g <;> simp [walkGroup.eq_2, walkGroup.eq_3, lookupKeyed_cons, h, ih]

/-- The block of one entry: its own step, then the positions of its node below it. -/
theorem entryBlock_ordered {s : Step} {n : Node} {vs : List (List Step × Node)}
    (hvs : n.deps.Visits vs) :
    ((([s], n) :: shiftVisits [s] vs).map Prod.fst).Pairwise (List.Lex Step.Before) := by
  simp only [shiftVisits, List.map_cons, List.map_map, List.pairwise_cons, List.mem_map,
    Function.comp_def, List.singleton_append]
  refine ⟨?_, ?_⟩
  · -- the entry comes before every position below it, which extends its path
    rintro _ ⟨v, hv, rfl⟩
    obtain ⟨ne, -⟩ := (hvs.mem_iff v.1 v.2).mp hv
    obtain ⟨s', q, hq⟩ := List.exists_cons_of_ne_nil ne
    rw [hq]
    exact .cons .nil
  · have below := hvs.ordered
    rw [List.pairwise_map] at below ⊢
    exact below.imp fun h => .cons h

/-- The walk of a table whose nodes are walked to their positions visits, for each entry
in turn, the entry and the positions below it. -/
theorem walkNames_filled (g : String) {es : List (String × Option Node)}
    (sorted : KeysSorted es) (noHole : ∀ e ∈ es, e.2.isSome)
    (below : ∀ name n, (name, some n) ∈ es →
      ∃ vs, (∀ path, walkNode path n = .ok (shiftVisits path vs)) ∧ n.deps.Visits vs) :
    ∃ ws, (∀ path, walkNames path g es = .ok (shiftVisits path ws)) ∧
      Enumerates (tableBelow g es) ws := by
  induction es with
  | nil => exact ⟨[], fun _ => rfl, ⟨by simp [tableBelow], List.Pairwise.nil⟩⟩
  | cons e rest ih =>
    obtain ⟨name, _ | n⟩ := e
    · simp at noHole
    obtain ⟨later, sortedRest⟩ := keysSorted_cons.mp sorted
    obtain ⟨ws, hwalk, hws⟩ := ih sortedRest (fun e he => noHole e (List.mem_cons_of_mem _ he))
      (fun name' n' h => below name' n' (List.mem_cons_of_mem _ h))
    obtain ⟨vs, hnode, hvs⟩ := below name n List.mem_cons_self
    let s : Step := ⟨g, name⟩
    refine ⟨(([s], n) :: shiftVisits [s] vs) ++ ws, fun path => ?_, ⟨fun p m => ?_, ?_⟩⟩
    · rw [walkNames.eq_3, hnode, hwalk]
      simp [bind, Except.bind, pure, Except.pure, shiftVisits, s]
    · -- a position of the entry's block or of the rest of the table
      rw [List.cons_append, List.mem_cons, List.mem_append, mem_shiftVisits, hws.mem_iff]
      constructor
      · rintro (h | ⟨q, rfl, hq⟩ | ⟨name', n', q, hmem, rfl, hq⟩)
        · obtain ⟨rfl, rfl⟩ := Prod.mk.inj h
          exact ⟨name, _, [], List.mem_cons_self, rfl, .inl ⟨rfl, rfl⟩⟩
        · exact ⟨name, n, q, List.mem_cons_self, rfl, .inr ((hvs.mem_iff q m).mp hq)⟩
        · exact ⟨name', n', q, List.mem_cons_of_mem _ hmem, rfl, hq⟩
      · rintro ⟨name', n', q, hmem, rfl, hq⟩
        rcases List.mem_cons.mp hmem with heq | hmem
        · simp only [Prod.mk.injEq, Option.some.injEq] at heq
          obtain ⟨rfl, rfl⟩ := heq
          rcases hq with ⟨rfl, rfl⟩ | hq
          · exact .inl rfl
          · exact .inr (.inl ⟨q, rfl, (hvs.mem_iff q m).mpr hq⟩)
        · exact .inr (.inr ⟨name', n', q, hmem, rfl, hq⟩)
    · -- the entry's block comes before the rest, whose names are greater
      rw [List.map_append, List.pairwise_append]
      refine ⟨entryBlock_ordered hvs, hws.ordered, ?_⟩
      intro p hp p' hp'
      obtain ⟨q, hq⟩ : ∃ q, p = s :: q := by
        simp only [List.map_cons, List.mem_cons, shiftVisits, List.map_map, List.mem_map,
          Function.comp_def] at hp
        rcases hp with rfl | ⟨v, -, rfl⟩
        · exact ⟨[], rfl⟩
        · exact ⟨v.1, rfl⟩
      obtain ⟨v', hv', rfl⟩ := List.mem_map.mp hp'
      obtain ⟨name', n', q', hmem, hp'', -⟩ := (hws.mem_iff v'.1 v'.2).mp hv'
      rw [hq, hp'']
      exact lex_of_head_before (.inr ⟨rfl, later (name', some n') hmem⟩)

/-- The positions of `t` whose first step is into group `g`. -/
def groupBelow (t : Tree) (g : String) (p : List Step) (m : Node) : Prop :=
  ∃ name n q, t.get g name = some (some n) ∧ p = ⟨g, name⟩ :: q ∧
    (q = [] ∧ n = m ∨ n.deps.Position q m)

/-- A position goes first into one of the known groups. -/
theorem Tree.position_iff_groupBelow {t : Tree} {p : List Step} {m : Node} :
    t.Position p m ↔ ∃ g ∈ knownGroupNames, groupBelow t g p m := by
  cases p with
  | nil => simp [Tree.Position, groupBelow]
  | cons s q =>
    rw [Tree.position_cons]
    constructor
    · rintro ⟨known, n, hget, hq⟩
      exact ⟨s.group, known, s.name, n, q, hget, rfl, hq⟩
    · rintro ⟨g, known, name, n, q', hget, hp, hq⟩
      obtain ⟨rfl, rfl⟩ := List.cons.inj hp
      exact ⟨known, n, hget, hq⟩

/-- Every path listed for a group starts in that group. -/
theorem Enumerates.head_groupBelow {t : Tree} {g : String} {ws : List (List Step × Node)}
    (h : Enumerates (groupBelow t g) ws) : ∀ p ∈ ws.map Prod.fst, ∃ name q, p = ⟨g, name⟩ :: q := by
  intro p hp
  obtain ⟨v, hv, rfl⟩ := List.mem_map.mp hp
  obtain ⟨name, -, q, -, hq, -⟩ := (h.mem_iff v.1 v.2).mp hv
  exact ⟨name, q, hq⟩

/-- The positions of an earlier group all come before those of a later one. -/
theorem groupBelow_ordered {t : Tree} {g g' : String} {ws ws' : List (List Step × Node)}
    (h : Enumerates (groupBelow t g) ws) (h' : Enumerates (groupBelow t g') ws')
    (earlier : knownGroupNames.idxOf g < knownGroupNames.idxOf g') :
    ∀ p ∈ ws.map Prod.fst, ∀ p' ∈ ws'.map Prod.fst, List.Lex Step.Before p p' := by
  intro p hp p' hp'
  obtain ⟨name, q, rfl⟩ := h.head_groupBelow p hp
  obtain ⟨name', q', rfl⟩ := h'.head_groupBelow p' hp'
  exact lex_of_head_before (.inl earlier)

/-- The walk of a group of a node whose tables are filled lists the positions through that
group. -/
theorem walkGroup_filled {deps : Tree} (sorted : ∀ g es, (g, some es) ∈ deps → KeysSorted es)
    (noHole : ∀ g es, (g, some es) ∈ deps → ∀ e ∈ es, e.2.isSome)
    (below : ∀ g es, (g, some es) ∈ deps → ∀ name n, (name, some n) ∈ es →
      ∃ vs, (∀ path, walkNode path n = .ok (shiftVisits path vs)) ∧ n.deps.Visits vs)
    (g : String) :
    ∃ ws, (∀ path, walkGroup path g deps = .ok (shiftVisits path ws)) ∧
      Enumerates (groupBelow deps g) ws := by
  -- without a table under `g` the walk visits nothing, and no name of `g` is found
  have absent : ((lookupKeyed g deps).getD none) = none →
      ∃ ws, (∀ path, walkGroup path g deps = .ok (shiftVisits path ws)) ∧
        Enumerates (groupBelow deps g) ws := by
    intro hnone
    refine ⟨[], fun path => by simp [walkGroup_eq, hnone, shiftVisits], ⟨fun p m => ?_, .nil⟩⟩
    simp [groupBelow, Tree.get_eq, hnone]
  cases hg : lookupKeyed g deps with
  | none => exact absent (by simp [hg])
  | some table =>
    cases table with
    | none => exact absent (by simp [hg])
    | some es =>
      have mem := mem_of_lookupKeyed hg
      obtain ⟨ws, hwalk, hws⟩ :=
        walkNames_filled g (sorted g es mem) (noHole g es mem) (below g es mem)
      refine ⟨ws, fun path => by simp [walkGroup_eq, hg, hwalk], ⟨fun p m => ?_, hws.ordered⟩⟩
      rw [hws.mem_iff]
      simp only [tableBelow, groupBelow, Tree.get_eq, hg, Option.getD_some, Option.bind_some,
        lookupKeyed_eq_some_iff (sorted g es mem)]

/-- A filled node's walk lists the positions of its dependencies, below any path. -/
theorem Node.Filled.walk_visits {n : Node} (h : n.Filled) :
    ∃ vs, (∀ path, walkNode path n = .ok (shiftVisits path vs)) ∧ n.deps.Visits vs := by
  induction h with
  | @mk version deps sorted noHole nodes ih =>
    obtain ⟨a, ha, hA⟩ := walkGroup_filled sorted noHole ih Group.production.name
    obtain ⟨b, hb, hB⟩ := walkGroup_filled sorted noHole ih Group.optional.name
    obtain ⟨c, hc, hC⟩ := walkGroup_filled sorted noHole ih Group.development.name
    refine ⟨a ++ b ++ c, fun path => ?_, ⟨fun p m => ?_, ?_⟩⟩
    · rw [walkNode.eq_1, ha, hb, hc]
      simp [bind, Except.bind, pure, Except.pure, shiftVisits_append]
    · -- a position goes first into one of the three groups, each walked in turn
      rw [Node.deps, Tree.position_iff_groupBelow]
      simp [hA.mem_iff, hB.mem_iff, hC.mem_iff, knownGroupNames, Group.known]
    · -- within a group by the walk of its table; across groups by resolution order
      simp only [List.map_append, List.pairwise_append, List.mem_append]
      refine ⟨⟨hA.ordered, hB.ordered, groupBelow_ordered hA hB (by decide)⟩, hC.ordered, ?_⟩
      rintro p (hp | hp) p' hp'
      · exact groupBelow_ordered hA hC (by decide) p hp p' hp'
      · exact groupBelow_ordered hB hC (by decide) p hp p' hp'

/-- A filled tree's walk succeeds and lists its positions. -/
theorem Tree.Filled.walk_visits {t : Tree} (h : t.Filled) : ∃ vs, t.walk = .ok vs ∧ t.Visits vs := by
  obtain ⟨vs, hwalk, hvs⟩ := Node.Filled.walk_visits h
  exact ⟨vs, by rw [Tree.walk, hwalk, shiftVisits_nil_left], hvs⟩

/-- The visits of a filled tree's walk are its positions. -/
theorem Tree.Filled.mem_walk_iff {t : Tree} (h : t.Filled) {vs : List (List Step × Node)}
    (hwalk : t.walk = .ok vs) (p : List Step) (n : Node) : (p, n) ∈ vs ↔ t.Position p n := by
  obtain ⟨ws, hws, hv⟩ := h.walk_visits
  rw [hwalk, Except.ok.injEq] at hws
  rw [hws]
  exact hv.mem_iff p n

end Walk

/-! ## Calling a function on each visit -/

section Callback

variable {m : Type → Type} [Monad m] [LawfulMonad m] [MonadExceptOf NullNode m]
  (fn : List Step → Node → m Unit)

/-- Wherever the walk succeeds, the walk with a function calls it on the visits in turn:
each step of the two walks is the same step of the same recursion. -/
theorem walkNodeWith_eq_forM : ∀ (path : List Step) (n : Node) (vs : List (List Step × Node)),
    walkNode path n = .ok vs → walkNodeWith fn path n = forM vs fun v => fn v.1 v.2 := by
  refine walkNode.induct
    (fun path g t => ∀ vs, walkGroup path g t = .ok vs →
      walkGroupWith fn path g t = forM vs fun v => fn v.1 v.2)
    (fun path g es => ∀ vs, walkNames path g es = .ok vs →
      walkNamesWith fn path g es = forM vs fun v => fn v.1 v.2)
    (fun path n => ∀ vs, walkNode path n = .ok vs →
      walkNodeWith fn path n = forM vs fun v => fn v.1 v.2)
    ?node ?noGroups ?table ?nullTable ?otherGroup ?noNames ?hole ?entry
  case node =>
    intro path version deps ihA ihB ihC vs h
    rw [walkNode.eq_1] at h
    obtain ⟨a, ha, h⟩ := bind_eq_ok_iff.mp h
    obtain ⟨b, hb, h⟩ := bind_eq_ok_iff.mp h
    obtain ⟨c, hc, h⟩ := bind_eq_ok_iff.mp h
    cases h
    rw [walkNodeWith.eq_1, ihA a ha, ihB b hb, ihC c hc]
    simp [List.forM_append]
  case noGroups =>
    intro path g vs h
    cases h
    rw [walkGroupWith.eq_1]
    rfl
  case table =>
    intro path g g' rest hg es ih vs h
    rw [walkGroup.eq_2, if_pos hg] at h
    rw [walkGroupWith.eq_2, if_pos hg, ih vs h]
  case nullTable =>
    intro path g g' rest hg vs h
    rw [walkGroup.eq_3, if_pos hg] at h
    cases h
    rw [walkGroupWith.eq_3, if_pos hg]
    rfl
  case otherGroup =>
    intro path g g' table rest hg ih vs h
    cases table with
    | none =>
      rw [walkGroup.eq_3, if_neg hg] at h
      rw [walkGroupWith.eq_3, if_neg hg, ih vs h]
    | some es =>
      rw [walkGroup.eq_2, if_neg hg] at h
      rw [walkGroupWith.eq_2, if_neg hg, ih vs h]
  case noNames =>
    intro path g vs h
    cases h
    rw [walkNamesWith.eq_1]
    rfl
  case hole =>
    intro path g name rest vs h
    cases h
  case entry =>
    intro path g name n rest _ ihNode ihRest vs h
    rw [walkNames.eq_3] at h
    obtain ⟨below, hbelow, h⟩ := bind_eq_ok_iff.mp h
    obtain ⟨after, hafter, h⟩ := bind_eq_ok_iff.mp h
    cases h
    rw [walkNamesWith.eq_3, ihNode below hbelow, ihRest after hafter]
    simp [List.forM_append]

/-- Wherever the walk of a tree succeeds, the walk with a function calls it on the visits
in turn; in a monad with failures, the first failure ends the walk and is its result. -/
theorem Tree.walkWith_eq_forM {t : Tree} {vs : List (List Step × Node)} (h : t.walk = .ok vs) :
    t.walkWith fn = forM vs fun v => fn v.1 v.2 :=
  walkNodeWith_eq_forM fn [] (.mk "" t) vs h

end Callback

/-! ## Walk, look-up and count agree -/

/-- A walk of a tree held as a map holds it, with a node under every name, visits exactly
the nonempty paths through the known groups that look-up follows to a node, each once and
with that node, in preorder with siblings by group in resolution order and then by name.
A walk with a function calls the function on these visits in this order, so that in a
monad with failures the first failure stops it and is returned. The count is the number
of visits, and look-up of the empty path finds nothing. -/
theorem Tree.walk_agrees_with_lookup {t : Tree} (ht : t.Filled) :
    ∃ vs, t.walk = .ok vs ∧
      (∀ p n, (p, n) ∈ vs ↔
        p ≠ [] ∧ (∀ s ∈ p, s.group ∈ knownGroupNames) ∧ t.lookup p = .ok (some n)) ∧
      (vs.map Prod.fst).Pairwise (List.Lex Step.Before) ∧
      t.count = .ok vs.length ∧
      (∀ {m : Type → Type} [Monad m] [LawfulMonad m] [MonadExceptOf NullNode m]
        (fn : List Step → Node → m Unit), t.walkWith fn = forM vs fun v => fn v.1 v.2) ∧
      t.lookup [] = .ok none := by
  obtain ⟨vs, hwalk, hvs⟩ := ht.walk_visits
  refine ⟨vs, hwalk, hvs.mem_iff, hvs.ordered, ?_, fun fn => Tree.walkWith_eq_forM fn hwalk, rfl⟩
  rw [Tree.count, hwalk]
  rfl

/-- A tree with a production dependency that has one of its own, and a development
dependency, is filled, and its walk agrees with look-up. -/
theorem Tree.walk_agrees_with_lookup_sample :
    let t : Tree := [("dependencies", some [("a", some (.mk "1.2.0"
        [("dependencies", some [("b", some (.mk "2.0.1" []))])]))]),
      ("devDependencies", some [("jest", some (.mk "29.7.0" []))])]
    t.Filled ∧ ∃ vs, t.walk = .ok vs ∧
      (∀ p n, (p, n) ∈ vs ↔
        p ≠ [] ∧ (∀ s ∈ p, s.group ∈ knownGroupNames) ∧ t.lookup p = .ok (some n)) ∧
      (vs.map Prod.fst).Pairwise (List.Lex Step.Before) ∧
      t.count = .ok vs.length ∧
      (∀ {m : Type → Type} [Monad m] [LawfulMonad m] [MonadExceptOf NullNode m]
        (fn : List Step → Node → m Unit), t.walkWith fn = forM vs fun v => fn v.1 v.2) ∧
      t.lookup [] = .ok none := by
  intro t
  have filled : t.Filled := Node.filled_of_check _ (by decide)
  exact ⟨filled, Tree.walk_agrees_with_lookup filled⟩

end DepLock
