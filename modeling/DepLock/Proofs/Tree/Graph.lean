import DepLock.Proofs.Tree.Walk
import DepLock.Tree.Render
import Mathlib.Data.List.Nodup

/-!
# Drawing a tree as a graph

`Tree.dot` describes a tree as a graph: a root node named `/`, and for each node the walk
visits, a node named by its path (`pathId`) and an edge into it from the name of its
parent's path. This file shows, for a tree held as a map holds it with a node under every
name (`Tree.dot_draws_positions`):

* every edge starts at the root or at a visited node: the parent of a position is a
  position (`Tree.Position.dropLast`);
* no visited node is named `/`;
* two visits are named alike only if they are the same position, when no name on their
  paths holds `/`.

Names of paths are not escaped: a name that holds `/` can make a position's name that of
another position. Group names hold neither `/` nor `:`, so a step's text `group:name` gives
the step back (`stepText_inj`), and with names free of `/` the name of a path gives the
steps back (`pathId_inj`).
-/

set_option autoImplicit false

namespace DepLock

/-! ## Parents of positions -/

/-- The parent of a position below the top level is a position too. -/
theorem Tree.Position.dropLast {t : Tree} {p : List Step} {s : Step} {m : Node}
    (h : t.Position (p ++ [s]) m) (hp : p ≠ []) : ∃ n, t.Position p n := by
  induction p generalizing t with
  | nil => exact absurd rfl hp
  | cons a rest ih =>
    obtain ⟨known, n, hget, hq⟩ := Tree.position_cons.mp h
    rcases hq with ⟨hq, -⟩ | hq
    · simp at hq
    cases rest with
    | nil => exact ⟨n, Tree.position_cons.mpr ⟨known, n, hget, .inl ⟨rfl, rfl⟩⟩⟩
    | cons b rest' =>
      obtain ⟨n', hn'⟩ := ih hq (List.cons_ne_nil _ _)
      exact ⟨n', Tree.position_cons.mpr ⟨known, n, hget, .inr hn'⟩⟩

/-! ## Names of paths -/

/-- The text of one step in the name of a path. -/
def stepText (s : Step) : List Char := (s.group ++ ":" ++ s.name).toList

/-- A step is named by its group, a colon and its name. -/
theorem stepText_eq (s : Step) : stepText s = s.group.toList ++ ':' :: s.name.toList := by
  simp [stepText]

/-- A known group name holds neither `:` nor `/`. -/
theorem known_group_plain {g : String} (h : g ∈ knownGroupNames) :
    ':' ∉ g.toList ∧ '/' ∉ g.toList := by
  simp only [knownGroupNames, Group.known, List.map_cons, List.map_nil, List.mem_cons,
    List.not_mem_nil, or_false] at h
  rcases h with rfl | rfl | rfl <;> decide

/-- The text of a step whose group holds no `:` gives the step back. -/
theorem stepText_inj {s s' : Step} (hs : ':' ∉ s.group.toList) (hs' : ':' ∉ s'.group.toList)
    (h : stepText s = stepText s') : s = s' := by
  simp only [stepText, String.toList_append] at h
  have split := congrArg (List.splitOn ':') h
  rw [show (":" : String).toList = [':'] from rfl, List.append_assoc, List.append_assoc,
    List.singleton_append, List.singleton_append, List.splitOn_append_cons_self_of_not_mem hs,
    List.splitOn_append_cons_self_of_not_mem hs'] at split
  obtain ⟨hg, hn⟩ := List.cons.inj split
  have hn' := congrArg ([':'].intercalate) hn
  rw [List.intercalate_splitOn, List.intercalate_splitOn] at hn'
  cases s
  cases s'
  simp only [Step.mk.injEq]
  exact ⟨String.ext hg, String.ext hn'⟩

/-- A step's text holds no `/` when neither its group nor its name does. -/
theorem stepText_slash_free {s : Step} (hg : '/' ∉ s.group.toList) (hn : '/' ∉ s.name.toList) :
    '/' ∉ stepText s := by
  simp only [stepText, String.toList_append, List.mem_append, not_or]
  exact ⟨⟨hg, by decide⟩, hn⟩

/-- The name of a path is `/` and the texts of its steps, joined by `/`. -/
theorem pathId_toList (p : List Step) :
    (pathId p).toList = '/' :: ['/'].intercalate (p.map stepText) := by
  rw [show stepText = fun s => s.group.toList ++ ':' :: s.name.toList from funext stepText_eq]
  simp [pathId, String.toList_intercalate, Function.comp_def]

/-- Lists whose images agree are equal when the map tells their members apart. -/
theorem eq_of_map_eq {α β : Type} {f : α → β} {p q : List α}
    (inj : ∀ a ∈ p, ∀ b ∈ q, f a = f b → a = b) (h : p.map f = q.map f) : p = q := by
  induction p generalizing q with
  | nil => exact (List.map_eq_nil_iff.mp h.symm).symm
  | cons a rest ih =>
    cases q with
    | nil => simp at h
    | cons b rest' =>
      simp only [List.map_cons, List.cons.injEq] at h
      rw [inj a List.mem_cons_self b List.mem_cons_self h.1,
        ih (fun a' ha' b' hb' => inj a' (List.mem_cons_of_mem _ ha') b' (List.mem_cons_of_mem _ hb'))
          h.2]

/-- Paths through known groups whose names hold no `/` are told apart by their names. -/
theorem pathId_inj {p q : List Step}
    (plain : ∀ s ∈ p ++ q, s.group ∈ knownGroupNames ∧ '/' ∉ s.name.toList)
    (h : pathId p = pathId q) : p = q := by
  have texts := congrArg String.toList h
  rw [pathId_toList, pathId_toList, List.cons.injEq] at texts
  have pieces : ∀ s ∈ p ++ q, '/' ∉ stepText s := fun s hs =>
    stepText_slash_free (known_group_plain (plain s hs).1).2 (plain s hs).2
  have inj : ∀ a ∈ p, ∀ b ∈ q, stepText a = stepText b → a = b := fun a ha b hb =>
    stepText_inj (known_group_plain (plain a (List.mem_append_left _ ha)).1).1
      (known_group_plain (plain b (List.mem_append_right _ hb)).1).1
  -- a step's text is never empty, so an empty path is named apart from every other
  have nonempty : ∀ s, stepText s ≠ [] := fun s => by simp [stepText]
  rcases p with _ | ⟨a, p'⟩ <;> rcases q with _ | ⟨b, q'⟩
  · rfl
  · cases q' <;> simp [nonempty b] at texts
  · cases p' <;> simp [nonempty a] at texts
  · have split := congrArg (List.splitOn '/') texts.2
    rw [List.splitOn_intercalate '/' (fun l hl => ?_) (by simp),
      List.splitOn_intercalate '/' (fun l hl => ?_) (by simp)] at split
    · exact eq_of_map_eq inj split
    · obtain ⟨s, hs, rfl⟩ := List.mem_map.mp hl
      exact pieces s (List.mem_append_right _ hs)
    · obtain ⟨s, hs, rfl⟩ := List.mem_map.mp hl
      exact pieces s (List.mem_append_left _ hs)

/-- Only the empty path is named `/`. -/
theorem pathId_ne_root {p : List Step} (hp : p ≠ []) : pathId p ≠ pathId [] := by
  intro h
  have texts := congrArg String.toList h
  obtain ⟨a, p', rfl⟩ := List.exists_cons_of_ne_nil hp
  rw [pathId_toList, pathId_toList] at texts
  cases p' <;> simp [stepText_eq] at texts

/-! ## The graph of a tree -/

/-- A visit list names each path once. -/
theorem Enumerates.paths_nodup {P : List Step → Node → Prop} {vs : List (List Step × Node)}
    (h : Enumerates P vs) : (vs.map Prod.fst).Nodup := by
  apply h.ordered.imp
  intro p q hlex same
  exact List.lex_irrefl Step.before_irrefl q (same ▸ hlex)

/-- Every edge of the graph starts at the root or at a visited node. -/
theorem Tree.Visits.parent_visited {t : Tree} {vs : List (List Step × Node)} (hv : t.Visits vs)
    {v : List Step × Node} (hmem : v ∈ vs) : parentPath v.1 = [] ∨ ∃ n, (parentPath v.1, n) ∈ vs := by
  by_cases top : parentPath v.1 = []
  · exact .inl top
  have hpos : t.Position v.1 v.2 := (hv.mem_iff v.1 v.2).mp hmem
  -- a position is its parent's path and one step more
  have split : v.1 = parentPath v.1 ++ [v.1.getLast hpos.1] := (List.dropLast_append_getLast hpos.1).symm
  rw [split] at hpos
  obtain ⟨n, hn⟩ := hpos.dropLast top
  exact .inr ⟨n, (hv.mem_iff _ n).mpr hn⟩

/-- The names of the visited nodes are apart from each other and from the root's `/`,
when no name on their paths holds `/`. -/
theorem Tree.Visits.ids_nodup {t : Tree} {vs : List (List Step × Node)} (hv : t.Visits vs)
    (plain : ∀ p n, t.Position p n → ∀ s ∈ p, '/' ∉ s.name.toList) :
    (pathId [] :: vs.map fun v => pathId v.1).Nodup := by
  have hpos : ∀ v ∈ vs, t.Position v.1 v.2 := fun v hmem => (hv.mem_iff v.1 v.2).mp hmem
  refine List.nodup_cons.mpr ⟨fun hroot => ?_, ?_⟩
  · obtain ⟨v, hmem, hid⟩ := List.mem_map.mp hroot
    exact pathId_ne_root (hpos v hmem).1 hid
  · rw [show (vs.map fun v => pathId v.1) = (vs.map Prod.fst).map pathId by simp]
    refine List.Nodup.map_on (fun p hp q hq same => pathId_inj (fun s hs => ?_) same)
      hv.paths_nodup
    obtain ⟨v, hmem, rfl⟩ := List.mem_map.mp hp
    obtain ⟨w, hmem', rfl⟩ := List.mem_map.mp hq
    rcases List.mem_append.mp hs with hs | hs
    · exact ⟨(hpos v hmem).2.1 s hs, plain _ _ (hpos v hmem) s hs⟩
    · exact ⟨(hpos w hmem').2.1 s hs, plain _ _ (hpos w hmem') s hs⟩

/-- The graph of a tree with a node under every name: after the header and the root node
`/`, the node and the edge of each visit in walk order, one visit per position. Every edge
starts at the root or at a visited node, and the names of the nodes are all apart when no
name on a position's path holds `/`. -/
theorem Tree.dot_draws_positions {t : Tree} (ht : t.Filled)
    (plain : ∀ p n, t.Position p n → ∀ s ∈ p, '/' ∉ s.name.toList) (root : String) :
    ∃ vs, t.walk = .ok vs ∧ t.Visits vs ∧
      t.dot root = .ok ("digraph G \x7b\n  rankdir=LR;\n  bgcolor=\"transparent\";\n" ++
        "  node [shape=box, style=\"rounded,filled\", fillcolor=white, fontsize=14];\n\n" ++
        "  " ++ Text.quote "/" ++ " [label=" ++ Text.quote (if root.isEmpty then "root" else root) ++
        ", fillcolor=lightgrey];\n" ++ String.join (vs.map dotLines) ++ "\x7d\n") ∧
      (∀ v ∈ vs, parentPath v.1 = [] ∨ ∃ n, (parentPath v.1, n) ∈ vs) ∧
      (pathId [] :: vs.map fun v => pathId v.1).Nodup := by
  obtain ⟨vs, hwalk, hv⟩ := ht.walk_visits
  refine ⟨vs, hwalk, hv, ?_, fun v hmem => hv.parent_visited hmem, hv.ids_nodup plain⟩
  rw [Tree.dot, hwalk]
  rfl

/-- A tree of two groups, one of which nests, is drawn with a node per position under
distinct slash-free path names, each below its parent. -/
theorem Tree.dot_draws_positions_sample :
    let t : Tree := [("dependencies", some [("a", some (.mk "1.2.0"
        [("dependencies", some [("b", some (.mk "2.0.1" []))])]))]),
      ("devDependencies", some [("jest", some (.mk "29.7.0" []))])]
    t.Filled ∧ (∀ p n, t.Position p n → ∀ s ∈ p, '/' ∉ s.name.toList) ∧
      ∃ vs, t.walk = .ok vs ∧ t.Visits vs ∧
        t.dot "app" = .ok ("digraph G \x7b\n  rankdir=LR;\n  bgcolor=\"transparent\";\n" ++
          "  node [shape=box, style=\"rounded,filled\", fillcolor=white, fontsize=14];\n\n" ++
          "  " ++ Text.quote "/" ++ " [label=" ++ Text.quote (if "app".isEmpty then "root" else "app") ++
          ", fillcolor=lightgrey];\n" ++ String.join (vs.map dotLines) ++ "\x7d\n") ∧
        (∀ v ∈ vs, parentPath v.1 = [] ∨ ∃ n, (parentPath v.1, n) ∈ vs) ∧
        (pathId [] :: vs.map fun v => pathId v.1).Nodup := by
  intro t
  have filled : t.Filled := Node.filled_of_check _ (by decide)
  -- the positions are the three visits of the walk, whose names are checked one by one
  have plain : ∀ p n, t.Position p n → ∀ s ∈ p, '/' ∉ s.name.toList := by
    intro p n hpos
    have visits : t.walk = .ok [([⟨"dependencies", "a"⟩], .mk "1.2.0"
        [("dependencies", some [("b", some (.mk "2.0.1" []))])]),
      ([⟨"dependencies", "a"⟩, ⟨"dependencies", "b"⟩], .mk "2.0.1" []),
      ([⟨"devDependencies", "jest"⟩], .mk "29.7.0" [])] := rfl
    have hmem := (Tree.Filled.mem_walk_iff filled visits p n).mpr hpos
    simp only [List.mem_cons, Prod.mk.injEq, List.not_mem_nil, or_false] at hmem
    rcases hmem with ⟨rfl, rfl⟩ | ⟨rfl, rfl⟩ | ⟨rfl, rfl⟩ <;> decide
  exact ⟨filled, plain, Tree.dot_draws_positions filled plain "app"⟩

end DepLock
