import DepLock.Proofs.Tree.Walk
import DepLock.Tree.Render

/-!
# Drawing a tree as text

`Tree.text` draws a tree by a recursion of its own: for each node, the entries of its known
groups in turn, each entry's line and then, one indent further, the lines of the entries
below it. This file shows that it draws exactly the nodes a walk visits, in the walk's
order, one line each (`Tree.text_draws_walk`). The line of a visit (`drawnLine`) is read
off the visited paths: the branch `└── ` for the last of its siblings and `├── ` for
another, after a piece for each proper ancestor, four blanks below a last sibling and a
bar below another.

The recursion decides "last" locally, by whether entries follow in the same table or in a
later group; the line decides it among all visited paths (`lastAmong`). The two agree
because the visits of a node are its positions (`Tree.Visits`): the later siblings of a
first step are the later entries of its table and the entries of later groups
(`lastAmong_first_step`), and below a first step the siblings are those in the node
reached (`lastAmong_cons`).
-/

set_option autoImplicit false

namespace DepLock

/-! ## The line of a visit -/

/-- Whether `q` is a sibling of `p` that comes after it: both end in a step below the same
parent, `q`'s in a later place. -/
def siblingAfter (p q : List Step) : Bool :=
  match p.getLast?, q.getLast? with
  | some s, some s' => q.dropLast == p.dropLast && decide (s.Before s')
  | _, _ => false

/-- Whether `p` is the last of its siblings among the paths `ps`. -/
def lastAmong (ps : List (List Step)) (p : List Step) : Bool := !(ps.any (siblingAfter p))

/-- The piece a proper ancestor adds to the prefix of a line. -/
def ancestorPiece (last : Bool) : String := if last then "    " else "│   "

/-- The line of the node `n` at the path `p`, among the visited paths `ps`: a piece for each
proper ancestor, the branch, `name@version` and the tag of the group. -/
def drawnLine (ps : List (List Step)) (p : List Step) (n : Node) : String :=
  match p.getLast? with
  | none => ""
  | some s =>
    String.join ((List.range (p.length - 1)).map fun k =>
        ancestorPiece (lastAmong ps (p.take (k + 1)))) ++
      (if lastAmong ps p then "└── " else "├── ") ++ s.name ++ "@" ++ n.version ++
      groupTag s.group

/-- The lines of the visits `vs` under `indent`, each ended by a new line. -/
def drawnLines (ps : List (List Step)) (indent : String) (vs : List (List Step × Node)) :
    String :=
  String.join (vs.map fun v => indent ++ drawnLine ps v.1 v.2 ++ "\n")

/-- No visits draw no lines. -/
@[simp] theorem drawnLines_nil (ps : List (List Step)) (indent : String) :
    drawnLines ps indent [] = "" := by
  simp [drawnLines]

/-- The lines of visits are the first visit's line followed by the lines of the rest. -/
theorem drawnLines_cons (ps : List (List Step)) (indent : String) (v : List Step × Node)
    (vs : List (List Step × Node)) :
    drawnLines ps indent (v :: vs) =
      indent ++ drawnLine ps v.1 v.2 ++ "\n" ++ drawnLines ps indent vs := by
  simp [drawnLines]

/-- The lines of two visit lists joined are their lines joined. -/
theorem drawnLines_append (ps : List (List Step)) (indent : String)
    (vs ws : List (List Step × Node)) :
    drawnLines ps indent (vs ++ ws) = drawnLines ps indent vs ++ drawnLines ps indent ws := by
  simp [drawnLines]

/-- The line of a first step has no prefix. -/
theorem drawnLine_single (ps : List (List Step)) (s : Step) (n : Node) :
    drawnLine ps [s] n =
      (if lastAmong ps [s] then "└── " else "├── ") ++ s.name ++ "@" ++ n.version ++
        groupTag s.group := by
  simp [drawnLine]

/-- Below a first step, a line is the piece of that step before the line drawn among the
paths below it, when the siblings below the step are those among these paths. -/
theorem drawnLine_cons {ps ps' : List (List Step)} {s : Step} {q : List Step} (n : Node)
    (hq : q ≠ []) (below : ∀ r, r ≠ [] → lastAmong ps (s :: r) = lastAmong ps' r) :
    drawnLine ps (s :: q) n = ancestorPiece (lastAmong ps [s]) ++ drawnLine ps' q n := by
  obtain ⟨a, l, rfl⟩ := List.exists_cons_of_ne_nil hq
  have pieces : (List.range (l.length + 1)).map
      (fun k => ancestorPiece (lastAmong ps ((s :: a :: l).take (k + 1)))) =
      ancestorPiece (lastAmong ps [s]) :: (List.range l.length).map
        (fun k => ancestorPiece (lastAmong ps' ((a :: l).take (k + 1)))) := by
    rw [List.range_succ_eq_map, List.map_cons, List.map_map]
    congr 1
    refine List.map_congr_left fun k _ => ?_
    simp only [Function.comp_apply, Nat.succ_eq_add_one, List.take_succ_cons]
    rw [below _ (List.cons_ne_nil _ _)]
  simp only [drawnLine, List.getLast?_cons_cons, List.length_cons, Nat.add_sub_cancel]
  cases hlast : (a :: l).getLast? with
  | none => simp at hlast
  | some x =>
    simp only [below _ (List.cons_ne_nil a l)]
    rw [pieces, String.join_cons]
    simp only [String.append_assoc]

/-! ## Siblings among visited paths -/

/-- Nothing comes after the root as a sibling. -/
@[simp] theorem siblingAfter_nil (p : List Step) : siblingAfter p [] = false := by
  unfold siblingAfter
  split <;> simp_all

/-- The later siblings of a first step are first steps after it. -/
theorem siblingAfter_single {s : Step} {q : List Step} :
    siblingAfter [s] q = true ↔ ∃ s', q = [s'] ∧ s.Before s' := by
  rcases q with _ | ⟨a, _ | ⟨b, l⟩⟩
  · simp
  · simp [siblingAfter]
  · cases h : (b :: l).getLast? <;> simp [siblingAfter, List.getLast?_cons_cons, h]

/-- Two paths of two or more steps are siblings in that order when they share the first step
and their rests are. -/
theorem siblingAfter_cons_cons (s x a y : Step) (l r : List Step) :
    siblingAfter (s :: a :: l) (x :: y :: r) = (x == s && siblingAfter (a :: l) (y :: r)) := by
  unfold siblingAfter
  rw [List.getLast?_cons_cons, List.getLast?_cons_cons, List.dropLast_cons_cons,
    List.dropLast_cons_cons]
  cases (a :: l).getLast? <;> cases (y :: r).getLast? <;> simp [Bool.and_assoc]

/-- The later siblings of a path below a first step are the paths below the same step whose
rest is a later sibling. -/
theorem siblingAfter_cons {s : Step} {q r : List Step} (hq : q ≠ []) :
    siblingAfter (s :: q) r = true ↔ ∃ r', r = s :: r' ∧ r' ≠ [] ∧ siblingAfter q r' = true := by
  obtain ⟨a, l, rfl⟩ := List.exists_cons_of_ne_nil hq
  rcases r with _ | ⟨x, _ | ⟨y, r⟩⟩
  · simp
  · cases h : (a :: l).getLast? <;> simp [siblingAfter, List.getLast?_cons_cons, h]
  · rw [siblingAfter_cons_cons, Bool.and_eq_true, beq_iff_eq]
    constructor
    · rintro ⟨rfl, after⟩
      exact ⟨y :: r, rfl, List.cons_ne_nil _ _, after⟩
    · rintro ⟨r', heq, -, after⟩
      obtain ⟨rfl, rfl⟩ := List.cons.inj heq
      exact ⟨rfl, after⟩

/-- A first step is last when no first step after it is among the paths. -/
theorem lastAmong_single_iff {ps : List (List Step)} {s : Step} :
    lastAmong ps [s] = true ↔ ∀ s', s.Before s' → [s'] ∉ ps := by
  simp only [lastAmong, Bool.not_eq_true', List.any_eq_false, Bool.not_eq_true]
  constructor
  · intro h s' before hmem
    have := h _ hmem
    rw [← Bool.not_eq_true, siblingAfter_single] at this
    exact this ⟨s', rfl, before⟩
  · intro h q hq
    rw [← Bool.not_eq_true, siblingAfter_single]
    rintro ⟨s', rfl, before⟩
    exact h s' before hq

/-- Below a first step, lastness among the paths is lastness among the paths below that
step. -/
theorem lastAmong_cons {ps ps' : List (List Step)} {s : Step} {q : List Step} (hq : q ≠ [])
    (below : ∀ r', (s :: r') ∈ ps ∧ r' ≠ [] ↔ r' ∈ ps') :
    lastAmong ps (s :: q) = lastAmong ps' q := by
  unfold lastAmong
  congr 1
  rw [Bool.eq_iff_iff, List.any_eq_true, List.any_eq_true]
  constructor
  · rintro ⟨r, hr, after⟩
    obtain ⟨r', rfl, ne, after⟩ := (siblingAfter_cons hq).mp after
    exact ⟨r', (below r').mp ⟨hr, ne⟩, after⟩
  · rintro ⟨r', hr, after⟩
    obtain ⟨hmem, ne⟩ := (below r').mpr hr
    exact ⟨s :: r', hmem, (siblingAfter_cons hq).mpr ⟨r', rfl, ne, after⟩⟩

/-! ## Siblings among the positions of a tree -/

/-- A first step is visited when its group is known and its group's table names a node
there. -/
theorem Tree.Visits.single_mem_iff {t : Tree} {vs : List (List Step × Node)} (hvs : t.Visits vs)
    (s : Step) :
    [s] ∈ vs.map Prod.fst ↔ s.group ∈ knownGroupNames ∧ ∃ m, t.get s.group s.name = some (some m) := by
  simp only [List.mem_map, Prod.exists, exists_and_right, exists_eq_right]
  constructor
  · rintro ⟨m, hm⟩
    obtain ⟨known, n, hget, hq⟩ := Tree.position_cons.mp ((hvs.mem_iff [s] m).mp hm)
    exact ⟨known, n, hget⟩
  · rintro ⟨known, m, hget⟩
    exact ⟨m, (hvs.mem_iff [s] m).mpr (Tree.position_cons.mpr ⟨known, m, hget, .inl ⟨rfl, rfl⟩⟩)⟩

/-- Below a first step to the node `n`, the visited paths are those of `n`'s own walk. -/
theorem Tree.Visits.cons_mem_iff {t : Tree} {vs vs' : List (List Step × Node)} (hvs : t.Visits vs)
    {s : Step} {n : Node} (known : s.group ∈ knownGroupNames)
    (hget : t.get s.group s.name = some (some n)) (hvs' : n.deps.Visits vs') (r : List Step) :
    (s :: r) ∈ vs.map Prod.fst ∧ r ≠ [] ↔ r ∈ vs'.map Prod.fst := by
  simp only [List.mem_map, Prod.exists, exists_and_right, exists_eq_right]
  constructor
  · rintro ⟨⟨m, hm⟩, ne⟩
    obtain ⟨-, n', hget', hq⟩ := Tree.position_cons.mp ((hvs.mem_iff _ m).mp hm)
    rw [hget] at hget'
    cases hget'
    rcases hq with ⟨rfl, -⟩ | hq
    · exact absurd rfl ne
    · exact ⟨m, (hvs'.mem_iff r m).mpr hq⟩
  · rintro ⟨m, hm⟩
    have hpos := (hvs'.mem_iff r m).mp hm
    exact ⟨⟨m, (hvs.mem_iff _ m).mpr (Tree.position_cons.mpr ⟨known, n, hget, .inr hpos⟩)⟩,
      hpos.1⟩

/-- With no hole in its tables, a tree has an entry in one of the groups `gs` exactly when
look-up finds a node under one of them. -/
theorem hasEntries_iff {t : Tree} (noHole : ∀ g es, (g, some es) ∈ t → ∀ e ∈ es, e.2.isSome)
    (gs : List Group) :
    hasEntries t gs = true ↔ ∃ G ∈ gs, ∃ name m, t.get G.name name = some (some m) := by
  simp only [hasEntries, List.any_eq_true]
  refine exists_congr fun G => and_congr_right fun _ => ?_
  cases hg : lookupKeyed G.name t with
  | none => simp [Tree.get_eq, hg]
  | some table =>
    cases table with
    | none => simp [Tree.get_eq, hg]
    | some es =>
      cases es with
      | nil => simp [Tree.get_eq, hg]
      | cons e rest =>
        obtain ⟨name, entry⟩ := e
        have full := noHole _ _ (mem_of_lookupKeyed hg) (name, entry) List.mem_cons_self
        obtain ⟨m, rfl⟩ := Option.isSome_iff_exists.mp full
        simp only [true_iff]
        exact ⟨name, m, by simp [Tree.get_eq, hg, lookupKeyed_cons]⟩

/-- The first step to an entry of a group's table is the last of its siblings exactly when no
entry follows it in the table and no later group has an entry: the later siblings are the
later names of the same group, which the table lists after it, and the entries of later
groups. -/
theorem lastAmong_first_step {deps : Tree} {vs : List (List Step × Node)} (hvs : deps.Visits vs)
    (noHole : ∀ g es, (g, some es) ∈ deps → ∀ e ∈ es, e.2.isSome)
    {g : String} (known : g ∈ knownGroupNames) {gs : List Group}
    (hlater : ∀ G ∈ gs, G.name ∈ knownGroupNames ∧
      knownGroupNames.idxOf g < knownGroupNames.idxOf G.name)
    (hall : ∀ g' ∈ knownGroupNames, knownGroupNames.idxOf g < knownGroupNames.idxOf g' →
      ∃ G ∈ gs, G.name = g')
    {es : List (String × Option Node)} (hg : lookupKeyed g deps = some (some es))
    (sorted : KeysSorted es) {pre rest : List (String × Option Node)} {name : String} {n : Node}
    (hes : es = pre ++ (name, some n) :: rest) :
    lastAmong (vs.map Prod.fst) [⟨g, name⟩] = (rest.isEmpty && !hasEntries deps gs) := by
  have table : ∀ name' m, deps.get g name' = some (some m) ↔ (name', some m) ∈ es := by
    intro name' m
    rw [Tree.get_eq, hg]
    exact lookupKeyed_eq_some_iff sorted
  rw [hes, KeysSorted, List.pairwise_append, List.pairwise_cons] at sorted
  obtain ⟨-, ⟨after, -⟩, across⟩ := sorted
  rw [Bool.eq_iff_iff, lastAmong_single_iff, Bool.and_eq_true, Bool.not_eq_true',
    List.isEmpty_iff, ← Bool.not_eq_true, hasEntries_iff noHole]
  constructor
  · intro last
    refine ⟨?_, ?_⟩
    · -- an entry after it in the table would be a later sibling
      rcases rest with _ | ⟨⟨name', entry⟩, rest'⟩
      · rfl
      obtain ⟨m, rfl⟩ := Option.isSome_iff_exists.mp (noHole g es (mem_of_lookupKeyed hg)
        (name', entry) (by rw [hes]; simp))
      refine absurd ((hvs.single_mem_iff ⟨g, name'⟩).mpr ⟨known, m, (table name' m).mpr ?_⟩)
        (last ⟨g, name'⟩ (.inr ⟨rfl, after _ List.mem_cons_self⟩))
      rw [hes]
      simp
    · -- an entry of a later group would be a later sibling
      rintro ⟨G, hG, name', m, hget⟩
      obtain ⟨knownG, earlier⟩ := hlater G hG
      exact last ⟨G.name, name'⟩ (.inl earlier) ((hvs.single_mem_iff _).mpr ⟨knownG, m, hget⟩)
  · rintro ⟨rfl, none⟩ s' before hmem
    obtain ⟨knownS, m, hget⟩ := (hvs.single_mem_iff s').mp hmem
    rcases before with earlier | ⟨same, lt⟩
    · obtain ⟨G, hG, hname⟩ := hall _ knownS earlier
      exact none ⟨G, hG, s'.name, m, hname ▸ hget⟩
    · -- a later name of the same group is in the table, yet the table ends with this entry
      have same : g = s'.group := same
      have hmem' := (table s'.name m).mp (same ▸ hget)
      rw [hes, List.mem_append, List.mem_singleton] at hmem'
      rcases hmem' with hpre | heq
      · exact absurd (across _ hpre _ List.mem_cons_self) (not_lt.mpr lt.le)
      · cases heq
        exact lt_irrefl _ lt

/-! ## The drawing draws the walk -/

/-- The drawing of a group draws the first table of that name, if there is one. -/
theorem drawGroup_eq (indent g : String) (later : Bool) (t : Tree) :
    drawGroup indent g later t =
      (((lookupKeyed g t).getD none).map (drawNames indent g later)).getD (.ok "") := by
  induction t with
  | nil => simp [drawGroup]
  | cons e rest ih =>
    obtain ⟨g', _ | es⟩ := e <;>
      by_cases h : g' = g <;> simp [drawGroup.eq_2, drawGroup.eq_3, lookupKeyed_cons, h, ih]

/-- The lines of the visits below a first step are their lines below that step's piece. -/
theorem drawnLines_shift {ps ps' : List (List Step)} {s : Step} {vs : List (List Step × Node)}
    (nonempty : ∀ v ∈ vs, v.1 ≠ [])
    (below : ∀ r, r ≠ [] → lastAmong ps (s :: r) = lastAmong ps' r) (indent : String) :
    drawnLines ps indent (shiftVisits [s] vs) =
      drawnLines ps' (indent ++ ancestorPiece (lastAmong ps [s])) vs := by
  unfold drawnLines shiftVisits
  rw [List.map_map]
  congr 1
  refine List.map_congr_left fun v hv => ?_
  simp only [Function.comp_apply, List.singleton_append, drawnLine_cons v.2 (nonempty v hv) below,
    String.append_assoc]

/-- The drawing of a table draws the lines of its walk, when each entry's step is last
exactly when nothing follows it and each node's drawing draws its own walk. -/
theorem drawNames_lines {ps : List (List Step)} {g : String} {later : Bool}
    {es : List (String × Option Node)} {ws : List (List Step × Node)}
    (hwalk : walkNames [] g es = .ok ws)
    (first : ∀ pre name n rest, es = pre ++ (name, some n) :: rest →
      lastAmong ps [⟨g, name⟩] = (rest.isEmpty && !later))
    (below : ∀ name n, (name, some n) ∈ es → ∃ vs,
      (∀ path, walkNode path n = .ok (shiftVisits path vs)) ∧ n.deps.Visits vs ∧
      (∀ indent, drawNode indent n = .ok (drawnLines (vs.map Prod.fst) indent vs)) ∧
      ∀ r, r ≠ [] → lastAmong ps (⟨g, name⟩ :: r) = lastAmong (vs.map Prod.fst) r)
    (indent : String) :
    drawNames indent g later es = .ok (drawnLines ps indent ws) := by
  induction es generalizing ws with
  | nil =>
    rw [walkNames.eq_1] at hwalk
    cases hwalk
    rw [drawNames.eq_1, drawnLines_nil]
  | cons e rest ih =>
    obtain ⟨name, _ | n⟩ := e
    · rw [walkNames.eq_2] at hwalk
      cases hwalk
    obtain ⟨vs, hnode, hvs, hdraw, hlast⟩ := below name n List.mem_cons_self
    rw [walkNames.eq_3, hnode] at hwalk
    cases hrest : walkNames [] g rest with
    | error e => simp [hrest, bind, Except.bind] at hwalk
    | ok after =>
      simp only [hrest, bind, Except.bind, pure, Except.pure, Except.ok.injEq,
        List.nil_append] at hwalk
      subst hwalk
      have restLines := ih hrest
        (fun pre name' n' rest' h => first ((name, some n) :: pre) name' n' rest' (by rw [h]; rfl))
        (fun name' n' h => below name' n' (List.mem_cons_of_mem _ h))
      have nonempty : ∀ v ∈ vs, v.1 ≠ [] := fun v hv => ((hvs.mem_iff v.1 v.2).mp hv).1
      -- the entry's own line, then the lines below it one piece further in, then the rest
      rw [drawNames.eq_3, hdraw, restLines, drawnLines_append, drawnLines_cons,
        drawnLines_shift nonempty hlast, drawnLine_single, first [] name n rest rfl]
      simp only [bind, Except.bind, pure, Except.pure, ancestorPiece, String.append_assoc]

/-- The drawing of one known group of a node draws the lines of the group's walk, given the
groups `gs` that follow it and whose entries make its last entry not the last. -/
theorem drawGroup_lines {deps : Tree} {vs : List (List Step × Node)} (hvs : deps.Visits vs)
    (sorted : ∀ g es, (g, some es) ∈ deps → KeysSorted es)
    (noHole : ∀ g es, (g, some es) ∈ deps → ∀ e ∈ es, e.2.isSome)
    (below : ∀ g es, (g, some es) ∈ deps → ∀ name n, (name, some n) ∈ es → ∃ vs',
      (∀ path, walkNode path n = .ok (shiftVisits path vs')) ∧ n.deps.Visits vs' ∧
      ∀ indent, drawNode indent n = .ok (drawnLines (vs'.map Prod.fst) indent vs'))
    (g : String) (gs : List Group) (known : g ∈ knownGroupNames)
    (hlater : ∀ G ∈ gs, G.name ∈ knownGroupNames ∧
      knownGroupNames.idxOf g < knownGroupNames.idxOf G.name)
    (hall : ∀ g' ∈ knownGroupNames, knownGroupNames.idxOf g < knownGroupNames.idxOf g' →
      ∃ G ∈ gs, G.name = g')
    {ws : List (List Step × Node)} (hwalk : walkGroup [] g deps = .ok ws) (indent : String) :
    drawGroup indent g (hasEntries deps gs) deps = .ok (drawnLines (vs.map Prod.fst) indent ws) := by
  rw [drawGroup_eq]
  rw [walkGroup_eq] at hwalk
  cases hg : lookupKeyed g deps with
  | none => simp_all
  | some table =>
    cases table with
    | none => simp_all
    | some es =>
      simp only [hg, Option.getD_some, Option.map_some, Option.getD_some] at hwalk ⊢
      have mem := mem_of_lookupKeyed hg
      refine drawNames_lines hwalk (fun pre name n rest hes => ?_) (fun name n hn => ?_) indent
      · exact lastAmong_first_step hvs noHole known hlater hall hg (sorted g es mem) hes
      · -- below the entry's step, its siblings are those of the node's own walk
        obtain ⟨vs', hnode, hvs', hdraw⟩ := below g es mem name n hn
        have hget : deps.get g name = some (some n) := by
          rw [Tree.get_eq, hg]
          exact (lookupKeyed_eq_some_iff (sorted g es mem)).mpr hn
        exact ⟨vs', hnode, hvs', hdraw, fun r hr =>
          lastAmong_cons hr (hvs.cons_mem_iff (s := ⟨g, name⟩) known hget hvs')⟩

/-- A filled node's drawing draws, under any indent, the lines of its walk. -/
theorem Node.Filled.draw_lines {n : Node} (h : n.Filled) :
    ∃ vs, (∀ path, walkNode path n = .ok (shiftVisits path vs)) ∧ n.deps.Visits vs ∧
      ∀ indent, drawNode indent n = .ok (drawnLines (vs.map Prod.fst) indent vs) := by
  induction h with
  | @mk version deps sorted noHole nodes ih =>
    obtain ⟨vs, hwalk, hvs⟩ := Node.Filled.walk_visits (.mk sorted noHole nodes)
    refine ⟨vs, hwalk, hvs, fun indent => ?_⟩
    replace hvs : deps.Visits vs := hvs
    -- the walk of the node is the walks of its three groups in turn
    have hnode := hwalk []
    rw [shiftVisits_nil_left, walkNode.eq_1] at hnode
    obtain ⟨a, ha, hnode⟩ := bind_eq_ok_iff.mp hnode
    obtain ⟨b, hb, hnode⟩ := bind_eq_ok_iff.mp hnode
    obtain ⟨c, hc, hnode⟩ := bind_eq_ok_iff.mp hnode
    cases hnode
    -- each group's last entry is followed by the entries of the groups after it
    have hA := drawGroup_lines hvs sorted noHole ih Group.production.name
      [Group.optional, Group.development] (by decide)
      (by simp [knownGroupNames, Group.known, Group.production, Group.optional, Group.development])
      (by simp [knownGroupNames, Group.known, Group.production, Group.optional, Group.development])
      ha indent
    have hB := drawGroup_lines hvs sorted noHole ih Group.optional.name [Group.development]
      (by decide)
      (by simp [knownGroupNames, Group.known, Group.production, Group.optional, Group.development])
      (by simp [knownGroupNames, Group.known, Group.production, Group.optional, Group.development])
      hb indent
    have hC := drawGroup_lines hvs sorted noHole ih Group.development.name [] (by decide)
      (by simp)
      (by simp [knownGroupNames, Group.known, Group.production, Group.optional, Group.development])
      hc indent
    rw [drawNode.eq_1, hA, hB]
    rw [show (false : Bool) = hasEntries deps [] from rfl, hC]
    simp [bind, Except.bind, pure, Except.pure, drawnLines_append, String.append_assoc]

/-- A drawn line holds no new line when the names on its path and the version it shows hold
none. -/
theorem newline_not_mem_drawnLine {ps : List (List Step)} {p : List Step} {n : Node}
    (hname : ∀ s ∈ p, '\n' ∉ s.name.toList) (hversion : '\n' ∉ n.version.toList) :
    '\n' ∉ (drawnLine ps p n).toList := by
  unfold drawnLine
  cases hlast : p.getLast? with
  | none => simp
  | some s =>
    have pieces : ∀ b, '\n' ∉ (ancestorPiece b).toList := by
      intro b
      cases b <;> decide
    have branch : ∀ b : Bool, '\n' ∉ (if b then "└── " else "├── ").toList := by
      intro b
      cases b <;> decide
    have tag : '\n' ∉ (groupTag s.group).toList := by
      unfold groupTag
      split_ifs <;> decide
    simp only [String.toList_append, String.toList_join, List.mem_append, List.mem_flatMap,
      List.mem_map, not_or, and_assoc]
    exact ⟨fun ⟨_, ⟨k, _, hk⟩, h⟩ => pieces _ (hk ▸ h), branch _,
      hname s (List.mem_of_getLast? hlast), by decide, hversion, tag⟩

/-- The text drawing of a tree held as a map holds it, with a node under every name, is the
root's line (`.` for an unnamed root) and then one line for each node the walk visits, in the
walk's order: a piece for each proper ancestor, four blanks below the last of its siblings
and a bar below another, then `└── ` for the last of its siblings and `├── ` for another,
then `name@version` and ` (optional)` or ` (dev)` for those groups. Siblings are the
visited nodes with the same parent, in the order of their groups, then of their names. There
are as many lines as the count, and when no name or version holds a new line, no line
does. -/
theorem Tree.text_draws_walk {t : Tree} (ht : t.Filled)
    (plain : ∀ p n, t.Position p n → '\n' ∉ n.version.toList ∧ ∀ s ∈ p, '\n' ∉ s.name.toList)
    (root : String) :
    ∃ vs, t.walk = .ok vs ∧ t.Visits vs ∧ t.count = .ok vs.length ∧
      t.text root = .ok ((if root.isEmpty then "." else root) ++ "\n" ++
        String.join (vs.map fun v => drawnLine (vs.map Prod.fst) v.1 v.2 ++ "\n")) ∧
      ∀ v ∈ vs, '\n' ∉ (drawnLine (vs.map Prod.fst) v.1 v.2).toList := by
  obtain ⟨vs, hwalk, hvs, hdraw⟩ := Node.Filled.draw_lines ht
  have walked : t.walk = .ok vs := by rw [Tree.walk, hwalk, shiftVisits_nil_left]
  refine ⟨vs, walked, hvs, by rw [Tree.count, walked]; rfl, ?_, fun v hv => ?_⟩
  · rw [Tree.text, hdraw]
    simp [drawnLines, bind, Except.bind, pure, Except.pure]
  · obtain ⟨hversion, hname⟩ := plain v.1 v.2 ((hvs.mem_iff v.1 v.2).mp hv)
    exact newline_not_mem_drawnLine hname hversion

/-- A tree with a production dependency that has one of its own and a development
dependency is filled, holds no new line, and is drawn line by line from its walk. -/
theorem Tree.text_draws_walk_sample :
    let t : Tree := [("dependencies", some [("a", some (.mk "1.2.0"
        [("dependencies", some [("b", some (.mk "2.0.1" []))])]))]),
      ("devDependencies", some [("jest", some (.mk "29.7.0" []))])]
    t.Filled ∧
      (∀ p n, t.Position p n → '\n' ∉ n.version.toList ∧ ∀ s ∈ p, '\n' ∉ s.name.toList) ∧
      ∃ vs, t.walk = .ok vs ∧ t.Visits vs ∧ t.count = .ok vs.length ∧
        t.text "app" = .ok ("app" ++ "\n" ++
          String.join (vs.map fun v => drawnLine (vs.map Prod.fst) v.1 v.2 ++ "\n")) ∧
        ∀ v ∈ vs, '\n' ∉ (drawnLine (vs.map Prod.fst) v.1 v.2).toList := by
  intro t
  have filled : t.Filled := Node.filled_of_check _ (by decide)
  -- the positions are the three visits of the walk, whose texts are checked one by one
  have plain : ∀ p n, t.Position p n → '\n' ∉ n.version.toList ∧ ∀ s ∈ p, '\n' ∉ s.name.toList := by
    intro p n hpos
    have visits : t.walk = .ok [([⟨"dependencies", "a"⟩], .mk "1.2.0"
        [("dependencies", some [("b", some (.mk "2.0.1" []))])]),
      ([⟨"dependencies", "a"⟩, ⟨"dependencies", "b"⟩], .mk "2.0.1" []),
      ([⟨"devDependencies", "jest"⟩], .mk "29.7.0" [])] := rfl
    have hmem := (Tree.Filled.mem_walk_iff filled visits p n).mpr hpos
    simp only [List.mem_cons, Prod.mk.injEq, List.not_mem_nil, or_false] at hmem
    rcases hmem with ⟨rfl, rfl⟩ | ⟨rfl, rfl⟩ | ⟨rfl, rfl⟩ <;> decide
  exact ⟨filled, plain, Tree.text_draws_walk filled plain "app"⟩

example :
    let t : Tree := [("dependencies", some [("a", some (.mk "1.2.0"
        [("dependencies", some [("b", some (.mk "2.0.1" []))])]))]),
      ("devDependencies", some [("jest", some (.mk "29.7.0" []))])]
    t.text "app" = .ok "app\n├── a@1.2.0\n│   └── b@2.0.1\n└── jest@29.7.0 (dev)\n" := by
  rfl

end DepLock
