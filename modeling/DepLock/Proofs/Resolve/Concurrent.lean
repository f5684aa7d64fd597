import DepLock.Proofs.Resolve.Sequential
/-!
# The concurrent build

A level of a build runs its groups under one errgroup and, inside each group, the entries
that no ancestor satisfies under another: each such entry gets a goroutine that asks its
backend and then builds the level below, and writes what it gets into its own slot. `Wait`
of an errgroup returns once all its goroutines have returned, with the error of the first of
them to return one; the slots are read, and their nodes merged in entry order, only when
none did. The first failure also cancels the errgroup's context, but each call of a backend
has one fixed answer and nothing else reads the context, so a cancelled sibling runs to its
end and what it returns is dropped.

What a level comes to therefore depends on the run only through the order in which each
errgroup sees its goroutines return (a `Schedule`), and on how each level below runs.
`Runs` is that relation: the answers a level may come to, over every order of completion at
every level.

`build_refines_sequential` compares it with `Level.sequential`:

* every run succeeds exactly when the sequential evaluation does, and with its tree
  (`Runs.ok_iff_sequential`);
* the errors the runs report are exactly the faults of the levels the build reaches: a run
  reports a failure that some goroutine met, never one that cancellation made up
  (`Runs.mayReport`), and for every fault some order of completion reports it first
  (`MayReport.runs`, from `Fault.runs` and `Child.runs`);
* `build`, which the library runs, is one of the runs (`Level.outcome_runs`).
-/

set_option autoImplicit false

namespace DepLock

/-- What `Wait` of an errgroup returns, given the results of its goroutines in the order they
came back: the first error, or success. -/
def wait {α : Type} : List (Except Error α) → Except Error Unit
  | [] => .ok ()
  | .error e :: _ => .error e
  | .ok _ :: rest => wait rest

/-- The order in which the errgroups of a level see their goroutines return: the results of
each group's goroutines, and the groups' own results, each in the order they came back. -/
structure Schedule where
  entries : Group → List (Except Error (Option Node))
  groups : List (Except Error Unit)

namespace Level

/-- The entries of one group of a level, by name. -/
def groupEntries (ℓ : Level) (g : Group) : List (Group × String × Specifier) :=
  (cloneManifest ℓ.manifest).dedupe.1.entriesAt [g]

/-- The entries of a group that get a goroutine: those that no ancestor satisfies. -/
def started (b : Backends) (ℓ : Level) (g : Group) : List (Group × String × Specifier) :=
  (ℓ.groupEntries g).filter fun (_, name, spec) => !b.satisfiedByAncestor name spec ℓ.ancestors

/-- What an entry's slot holds once its goroutine has returned, given what each level below
comes to (`sub`): the refusal of its backend under `RESOLUTION_FAILED`, the failure of the
level below it, or its node. An entry that an ancestor satisfies has no goroutine, and its
slot stays empty. -/
def slot (b : Backends) (ℓ : Level) (sub : Level → Except Error Tree) :
    Group × String × Specifier → Except Error (Option Node)
  | (g, name, spec) =>
    if b.satisfiedByAncestor name spec ℓ.ancestors then .ok none
    else match b.dispatch name spec with
      | .error e => .error (Error.wrap .resolutionFailed e (resolveContext g name spec))
      | .ok res =>
        (sub (ℓ.below res ⟨g, name, res.version, spec⟩)).map fun deps => some (.mk res.version deps)

/-- Puts the node of an entry's slot into a tree; an empty or failed slot leaves it as it is. -/
def place (b : Backends) (ℓ : Level) (sub : Level → Except Error Tree) (tree : Tree) :
    Group × String × Specifier → Tree
  | (g, name, spec) =>
    match ℓ.slot b sub (g, name, spec) with
    | .ok (some n) => tree.set g.name name (some n)
    | _ => tree

/-- The tree of a level whose goroutines all succeeded: the nodes of its slots, in entry
order. -/
def merge (b : Backends) (ℓ : Level) (sub : Level → Except Error Tree) : Tree :=
  ℓ.entries.foldl (ℓ.place b sub) []

/-- What a level comes to: the error of the first group to fail, in the order the level's
errgroup sees its groups return, or else the merged tree. -/
def finish (b : Backends) (ℓ : Level) (sub : Level → Except Error Tree) (s : Schedule) :
    Except Error Tree :=
  match wait s.groups with
  | .error e => .error e
  | .ok () => .ok (ℓ.merge b sub)

end Level

/-- A schedule of a level whose levels below come to `sub`: every goroutine returns once,
with what it computed, and so does every group, with what its own errgroup returned. -/
structure Schedule.Valid (s : Schedule) (b : Backends) (ℓ : Level)
    (sub : Level → Except Error Tree) : Prop where
  entries : ∀ g ∈ groupsAt ℓ.dev, (s.entries g).Perm ((ℓ.started b g).map (ℓ.slot b sub))
  groups : s.groups.Perm ((groupsAt ℓ.dev).map fun g => wait (s.entries g))

/-- The runs of the concurrent build of a level, and what each comes to. A level deeper
than the limit fails at once. Otherwise each level below runs in one of its own ways (`sub`)
and the level's errgroups see their goroutines return in some order (`s`). -/
inductive Runs (b : Backends) (o : BuildOptions) : Level → Except Error Tree → Prop
  | deep {ℓ : Level} (h : o.maxDepth < ℓ.ancestors.length) :
      Runs b o ℓ (.error (depthError o.maxDepth ℓ.ancestors))
  | within {ℓ : Level} (h : ℓ.ancestors.length ≤ o.maxDepth) (sub : Level → Except Error Tree)
      (below : ∀ ℓ', Child b o ℓ ℓ' → Runs b o ℓ' (sub ℓ')) (s : Schedule)
      (valid : s.Valid b ℓ sub) :
      Runs b o ℓ (ℓ.finish b sub s)

/-! ## Errgroups -/

section Wait

variable {α : Type}

/-- An errgroup succeeds exactly when none of its goroutines failed. -/
theorem wait_eq_ok_iff {l : List (Except Error α)} : wait l = .ok () ↔ ∀ x ∈ l, ∃ a, x = .ok a := by
  induction l with
  | nil => simp [wait]
  | cons x rest ih =>
    cases x with
    | error e => simp [wait]
    | ok a => simp [wait, ih]

/-- The error an errgroup reports is the error of one of its goroutines. -/
theorem mem_of_wait_eq_error {l : List (Except Error α)} {e : Error} (h : wait l = .error e) :
    .error e ∈ l := by
  induction l with
  | nil => cases h
  | cons x rest ih =>
    cases x with
    | error e' =>
      cases h
      exact List.mem_cons_self
    | ok a => exact List.mem_cons_of_mem _ (ih h)

/-- Any goroutine's error is reported by the order in which it comes back first. -/
theorem exists_perm_wait_eq_error {l : List (Except Error α)} {e : Error} (h : .error e ∈ l) :
    ∃ l', l'.Perm l ∧ wait l' = .error e := by
  obtain ⟨pre, post, rfl⟩ := List.mem_iff_append.mp h
  exact ⟨.error e :: (pre ++ post), List.perm_middle.symm, rfl⟩

end Wait

/-! ## One level -/

namespace Level

variable {b : Backends} {o : BuildOptions} {ℓ : Level} {sub : Level → Except Error Tree}

/-- The entries of a level are those of its groups, group after group. -/
theorem entries_eq_flatMap (ℓ : Level) : ℓ.entries = (groupsAt ℓ.dev).flatMap ℓ.groupEntries := by
  unfold entries groupEntries Manifest.entriesAt
  simp

/-- An entry of a level is an entry of one of the groups the level resolves. -/
theorem mem_entries_iff_groupEntries {entry : Group × String × Specifier} :
    entry ∈ ℓ.entries ↔ ∃ g ∈ groupsAt ℓ.dev, entry ∈ ℓ.groupEntries g := by
  rw [entries_eq_flatMap, List.mem_flatMap]

/-- A slot that holds something other than an empty result belongs to an entry with a
goroutine. -/
theorem slot_of_satisfied {g : Group} {name : String} {spec : Specifier}
    (h : b.satisfiedByAncestor name spec ℓ.ancestors = true) : ℓ.slot b sub (g, name, spec) = .ok none := by
  simp [slot, h]

/-- A failed slot holds the refusal of its entry's backend, or the failure of the level below
the entry. -/
theorem slot_eq_error {g : Group} {name : String} {spec : Specifier} {e : Error}
    (h : ℓ.slot b sub (g, name, spec) = .error e) :
    b.satisfiedByAncestor name spec ℓ.ancestors = false ∧
      ((∃ c, b.dispatch name spec = .error c ∧
          e = Error.wrap .resolutionFailed c (resolveContext g name spec)) ∨
        ∃ res, b.dispatch name spec = .ok res ∧
          sub (ℓ.below res ⟨g, name, res.version, spec⟩) = .error e) := by
  simp only [slot] at h
  by_cases hsat : b.satisfiedByAncestor name spec ℓ.ancestors = true
  · rw [if_pos hsat] at h
    cases h
  · rw [if_neg hsat] at h
    refine ⟨by simpa using hsat, ?_⟩
    cases hd : b.dispatch name spec with
    | error c =>
      rw [hd] at h
      cases h
      exact .inl ⟨c, rfl, rfl⟩
    | ok res =>
      rw [hd] at h
      dsimp only at h
      refine .inr ⟨res, rfl, ?_⟩
      cases hs : sub (ℓ.below res ⟨g, name, res.version, spec⟩) with
      | error e' =>
        rw [hs] at h
        cases h
        rfl
      | ok t =>
        rw [hs] at h
        cases h

/-- An entry whose slot failed has a goroutine in its group. -/
theorem mem_started_of_slot {g : Group} {entry : Group × String × Specifier} {e : Error}
    (hg : entry ∈ ℓ.groupEntries g) (h : ℓ.slot b sub entry = .error e) : entry ∈ ℓ.started b g := by
  obtain ⟨g', name, spec⟩ := entry
  have unsat := (slot_eq_error h).1
  simp [started, List.mem_filter, hg, unsat]

end Level

namespace Schedule.Valid

variable {b : Backends} {ℓ : Level} {sub : Level → Except Error Tree}

/-- A schedule whose level's errgroup reports an error holds that error in some entry's
slot: the errgroups pass on what a goroutine returned and make up no error of their own. -/
theorem error_slot {s : Schedule} (valid : s.Valid b ℓ sub) {e : Error}
    (h : wait s.groups = .error e) : ∃ entry ∈ ℓ.entries, ℓ.slot b sub entry = .error e := by
  -- the first group to fail reports the first failure among its own goroutines
  have inGroups := valid.groups.mem_iff.mp (mem_of_wait_eq_error h)
  obtain ⟨g, hg, hwait⟩ := List.mem_map.mp inGroups
  have inEntries := (valid.entries g hg).mem_iff.mp (mem_of_wait_eq_error hwait)
  obtain ⟨entry, hentry, hslot⟩ := List.mem_map.mp inEntries
  have grouped : entry ∈ ℓ.groupEntries g := (List.mem_filter.mp hentry).1
  exact ⟨entry, Level.mem_entries_iff_groupEntries.mpr ⟨g, hg, grouped⟩, hslot⟩

/-- A schedule whose level's errgroup reports no error leaves every slot filled. -/
theorem slots_ok {s : Schedule} (valid : s.Valid b ℓ sub)
    (h : wait s.groups = .ok ()) : ∀ entry ∈ ℓ.entries, ∃ x, ℓ.slot b sub entry = .ok x := by
  intro entry hentry
  obtain ⟨g, hg, grouped⟩ := Level.mem_entries_iff_groupEntries.mp hentry
  cases hslot : ℓ.slot b sub entry with
  | ok x => exact ⟨x, rfl⟩
  | error e =>
    -- the entry's goroutine failed, so its group failed, so the level's errgroup failed
    have started := Level.mem_started_of_slot grouped hslot
    have inEntries : .error e ∈ s.entries g :=
      (valid.entries g hg).mem_iff.mpr (List.mem_map.mpr ⟨entry, started, hslot⟩)
    obtain ⟨a, ha⟩ := wait_eq_ok_iff.mp h (wait (s.entries g))
      (valid.groups.mem_iff.mpr (List.mem_map.mpr ⟨g, hg, rfl⟩))
    obtain ⟨a', ha'⟩ := wait_eq_ok_iff.mp ha _ inEntries
    cases ha'

end Schedule.Valid

namespace Level

variable {b : Backends} {o : BuildOptions} {ℓ : Level} {sub : Level → Except Error Tree}

/-- The schedule in which every errgroup sees its goroutines return in entry order. -/
def inOrder (b : Backends) (ℓ : Level) (sub : Level → Except Error Tree) : Schedule where
  entries g := (ℓ.started b g).map (ℓ.slot b sub)
  groups := (groupsAt ℓ.dev).map fun g => wait ((ℓ.started b g).map (ℓ.slot b sub))

/-- The schedule that takes every goroutine in entry order is a valid schedule. -/
theorem inOrder_valid : (inOrder b ℓ sub).Valid b ℓ sub :=
  ⟨fun _ _ => List.Perm.refl _, List.Perm.refl _⟩

/-- For every failed slot there is an order of completion that reports its error first: its
goroutine comes back first in its group, and its group first at the level. -/
theorem exists_schedule_error {entry : Group × String × Specifier} {e : Error}
    (hentry : entry ∈ ℓ.entries) (h : ℓ.slot b sub entry = .error e) :
    ∃ s : Schedule, s.Valid b ℓ sub ∧ wait s.groups = .error e := by
  classical
  obtain ⟨g, hg, grouped⟩ := mem_entries_iff_groupEntries.mp hentry
  have started := mem_started_of_slot grouped h
  obtain ⟨first, hfirst, hwait⟩ :=
    exists_perm_wait_eq_error (List.mem_map.mpr ⟨entry, started, h⟩)
  let entries : Group → List (Except Error (Option Node)) := fun g' =>
    if g' = g then first else (ℓ.started b g').map (ℓ.slot b sub)
  have failed : .error e ∈ (groupsAt ℓ.dev).map fun g' => wait (entries g') :=
    List.mem_map.mpr ⟨g, hg, by simp [entries, hwait]⟩
  obtain ⟨groups, hgroups, hreport⟩ := exists_perm_wait_eq_error failed
  refine ⟨⟨entries, groups⟩, ⟨fun g' _ => ?_, hgroups⟩, hreport⟩
  by_cases same : g' = g
  · subst same
    simpa [entries] using hfirst
  · simp only [entries, if_neg same]
    exact List.Perm.refl _

/-- A level comes to a tree exactly when every slot is filled, and the tree is the merge of
the slots, whatever the order of completion. -/
theorem finish_eq_ok_iff {s : Schedule} (valid : s.Valid b ℓ sub) (t : Tree) :
    ℓ.finish b sub s = .ok t ↔
      (∀ entry ∈ ℓ.entries, ∃ x, ℓ.slot b sub entry = .ok x) ∧ t = ℓ.merge b sub := by
  unfold finish
  cases hw : wait s.groups with
  | error e =>
    simp only [reduceCtorEq, false_iff, not_and]
    intro filled
    obtain ⟨entry, hentry, hslot⟩ := valid.error_slot hw
    obtain ⟨x, hx⟩ := filled entry hentry
    rw [hx] at hslot
    cases hslot
  | ok u =>
    simp only [Except.ok.injEq]
    exact ⟨fun h => ⟨valid.slots_ok hw, h.symm⟩, fun h => h.2.symm⟩

/-- A level whose goroutines fail reports the first failure its errgroups returned. -/
theorem finish_eq_error {s : Schedule} {e : Error} (h : ℓ.finish b sub s = .error e) :
    wait s.groups = .error e := by
  unfold finish at h
  cases hw : wait s.groups with
  | error e' =>
    rw [hw] at h
    cases h
    rfl
  | ok u =>
    rw [hw] at h
    cases h

/-! ## Runs against the sequential evaluation -/

section Sequential

variable {below' : Resolution → Frame → Except Error Tree}

/-- The step of the sequential evaluation on an entry agrees with its slot, when each level
below comes to a tree in the run exactly when it does for the sequential evaluation: a
filled slot lets it go on with the slot's node, a failed one stops it. -/
theorem seqVisit_of_slot (within : ℓ.ancestors.length ≤ o.maxDepth)
    (hsub : ∀ res frame, Child b o ℓ (ℓ.below res frame) →
      ∀ t, sub (ℓ.below res frame) = .ok t ↔ below' res frame = .ok t)
    {entry : Group × String × Specifier} (mem : entry ∈ ℓ.entries) (tree : Tree) :
    (∀ x, ℓ.slot b sub entry = .ok x → b.seqVisit ℓ.ancestors below' tree entry =
      .ok (ℓ.place b sub tree entry)) ∧
    (∀ e, ℓ.slot b sub entry = .error e → ∃ e', b.seqVisit ℓ.ancestors below' tree entry = .error e') := by
  obtain ⟨g, name, spec⟩ := entry
  by_cases hsat : b.satisfiedByAncestor name spec ℓ.ancestors = true
  · -- skipped by both
    have empty : ℓ.slot b sub (g, name, spec) = .ok none := slot_of_satisfied hsat
    refine ⟨fun x _ => ?_, fun e h => ?_⟩
    · simp [Backends.seqVisit, hsat, place, empty]
    · rw [empty] at h
      cases h
  have unsat : b.satisfiedByAncestor name spec ℓ.ancestors = false := by simpa using hsat
  cases hd : b.dispatch name spec with
  | error c =>
    have refused : ℓ.slot b sub (g, name, spec) =
        .error (Error.wrap .resolutionFailed c (resolveContext g name spec)) := by
      simp [slot, unsat, hd]
    refine ⟨fun x h => ?_, fun _ _ => ⟨Error.wrap .resolutionFailed c (resolveContext g name spec), ?_⟩⟩
    · rw [refused] at h
      cases h
    · simp [Backends.seqVisit, unsat, hd]
  | ok res =>
    have child : Child b o ℓ (ℓ.below res ⟨g, name, res.version, spec⟩) :=
      .resolve within mem unsat hd
    have same := hsub res ⟨g, name, res.version, spec⟩ child
    cases hs : sub (ℓ.below res ⟨g, name, res.version, spec⟩) with
    | ok deps =>
      have filled : ℓ.slot b sub (g, name, spec) = .ok (some (.mk res.version deps)) := by
        simp [slot, unsat, hd, hs, Except.map]
      have seqBelow := (same deps).mp hs
      refine ⟨fun x _ => ?_, fun e h => ?_⟩
      · simp [Backends.seqVisit, unsat, hd, seqBelow, place, filled, bind, Except.bind, pure,
          Except.pure]
      · rw [filled] at h
        cases h
    | error e =>
      have failed : ℓ.slot b sub (g, name, spec) = .error e := by
        simp [slot, unsat, hd, hs, Except.map]
      refine ⟨fun x h => ?_, fun _ _ => ?_⟩
      · rw [failed] at h
        cases h
      -- the level below fails in the run, so it does not succeed sequentially either
      cases hb : below' res ⟨g, name, res.version, spec⟩ with
      | error e' => exact ⟨e', by simp [Backends.seqVisit, unsat, hd, hb, bind, Except.bind]⟩
      | ok t =>
        have := (same t).mpr hb
        rw [hs] at this
        cases this

/-- Over the entries of a level, every slot is filled and the merge of the slots is `t`
exactly when the sequential evaluation goes through them and ends with `t`. -/
theorem slots_ok_iff_foldlM (within : ℓ.ancestors.length ≤ o.maxDepth)
    (hsub : ∀ res frame, Child b o ℓ (ℓ.below res frame) →
      ∀ t, sub (ℓ.below res frame) = .ok t ↔ below' res frame = .ok t)
    (es : List (Group × String × Specifier)) (hes : ∀ entry ∈ es, entry ∈ ℓ.entries)
    (tree t : Tree) :
    ((∀ entry ∈ es, ∃ x, ℓ.slot b sub entry = .ok x) ∧ t = es.foldl (ℓ.place b sub) tree) ↔
      es.foldlM (b.seqVisit ℓ.ancestors below') tree = .ok t := by
  induction es generalizing tree with
  | nil => simp [pure, Except.pure, eq_comm]
  | cons entry rest ih =>
    have mem := hes entry List.mem_cons_self
    have restMem : ∀ entry ∈ rest, entry ∈ ℓ.entries := fun e h => hes e (List.mem_cons_of_mem _ h)
    have step := seqVisit_of_slot within hsub mem tree
    rw [List.foldl_cons, List.foldlM_cons]
    cases hslot : ℓ.slot b sub entry with
    | ok x =>
      rw [step.1 x hslot]
      simp only [bind, Except.bind, List.forall_mem_cons, hslot]
      rw [← ih restMem]
      simp
    | error e =>
      obtain ⟨e', he'⟩ := step.2 e hslot
      rw [he']
      simp [hslot, bind, Except.bind]

end Sequential

end Level

variable {b : Backends} {o : BuildOptions}

/-- Every run of a level succeeds exactly when the sequential evaluation does, and with the
same tree: by induction over the run, each level from the levels below it. -/
theorem Runs.ok_iff_sequential {ℓ : Level} {r : Except Error Tree} (h : Runs b o ℓ r) (t : Tree) :
    r = .ok t ↔ ℓ.sequential b o = .ok t := by
  induction h generalizing t with
  | deep hdeep => simp [Level.sequential_of_deep hdeep]
  | within hwithin sub below s valid ih =>
    rw [Level.sequential_of_within hwithin, Level.finish_eq_ok_iff valid]
    exact Level.slots_ok_iff_foldlM hwithin (fun res frame child t => ih _ child t) _
      (fun _ h => h) [] t

/-- Every error a run reports is a fault of a level the build reaches. -/
theorem Runs.mayReport {ℓ : Level} {r : Except Error Tree} (h : Runs b o ℓ r) :
    ∀ e, r = .error e → MayReport b o ℓ e := by
  induction h with
  | deep hdeep =>
    intro e he
    cases he
    exact .of_fault (.deep hdeep)
  | within hwithin sub below s valid ih =>
    intro e he
    obtain ⟨⟨g, name, spec⟩, mem, hslot⟩ := valid.error_slot (Level.finish_eq_error he)
    obtain ⟨unsat, ⟨c, hc, rfl⟩ | ⟨res, hres, hsub⟩⟩ := Level.slot_eq_error hslot
    · exact .of_fault (.refused hwithin mem unsat hc)
    · have child : Child b o _ _ := .resolve hwithin mem unsat hres
      exact .of_child child (ih _ child e hsub)

/-- A level within the limit, whose levels below run as `sub` gives them, reports in some run
the error of any entry whose slot fails: the order in which that entry's goroutine comes back
first. -/
theorem Runs.of_error_slot {ℓ : Level} {sub : Level → Except Error Tree}
    (within : ℓ.ancestors.length ≤ o.maxDepth) (below : ∀ ℓ', Child b o ℓ ℓ' → Runs b o ℓ' (sub ℓ'))
    {entry : Group × String × Specifier} (mem : entry ∈ ℓ.entries) {e : Error}
    (hslot : ℓ.slot b sub entry = .error e) : Runs b o ℓ (.error e) := by
  obtain ⟨s, valid, hwait⟩ := Level.exists_schedule_error mem hslot
  have ends : ℓ.finish b sub s = .error e := by
    simp [Level.finish, hwait]
  rw [← ends]
  exact .within within sub below s valid

/-- The build the library runs is one of the runs: each level takes the failure with the
fewest resolutions before it, which some order of completion reports first. -/
theorem Level.outcome_runs (ℓ : Level) : Runs b o ℓ ((ℓ.outcome b o).mapError (·.error)) := by
  induction ℓ using Level.induction_on_depth o with
  | deep ℓ hdeep =>
    rw [Level.outcome_of_deep hdeep]
    exact .deep hdeep
  | within ℓ hwithin ih =>
    -- every level below runs as the library's build runs it
    let sub : Level → Except Error Tree := fun ℓ' => (ℓ'.outcome b o).mapError (·.error)
    have below : ∀ ℓ', Child b o ℓ ℓ' → Runs b o ℓ' (sub ℓ') := by
      rintro _ ⟨-, -, -, -⟩
      exact ih _ _
    have folded := Level.outcome_of_within (b := b) hwithin
    cases hout : ℓ.outcome b o with
    | ok t =>
      rw [hout, eq_comm, Level.settle_eq_ok] at folded
      have sameBelow : ∀ res frame tree, (ℓ.below res frame).outcome b o = .ok tree ↔
          sub (ℓ.below res frame) = .ok tree := fun _ _ _ => mapError_eq_ok.symm
      have seq := (foldl_visit_none_iff sameBelow ℓ.entries [] t).mp folded
      obtain ⟨filled, merged⟩ := (Level.slots_ok_iff_foldlM hwithin
        (fun _ _ _ _ => Iff.rfl) ℓ.entries (fun _ h => h) [] t).mpr seq
      have ends : ℓ.finish b sub (Level.inOrder b ℓ sub) = .ok t := by
        rw [Level.finish_eq_ok_iff Level.inOrder_valid]
        exact ⟨filled, merged⟩
      show Runs b o ℓ (.ok t)
      rw [← ends]
      exact .within hwithin sub below _ Level.inOrder_valid
    | error f =>
      rw [hout, eq_comm, Level.settle_eq_error] at folded
      -- the failure recorded is in some entry's slot
      obtain ⟨entry, mem, hslot⟩ := foldl_visit_failure
        (P := fun f => ∃ entry ∈ ℓ.entries, ℓ.slot b sub entry = .error f.error)
        (fun g name spec c hmem unsat hc => ⟨_, hmem, by simp [Level.slot, unsat, hc]⟩)
        (fun g name spec res f hmem unsat hres hf => ⟨_, hmem, by
          simp [Level.slot, unsat, hres, sub, hf, Except.mapError, Except.map]⟩)
        (none, []) (by simp) f folded
      show Runs b o ℓ (.error f.error)
      exact Runs.of_error_slot hwithin below mem hslot

/-- A level with a fault reports it in some run: every level below runs as the library's
build runs it, and the faulty entry's goroutine comes back first. -/
theorem Fault.runs {ℓ : Level} {e : Error} (h : Fault b o ℓ e) : Runs b o ℓ (.error e) := by
  cases h with
  | deep hdeep => exact .deep hdeep
  | @refused g name spec c within mem unsat hc =>
    let sub : Level → Except Error Tree := fun ℓ' => (ℓ'.outcome b o).mapError (·.error)
    have hslot : ℓ.slot b sub (g, name, spec) =
        .error (Error.wrap .resolutionFailed c (resolveContext g name spec)) := by
      simp [Level.slot, unsat, hc]
    exact Runs.of_error_slot within (fun ℓ' _ => ℓ'.outcome_runs) mem hslot

/-- An error some run of a level below reports is reported by some run of the level: that
run below, with its goroutine first to come back. -/
theorem Child.runs {ℓ ℓ' : Level} {e : Error} (step : Child b o ℓ ℓ') (h : Runs b o ℓ' (.error e)) :
    Runs b o ℓ (.error e) := by
  classical
  cases step with
  | @resolve g name spec res within mem unsat hres =>
    -- the level below runs as `h` does, every other one as the library's build runs it
    let failing := ℓ.below res ⟨g, name, res.version, spec⟩
    let sub : Level → Except Error Tree := fun ℓ'' =>
      if ℓ'' = failing then .error e else (ℓ''.outcome b o).mapError (·.error)
    have below : ∀ ℓ'', Child b o ℓ ℓ'' → Runs b o ℓ'' (sub ℓ'') := by
      intro ℓ'' _
      by_cases same : ℓ'' = failing
      · subst same
        simpa [sub] using h
      · simpa [sub, same] using ℓ''.outcome_runs
    have hslot : ℓ.slot b sub (g, name, spec) = .error e := by
      simp [Level.slot, unsat, hres, sub, failing, Except.map]
    exact Runs.of_error_slot within below mem hslot

/-- Every fault of a level the build reaches is reported by some run: by induction along the
steps that reach it, each by `Child.runs`. -/
theorem MayReport.runs {ℓ : Level} {e : Error} (h : MayReport b o ℓ e) : Runs b o ℓ (.error e) := by
  obtain ⟨ℓ', reach, fault⟩ := h
  induction reach using Relation.ReflTransGen.head_induction_on with
  | refl => exact fault.runs
  | head step _ ih => exact step.runs ih

/-- The errors the runs of a level report are exactly the faults of the levels it reaches. -/
theorem runs_error_iff_mayReport (ℓ : Level) (e : Error) :
    Runs b o ℓ (.error e) ↔ MayReport b o ℓ e :=
  ⟨fun h => h.mayReport e rfl, MayReport.runs⟩

/-- A concurrent build agrees with the sequential evaluation of its root. Whatever order its
goroutines come back in, it succeeds exactly when the sequential evaluation does and then
returns the same tree; the errors its runs report are exactly the faults of the levels it
reaches, each reported first by some order; and the build the library runs is one of its
runs. -/
theorem build_refines_sequential (b : Backends) (o : BuildOptions) (m : Option Manifest) :
    Runs b o (Level.root o m) (build b o m) ∧
    (∀ r, Runs b o (Level.root o m) r →
      ∀ tree, r = .ok tree ↔ (Level.root o m).sequential b o = .ok tree) ∧
    ∀ e, Runs b o (Level.root o m) (.error e) ↔ MayReport b o (Level.root o m) e := by
  refine ⟨?_, fun r h tree => h.ok_iff_sequential tree, runs_error_iff_mayReport _⟩
  rw [Level.build_eq_outcome]
  exact (Level.root o m).outcome_runs

end DepLock
