import DepLock.Proofs.Resolve.Level

/-!
# A build is a sequential evaluation

`Level.sequential` is the plain reading of a build: one level after the other, depth first,
the entries of a level one after the other, and the first failure in that order ends it.
Nothing in it depends on an order of completion.

The build the library runs agrees with it on everything that does not depend on timing: a
level succeeds exactly when its sequential evaluation does, with the same tree
(`Level.outcome_eq_ok_iff`), and fails exactly when some level it reaches has a fault
(`Level.outcome_error_iff_mayReport`). `DepLock.Proofs.Resolve.Concurrent` says the same of
every order in which the goroutines of a build can come back.

The proof is by `Level.induction_on_depth`. Within a level, `visit_none_eq_none_iff` says
that one entry leaves the fold of the build without a failure exactly when the sequential
fold goes on with the same tree, and `foldl_visit_none_iff` lifts this to a whole level.
For failures, `foldlM_error_of_mem` says that an entry that fails whatever came before
it fails the sequential fold.
-/

set_option autoImplicit false

namespace DepLock

/-- One entry of a sequential evaluation under `ancestors`, given the tree so far. It is
skipped when an ancestor satisfies it. Otherwise it is resolved, its subtree comes from
`below`, and its node is added; the first failure ends the evaluation. -/
def Backends.seqVisit (b : Backends) (ancestors : List Frame)
    (below : Resolution → Frame → Except Error Tree) (tree : Tree) :
    Group × String × Specifier → Except Error Tree
  | (g, name, spec) =>
    if b.satisfiedByAncestor name spec ancestors then .ok tree
    else match b.dispatch name spec with
      | .error e => .error (Error.wrap .resolutionFailed e (resolveContext g name spec))
      | .ok res => do
        let deps ← below res ⟨g, name, res.version, spec⟩
        pure (tree.set g.name name (some (.mk res.version deps)))

/-- The sequential, depth-first evaluation of a level. An ancestry deeper than the limit
fails; otherwise the entries of the deduplicated manifest are taken group by group and
name by name, each resolved and evaluated one level down before the next. -/
def Level.sequential (b : Backends) (o : BuildOptions) (ℓ : Level) : Except Error Tree :=
  if o.maxDepth < ℓ.ancestors.length then .error (depthError o.maxDepth ℓ.ancestors)
  else ℓ.entries.foldlM
    (b.seqVisit ℓ.ancestors fun res frame => (ℓ.below res frame).sequential b o) []
termination_by o.maxDepth + 1 - ℓ.ancestors.length
decreasing_by simp; omega

namespace Level

variable {b : Backends} {o : BuildOptions}

/-- A level deeper than the limit fails with DEPTH_EXCEEDED. -/
theorem sequential_of_deep {ℓ : Level} (h : o.maxDepth < ℓ.ancestors.length) :
    ℓ.sequential b o = .error (depthError o.maxDepth ℓ.ancestors) := by
  rw [sequential, if_pos h]

/-- A level within the limit visits its entries one after another. -/
theorem sequential_of_within {ℓ : Level} (h : ℓ.ancestors.length ≤ o.maxDepth) :
    ℓ.sequential b o = ℓ.entries.foldlM
      (b.seqVisit ℓ.ancestors fun res frame => (ℓ.below res frame).sequential b o) [] := by
  rw [sequential, if_neg (by omega)]

end Level

/-- What a sequential step that goes on can have done: skipped an entry an ancestor
satisfies, or resolved it and added its node over the tree the level below came to. -/
theorem seqVisit_eq_ok {b : Backends} {ancestors : List Frame}
    {below : Resolution → Frame → Except Error Tree} {tree tree' : Tree} {g : Group}
    {name : String} {spec : Specifier}
    (h : b.seqVisit ancestors below tree (g, name, spec) = .ok tree') :
    (b.satisfiedByAncestor name spec ancestors = true ∧ tree' = tree) ∨
    (b.satisfiedByAncestor name spec ancestors = false ∧
      ∃ res deps, b.dispatch name spec = .ok res ∧ below res ⟨g, name, res.version, spec⟩ = .ok deps ∧
        tree' = tree.set g.name name (some (.mk res.version deps))) := by
  simp only [Backends.seqVisit] at h
  by_cases hsat : b.satisfiedByAncestor name spec ancestors = true
  · simp only [hsat, if_true, Except.ok.injEq] at h
    exact .inl ⟨hsat, h.symm⟩
  · simp only [hsat, Bool.false_eq_true, if_false] at h
    refine .inr ⟨by simpa using hsat, ?_⟩
    cases hd : b.dispatch name spec with
    | error e => simp [hd] at h
    | ok res =>
      simp only [hd] at h
      cases hb : below res ⟨g, name, res.version, spec⟩ with
      | error e => simp [hb, bind, Except.bind] at h
      | ok deps =>
        simp only [hb, bind, Except.bind, pure, Except.pure, Except.ok.injEq] at h
        exact ⟨res, deps, rfl, hb, h.symm⟩

/-- A sequential fold fails when one of its entries fails whatever came before it. -/
theorem foldlM_error_of_mem {α β ε : Type} {f : β → α → Except ε β} {l : List α} {x : α}
    (hx : x ∈ l) (hfail : ∀ acc, ∃ e, f acc x = .error e) (init : β) :
    ∃ e, l.foldlM f init = .error e := by
  induction l generalizing init with
  | nil => cases hx
  | cons y rest ih =>
    rw [List.foldlM_cons]
    rcases List.mem_cons.mp hx with rfl | hmem
    · obtain ⟨e, he⟩ := hfail init
      exact ⟨e, by rw [he]; rfl⟩
    · cases hy : f init y with
      | error e => exact ⟨e, rfl⟩
      | ok acc => exact ih hmem acc

section Refinement

variable {b : Backends} {ancestors : List Frame}
  {below : Resolution → Frame → Except Failure Tree}
  {below' : Resolution → Frame → Except Error Tree}

/-- One entry, with no failure before it, leaves the concurrent fold without a failure
exactly when the sequential fold goes on, and with the same tree, provided the levels
below succeed together and with the same trees. -/
theorem visit_none_eq_none_iff
    (hbelow : ∀ res frame tree, below res frame = .ok tree ↔ below' res frame = .ok tree)
    (tree tree' : Tree) (entry : Group × String × Specifier) :
    b.visit ancestors below (none, tree) entry = (none, tree') ↔
      b.seqVisit ancestors below' tree entry = .ok tree' := by
  obtain ⟨g, name, spec⟩ := entry
  rw [visit_none]
  simp only [Backends.seqVisit]
  by_cases hsat : b.satisfiedByAncestor name spec ancestors = true
  · simp [hsat]
  · simp only [hsat, Bool.false_eq_true, if_false]
    cases b.dispatch name spec with
    | error e => simp
    | ok res =>
      dsimp only
      cases hb : below res ⟨g, name, res.version, spec⟩ with
      | error f =>
        -- the level below fails, so the sequential evaluation fails there too
        cases hb' : below' res ⟨g, name, res.version, spec⟩ with
        | error e => simp [bind, Except.bind]
        | ok t => simp [(hbelow _ _ _).mpr hb'] at hb
      | ok deps =>
        rw [(hbelow _ _ _).mp hb]
        simp [bind, Except.bind, pure, Except.pure]

/-- A level's concurrent fold ends without a failure exactly when its sequential fold
succeeds, and then with the same tree. -/
theorem foldl_visit_none_iff
    (hbelow : ∀ res frame tree, below res frame = .ok tree ↔ below' res frame = .ok tree)
    (entries : List (Group × String × Specifier)) (tree tree' : Tree) :
    entries.foldl (b.visit ancestors below) (none, tree) = (none, tree') ↔
      entries.foldlM (b.seqVisit ancestors below') tree = .ok tree' := by
  induction entries generalizing tree with
  | nil => simp [pure, Except.pure]
  | cons entry rest ih =>
    rw [List.foldl_cons, List.foldlM_cons]
    rcases hv : b.visit ancestors below (none, tree) entry with ⟨_ | f, tree₁⟩
    · rw [(visit_none_eq_none_iff hbelow tree tree₁ entry).mp hv]
      exact ih tree₁
    · -- a failure recorded here is never cleared, and the sequential fold stops here
      have failed := @foldl_visit_failed_isSome b ancestors below rest (some f, tree₁) rfl
      cases hs : b.seqVisit ancestors below' tree entry with
      | error e =>
        constructor
        · intro h; rw [h] at failed; cases failed
        · intro h; cases h
      | ok t =>
        have := (visit_none_eq_none_iff hbelow tree t entry).mpr hs
        rw [hv] at this
        cases this

end Refinement

namespace Level

variable {b : Backends} {o : BuildOptions}

/-- A level succeeds exactly when its sequential evaluation does, with the same tree. -/
theorem outcome_eq_ok_iff (ℓ : Level) (tree : Tree) :
    ℓ.outcome b o = .ok tree ↔ ℓ.sequential b o = .ok tree := by
  induction ℓ using Level.induction_on_depth o generalizing tree with
  | deep ℓ hdeep => simp [outcome_of_deep hdeep, sequential_of_deep hdeep]
  | within ℓ hwithin ih =>
    rw [outcome_of_within hwithin, sequential_of_within hwithin, settle_eq_ok]
    exact foldl_visit_none_iff (fun res frame tree => ih res frame tree) ℓ.entries [] tree

/-- A fault of a level fails its sequential evaluation. -/
theorem sequential_error_of_fault {ℓ : Level} {e : Error} (h : Fault b o ℓ e) :
    ∃ e', ℓ.sequential b o = .error e' := by
  cases h with
  | deep hdeep => exact ⟨_, sequential_of_deep hdeep⟩
  | @refused g name spec e within mem unsat err =>
    rw [sequential_of_within within]
    refine foldlM_error_of_mem mem
      (fun tree => ⟨Error.wrap .resolutionFailed e (resolveContext g name spec), ?_⟩) []
    simp [Backends.seqVisit, unsat, err]

/-- A level whose child fails its sequential evaluation fails it too. -/
theorem sequential_error_of_child {ℓ ℓ' : Level} (step : Child b o ℓ ℓ')
    (h : ∃ e, ℓ'.sequential b o = .error e) : ∃ e, ℓ.sequential b o = .error e := by
  cases step with
  | resolve within mem unsat ok =>
    obtain ⟨e, he⟩ := h
    rw [sequential_of_within within]
    refine foldlM_error_of_mem mem (fun tree => ⟨e, ?_⟩) []
    simp [Backends.seqVisit, unsat, ok, he, bind, Except.bind]

/-- Whatever error a build may report, the sequential evaluation fails. -/
theorem sequential_error_of_mayReport {ℓ : Level} {e : Error} (h : MayReport b o ℓ e) :
    ∃ e', ℓ.sequential b o = .error e' := by
  obtain ⟨ℓ', reach, fault⟩ := h
  induction reach using Relation.ReflTransGen.head_induction_on with
  | refl => exact sequential_error_of_fault fault
  | head step _ ih => exact sequential_error_of_child step ih

/-- A level fails exactly when its sequential evaluation fails. -/
theorem outcome_error_iff_sequential (ℓ : Level) :
    (∃ f, ℓ.outcome b o = .error f) ↔ ∃ e, ℓ.sequential b o = .error e := by
  cases h : ℓ.outcome b o with
  | error f =>
    cases h' : ℓ.sequential b o with
    | error e => simp
    | ok t => rw [← outcome_eq_ok_iff, h] at h'; cases h'
  | ok t =>
    rw [outcome_eq_ok_iff] at h
    simp [h]

/-- A level fails exactly when some level it reaches has a fault. -/
theorem outcome_error_iff_mayReport (ℓ : Level) :
    (∃ f, ℓ.outcome b o = .error f) ↔ ∃ e, MayReport b o ℓ e := by
  constructor
  · rintro ⟨f, hf⟩
    exact ⟨f.error, ℓ.outcome_error_mayReport hf⟩
  · rintro ⟨e, he⟩
    exact (outcome_error_iff_sequential ℓ).mpr (sequential_error_of_mayReport he)

end Level

end DepLock
