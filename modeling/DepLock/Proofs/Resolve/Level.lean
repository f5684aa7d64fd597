import DepLock.Resolve.Builder
import Mathlib.Logic.Relation
import Mathlib.Tactic.SplitIfs

/-!
# The levels of a build

A build works level by level. A *level* is a manifest to resolve, the frames of the
dependencies that led to it, and whether its development group counts. The root level
has the manifest given, no frames, and its development group unless that is left out.
Each entry of a level that no ancestor satisfies goes to the backend of its kind, and
the manifest the backend answers with is a level one frame deeper.

This file states that process as a relation, so that what a build does can be said
without its fuel and without the order in which siblings finish:

* `Child` is one step: an entry resolves and opens the level below it;
* `Reaches` is any number of steps;
* `Fault` is a level failing by itself: deeper than the limit, or with an entry that its
  backend refuses;
* `MayReport` is a fault of some level reached; `DepLock.Proofs.Resolve.Concurrent` proves
  that these are exactly the errors that the concurrent runs of a build report.

`Level.outcome` is `buildLevel` with the fuel that a build gives a level at its depth.
`Level.outcome_of_deep` and `Level.outcome_of_within` unfold it with the fuel gone, and
`Level.induction_on_depth` is the induction that proofs about levels follow, from the
deepest levels up. `visit_cases` says what one entry does to the fold of a level, and
`foldl_visit_induction` lifts a property that every entry keeps to the whole fold. From it,
a recorded failure is never cleared, and every failure recorded is the refusal of an
entry or a failure from the level below one.
-/

set_option autoImplicit false

namespace DepLock

/-- A level of a build: the manifest being resolved, the frames of the dependencies that
led to it, outermost first, and whether its development group counts. -/
structure Level where
  manifest : Option Manifest
  ancestors : List Frame
  dev : Bool

namespace Level

/-- The level a build starts at. -/
def root (o : BuildOptions) (m : Option Manifest) : Level := ⟨m, [], !o.omitDev⟩

/-- The entries a level resolves, in order: those of its deduplicated manifest, group by
group and by name. -/
def entries (ℓ : Level) : List (Group × String × Specifier) :=
  (cloneManifest ℓ.manifest).dedupe.1.entriesAt (groupsAt ℓ.dev)

/-- The level below an entry that resolved to `res`, recorded by `frame`. -/
def below (ℓ : Level) (res : Resolution) (frame : Frame) : Level :=
  ⟨some res.manifest, ℓ.ancestors ++ [frame], false⟩

/-- The root level has no ancestors. -/
@[simp] theorem root_ancestors (o : BuildOptions) (m : Option Manifest) :
    (root o m).ancestors = [] := rfl

/-- The level below an entry has the entry's frame as its last ancestor. -/
@[simp] theorem below_ancestors (ℓ : Level) (res : Resolution) (frame : Frame) :
    (ℓ.below res frame).ancestors = ℓ.ancestors ++ [frame] := rfl

/-- Induction from the deepest levels up: a level deeper than the limit is a base case,
and a level within it may assume the property of every level below it. This is the
recursion of a build, which ends because each level down adds one frame. -/
theorem induction_on_depth (o : BuildOptions) {motive : Level → Prop}
    (deep : ∀ ℓ : Level, o.maxDepth < ℓ.ancestors.length → motive ℓ)
    (within : ∀ ℓ : Level, ℓ.ancestors.length ≤ o.maxDepth →
      (∀ res frame, motive (ℓ.below res frame)) → motive ℓ)
    (ℓ : Level) : motive ℓ := by
  by_cases h : o.maxDepth < ℓ.ancestors.length
  · exact deep ℓ h
  · exact within ℓ (by omega) fun res frame =>
      induction_on_depth o deep within (ℓ.below res frame)
termination_by o.maxDepth + 1 - ℓ.ancestors.length
decreasing_by simp; omega

/-- What a level comes to: `buildLevel` with the fuel that a build gives a level at this
depth, one more than the number of levels still allowed below it. -/
def outcome (b : Backends) (o : BuildOptions) (ℓ : Level) : Except Failure Tree :=
  buildLevel b o (o.maxDepth + 1 - ℓ.ancestors.length) ℓ.manifest ℓ.ancestors ℓ.dev

/-- The end of a level's fold: the failure recorded, or else the tree. -/
def settle : Option Failure × Tree → Except Failure Tree
  | (some f, _) => .error f
  | (none, tree) => .ok tree

/-- A fold settles as a tree exactly when it recorded no failure. -/
@[simp] theorem settle_eq_ok {acc : Option Failure × Tree} {tree : Tree} :
    settle acc = .ok tree ↔ acc = (none, tree) := by
  obtain ⟨_ | f, t⟩ := acc <;> simp [settle]

/-- A fold settles as a failure exactly when it recorded that failure. -/
@[simp] theorem settle_eq_error {acc : Option Failure × Tree} {f : Failure} :
    settle acc = .error f ↔ acc.1 = some f := by
  obtain ⟨_ | f', t⟩ := acc <;> simp [settle]

variable {b : Backends} {o : BuildOptions}

/-- A build is the outcome of its root level. -/
theorem build_eq_outcome (b : Backends) (o : BuildOptions) (m : Option Manifest) :
    build b o m = ((root o m).outcome b o).mapError (·.error) := rfl

/-- A build gives a tree exactly when its root level does. -/
theorem build_eq_ok_iff {m : Option Manifest} {tree : Tree} :
    build b o m = .ok tree ↔ (root o m).outcome b o = .ok tree := by
  rw [build_eq_outcome]
  cases (root o m).outcome b o <;> simp [Except.mapError]

/-- A build fails with an error exactly when its root level fails with that error. -/
theorem build_eq_error_iff {m : Option Manifest} {e : Error} :
    build b o m = .error e ↔ ∃ f, (root o m).outcome b o = .error f ∧ f.error = e := by
  rw [build_eq_outcome]
  cases (root o m).outcome b o <;> simp [Except.mapError]

/-- A level deeper than the limit fails at once, naming its ancestry. -/
theorem outcome_of_deep {ℓ : Level} (h : o.maxDepth < ℓ.ancestors.length) :
    ℓ.outcome b o = .error ⟨depthError o.maxDepth ℓ.ancestors, ℓ.ancestors.length⟩ := by
  unfold outcome
  rw [show o.maxDepth + 1 - ℓ.ancestors.length = 0 by omega]
  rfl

/-- A level within the limit folds its entries, each resolved against the outcome of the
level below it. -/
theorem outcome_of_within {ℓ : Level} (h : ℓ.ancestors.length ≤ o.maxDepth) :
    ℓ.outcome b o = settle (ℓ.entries.foldl
      (b.visit ℓ.ancestors fun res frame => (ℓ.below res frame).outcome b o) (none, [])) := by
  -- the fuel of the level below is one less, whichever frame it adds
  have fuel : o.maxDepth + 1 - ℓ.ancestors.length = (o.maxDepth - ℓ.ancestors.length) + 1 := by
    omega
  have fuel_below : ∀ res frame, (ℓ.below res frame).outcome b o =
      buildLevel b o (o.maxDepth - ℓ.ancestors.length) (some res.manifest)
        (ℓ.ancestors ++ [frame]) false := by
    intro res frame
    simp only [outcome, below, List.length_append, List.length_singleton]
    congr 1
    omega
  simp only [fuel_below]
  rw [outcome, fuel, buildLevel, if_neg (by omega)]
  rfl

end Level

/-- The failure reported first is one of the two it chooses between, so it has every
property both of them have. -/
theorem firstFailure_prop {P : Failure → Prop} {current : Option Failure} {later : Failure}
    (hcurrent : ∀ f, current = some f → P f) (hlater : P later) :
    P (firstFailure current later) := by
  cases current with
  | none => exact hlater
  | some f =>
    by_cases h : later.step < f.step
    · simpa [firstFailure, h] using hlater
    · simpa [firstFailure, h] using hcurrent f rfl

section Visit

variable {b : Backends} {ancestors : List Frame} {below : Resolution → Frame → Except Failure Tree}

/-- What one entry does to the fold of a level. Either the fold stays as it is (an
ancestor satisfies the entry, or a failure already recorded would be reported before any
failure under it), or the entry goes to its backend, and then the fold records the
backend's refusal, or a failure of the level below, or the entry's node. -/
theorem visit_cases (failed : Option Failure) (tree : Tree) (g : Group) (name : String)
    (spec : Specifier) :
    b.visit ancestors below (failed, tree) (g, name, spec) = (failed, tree) ∨
    b.satisfiedByAncestor name spec ancestors = false ∧
      ((∃ e, b.dispatch name spec = .error e ∧
          b.visit ancestors below (failed, tree) (g, name, spec) =
            (some (firstFailure failed
              ⟨Error.wrap .resolutionFailed e (resolveContext g name spec), ancestors.length + 1⟩),
              tree)) ∨
        ∃ res, b.dispatch name spec = .ok res ∧
          ((∃ f, below res ⟨g, name, res.version, spec⟩ = .error f ∧
              b.visit ancestors below (failed, tree) (g, name, spec) =
                (some (firstFailure failed f), tree)) ∨
            ∃ deps, below res ⟨g, name, res.version, spec⟩ = .ok deps ∧
              b.visit ancestors below (failed, tree) (g, name, spec) =
                (failed, tree.set g.name name (some (.mk res.version deps))))) := by
  simp only [Backends.visit]
  split_ifs with hskip
  · exact .inl rfl
  · refine .inr ⟨by simp_all, ?_⟩
    cases b.dispatch name spec with
    | error e => exact .inl ⟨e, rfl, rfl⟩
    | ok res =>
      refine .inr ⟨res, rfl, ?_⟩
      dsimp only
      cases below res ⟨g, name, res.version, spec⟩ with
      | error f => exact .inl ⟨f, rfl, rfl⟩
      | ok deps => exact .inr ⟨deps, rfl, rfl⟩

/-- From a fold with no failure yet, an entry is skipped exactly when an ancestor
satisfies it; otherwise its refusal, the failure below it, or its node is recorded. -/
theorem visit_none (tree : Tree) (g : Group) (name : String) (spec : Specifier) :
    b.visit ancestors below (none, tree) (g, name, spec) =
      if b.satisfiedByAncestor name spec ancestors then (none, tree)
      else match b.dispatch name spec with
        | .error e =>
          (some ⟨Error.wrap .resolutionFailed e (resolveContext g name spec), ancestors.length + 1⟩,
            tree)
        | .ok res =>
          match below res ⟨g, name, res.version, spec⟩ with
          | .error f => (some f, tree)
          | .ok deps => (none, tree.set g.name name (some (.mk res.version deps))) := rfl

/-- The fold rule of a level: a property of the fold's state holds at its end when it holds
at its start and survives each of the three things an entry sent to its backend does,
recording its refusal, recording a failure from below it, or adding its node. A skipped
entry changes nothing, so it needs no case. -/
theorem foldl_visit_induction {I : Option Failure × Tree → Prop}
    {entries : List (Group × String × Specifier)}
    (refused : ∀ failed tree g name spec e, (g, name, spec) ∈ entries →
      b.satisfiedByAncestor name spec ancestors = false → b.dispatch name spec = .error e →
      I (failed, tree) →
      I (some (firstFailure failed
        ⟨Error.wrap .resolutionFailed e (resolveContext g name spec), ancestors.length + 1⟩), tree))
    (nested : ∀ failed tree g name spec res f, (g, name, spec) ∈ entries →
      b.satisfiedByAncestor name spec ancestors = false → b.dispatch name spec = .ok res →
      below res ⟨g, name, res.version, spec⟩ = .error f →
      I (failed, tree) → I (some (firstFailure failed f), tree))
    (added : ∀ failed tree g name spec res deps, (g, name, spec) ∈ entries →
      b.satisfiedByAncestor name spec ancestors = false → b.dispatch name spec = .ok res →
      below res ⟨g, name, res.version, spec⟩ = .ok deps →
      I (failed, tree) → I (failed, tree.set g.name name (some (.mk res.version deps))))
    (acc : Option Failure × Tree) (hacc : I acc) :
    I (entries.foldl (b.visit ancestors below) acc) := by
  induction entries generalizing acc with
  | nil => exact hacc
  | cons entry rest ih =>
    have tail {e} (h : e ∈ rest) : e ∈ entry :: rest := List.mem_cons_of_mem _ h
    apply ih (fun failed tree g name spec e hmem => refused failed tree g name spec e (tail hmem))
      (fun failed tree g name spec res f hmem => nested failed tree g name spec res f (tail hmem))
      (fun failed tree g name spec res deps hmem => added failed tree g name spec res deps (tail hmem))
    obtain ⟨failed, tree⟩ := acc
    obtain ⟨g, name, spec⟩ := entry
    rcases @visit_cases b ancestors below failed tree g name spec
      with h | ⟨unsat, ⟨e, he, h⟩ | ⟨res, hres, ⟨f, hf, h⟩ | ⟨deps, hdeps, h⟩⟩⟩ <;> rw [h]
    · exact hacc
    · exact refused failed tree g name spec e List.mem_cons_self unsat he hacc
    · exact nested failed tree g name spec res f List.mem_cons_self unsat hres hf hacc
    · exact added failed tree g name spec res deps List.mem_cons_self unsat hres hdeps hacc

/-- Once a failure is recorded, the fold of a level ends in a failure. -/
theorem foldl_visit_failed_isSome (entries : List (Group × String × Specifier))
    (acc : Option Failure × Tree) (h : acc.1.isSome) :
    (entries.foldl (b.visit ancestors below) acc).1.isSome :=
  foldl_visit_induction (I := fun acc => acc.1.isSome)
    (fun _ _ _ _ _ _ _ _ _ _ => rfl) (fun _ _ _ _ _ _ _ _ _ _ _ _ => rfl)
    (fun _ _ _ _ _ _ _ _ _ _ _ h => h) acc h

/-- Every failure a level's fold records is admitted by `P`, when `P` admits the refusal
of each entry that no ancestor satisfies and each failure from below such an entry. -/
theorem foldl_visit_failure {P : Failure → Prop} {entries : List (Group × String × Specifier)}
    (refused : ∀ g name spec e, (g, name, spec) ∈ entries →
      b.satisfiedByAncestor name spec ancestors = false → b.dispatch name spec = .error e →
      P ⟨Error.wrap .resolutionFailed e (resolveContext g name spec), ancestors.length + 1⟩)
    (nested : ∀ g name spec res f, (g, name, spec) ∈ entries →
      b.satisfiedByAncestor name spec ancestors = false → b.dispatch name spec = .ok res →
      below res ⟨g, name, res.version, spec⟩ = .error f → P f)
    (acc : Option Failure × Tree) (hacc : ∀ f, acc.1 = some f → P f) :
    ∀ f, (entries.foldl (b.visit ancestors below) acc).1 = some f → P f := by
  -- the failure recorded is always the first of two that both satisfy `P`
  refine foldl_visit_induction (I := fun acc => ∀ f, acc.1 = some f → P f) ?_ ?_
    (fun _ _ _ _ _ _ _ _ _ _ _ h => h) acc hacc
  · intro failed tree g name spec e hmem unsat he h
    simpa using firstFailure_prop h (refused g name spec e hmem unsat he)
  · intro failed tree g name spec res f hmem unsat hres hf h
    simpa using firstFailure_prop h (nested g name spec res f hmem unsat hres hf)

/-- A property of trees holds of the tree a level's fold ends with, when it holds of the
tree the fold starts with and survives adding the node of an entry whose level below
succeeds. -/
theorem foldl_visit_tree {Q : Tree → Prop} {entries : List (Group × String × Specifier)}
    (added : ∀ tree g name spec res deps, (g, name, spec) ∈ entries →
      b.satisfiedByAncestor name spec ancestors = false → b.dispatch name spec = .ok res →
      below res ⟨g, name, res.version, spec⟩ = .ok deps →
      Q tree → Q (tree.set g.name name (some (.mk res.version deps))))
    (acc : Option Failure × Tree) (hacc : Q acc.2) :
    Q (entries.foldl (b.visit ancestors below) acc).2 :=
  foldl_visit_induction (I := fun acc => Q acc.2)
    (fun _ _ _ _ _ _ _ _ _ h => h) (fun _ _ _ _ _ _ _ _ _ _ _ h => h)
    (fun _ tree g name spec res deps => added tree g name spec res deps) acc hacc

end Visit

/-- One step of a build: an entry of a level within the limit that no ancestor satisfies
resolves, and the manifest it resolves to is the level below, one frame deeper. -/
inductive Child (b : Backends) (o : BuildOptions) : Level → Level → Prop
  | resolve {ℓ : Level} {g : Group} {name : String} {spec : Specifier} {res : Resolution}
      (within : ℓ.ancestors.length ≤ o.maxDepth)
      (mem : (g, name, spec) ∈ ℓ.entries)
      (unsat : b.satisfiedByAncestor name spec ℓ.ancestors = false)
      (ok : b.dispatch name spec = .ok res) :
      Child b o ℓ (ℓ.below res ⟨g, name, res.version, spec⟩)

/-- The levels a build started at one level visits. -/
def Reaches (b : Backends) (o : BuildOptions) : Level → Level → Prop :=
  Relation.ReflTransGen (Child b o)

/-- How a level fails by itself: its ancestry is deeper than the limit, or the backend
refuses one of its entries that no ancestor satisfies, and the refusal is filed under
that entry's group, name and specifier. -/
inductive Fault (b : Backends) (o : BuildOptions) : Level → Error → Prop
  | deep {ℓ : Level} (h : o.maxDepth < ℓ.ancestors.length) :
      Fault b o ℓ (depthError o.maxDepth ℓ.ancestors)
  | refused {ℓ : Level} {g : Group} {name : String} {spec : Specifier} {e : Error}
      (within : ℓ.ancestors.length ≤ o.maxDepth)
      (mem : (g, name, spec) ∈ ℓ.entries)
      (unsat : b.satisfiedByAncestor name spec ℓ.ancestors = false)
      (err : b.dispatch name spec = .error e) :
      Fault b o ℓ (Error.wrap .resolutionFailed e (resolveContext g name spec))

/-- The errors a build started at `ℓ` may report: the faults of the levels it reaches. That
these are exactly the errors the concurrent runs of the build report, over every order of
completion, is `runs_error_iff_mayReport` (`DepLock.Proofs.Resolve.Concurrent`). -/
def MayReport (b : Backends) (o : BuildOptions) (ℓ : Level) (e : Error) : Prop :=
  ∃ ℓ', Reaches b o ℓ ℓ' ∧ Fault b o ℓ' e

section Steps

variable {b : Backends} {o : BuildOptions} {ℓ ℓ' : Level}

/-- A step starts from a level within the limit and adds one frame. -/
theorem Child.ancestors_eq (h : Child b o ℓ ℓ') :
    ℓ.ancestors.length ≤ o.maxDepth ∧ ∃ frame, ℓ'.ancestors = ℓ.ancestors ++ [frame] := by
  cases h with
  | resolve within _ _ _ => exact ⟨within, _, rfl⟩

/-- A build goes at most one level past the limit: from a level no deeper than that, every
level reached is no deeper either. -/
theorem Reaches.length_le (h : Reaches b o ℓ ℓ') (h₀ : ℓ.ancestors.length ≤ o.maxDepth + 1) :
    ℓ'.ancestors.length ≤ o.maxDepth + 1 := by
  induction h with
  | refl => exact h₀
  | tail _ step _ =>
    obtain ⟨within, frame, hframe⟩ := step.ancestors_eq
    rw [hframe, List.length_append, List.length_singleton]
    omega

/-- A level may report a fault of its own. -/
theorem MayReport.of_fault {e : Error} (h : Fault b o ℓ e) : MayReport b o ℓ e :=
  ⟨ℓ, Relation.ReflTransGen.refl, h⟩

/-- A level may report what a level one step below may report. -/
theorem MayReport.of_child {e : Error} (step : Child b o ℓ ℓ') (h : MayReport b o ℓ' e) :
    MayReport b o ℓ e := by
  obtain ⟨ℓ'', reach, fault⟩ := h
  exact ⟨ℓ'', Relation.ReflTransGen.head step reach, fault⟩

/-- Every failure of a level is a fault of a level it reaches: a build makes up no error
of its own, and a failure from below comes back unchanged. -/
theorem Level.outcome_error_mayReport (ℓ : Level) {f : Failure} (h : ℓ.outcome b o = .error f) :
    MayReport b o ℓ f.error := by
  induction ℓ using Level.induction_on_depth o generalizing f with
  | deep ℓ hdeep =>
    rw [Level.outcome_of_deep hdeep] at h
    cases h
    exact MayReport.of_fault (.deep hdeep)
  | within ℓ hwithin ih =>
    rw [Level.outcome_of_within hwithin, Level.settle_eq_error] at h
    refine foldl_visit_failure (P := fun f => MayReport b o ℓ f.error) ?_ ?_ (none, [])
      (by simp) f h
    · intro g name spec e hmem unsat he
      exact MayReport.of_fault (.refused hwithin hmem unsat he)
    · intro g name spec res f hmem unsat hres hf
      exact MayReport.of_child (.resolve hwithin hmem unsat hres) (ih res _ hf)

end Steps

/-- Every error of a build is a fault of a level it reaches. -/
theorem build_error_mayReport {b : Backends} {o : BuildOptions} {m : Option Manifest} {e : Error}
    (h : build b o m = .error e) : MayReport b o (Level.root o m) e := by
  obtain ⟨f, hf, rfl⟩ := Level.build_eq_error_iff.mp h
  exact (Level.root o m).outcome_error_mayReport hf

end DepLock
