import DepLock.Proofs.Resolve.Sequential
import DepLock.Proofs.Tree.Shape
import Mathlib.Data.Set.Finite.Basic

/-!
# The depth limit

A level checks its ancestry before it looks at its manifest: an ancestry longer than the
limit fails with `DEPTH_EXCEEDED`. The root has no ancestry and each level down adds one
frame, so the deepest levels a build opens are one past the limit, and those fail
whatever their manifests hold. The limit is 64 when the depth asked for is zero or less.

`build_depth_limit` collects what follows, for every backend and every manifest:

* a build visits finitely many levels, none more than one past the limit, so it ends
  however its backends answer, as long as each answer comes;
* a tree it returns is no higher than the limit, counting the root's dependencies as
  depth one (`Level.height_of_outcome_eq_ok`);
* once it resolves an entry one past the limit it fails, through
  `Level.outcome_error_iff_mayReport`;
* every error it returns is a resolution failure, or the depth error of a level it reaches
  one past the limit, naming the whole chain of that level (`build_error_cases`).

Finiteness comes from `Level.upTo`, a list of the levels within a number of steps: every
level reached from the root is in the list for one step more than the limit.
-/

set_option autoImplicit false

namespace DepLock

namespace Level

variable {b : Backends} {o : BuildOptions}

/-- The levels one step below a level: one for each of its entries that resolves. -/
def children (b : Backends) (o : BuildOptions) (ℓ : Level) : List Level :=
  if ℓ.ancestors.length ≤ o.maxDepth then
    ℓ.entries.filterMap fun (g, name, spec) =>
      if b.satisfiedByAncestor name spec ℓ.ancestors then none
      else match b.dispatch name spec with
        | .ok res => some (ℓ.below res ⟨g, name, res.version, spec⟩)
        | .error _ => none
  else []

/-- The levels at most `n` steps below a level. -/
def upTo (b : Backends) (o : BuildOptions) : Nat → Level → List Level
  | 0, ℓ => [ℓ]
  | n + 1, ℓ => ℓ :: (ℓ.children b o).flatMap (upTo b o n)

/-- Every level one step below is among the children of a level. -/
theorem mem_children_of_child {ℓ ℓ' : Level} (h : Child b o ℓ ℓ') : ℓ' ∈ ℓ.children b o := by
  cases h with
  | @resolve g name spec res within mem unsat ok =>
    simp only [children, if_pos within, List.mem_filterMap]
    exact ⟨(g, name, spec), mem, by simp [unsat, ok]⟩

/-- A level reached is within as many steps as there are levels between the start and one
past the limit. -/
theorem mem_upTo_of_reaches {ℓ ℓ' : Level} (h : Reaches b o ℓ ℓ') :
    ∀ n, o.maxDepth + 1 ≤ ℓ.ancestors.length + n → ℓ' ∈ ℓ.upTo b o n := by
  induction h using Relation.ReflTransGen.head_induction_on with
  | refl => intro n _; cases n <;> simp [upTo]
  | head step _ ih =>
    intro n hn
    obtain ⟨within, frame, hframe⟩ := step.ancestors_eq
    -- a step is only taken within the limit, so there is a step left to take
    obtain ⟨n, rfl⟩ : ∃ k, n = k + 1 := ⟨n - 1, by omega⟩
    simp only [upTo, List.mem_cons, List.mem_flatMap]
    refine .inr ⟨_, mem_children_of_child step, ih n ?_⟩
    rw [hframe, List.length_append, List.length_singleton]
    omega

/-- A build started anywhere visits finitely many levels. -/
theorem reaches_finite (ℓ : Level) : {ℓ' | Reaches b o ℓ ℓ'}.Finite :=
  (List.finite_toSet (ℓ.upTo b o (o.maxDepth + 1))).subset fun _ h =>
    mem_upTo_of_reaches h _ (by omega)

/-- A tree a level settles on fits in the levels left below it. -/
theorem height_of_outcome_eq_ok (ℓ : Level) {tree : Tree} (h : ℓ.outcome b o = .ok tree) :
    ℓ.ancestors.length + tree.height ≤ o.maxDepth := by
  induction ℓ using Level.induction_on_depth o generalizing tree with
  | deep ℓ hdeep =>
    rw [outcome_of_deep hdeep] at h
    cases h
  | within ℓ hwithin ih =>
    rw [outcome_of_within hwithin, settle_eq_ok] at h
    -- each node added holds a tree one level down, which fits in one level less
    have fits := @foldl_visit_tree b ℓ.ancestors (fun res frame => (ℓ.below res frame).outcome b o)
      (fun t : Tree => t.height ≤ o.maxDepth - ℓ.ancestors.length) ℓ.entries
      (fun t g name spec res deps _ _ _ hdeps ht => by
        have below := ih res _ hdeps
        simp only [below_ancestors, List.length_append, List.length_singleton] at below
        apply Tree.height_set_le ht
        simp only [Tree.entryHeight_some, Tree.height_mk]
        omega)
      (none, []) (by simp [Tree.height])
    rw [h] at fits
    simp only at fits
    omega

end Level

section Root

variable {b : Backends} {o : BuildOptions} {m : Option Manifest}

/-- A build reaches no level more than one past the limit. -/
theorem Reaches.length_le_root {ℓ : Level} (h : Reaches b o (Level.root o m) ℓ) :
    ℓ.ancestors.length ≤ o.maxDepth + 1 :=
  h.length_le (by simp)

/-- Every error of a build is a resolution failure, or the depth error of a level it
reaches one past the limit. -/
theorem build_error_cases {e : Error} (h : build b o m = .error e) :
    e.code? = some .resolutionFailed ∨
      ∃ ℓ, Reaches b o (Level.root o m) ℓ ∧ ℓ.ancestors.length = o.maxDepth + 1 ∧
        e = depthError o.maxDepth ℓ.ancestors := by
  obtain ⟨ℓ, reach, fault⟩ := build_error_mayReport h
  cases fault with
  | deep hdeep => exact .inr ⟨ℓ, reach, by have := reach.length_le_root; omega, rfl⟩
  | refused => exact .inl rfl

end Root

/-- The depth limit of a build, with the limit of 64 taken when the depth asked for is zero
or less. The levels a build visits are finitely many and none is more than one past the
limit; a tree it returns is no higher than the limit; once it resolves an entry one past
the limit, whatever that entry's manifest, it fails; and an error it returns is either a
resolution failure or the depth error of such an entry, whose message names the
`limit + 1` dependencies of its chain, shortened past eight. -/
theorem build_depth_limit (b : Backends) (d : Int) (omitDev : Bool) (m : Option Manifest) :
    let o := BuildOptions.ofRequest d omitDev
    o.maxDepth = (if d ≤ 0 then 64 else d.toNat) ∧
    {ℓ | Reaches b o (Level.root o m) ℓ}.Finite ∧
    (∀ ℓ, Reaches b o (Level.root o m) ℓ → ℓ.ancestors.length ≤ o.maxDepth + 1) ∧
    (∀ tree, build b o m = .ok tree → tree.height ≤ o.maxDepth) ∧
    (∀ ℓ, Reaches b o (Level.root o m) ℓ → ℓ.ancestors.length = o.maxDepth + 1 →
      ∃ e, build b o m = .error e) ∧
    (∀ e, build b o m = .error e → e.code? = some .resolutionFailed ∨
      ∃ ℓ, Reaches b o (Level.root o m) ℓ ∧ ℓ.ancestors.length = o.maxDepth + 1 ∧
        e = depthError o.maxDepth ℓ.ancestors ∧
        e.text = "DEPTH_EXCEEDED: dependency chain deeper than " ++ toString o.maxDepth ++ ": " ++
          chainText ℓ.ancestors) := by
  intro o
  refine ⟨rfl, Level.reaches_finite _, fun ℓ h => h.length_le_root, ?_, ?_, ?_⟩
  · intro tree h
    have := (Level.root o m).height_of_outcome_eq_ok (Level.build_eq_ok_iff.mp h)
    simpa using this
  · intro ℓ reach hdeep
    -- the level one past the limit is a fault, and a fault fails the build
    have fault : Fault b o ℓ (depthError o.maxDepth ℓ.ancestors) := .deep (by omega)
    obtain ⟨f, hf⟩ := (Level.root o m).outcome_error_iff_mayReport.mpr ⟨_, ℓ, reach, fault⟩
    exact ⟨f.error, Level.build_eq_error_iff.mpr ⟨f, hf, rfl⟩⟩
  · intro e h
    rcases build_error_cases h with h | ⟨ℓ, reach, hlen, rfl⟩
    · exact .inl h
    · exact .inr ⟨ℓ, reach, hlen, rfl, rfl⟩

end DepLock
