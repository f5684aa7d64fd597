import DepLock.Proofs.Resolve.Depth

/-!
# Cycles are cut by the outermost ancestor

An entry whose name already occurs in its ancestry is skipped when that occurrence
satisfies it: its version is in the requested range, or, for a local or source-host
specifier, it was declared with the same text. Only the outermost occurrence is looked
at (`OutermostSatisfies`, the reading of `Backends.satisfiedByAncestor`). A frame of the
same name further in counts for nothing, even when it would satisfy the entry.

`outermost_ancestor_cuts` states the rule for every build:

* in the tree of a level, an entry has a node exactly when the outermost ancestor of its
  name does not satisfy it;
* every ancestry a build reaches is `Uncut`: no frame in it is satisfied by the
  outermost earlier frame of its name. The chain that a `DEPTH_EXCEEDED` error names is
  one of these.

`inner_ancestor_does_not_cut` shows that a package whose versions keep asking for
themselves is resolved again below a version that satisfies the request, because an
older version of it stands further out, and the build runs into the depth limit.
-/

set_option autoImplicit false

namespace DepLock

/-- The outermost frame named `name` in an ancestry satisfies a specifier: its version is
in the range, or the specifier is not a range and the frame was declared with the same
text. Frames of that name further in do not count. -/
def OutermostSatisfies (b : Backends) (name : String) (spec : Specifier)
    (ancestors : List Frame) : Prop :=
  ∃ f, ancestors.find? (·.name == name) = some f ∧
    (b.satisfies f.version spec.raw = true ∨ (spec.kind ≠ .range ∧ f.spec.raw = spec.raw))

/-- An ancestry in which no frame is satisfied by the outermost earlier frame of its name. -/
def Uncut (b : Backends) (ancestors : List Frame) : Prop :=
  ∀ before f after, ancestors = before ++ f :: after → ¬ OutermostSatisfies b f.name f.spec before

section Rule

variable {b : Backends}

/-- The builder skips an entry exactly when the outermost ancestor of its name satisfies it. -/
theorem satisfiedByAncestor_eq_true_iff {name : String} {spec : Specifier}
    {ancestors : List Frame} :
    b.satisfiedByAncestor name spec ancestors = true ↔
      OutermostSatisfies b name spec ancestors := by
  unfold Backends.satisfiedByAncestor OutermostSatisfies
  cases ancestors.find? (·.name == name) with
  | none => simp
  | some f => simp

/-- The empty ancestry is uncut. -/
theorem Uncut.nil : Uncut b [] := by
  intro before f after h
  simp at h

/-- An ancestry stays uncut when the frame added is not satisfied by the outermost
earlier frame of its name. -/
theorem Uncut.concat {ancestors : List Frame} {f : Frame} (h : Uncut b ancestors)
    (hf : ¬ OutermostSatisfies b f.name f.spec ancestors) : Uncut b (ancestors ++ [f]) := by
  intro before f' after hsplit
  rcases List.eq_nil_or_concat after with rfl | ⟨after', y, rfl⟩
  · -- the frame split off is the one added
    obtain ⟨rfl, hlast⟩ := List.append_inj' hsplit rfl
    simp only [List.cons.injEq, and_true] at hlast
    rw [← hlast]
    exact hf
  · have hsplit' : ancestors ++ [f] = (before ++ f' :: after') ++ [y] := by
      rw [hsplit]
      simp
    exact h before f' after' (List.append_inj' hsplit' rfl).1

end Rule

section Tree

variable {b : Backends}

/-- The entries of a manifest's groups: for each group asked for and each of its names, the
specifier the group's table gives that name. -/
theorem Manifest.mem_entriesAt {m : Manifest} {groups : List Group} {g : Group}
    {name : String} {spec : Specifier} :
    (g, name, spec) ∈ m.entriesAt groups ↔ g ∈ groups ∧ name ∈ m.names g ∧
      spec = (((m.group? g).getD Table.empty).get? name).getD (Specifier.ofRaw "") := by
  simp only [Manifest.entriesAt, List.mem_flatMap, List.mem_map, Prod.mk.injEq]
  constructor
  · rintro ⟨g', hg', name', hname', rfl, rfl, rfl⟩
    exact ⟨hg', hname', rfl⟩
  · rintro ⟨hg, hname, rfl⟩
    exact ⟨g, hg, name, hname, rfl, rfl, rfl⟩

/-- Two entries of a level with the same group name and name have the same specifier. -/
theorem Level.spec_eq_of_mem_entries {ℓ : Level} {g g' : Group} {name : String}
    {spec spec' : Specifier} (h : (g, name, spec) ∈ ℓ.entries) (h' : (g', name, spec') ∈ ℓ.entries)
    (hg : g.name = g'.name) : spec = spec' := by
  have hgroup : g = g' := by
    cases g
    cases g'
    simpa using hg
  subst hgroup
  rw [Level.entries, Manifest.mem_entriesAt] at h h'
  rw [h.2.2, h'.2.2]

/-- After a successful sequential fold, a group and name have an entry exactly when they had
one before, or an entry of the fold with that group name and name was not satisfied by
an ancestor. -/
theorem foldlM_seqVisit_get_isSome {ancestors : List Frame}
    {below : Resolution → Frame → Except Error Tree} {entries : List (Group × String × Specifier)}
    {tree₀ tree : Tree} (h : entries.foldlM (b.seqVisit ancestors below) tree₀ = .ok tree)
    (gn n : String) :
    (tree.get gn n).isSome ↔ (tree₀.get gn n).isSome ∨
      ∃ e ∈ entries, e.1.name = gn ∧ e.2.1 = n ∧
        b.satisfiedByAncestor e.2.1 e.2.2 ancestors = false := by
  induction entries generalizing tree₀ with
  | nil =>
    simp only [List.foldlM_nil, pure, Except.pure, Except.ok.injEq] at h
    subst h
    simp
  | cons entry rest ih =>
    obtain ⟨g, name, spec⟩ := entry
    rw [List.foldlM_cons] at h
    cases hstep : b.seqVisit ancestors below tree₀ (g, name, spec) with
    | error e => rw [hstep] at h; cases h
    | ok tree₁ =>
      rw [hstep] at h
      rw [ih h]
      simp only [List.mem_cons, or_and_right, exists_or, exists_eq_left]
      rcases seqVisit_eq_ok hstep with ⟨hsat, rfl⟩ | ⟨unsat, res, deps, -, -, rfl⟩
      · -- a skipped entry sets nothing, and an ancestor satisfies it
        simp [hsat]
      · -- a resolved entry sets its own group and name, and no other
        by_cases hkey : (gn, n) = (g.name, name)
        · obtain ⟨rfl, rfl⟩ := Prod.mk.inj hkey
          simp [Tree.get_set_self, unsat]
        · rw [Tree.get_set_of_ne _ hkey]
          have other : ¬ (g.name = gn ∧ name = n) := fun ⟨hg, hn⟩ => hkey (by rw [hg, hn])
          simp only [← and_assoc, other, false_and, false_or]

/-- In the tree of a level, an entry has a node exactly when the outermost ancestor of its
name does not satisfy it. -/
theorem Level.get_isSome_iff {o : BuildOptions} {ℓ : Level} {g : Group} {name : String}
    {spec : Specifier} {tree : Tree} (hmem : (g, name, spec) ∈ ℓ.entries)
    (h : ℓ.outcome b o = .ok tree) :
    (tree.get g.name name).isSome ↔ ¬ OutermostSatisfies b name spec ℓ.ancestors := by
  rw [Level.outcome_eq_ok_iff] at h
  by_cases hdeep : o.maxDepth < ℓ.ancestors.length
  · rw [Level.sequential_of_deep hdeep] at h
    cases h
  rw [Level.sequential_of_within (by omega)] at h
  rw [foldlM_seqVisit_get_isSome h, ← satisfiedByAncestor_eq_true_iff]
  simp only [Tree.get, lookupKeyed, List.find?_nil, Option.map_none, Option.isSome_none,
    Bool.false_eq_true, false_or, Bool.not_eq_true]
  constructor
  · -- the entry found has the same group and name, so the same specifier
    rintro ⟨⟨g', name', spec'⟩, hmem', hg, rfl, hunsat⟩
    rwa [Level.spec_eq_of_mem_entries hmem hmem' hg.symm]
  · intro hunsat
    exact ⟨(g, name, spec), hmem, rfl, rfl, hunsat⟩

end Tree

section Reach

variable {b : Backends} {o : BuildOptions} {m : Option Manifest}

/-- Every ancestry a build reaches is uncut: a frame is added only for an entry that the
outermost earlier frame of its name does not satisfy. -/
theorem Reaches.uncut {ℓ : Level} (h : Reaches b o (Level.root o m) ℓ) :
    Uncut b ℓ.ancestors := by
  induction h with
  | refl => exact Uncut.nil
  | tail _ step ih =>
    cases step with
    | resolve within mem unsat ok =>
      rw [Level.below_ancestors]
      exact ih.concat (by rw [← satisfiedByAncestor_eq_true_iff, unsat]; simp)

end Reach

/-- Cycles are cut by the outermost ancestor of a name, and by nothing else. In the tree of
a level an entry has a node exactly when the outermost frame of its name in the ancestry
does not satisfy it. Every ancestry a build reaches, the chain of a `DEPTH_EXCEEDED`
error included, has no frame satisfied by the outermost earlier frame of its name. -/
theorem outermost_ancestor_cuts (b : Backends) (o : BuildOptions) (m : Option Manifest) :
    (∀ (ℓ : Level) g name spec tree, (g, name, spec) ∈ ℓ.entries → ℓ.outcome b o = .ok tree →
      ((tree.get g.name name).isSome ↔ ¬ OutermostSatisfies b name spec ℓ.ancestors)) ∧
    (∀ ℓ, Reaches b o (Level.root o m) ℓ → Uncut b ℓ.ancestors) ∧
    (∀ e, build b o m = .error e → e.code? = some .depthExceeded →
      ∃ ℓ, Reaches b o (Level.root o m) ℓ ∧ e = depthError o.maxDepth ℓ.ancestors ∧
        Uncut b ℓ.ancestors) := by
  refine ⟨fun ℓ g name spec tree hmem h => Level.get_isSome_iff hmem h,
    fun ℓ h => h.uncut, ?_⟩
  intro e h hcode
  rcases build_error_cases h with hres | ⟨ℓ, reach, -, rfl⟩
  · rw [hres] at hcode
    cases hcode
  · exact ⟨ℓ, reach, rfl, reach.uncut⟩

/-- A manifest that declares only `a`, as a production dependency in the range `range`. -/
def requiresA (range : String) : Manifest :=
  ⟨"", "", ⟨[(Group.production.name, ⟨[("a", ⟨.range, range⟩)], List.pairwise_singleton _ _⟩)],
    List.pairwise_singleton _ _⟩⟩

/-- A registry with one package `a`, every version of which requires `a@^2`: the range
`^1` resolves to `1.0.0` and any other range to `2.0.0`. Versions match by semver. -/
def selfRequiring : Backends :=
  ⟨none, some fun _ range => .ok (some ⟨if range = "^1" then "1.0.0" else "2.0.0", requiresA "^2"⟩),
    none, Semver.library.satisfies⟩

/-- Under `a@1.0.0` and then `a@2.0.0`, the entry `a@^2` is resolved again although the
inner ancestor `a@2.0.0` satisfies it: only the outermost ancestor, `a@1.0.0`, is looked
at. With a depth limit of 3 the build then fails with `DEPTH_EXCEEDED` on `a > a > a > a`. -/
theorem inner_ancestor_does_not_cut :
    let o : BuildOptions := ⟨3, false⟩
    let root := Level.root o (some (requiresA "^1"))
    let first := root.below ⟨"1.0.0", requiresA "^2"⟩ ⟨Group.production, "a", "1.0.0", ⟨.range, "^1"⟩⟩
    let inner := first.below ⟨"2.0.0", requiresA "^2"⟩ ⟨Group.production, "a", "2.0.0", ⟨.range, "^2"⟩⟩
    let again := inner.below ⟨"2.0.0", requiresA "^2"⟩ ⟨Group.production, "a", "2.0.0", ⟨.range, "^2"⟩⟩
    Reaches selfRequiring o root inner ∧
    (Group.production, "a", ⟨.range, "^2"⟩) ∈ inner.entries ∧
    (∃ f ∈ inner.ancestors, f.name = "a" ∧ selfRequiring.satisfies f.version "^2" = true) ∧
    Child selfRequiring o inner again ∧
    ∃ e, build selfRequiring o (some (requiresA "^1")) = .error e ∧
      e.text = "DEPTH_EXCEEDED: dependency chain deeper than 3: a > a > a > a" := by
  intro o root first inner again
  have step₁ : Child selfRequiring o root first := .resolve (by decide) (by decide) (by decide) rfl
  have step₂ : Child selfRequiring o first inner := .resolve (by decide) (by decide) (by decide) rfl
  refine ⟨.tail (.single step₁) step₂, by decide, ⟨_, List.mem_cons_of_mem _ List.mem_cons_self, rfl,
    by decide⟩, .resolve (by decide) (by decide) (by decide) rfl, _, rfl, by decide⟩

end DepLock
