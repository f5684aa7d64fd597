import DepLock.Proofs.Resolve.Cycle
import DepLock.Proofs.Keyed

/-!
# Optional entries override identical production entries

`Manifest.dedupe` drops a production entry when the optional group declares the same name
with the very same specifier text (`Manifest.DeclaredAlike`), so that the dependency is
resolved once, as optional. Texts that differ, even when they mean the same range, leave
both entries in place.

What one call does is said through `Manifest.specOf`, the specifier a group gives a name:

* `specOf_dedupe_production`: a production name keeps its specifier unless it was
  removed, and `mem_dedupe_removed` says the names removed are exactly the ones declared
  alike; they come in byte order (`dedupe_removed_sorted`);
* `group?_dedupe_of_ne`: every other group, the optional one included, is left as it is;
* `dedupe_dedupe_removed`: a second call finds nothing to remove.

A build deduplicates the manifest of every level before it resolves it, so at the root and
below every dependency (`Level.entries_alike`) a name declared alike is resolved once, under
the optional group, and its production entry never reaches the tree
(`Level.get_production_of_alike`), while names declared differently are resolved in both
groups (`Level.entries_unlike`). `optional_overrides_identical_production` puts the two
together.
-/

set_option autoImplicit false

namespace DepLock

namespace Table

variable {α : Type}

/-- After an insertion the key inserted has the new value and every other key its old one. -/
theorem get?_insert (t : Table α) (k j : String) (v : α) :
    (t.insert k v).get? j = if j = k then some v else t.get? j := by
  simp only [insert, Table.get?_eq_lookupKeyed, Table.insertEntry_eq_insertKeyed]
  split_ifs with h
  · subst h
    exact lookupKeyed_insertKeyed_self j v t.entries
  · exact lookupKeyed_insertKeyed_of_ne h v t.entries

/-- After erasing a key it has no value and every other key keeps its own. -/
theorem get?_erase (t : Table α) (k j : String) :
    (t.erase k).get? j = if j = k then none else t.get? j := by
  obtain ⟨es, sorted⟩ := t
  simp only [erase, get?]
  clear sorted
  induction es with
  | nil => simp
  | cons e rest ih =>
    by_cases hk : e.1 = k
    · -- the entry goes; were it the one looked up, no later entry of its key is left
      have hdrop : (e.1 != k) = false := by simp [hk]
      rw [List.filter_cons, hdrop, if_neg Bool.false_ne_true, ih]
      by_cases hj : j = k
      · simp [hj]
      · have hne : (e.1 == j) = false := by simp [hk, Ne.symm hj]
        simp [hj, hne]
    · have hkeep : (e.1 != k) = true := by simp [hk]
      rw [List.filter_cons, hkeep, if_pos rfl, List.find?_cons, List.find?_cons]
      by_cases hj : e.1 = j
      · have hjk : j ≠ k := fun h => hk (hj.trans h)
        simp [hj, hjk]
      · have hne : (e.1 == j) = false := by simp [hj]
        simp only [hne, ih]

/-- After erasing a list of keys those keys have no value and every other key keeps its own. -/
theorem get?_foldl_erase (ks : List String) (t : Table α) (j : String) :
    (ks.foldl erase t).get? j = if j ∈ ks then none else t.get? j := by
  induction ks generalizing t with
  | nil => simp
  | cons k rest ih =>
    rw [List.foldl_cons, ih, get?_erase]
    by_cases hr : j ∈ rest
    · simp [hr]
    · by_cases hk : j = k <;> simp [hr, hk]

/-- A key is listed exactly when it has a value. -/
theorem mem_keys_iff (t : Table α) (k : String) : k ∈ t.keys ↔ (t.get? k).isSome := by
  simp [keys, get?, List.find?_isSome]

/-- A table lists its keys in byte order, each once. -/
theorem keys_sorted (t : Table α) : t.keys.Pairwise (· < ·) :=
  List.pairwise_map.2 t.sorted

end Table

namespace Manifest

/-- The specifier a manifest declares for a name in a group, if it declares one. -/
def specOf (m : Manifest) (g : Group) (n : String) : Option Specifier :=
  (m.group? g).bind (·.get? n)

/-- A name that the production and the optional group both declare, with the same
specifier text. -/
def DeclaredAlike (m : Manifest) (n : String) : Prop :=
  ∃ o p, m.specOf .optional n = some o ∧ m.specOf .production n = some p ∧ o.raw = p.raw

/-- A group lists a name exactly when it declares a specifier for it. -/
theorem mem_names_iff (m : Manifest) (g : Group) (n : String) :
    n ∈ m.names g ↔ (m.specOf g n).isSome := by
  unfold names specOf
  cases m.group? g with
  | none => simp
  | some t => simpa using Table.mem_keys_iff t n

/-- A group lists its names in byte order, each once. -/
theorem names_sorted (m : Manifest) (g : Group) : (m.names g).Pairwise (· < ·) := by
  unfold names
  cases m.group? g with
  | none => exact List.Pairwise.nil
  | some t => exact Table.keys_sorted t

/-- A group the manifest lacks declares nothing. -/
theorem specOf_eq_none_of_group? {m : Manifest} {g : Group} (h : m.group? g = none) (n : String) :
    m.specOf g n = none := by
  simp [specOf, h]

/-- What one call does, in two cases: nothing, when no name is declared alike; or else the
production table loses exactly the names returned, which are the names declared alike,
listed in the order of the production table. -/
theorem dedupe_cases (m : Manifest) :
    (m.dedupe = (m, []) ∧ ∀ n, ¬ m.DeclaredAlike n) ∨
    ∃ prod, m.group? .production = some prod ∧
      m.dedupe = ({ m with
        deps := m.deps.insert Group.production.name (m.dedupe.2.foldl Table.erase prod) },
        m.dedupe.2) ∧
      (∀ n, n ∈ m.dedupe.2 ↔ m.DeclaredAlike n) ∧ m.dedupe.2.Sublist prod.keys := by
  unfold dedupe
  cases hopt : m.group? .optional with
  | none =>
    refine .inl ⟨rfl, fun n ⟨o, p, ho, _⟩ => ?_⟩
    simp [specOf_eq_none_of_group? hopt] at ho
  | some opt =>
    cases hprod : m.group? .production with
    | none =>
      refine .inl ⟨rfl, fun n ⟨o, p, _, hp, _⟩ => ?_⟩
      simp [specOf_eq_none_of_group? hprod] at hp
    | some prod =>
      simp only
      -- the filter's test holds of exactly the names declared alike
      generalize removed : prod.keys.filter _ = names
      have keep : ∀ n, n ∈ names ↔ m.DeclaredAlike n := by
        intro n
        simp only [← removed, List.mem_filter, DeclaredAlike, specOf, hopt, hprod,
          Option.bind_some, Table.mem_keys_iff]
        cases opt.get? n <;> cases prod.get? n <;> simp
      split_ifs with hempty hnone
      · -- an empty group declares nothing
        refine .inl ⟨rfl, fun n halike => ?_⟩
        obtain ⟨o, p, ho, hp, -⟩ := halike
        simp only [specOf, hopt, hprod, Option.bind_some] at ho hp
        rcases Bool.or_eq_true_iff.1 hempty with h | h
        · simp [Table.get?, List.isEmpty_iff.1 h] at ho
        · simp [Table.get?, List.isEmpty_iff.1 h] at hp
      · refine .inl ⟨rfl, fun n halike => ?_⟩
        have hnil : names = [] := List.isEmpty_iff.1 hnone
        simpa [hnil] using (keep n).2 halike
      · exact .inr ⟨prod, rfl, rfl, keep, removed ▸ List.filter_sublist⟩

/-- Looking a name up in a group, absent groups read as empty, gives the group's specifier. -/
theorem get?_group?_getD (m : Manifest) (g : Group) (n : String) :
    ((m.group? g).getD Table.empty).get? n = m.specOf g n := by
  unfold specOf
  cases m.group? g <;> rfl

/-- An entry of a manifest's groups is a name that a group asked for gives a specifier. -/
theorem mem_entriesAt_iff {m : Manifest} {groups : List Group} {g : Group} {n : String}
    {spec : Specifier} :
    (g, n, spec) ∈ m.entriesAt groups ↔ g ∈ groups ∧ m.specOf g n = some spec := by
  rw [mem_entriesAt, mem_names_iff, get?_group?_getD]
  constructor
  · rintro ⟨hg, hsome, rfl⟩
    obtain ⟨s, hs⟩ := Option.isSome_iff_exists.1 hsome
    simp [hg, hs]
  · rintro ⟨hg, hs⟩
    simp [hg, hs]

/-- The names that deduplication returns are exactly the names declared alike. -/
theorem mem_dedupe_removed (m : Manifest) (n : String) : n ∈ m.dedupe.2 ↔ m.DeclaredAlike n := by
  rcases dedupe_cases m with ⟨hd, none⟩ | ⟨prod, -, -, hmem, -⟩
  · rw [hd]
    simpa using none n
  · exact hmem n

/-- The names removed come in byte order, as the production table lists them. -/
theorem dedupe_removed_sorted (m : Manifest) : m.dedupe.2.Pairwise (· < ·) := by
  rcases dedupe_cases m with ⟨hd, -⟩ | ⟨prod, -, -, -, hsub⟩
  · rw [hd]
    exact List.Pairwise.nil
  · exact (Table.keys_sorted prod).sublist hsub

/-- Deduplication leaves every group but the production one as it was. -/
theorem group?_dedupe_of_ne {m : Manifest} {g : Group} (hg : g ≠ .production) :
    m.dedupe.1.group? g = m.group? g := by
  have hname : g.name ≠ Group.production.name := fun h => hg (by cases g; cases h; rfl)
  rcases dedupe_cases m with ⟨hd, -⟩ | ⟨prod, -, hd, -, -⟩
  · rw [hd]
  · rw [hd]
    simp only [group?, Table.get?_insert, if_neg hname]

/-- Deduplication keeps the manifest's name and version. -/
theorem dedupe_name (m : Manifest) : m.dedupe.1.name = m.name ∧ m.dedupe.1.version = m.version := by
  rcases dedupe_cases m with ⟨hd, -⟩ | ⟨prod, -, hd, -, -⟩ <;> rw [hd] <;> exact ⟨rfl, rfl⟩

/-- A production name keeps its specifier unless the call removed it. -/
theorem specOf_dedupe_production (m : Manifest) (n : String) :
    m.dedupe.1.specOf .production n = if n ∈ m.dedupe.2 then none else m.specOf .production n := by
  rcases dedupe_cases m with ⟨hd, -⟩ | ⟨prod, hprod, hd, -, -⟩
  · rw [hd]
    simp
  · rw [hd]
    simp only [specOf, group?, Table.get?_insert, if_pos, Option.bind_some, Table.get?_foldl_erase]
    rw [← group?, hprod, Option.bind_some]

/-- After deduplication a name declared alike has no production specifier. -/
theorem specOf_dedupe_of_alike {m : Manifest} {n : String} (h : m.DeclaredAlike n) :
    m.dedupe.1.specOf .production n = none := by
  rw [specOf_dedupe_production, if_pos ((mem_dedupe_removed m n).2 h)]

/-- After deduplication a name not declared alike keeps its production specifier. -/
theorem specOf_dedupe_of_not_alike {m : Manifest} {n : String} (h : ¬ m.DeclaredAlike n) :
    m.dedupe.1.specOf .production n = m.specOf .production n := by
  rw [specOf_dedupe_production, if_neg (mt (mem_dedupe_removed m n).1 h)]

/-- Deduplication keeps the specifiers of every group but the production one. -/
theorem specOf_dedupe_of_ne {m : Manifest} {g : Group} (hg : g ≠ .production) (n : String) :
    m.dedupe.1.specOf g n = m.specOf g n := by
  simp only [specOf, group?_dedupe_of_ne hg]

/-- The optional and production groups are different groups. -/
theorem optional_ne_production : Group.optional ≠ Group.production := by
  simp [Group.optional, Group.production]

/-- After one call no name is declared alike, so a second call removes nothing. -/
theorem dedupe_dedupe_removed (m : Manifest) : m.dedupe.1.dedupe.2 = [] := by
  refine List.eq_nil_iff_forall_not_mem.2 fun n hn => ?_
  obtain ⟨o, p, ho, hp, hraw⟩ := (mem_dedupe_removed _ n).1 hn
  rw [specOf_dedupe_of_ne optional_ne_production] at ho
  by_cases h : m.DeclaredAlike n
  · rw [specOf_dedupe_of_alike h] at hp
    cases hp
  · rw [specOf_dedupe_of_not_alike h] at hp
    exact h ⟨o, p, ho, hp, hraw⟩

end Manifest

namespace Level

variable {ℓ : Level} {n : String}

/-- The entries of a level are the specifiers its deduplicated manifest declares in the
groups the level resolves. -/
theorem mem_entries_iff {g : Group} {spec : Specifier} :
    (g, n, spec) ∈ ℓ.entries ↔
      g ∈ groupsAt ℓ.dev ∧ (cloneManifest ℓ.manifest).dedupe.1.specOf g n = some spec :=
  Manifest.mem_entriesAt_iff

/-- A name declared alike has no production entry at its level. -/
theorem production_not_mem_entries (h : (cloneManifest ℓ.manifest).DeclaredAlike n)
    (spec : Specifier) : (Group.production, n, spec) ∉ ℓ.entries := by
  rw [mem_entries_iff, Manifest.specOf_dedupe_of_alike h]
  simp

/-- Among the production and optional entries of a level, a name declared alike occurs
once, under the optional group with its optional specifier. -/
theorem entries_alike {o : Specifier}
    (ho : (cloneManifest ℓ.manifest).specOf .optional n = some o)
    (h : (cloneManifest ℓ.manifest).DeclaredAlike n) :
    ℓ.entries.filter (fun e => e.2.1 == n && e.1 != .development) = [(.optional, n, o)] := by
  -- the production group no longer lists the name; the optional group lists it once
  have hprod : ((cloneManifest ℓ.manifest).dedupe.1.names .production).count n = 0 := by
    rw [List.count_eq_zero, Manifest.mem_names_iff, Manifest.specOf_dedupe_of_alike h]
    simp
  have hopt : ((cloneManifest ℓ.manifest).dedupe.1.names .optional).count n = 1 := by
    have hnames : (cloneManifest ℓ.manifest).dedupe.1.names .optional =
        (cloneManifest ℓ.manifest).names .optional := by
      simp [Manifest.names, Manifest.group?_dedupe_of_ne Manifest.optional_ne_production]
    rw [hnames]
    apply List.count_eq_one_of_mem (Manifest.names_sorted _ _).nodup
    rw [Manifest.mem_names_iff, ho]
    rfl
  have hspec : ((((cloneManifest ℓ.manifest).dedupe.1.group? .optional).getD Table.empty).get? n).getD
      (Specifier.ofRaw "") = o := by
    rw [Manifest.get?_group?_getD, Manifest.specOf_dedupe_of_ne Manifest.optional_ne_production, ho]
    rfl
  have hpd : (Group.production != Group.development) = true := by
    simp [Group.production, Group.development]
  have hod : (Group.optional != Group.development) = true := by
    simp [Group.optional, Group.development]
  unfold entries Manifest.entriesAt
  generalize (cloneManifest ℓ.manifest).dedupe.1 = m' at hprod hopt hspec
  cases ℓ.dev <;>
    simp [groupsAt, List.filter_map, Function.comp_def, hpd, hod, List.filter_beq, hprod, hopt, hspec]

/-- An optional specifier of a level's manifest is an entry of the level. -/
theorem optional_mem_entries {o : Specifier}
    (ho : (cloneManifest ℓ.manifest).specOf .optional n = some o) :
    (Group.optional, n, o) ∈ ℓ.entries := by
  rw [mem_entries_iff, Manifest.specOf_dedupe_of_ne Manifest.optional_ne_production]
  refine ⟨?_, ho⟩
  cases ℓ.dev <;> simp [groupsAt]

/-- A name declared in both groups with different texts keeps both entries. -/
theorem entries_unlike {o p : Specifier}
    (ho : (cloneManifest ℓ.manifest).specOf .optional n = some o)
    (hp : (cloneManifest ℓ.manifest).specOf .production n = some p) (hraw : o.raw ≠ p.raw) :
    (Group.production, n, p) ∈ ℓ.entries ∧ (Group.optional, n, o) ∈ ℓ.entries := by
  have unlike : ¬ (cloneManifest ℓ.manifest).DeclaredAlike n := by
    rintro ⟨o', p', ho', hp', hraw'⟩
    rw [ho, Option.some_inj] at ho'
    rw [hp, Option.some_inj] at hp'
    subst ho' hp'
    exact hraw hraw'
  refine ⟨?_, optional_mem_entries ho⟩
  rw [mem_entries_iff, Manifest.specOf_dedupe_of_not_alike unlike]
  refine ⟨?_, hp⟩
  cases ℓ.dev <;> simp [groupsAt]

variable {b : Backends} {opts : BuildOptions}

/-- In the tree of a level, a group and name have a node exactly when the level has an
entry for them that the outermost ancestor of the name does not satisfy. -/
theorem get_isSome_iff_entry {tree : Tree} (h : ℓ.outcome b opts = .ok tree) (gn : String) :
    (tree.get gn n).isSome ↔
      ∃ e ∈ ℓ.entries, e.1.name = gn ∧ e.2.1 = n ∧ ¬ OutermostSatisfies b n e.2.2 ℓ.ancestors := by
  rw [outcome_eq_ok_iff] at h
  by_cases hdeep : opts.maxDepth < ℓ.ancestors.length
  · rw [sequential_of_deep hdeep] at h
    cases h
  rw [sequential_of_within (by omega)] at h
  rw [foldlM_seqVisit_get_isSome h]
  simp only [Tree.get, lookupKeyed_nil, Option.isSome_none, Bool.false_eq_true, false_or]
  constructor
  · rintro ⟨e, he, hg, rfl, hunsat⟩
    exact ⟨e, he, hg, rfl, by rwa [← satisfiedByAncestor_eq_true_iff, Bool.not_eq_true]⟩
  · rintro ⟨e, he, hg, rfl, hunsat⟩
    exact ⟨e, he, hg, rfl, by rwa [← satisfiedByAncestor_eq_true_iff, Bool.not_eq_true] at hunsat⟩

/-- The tree of a level has no production node for a name declared alike. -/
theorem get_production_of_alike {tree : Tree} (h : ℓ.outcome b opts = .ok tree)
    (halike : (cloneManifest ℓ.manifest).DeclaredAlike n) :
    tree.get Group.production.name n = none := by
  apply Option.not_isSome_iff_eq_none.1
  rw [get_isSome_iff_entry h]
  rintro ⟨⟨g, n', spec⟩, he, hg, rfl, -⟩
  have hprod : g = Group.production := by
    cases g
    cases hg
    rfl
  subst hprod
  exact production_not_mem_entries halike spec he

end Level


/-- Deduplication, and what it does at every level of a build. A call drops from the
production group exactly the names declared alike and returns them in byte order, leaves
every other entry, group, name and version as it was, and leaves nothing for a second
call. At every level, a name declared alike is resolved once among the production and
optional entries, under the optional group, and no production node for it enters the
tree; a name declared with different texts is resolved in both groups. -/
theorem optional_overrides_identical_production :
    (∀ m : Manifest,
      (∀ n, m.DeclaredAlike n → m.dedupe.1.specOf .production n = none) ∧
      (∀ n, ¬ m.DeclaredAlike n → m.dedupe.1.specOf .production n = m.specOf .production n) ∧
      (∀ g, g ≠ .production → m.dedupe.1.group? g = m.group? g) ∧
      (m.dedupe.1.name = m.name ∧ m.dedupe.1.version = m.version) ∧
      (∀ n, n ∈ m.dedupe.2 ↔ m.DeclaredAlike n) ∧
      m.dedupe.2.Pairwise (· < ·) ∧
      m.dedupe.1.dedupe.2 = []) ∧
    (∀ (b : Backends) (opts : BuildOptions) (ℓ : Level) (n : String) (o p : Specifier),
      (cloneManifest ℓ.manifest).specOf .optional n = some o →
      (cloneManifest ℓ.manifest).specOf .production n = some p →
      (o.raw = p.raw →
        ℓ.entries.filter (fun e => e.2.1 == n && e.1 != .development) = [(.optional, n, o)] ∧
        ∀ tree, ℓ.outcome b opts = .ok tree →
          tree.get Group.production.name n = none ∧
          ((tree.get Group.optional.name n).isSome ↔ ¬ OutermostSatisfies b n o ℓ.ancestors)) ∧
      (o.raw ≠ p.raw →
        (Group.production, n, p) ∈ ℓ.entries ∧ (Group.optional, n, o) ∈ ℓ.entries ∧
        ∀ tree, ℓ.outcome b opts = .ok tree →
          ((tree.get Group.production.name n).isSome ↔ ¬ OutermostSatisfies b n p ℓ.ancestors) ∧
          ((tree.get Group.optional.name n).isSome ↔ ¬ OutermostSatisfies b n o ℓ.ancestors))) := by
  refine ⟨fun m => ⟨fun n => Manifest.specOf_dedupe_of_alike,
    fun n => Manifest.specOf_dedupe_of_not_alike, fun g => Manifest.group?_dedupe_of_ne,
    Manifest.dedupe_name m, Manifest.mem_dedupe_removed m, Manifest.dedupe_removed_sorted m,
    Manifest.dedupe_dedupe_removed m⟩, ?_⟩
  intro b opts ℓ n o p ho hp
  constructor
  · intro hraw
    have halike : (cloneManifest ℓ.manifest).DeclaredAlike n := ⟨o, p, ho, hp, hraw⟩
    refine ⟨Level.entries_alike ho halike, fun tree h => ?_⟩
    exact ⟨Level.get_production_of_alike h halike,
      Level.get_isSome_iff (Level.optional_mem_entries ho) h⟩
  · intro hraw
    obtain ⟨hprod, hopt⟩ := Level.entries_unlike ho hp hraw
    exact ⟨hprod, hopt, fun tree h => ⟨Level.get_isSome_iff hprod h, Level.get_isSome_iff hopt h⟩⟩

/-- A manifest that declares `a` alike in both groups and `b` with two texts. -/
def dedupeSample : Manifest :=
  ((((Manifest.new "app" "1.0.0").add .production "a" "^1.0.0").add .production "b" "^1.0.0").add
    .optional "a" "^1.0.0").add .optional "b" "1.x"

/-- At the root of `dedupeSample`, `a` is resolved once, as optional. -/
theorem optional_overrides_identical_production_sample :
    dedupeSample.specOf .optional "a" = some ⟨.range, "^1.0.0"⟩ ∧
    dedupeSample.specOf .production "a" = some ⟨.range, "^1.0.0"⟩ ∧
    (Level.root {} (some dedupeSample)).entries.filter
      (fun e => e.2.1 == "a" && e.1 != .development) = [(.optional, "a", ⟨.range, "^1.0.0"⟩)] := by
  have ho : dedupeSample.specOf .optional "a" = some ⟨.range, "^1.0.0"⟩ := by decide
  have hp : dedupeSample.specOf .production "a" = some ⟨.range, "^1.0.0"⟩ := by decide
  exact ⟨ho, hp, ((optional_overrides_identical_production.2 ⟨none, none, none, fun _ _ => false⟩
    {} (Level.root {} (some dedupeSample)) "a" _ _ ho hp).1 rfl).1⟩

end DepLock
