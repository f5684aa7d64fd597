import DepLock.Proofs.Semver.Greatest
import DepLock.Registry.Packument
/-!
# Choosing a version

`selectVersionIn` prefers the `latest` tag when it is published and satisfies the range,
and otherwise scans the published versions, in the order given, for the first of the
greatest satisfying ones (`maxSatisfying`, `DepLock.Proofs.Semver.Greatest`). Over a lawful
library the version the scan keeps is published, satisfies the range, and no satisfying
version is greater (`maxSatisfying_eq_some`).

Which version the scan keeps depends on that order when two published versions are
different texts that compare equal, such as `1.0.0` and `v1.0.0`: the first one seen stays.
In every order the result is published, satisfies the range and is maximal, and two orders
give versions that compare equal; the same version when no such pair satisfies the range.
-/

set_option autoImplicit false

namespace DepLock

namespace Semver

namespace Library

/-- `a` and `b` read as versions, and the first is the greater. -/
def Greater (lib : Library) (a b : String) : Prop :=
  ∃ v w, lib.parseVersion a = .ok v ∧ lib.parseVersion b = .ok w ∧ lib.compare v w = .gt

/-- `a` and `b` read as versions that compare equal. -/
def Equivalent (lib : Library) (a b : String) : Prop :=
  ∃ v w, lib.parseVersion a = .ok v ∧ lib.parseVersion b = .ok w ∧ lib.compare v w = .eq

variable {lib : Library}

/-- The greatest satisfying candidate is a candidate, satisfies the range, and no
satisfying candidate is greater. -/
theorem maxSatisfying_eq_some (lawful : lib.Lawful) {range t : String} {cs : List String}
    (h : lib.maxSatisfying range cs = some t) :
    t ∈ cs ∧ lib.satisfies t range = true ∧
      ∀ t' ∈ cs, lib.satisfies t' range = true → ¬ lib.Greater t' t := by
  obtain ⟨c, hc, first⟩ := (maxSatisfying_eq_some_iff lawful).mp h
  have mem : t ∈ cs := first.mem_admits.1
  obtain ⟨_, _, _, ⟨v, hv, above⟩, -⟩ := first
  refine ⟨mem, satisfies_iff.mpr ⟨c, v, hc, hv⟩, fun t' ht' hsat ⟨v', w, hv', hw, hgt⟩ => ?_⟩
  obtain ⟨c', u, hc', hu⟩ := satisfies_iff.mp hsat
  rw [hc] at hc'
  cases hc'
  -- `t'` reads as `u = v'`, `t` as `v = w`, and `v` is at least `u`
  obtain rfl : u = v' := hu.eq_of_parseVersion hv'
  obtain rfl : v = w := hv.eq_of_parseVersion hw
  exact lawful.not_gt_of_isGE (above t' ht' u hu) hgt

/-- The empty text satisfies no range: it is no version. -/
theorem satisfies_empty (lawful : lib.Lawful) (range : String) :
    lib.satisfies "" range = false := by
  refine Bool.eq_false_iff.mpr fun hsat => ?_
  obtain ⟨_, v, -, hv⟩ := satisfies_iff.mp hsat
  exact lawful.newVersion_empty v (parseVersion_eq_ok.mp hv.1)

/-- Two satisfying texts neither of which is greater are equivalent. -/
theorem equivalent_of_not_greater (lawful : lib.Lawful) {range t t' : String}
    (ht : lib.satisfies t range = true) (ht' : lib.satisfies t' range = true)
    (h : ¬ lib.Greater t t') (h' : ¬ lib.Greater t' t) : lib.Equivalent t t' := by
  obtain ⟨_, v, -, hv⟩ := satisfies_iff.mp ht
  obtain ⟨_, v', -, hv'⟩ := satisfies_iff.mp ht'
  have notGt : lib.compare v v' ≠ .gt := fun hgt => h ⟨v, v', hv.1, hv'.1, hgt⟩
  have notLt : lib.compare v' v ≠ .gt := fun hgt => h' ⟨v', v, hv'.1, hv.1, hgt⟩
  exact ⟨v, v', hv.1, hv'.1, lawful.eq_of_not_gt notGt notLt⟩

/-- A satisfying text is equivalent to itself. -/
theorem equivalent_self (lawful : lib.Lawful) {range t : String}
    (ht : lib.satisfies t range = true) : lib.Equivalent t t := by
  obtain ⟨_, v, -, hv⟩ := satisfies_iff.mp ht
  exact ⟨v, v, hv.1, hv.1, lawful.compare_self v⟩

end Library

end Semver

namespace Registry

open Semver

/-- A version is published exactly when it is one of the packument's versions. -/
theorem Packument.publishes_iff_mem (p : Packument) (v : String) :
    p.publishes v = true ↔ v ∈ p.versionList := by
  simp [Packument.publishes, Packument.versionList, Table.contains, Table.get?, Table.keys,
    List.find?_isSome]

section Lawful

variable {lib : Library}

/-- The `latest` tag decides when it is published and satisfies the range; the check that it
is set follows, since the empty text satisfies nothing. -/
theorem selectVersionIn_eq (lawful : lib.Lawful) (p : Packument) (range : String) (order : List String) :
    selectVersionIn lib p range order =
      if p.publishes p.latest = true ∧ lib.satisfies p.latest range = true then some p.latest
      else lib.maxSatisfying range order := by
  unfold selectVersionIn
  by_cases hempty : p.latest = ""
  · simp [hempty, Library.satisfies_empty lawful]
  · have full : p.latest.isEmpty = false := by simpa using hempty
    simp [full]

variable {p : Packument} {range : String} {order : List String}

/-- A version is in an order of the published versions exactly when it is published. -/
theorem mem_order_iff (horder : order.Perm p.versionList) (v : String) :
    v ∈ order ↔ p.publishes v = true :=
  horder.mem_iff.trans (p.publishes_iff_mem v).symm

/-- The scan in any order of the published versions chooses a maximal satisfying one. -/
theorem maxSatisfying_order (lawful : lib.Lawful) (horder : order.Perm p.versionList) {v : String}
    (h : lib.maxSatisfying range order = some v) :
    p.publishes v = true ∧ lib.satisfies v range = true ∧
      ∀ w, p.publishes w = true → lib.satisfies w range = true → ¬ lib.Greater w v := by
  obtain ⟨mem, sat, maximal⟩ := Library.maxSatisfying_eq_some lawful h
  exact ⟨(mem_order_iff horder v).mp mem, sat,
    fun w hw hsat => maximal w ((mem_order_iff horder w).mpr hw) hsat⟩

end Lawful

/-- For a lawful version library and in any order of the published versions, the version
chosen is published and satisfies the range. It is `latest` when that tag is published and
satisfies the range, and otherwise no published satisfying version is greater; there is none
exactly when no published version satisfies the range. Two orders choose versions that
compare equal, and the same version when no two published satisfying versions compare
equal. -/
theorem Packument.selectVersionIn_spec (lib : Library) (lawful : lib.Lawful) (p : Packument)
    (range : String) (order : List String) (horder : order.Perm p.versionList) :
    (∀ v, selectVersionIn lib p range order = some v →
      p.publishes v = true ∧ lib.satisfies v range = true) ∧
    (p.publishes p.latest = true → lib.satisfies p.latest range = true →
      selectVersionIn lib p range order = some p.latest) ∧
    (¬ (p.publishes p.latest = true ∧ lib.satisfies p.latest range = true) →
      ∀ v, selectVersionIn lib p range order = some v →
        ∀ w, p.publishes w = true → lib.satisfies w range = true → ¬ lib.Greater w v) ∧
    (selectVersionIn lib p range order = none ↔
      ∀ w, p.publishes w = true → lib.satisfies w range = false) ∧
    (∀ order' v v', order'.Perm p.versionList → selectVersionIn lib p range order = some v →
      selectVersionIn lib p range order' = some v' →
      lib.Equivalent v v' ∧
        ((∀ w w', p.publishes w = true → p.publishes w' = true → lib.satisfies w range = true →
          lib.satisfies w' range = true → lib.Equivalent w w' → w = w') → v = v')) := by
  simp only [selectVersionIn_eq lawful]
  by_cases hlatest : p.publishes p.latest = true ∧ lib.satisfies p.latest range = true
  · -- the tag decides, whatever the order
    simp only [if_pos hlatest]
    refine ⟨fun v hv => ?_, fun _ _ => trivial, fun h => absurd hlatest h, ?_,
      fun order' v v' _ hv hv' => ?_⟩
    · cases hv
      exact hlatest
    · constructor
      · intro h
        cases h
      · intro hnone
        have := hnone p.latest hlatest.1
        rw [hlatest.2] at this
        cases this
    · cases hv
      cases hv'
      exact ⟨Library.equivalent_self lawful hlatest.2, fun _ => rfl⟩
  · -- the scan decides
    simp only [if_neg hlatest]
    refine ⟨fun v hv => (maxSatisfying_order lawful horder hv).imp_right And.left,
      fun hp hs => absurd ⟨hp, hs⟩ hlatest,
      fun _ v hv => (maxSatisfying_order lawful horder hv).2.2, ?_,
      fun order' v v' horder' hv hv' => ?_⟩
    · rw [Library.maxSatisfying_eq_none_iff lawful]
      exact forall_congr' fun w => imp_congr_left (mem_order_iff horder w)
    · obtain ⟨pub, sat, maximal⟩ := maxSatisfying_order lawful horder hv
      obtain ⟨pub', sat', maximal'⟩ := maxSatisfying_order lawful horder' hv'
      have same := Library.equivalent_of_not_greater lawful sat sat' (maximal' v pub sat)
        (maximal v' pub' sat')
      exact ⟨same, fun unique => unique v v' pub pub' sat sat' same⟩

/-- With the library that runs, and scanned in byte order, a packument with `1.0.0` and
`2.0.0` and no tags chooses `2.0.0`, which is published and satisfies `*`. -/
theorem Packument.selectVersion_greatest_published :
    let p : Packument := { versions := some (Table.ofList [("1.0.0", {}), ("2.0.0", {})]) }
    selectVersion library p "*" = some "2.0.0" ∧ p.publishes "2.0.0" = true ∧
      library.satisfies "2.0.0" "*" = true := by
  intro p
  have chosen : selectVersion library p "*" = some "2.0.0" := rfl
  exact ⟨chosen, (Packument.selectVersionIn_spec library library_lawful p "*" p.versionList
    (List.Perm.refl _)).1 _ chosen⟩

/-- `1.0.0` and `v1.0.0` are two texts of one version. With the library that runs, scanned in
byte order the first is chosen, scanned the other way round the second: the choice depends
on the order. -/
theorem Packument.selectVersionIn_depends_on_order :
    let p : Packument := { versions := some (Table.ofList [("1.0.0", {}), ("v1.0.0", {})]) }
    library.Equivalent "1.0.0" "v1.0.0" ∧ ["v1.0.0", "1.0.0"].Perm p.versionList ∧
      selectVersion library p "*" = some "1.0.0" ∧
      selectVersionIn library p "*" ["v1.0.0", "1.0.0"] = some "v1.0.0" := by
  intro p
  have list : p.versionList = ["1.0.0", "v1.0.0"] := by decide
  refine ⟨⟨_, _, rfl, rfl, rfl⟩, ?_, rfl, rfl⟩
  rw [list]
  exact List.Perm.swap _ _ _

end Registry

end DepLock
