import DepLock.Proofs.Semver.Order
/-!
# The first of the greatest

`maxSatisfying` scans its candidates once, in order, and gives up the version it keeps only
for a strictly greater one. What it keeps is therefore the *first* candidate that reads as
an admitted version at least as great as every admitted candidate (`FirstGreatest`): the
scan keeps that fact for the candidates seen so far (`Keeps.step`), and since the order of a
lawful library is a total preorder, each step either leaves the first greatest where it is
or makes the new candidate the first greatest.

`maxSatisfying_first_greatest` puts it together for every lawful library: there is an
answer exactly when the range reads and some candidate reads as a version it admits, and
the answer is the text of the first greatest candidate. Candidates that do not read are
passed over.

`isGreatest` decides `Greatest`, so the first greatest candidate is also the one that
`List.find?` picks (`firstGreatest_iff_find?`), which makes it unique.
-/

set_option autoImplicit false

namespace DepLock.Semver

namespace Library

/-- `raw` reads as the version `v`, which `c` admits. -/
def Admits (lib : Library) (c : lib.Constraints) (raw : String) (v : lib.Version) : Prop :=
  lib.parseVersion raw = .ok v ∧ lib.check c v = true

/-- `raw` reads as a version that `c` admits and that is at least as great as every
candidate of `cs` that reads as an admitted version. -/
def Greatest (lib : Library) (c : lib.Constraints) (cs : List String) (raw : String) : Prop :=
  ∃ v, lib.Admits c raw v ∧ ∀ raw' ∈ cs, ∀ w, lib.Admits c raw' w → (lib.compare v w).isGE = true

/-- `raw` is the first candidate of `cs` that is greatest among them. -/
def FirstGreatest (lib : Library) (c : lib.Constraints) (cs : List String) (raw : String) :
    Prop :=
  ∃ pre post, cs = pre ++ raw :: post ∧ lib.Greatest c cs raw ∧
    ∀ raw' ∈ pre, ¬ lib.Greatest c cs raw'

/-- Whether `v` is at least as great as every candidate that reads as an admitted version. -/
def atLeastAll (lib : Library) (c : lib.Constraints) (cs : List String) (v : lib.Version) :
    Bool :=
  cs.all fun raw' =>
    match lib.parseVersion raw' with
    | .ok w => !lib.check c w || (lib.compare v w).isGE
    | .error _ => true

/-- Decides `Greatest`. -/
def isGreatest (lib : Library) (c : lib.Constraints) (cs : List String) (raw : String) : Bool :=
  match lib.parseVersion raw with
  | .ok v => lib.check c v && lib.atLeastAll c cs v
  | .error _ => false

/-- What a scan of the candidates `done` keeps: nothing while none of them is admitted, and
otherwise the version of the first greatest of them. -/
def Keeps (lib : Library) (c : lib.Constraints) (done : List String) :
    Option lib.Version → Prop
  | none => ∀ raw ∈ done, ∀ v, ¬ lib.Admits c raw v
  | some b => lib.parseVersion (lib.original b) = .ok b ∧ lib.FirstGreatest c done (lib.original b)

variable {lib : Library} {c : lib.Constraints}

/-- A version read through the layer keeps its text. -/
theorem Lawful.original_parseVersion (lawful : lib.Lawful) {raw : String} {v : lib.Version}
    (h : lib.parseVersion raw = .ok v) : lib.original v = raw :=
  lawful.original_newVersion (parseVersion_eq_ok.mp h)

/-- A text reads as one version at most. -/
theorem Admits.eq_of_parseVersion {raw : String} {v w : lib.Version} (h : lib.Admits c raw w)
    (hv : lib.parseVersion raw = .ok v) : w = v := by
  have same := h.1
  rw [hv] at same
  cases same
  rfl

/-- The four things one step of the scan can do with a candidate: pass over it when it is
not admitted, take it when nothing was kept, and otherwise take it in place of the kept
version exactly when it is greater. -/
theorem scanStep_induction {raw : String} {best : Option lib.Version}
    {motive : Option lib.Version → Prop}
    (skip : (∀ v, ¬ lib.Admits c raw v) → motive best)
    (first : ∀ v, lib.Admits c raw v → best = none → motive (some v))
    (replace : ∀ v b, lib.Admits c raw v → best = some b → lib.compare v b = .gt →
      motive (some v))
    (stay : ∀ v b, lib.Admits c raw v → best = some b → lib.compare v b ≠ .gt →
      motive (some b)) :
    motive (lib.scanStep c best raw) := by
  unfold scanStep
  cases hparse : lib.parseVersion raw with
  | error e =>
    refine skip fun v hv => ?_
    rw [hv.1] at hparse
    cases hparse
  | ok v =>
    dsimp only
    by_cases ha : lib.check c v = true
    · rw [if_pos ha]
      cases best with
      | none => exact first v ⟨hparse, ha⟩ rfl
      | some b =>
        dsimp only
        by_cases hgt : lib.compare v b = .gt
        · rw [if_pos (by simp [hgt])]
          exact replace v b ⟨hparse, ha⟩ rfl hgt
        · rw [if_neg (by simpa using hgt)]
          exact stay v b ⟨hparse, ha⟩ rfl hgt
    · rw [if_neg ha]
      exact skip fun w hw => ha (hw.eq_of_parseVersion hparse ▸ hw.2)

/-! ## The first greatest candidate -/

section Decide

variable {cs : List String} {raw : String}

/-- A candidate that reads as `w` admits only `w`. -/
theorem forall_admits_iff {w : lib.Version} {P : lib.Version → Prop}
    (hw : lib.parseVersion raw = .ok w) :
    (∀ w', lib.Admits c raw w' → P w') ↔ (lib.check c w = true → P w) := by
  constructor
  · exact fun h ha => h w ⟨hw, ha⟩
  · intro h w' hw'
    rw [hw'.eq_of_parseVersion hw]
    exact h (hw'.eq_of_parseVersion hw ▸ hw'.2)

/-- `atLeastAll` decides that a version is at least every admitted candidate. -/
theorem atLeastAll_iff {v : lib.Version} :
    lib.atLeastAll c cs v = true ↔
      ∀ raw' ∈ cs, ∀ w, lib.Admits c raw' w → (lib.compare v w).isGE = true := by
  simp only [atLeastAll, List.all_eq_true]
  refine forall_congr' fun raw' => imp_congr_right fun _ => ?_
  cases hw : lib.parseVersion raw' with
  | error e =>
    simp only [true_iff]
    intro w hw'
    rw [hw'.1] at hw
    cases hw
  | ok w =>
    rw [forall_admits_iff hw]
    cases ha : lib.check c w <;> simp [ha]

/-- `isGreatest` decides `Greatest`. -/
theorem isGreatest_iff : lib.isGreatest c cs raw = true ↔ lib.Greatest c cs raw := by
  unfold isGreatest Greatest
  cases hv : lib.parseVersion raw with
  | error e =>
    simp only [Bool.false_eq_true, false_iff, not_exists, not_and]
    intro v hv'
    rw [hv'.1] at hv
    cases hv
  | ok v =>
    simp only [Bool.and_eq_true, atLeastAll_iff]
    constructor
    · rintro ⟨ha, above⟩
      exact ⟨v, ⟨hv, ha⟩, above⟩
    · rintro ⟨w, hw, above⟩
      obtain rfl := hw.eq_of_parseVersion hv
      exact ⟨hw.2, above⟩

/-- The first greatest candidate is the one `List.find?` picks with `isGreatest`. -/
theorem firstGreatest_iff_find? :
    lib.FirstGreatest c cs raw ↔ cs.find? (lib.isGreatest c cs) = some raw := by
  have passed : ∀ a, (!lib.isGreatest c cs a) = true ↔ ¬ lib.Greatest c cs a := fun a => by
    rw [← isGreatest_iff]
    simp
  rw [List.find?_eq_some_iff_append, isGreatest_iff]
  constructor
  · rintro ⟨pre, post, split, greatest, first⟩
    exact ⟨greatest, pre, post, split, fun raw' h => (passed raw').mpr (first raw' h)⟩
  · rintro ⟨greatest, pre, post, split, first⟩
    exact ⟨pre, post, split, greatest, fun raw' h => (passed raw').mp (first raw' h)⟩

/-- There is one first greatest candidate at most. -/
theorem FirstGreatest.unique {a b : String} (ha : lib.FirstGreatest c cs a)
    (hb : lib.FirstGreatest c cs b) : a = b := by
  rw [firstGreatest_iff_find?] at ha hb
  exact Option.some.inj (ha.symm.trans hb)

/-- The first greatest candidate is a candidate, and reads as an admitted version. -/
theorem FirstGreatest.mem_admits {t : String} (h : lib.FirstGreatest c cs t) :
    t ∈ cs ∧ ∃ v, lib.Admits c t v := by
  obtain ⟨pre, post, split, ⟨v, hv, -⟩, -⟩ := h
  rw [split]
  exact ⟨List.mem_append_right pre List.mem_cons_self, v, hv⟩

end Decide

/-! ## What the scan keeps -/

section Scan

variable {done : List String} {raw t : String} {v b : lib.Version}

/-- A candidate greatest among more candidates is greatest among fewer. -/
theorem Greatest.of_append {more : List String} (h : lib.Greatest c (done ++ more) t) :
    lib.Greatest c done t := by
  obtain ⟨u, hu, above⟩ := h
  exact ⟨u, hu, fun raw' h' => above raw' (List.mem_append_left more h')⟩

/-- A candidate that reads as no admitted version does not change which candidates are
greatest. -/
theorem greatest_append_iff (hraw : ∀ v, ¬ lib.Admits c raw v) :
    lib.Greatest c (done ++ [raw]) t ↔ lib.Greatest c done t := by
  refine ⟨Greatest.of_append, fun ⟨u, hu, above⟩ => ⟨u, hu, fun raw' h' w hw => ?_⟩⟩
  rcases List.mem_append.mp h' with old | new
  · exact above raw' old w hw
  · rw [List.mem_singleton.mp new] at hw
    exact absurd hw (hraw w)

/-- A candidate that is not admitted leaves what the scan keeps as it is. -/
theorem Keeps.skip {best : Option lib.Version} (h : lib.Keeps c done best)
    (hraw : ∀ v, ¬ lib.Admits c raw v) : lib.Keeps c (done ++ [raw]) best := by
  cases best with
  | none =>
    intro raw' h' w hw
    rcases List.mem_append.mp h' with old | new
    · exact h raw' old w hw
    · rw [List.mem_singleton.mp new] at hw
      exact hraw w hw
  | some b =>
    obtain ⟨read, pre, post, split, greatest, first⟩ := h
    refine ⟨read, pre, post ++ [raw], by simp [split], (greatest_append_iff hraw).mpr greatest,
      fun raw' h' => ?_⟩
    rw [greatest_append_iff hraw]
    exact first raw' h'

/-- The first admitted candidate is the first greatest so far. -/
theorem Keeps.first (lawful : lib.Lawful) (h : lib.Keeps c done none) (hv : lib.Admits c raw v) :
    lib.Keeps c (done ++ [raw]) (some v) := by
  have text : lib.original v = raw := lawful.original_parseVersion hv.1
  show lib.parseVersion (lib.original v) = .ok v ∧
    lib.FirstGreatest c (done ++ [raw]) (lib.original v)
  rw [text]
  refine ⟨hv.1, done, [], rfl, ⟨v, hv, fun raw' h' w hw => ?_⟩, fun raw' h' greatest => ?_⟩
  · rcases List.mem_append.mp h' with old | new
    · exact absurd hw (h raw' old w)
    · rw [List.mem_singleton.mp new] at hw
      rw [hw.eq_of_parseVersion hv.1, lawful.compare_self v]
      rfl
  · obtain ⟨u, hu, -⟩ := greatest
    exact h raw' h' u hu

/-- A candidate greater than the version kept is greater than every earlier admitted one,
so it is the first greatest, and no earlier candidate stays greatest. -/
theorem Keeps.replace (lawful : lib.Lawful) (h : lib.Keeps c done (some b))
    (hv : lib.Admits c raw v) (hgt : lib.compare v b = .gt) :
    lib.Keeps c (done ++ [raw]) (some v) := by
  obtain ⟨read, -, -, -, ⟨b', hb', above⟩, -⟩ := h
  obtain rfl : b' = b := hb'.eq_of_parseVersion read
  -- every admitted candidate seen so far is below the new one
  have below : ∀ raw' ∈ done, ∀ w, lib.Admits c raw' w → lib.compare v w = .gt :=
    fun raw' h' w hw => lawful.gt_of_gt_of_isGE hgt (above raw' h' w hw)
  have text : lib.original v = raw := lawful.original_parseVersion hv.1
  show lib.parseVersion (lib.original v) = .ok v ∧
    lib.FirstGreatest c (done ++ [raw]) (lib.original v)
  rw [text]
  refine ⟨hv.1, done, [], rfl, ⟨v, hv, fun raw' h' w hw => ?_⟩, ?_⟩
  · rcases List.mem_append.mp h' with old | new
    · rw [below raw' old w hw]
      rfl
    · rw [List.mem_singleton.mp new] at hw
      rw [hw.eq_of_parseVersion hv.1, lawful.compare_self v]
      rfl
  · rintro raw' h' ⟨u, hu, above'⟩
    have notBelow := above' raw (List.mem_append_right _ (List.mem_singleton_self raw)) v hv
    exact lawful.not_gt_of_isGE notBelow (below raw' h' u hu)

/-- A candidate no greater than the version kept leaves it the first greatest. -/
theorem Keeps.stay (lawful : lib.Lawful) (h : lib.Keeps c done (some b))
    (hv : lib.Admits c raw v) (hle : lib.compare v b ≠ .gt) :
    lib.Keeps c (done ++ [raw]) (some b) := by
  obtain ⟨read, pre, post, split, ⟨b', hb', above⟩, first⟩ := h
  obtain rfl : b' = b := hb'.eq_of_parseVersion read
  refine ⟨read, pre, post ++ [raw], by simp [split], ⟨b', hb', fun raw' h' w hw => ?_⟩,
    fun raw' h' greatest => first raw' h' greatest.of_append⟩
  rcases List.mem_append.mp h' with old | new
  · exact above raw' old w hw
  · rw [List.mem_singleton.mp new] at hw
    rw [hw.eq_of_parseVersion hv.1]
    exact lawful.isGE_swap_of_not_gt hle

/-- One step of the scan keeps the first greatest of the candidates seen. -/
theorem Keeps.step (lawful : lib.Lawful) {best : Option lib.Version} (h : lib.Keeps c done best)
    (raw : String) : lib.Keeps c (done ++ [raw]) (lib.scanStep c best raw) := by
  refine scanStep_induction (motive := lib.Keeps c (done ++ [raw])) ?skip ?first ?replace ?stay
  case skip => exact h.skip
  case first =>
    rintro v hv rfl
    exact h.first lawful hv
  case replace =>
    rintro v b hv rfl hgt
    exact h.replace lawful hv hgt
  case stay =>
    rintro v b hv rfl hle
    exact h.stay lawful hv hle

/-- The whole scan keeps the first greatest candidate: induction over the candidates, with
`Keeps.step` for each. -/
theorem Keeps.foldl (lawful : lib.Lawful) {best : Option lib.Version} (h : lib.Keeps c done best)
    (cs : List String) : lib.Keeps c (done ++ cs) (cs.foldl (lib.scanStep c) best) := by
  induction cs generalizing done best with
  | nil => simpa using h
  | cons x rest ih =>
    rw [List.foldl_cons, ← List.singleton_append, ← List.append_assoc]
    exact ih (h.step lawful x)

end Scan

/-- `bestAdmitted` keeps the first greatest admitted candidate, or nothing when none is
admitted. -/
theorem keeps_bestAdmitted (lawful : lib.Lawful) (c : lib.Constraints) (cs : List String) :
    lib.Keeps c cs (lib.bestAdmitted c cs) := by
  have start : lib.Keeps c [] none := fun _ h => by cases h
  simpa [bestAdmitted] using start.foldl lawful cs

/-! ## The answer -/

/-- A version text satisfies a range text exactly when the range reads and admits the
version the text reads as. -/
theorem satisfies_iff {t range : String} :
    lib.satisfies t range = true ↔ ∃ c v, lib.parseConstraint range = .ok c ∧ lib.Admits c t v := by
  unfold satisfies
  cases hv : lib.parseVersion t with
  | error e => simp [Admits, hv]
  | ok v =>
    cases hr : lib.parseConstraint range with
    | error e => simp
    | ok r => simp [Admits, hv]

/-- There is no answer exactly when no candidate satisfies the range. -/
theorem maxSatisfying_eq_none_iff (lawful : lib.Lawful) {range : String} {cs : List String} :
    lib.maxSatisfying range cs = none ↔ ∀ t ∈ cs, lib.satisfies t range = false := by
  unfold maxSatisfying
  cases hr : lib.parseConstraint range with
  | error e =>
    simp only [true_iff]
    intro t _
    refine Bool.eq_false_iff.mpr fun hsat => ?_
    obtain ⟨r', v, hr', -⟩ := satisfies_iff.mp hsat
    rw [hr] at hr'
    cases hr'
  | ok r =>
    simp only [Option.map_eq_none_iff]
    have keeps := keeps_bestAdmitted lawful r cs
    constructor
    · intro hnone t ht
      rw [hnone] at keeps
      refine Bool.eq_false_iff.mpr fun hsat => ?_
      obtain ⟨r', v, hr', hv⟩ := satisfies_iff.mp hsat
      rw [hr] at hr'
      cases hr'
      exact keeps t ht v hv
    · intro hnot
      cases hb : lib.bestAdmitted r cs with
      | none => rfl
      | some b =>
        -- what the scan keeps is admitted, so it satisfies the range
        rw [hb] at keeps
        obtain ⟨mem, v, hv⟩ := keeps.2.mem_admits
        have := hnot _ mem
        rw [satisfies_iff.mpr ⟨r, v, hr, hv⟩] at this
        cases this

/-- The answer is the text of the first greatest candidate. -/
theorem maxSatisfying_eq_some_iff (lawful : lib.Lawful) {range t : String} {cs : List String} :
    lib.maxSatisfying range cs = some t ↔
      ∃ c, lib.parseConstraint range = .ok c ∧ lib.FirstGreatest c cs t := by
  unfold maxSatisfying
  cases hr : lib.parseConstraint range with
  | error e => simp
  | ok r =>
    have keeps := keeps_bestAdmitted lawful r cs
    simp only [Option.map_eq_some_iff, Except.ok.injEq, exists_eq_left']
    constructor
    · rintro ⟨b, hb, rfl⟩
      rw [hb] at keeps
      exact keeps.2
    · intro first
      cases hb : lib.bestAdmitted r cs with
      | none =>
        -- the first greatest candidate is admitted, which a scan keeping nothing rules out
        rw [hb] at keeps
        obtain ⟨mem, v, hv⟩ := first.mem_admits
        exact absurd hv (keeps t mem v)
      | some b =>
        rw [hb] at keeps
        exact ⟨b, rfl, keeps.2.unique first⟩

end Library

/-- For a lawful library, `maxSatisfying range cs` answers exactly when the range reads and
some candidate reads as a version it admits; the answer is then the text of the first
candidate, in list order, that reads as an admitted version at least as great as every
admitted candidate. -/
theorem maxSatisfying_first_greatest (lib : Library) (lawful : lib.Lawful) (range : String)
    (cs : List String) :
    ((lib.maxSatisfying range cs).isSome = true ↔
      ∃ c, lib.parseConstraint range = .ok c ∧ ∃ raw ∈ cs, ∃ v, lib.Admits c raw v) ∧
    ∀ t, lib.maxSatisfying range cs = some t ↔
      ∃ c, lib.parseConstraint range = .ok c ∧ lib.FirstGreatest c cs t := by
  refine ⟨?_, fun t => Library.maxSatisfying_eq_some_iff lawful⟩
  rw [Option.isSome_iff_ne_none, ne_eq, Library.maxSatisfying_eq_none_iff lawful]
  simp only [not_forall, Bool.not_eq_false, Library.satisfies_iff]
  constructor
  · rintro ⟨raw, hraw, c, v, hc, hv⟩
    exact ⟨c, hc, raw, hraw, v, hv⟩
  · rintro ⟨c, hc, raw, hraw, v, hv⟩
    exact ⟨raw, hraw, c, v, hc, hv⟩

/-- With the library that runs, `v1.0.0` and `1.0.0` tie under `*` and the first of them is
the answer: it is the first greatest candidate. -/
theorem maxSatisfying_first_of_tie :
    library.maxSatisfying "*" ["0.9.0", "v1.0.0", "nope", "1.0.0"] = some "v1.0.0" ∧
      ∃ c, library.parseConstraint "*" = .ok c ∧
        library.FirstGreatest c ["0.9.0", "v1.0.0", "nope", "1.0.0"] "v1.0.0" := by
  have answer : library.maxSatisfying "*" ["0.9.0", "v1.0.0", "nope", "1.0.0"] = some "v1.0.0" :=
    rfl
  exact ⟨answer, ((maxSatisfying_first_greatest library library_lawful "*" _).2 "v1.0.0").mp answer⟩

end DepLock.Semver
