import DepLock.Semver.Check
import Mathlib.Tactic.ByContra
/-!
# The order of versions

`Version.compare` orders versions by their numeric parts and then by their pre-release
tags, identifier by identifier. On the versions that reading produces it is a total
preorder: there it is `versionOrder`, a lexicographic combination of orders that the
standard library knows to be lawful (`Version.compare_eq_versionOrder`,
`Version.parse_canonical`). Outside them it is not: an all-digit identifier with a leading
zero would compare below its canonical spelling from either side, and reading refuses
such identifiers. So the library that runs, whose versions are the ones reading gives, is
lawful (`library_lawful`); `Library.Lawful` gives the facts about the order that the
guarantees of the layer over it use.

Identifiers compare by the key (is it a word, its number, its text) (`identOrder`). Between
two numbers the value decides alone, which is faithful because a canonical digit string is
the decimal writing of its value (`digits_eq_toDigits`); a missing identifier, the padding
of the shorter tag, comes first, which is the order of lists (`compareIdents_eq_compareLex`).
-/

set_option autoImplicit false

namespace DepLock.Semver

/-! ## Digits -/

/-- A digit's code lies between those of 0 and 9. -/
theorem isDigit_toNat {c : Char} (h : c.isDigit = true) : 48 ≤ c.toNat ∧ c.toNat ≤ 57 := by
  simp only [Char.isDigit, Bool.and_eq_true, decide_eq_true_eq, ge_iff_le,
    UInt32.le_iff_toNat_le] at h
  have lits : '0'.val.toNat = 48 ∧ '9'.val.toNat = 57 := ⟨rfl, rfl⟩
  have hval : c.toNat = c.val.toNat := rfl
  omega

/-- A digit is the digit character of its value. -/
theorem digitChar_of_isDigit {c : Char} (h : c.isDigit = true) :
    Nat.digitChar (c.toNat - 48) = c := by
  have range := isDigit_toNat h
  apply Char.toNat_inj.mp
  rw [Nat.toNat_digitChar_of_lt_ten (by omega)]
  omega

/-- Reading digits after a non-zero value writes them after its decimal digits. -/
theorem toDigits_foldl (cs : List Char) (hcs : cs.all Char.isDigit = true) (acc : Nat)
    (hacc : 0 < acc) :
    Nat.toDigits 10 acc ++ cs =
      Nat.toDigits 10 (cs.foldl (fun n c => 10 * n + (c.toNat - '0'.toNat)) acc) := by
  induction cs generalizing acc with
  | nil => simp
  | cons c rest ih =>
    simp only [List.all_cons, Bool.and_eq_true] at hcs
    have range := isDigit_toNat hcs.1
    have zero : '0'.toNat = 48 := rfl
    have step := Nat.toDigits_append_toDigits (b := 10) (n := acc) (d := c.toNat - 48)
      (by decide) hacc (by omega)
    rw [Nat.toDigits_of_lt_base (by omega : c.toNat - 48 < 10), digitChar_of_isDigit hcs.1] at step
    rw [List.foldl_cons, ← ih hcs.2 _ (by omega), zero, ← step, List.append_assoc,
      List.singleton_append]

/-- A numeric part is the decimal writing of its value. -/
theorem digits_eq_toDigits {cs : List Char} (h : isNumericPart cs = true) :
    cs = Nat.toDigits 10 (digitsValue cs) := by
  rcases cs with _ | ⟨c, rest⟩
  · simp [isNumericPart] at h
  · by_cases hc : c = '0'
    · subst hc
      cases rest with
      | nil => decide
      | cons d ds => simp [isNumericPart] at h
    · have all : (c :: rest).all Char.isDigit = true := by
        simpa [isNumericPart, hc] using h
      simp only [List.all_cons, Bool.and_eq_true] at all
      have range := isDigit_toNat all.1
      have nonzero : c.toNat ≠ 48 := fun h48 => hc (Char.toNat_inj.mp h48)
      have zero : '0'.toNat = 48 := rfl
      have first : Nat.toDigits 10 (c.toNat - 48) = [c] := by
        rw [Nat.toDigits_of_lt_base (by omega), digitChar_of_isDigit all.1]
      have written := toDigits_foldl rest all.2 (c.toNat - 48) (by omega)
      rw [first, List.singleton_append] at written
      have value : digitsValue (c :: rest) =
          rest.foldl (fun n c => 10 * n + (c.toNat - '0'.toNat)) (c.toNat - 48) := by
        rw [digitsValue, List.foldl_cons, zero, Nat.mul_zero, Nat.zero_add]
      rw [value]
      exact written

/-! ## Identifiers -/

/-- A pre-release identifier is not empty. -/
theorem isPreIdent_ne_nil {cs : List Char} (h : isPreIdent cs = true) : cs ≠ [] := by
  intro hnil
  simp [hnil, isPreIdent] at h

/-- Two well-formed identifiers with the same number are the same identifier. -/
theorem eq_of_identNumber {a b : String} (ha : isPreIdent a.toList = true)
    (hb : isPreIdent b.toList = true) {n : Nat} (hna : identNumber a = some n)
    (hnb : identNumber b = some n) : a = b := by
  have written : ∀ s : String, isPreIdent s.toList = true → identNumber s = some n →
      s.toList = Nat.toDigits 10 n := by
    intro s hs hns
    simp only [identNumber, Bool.and_eq_true, Bool.not_eq_true', List.isEmpty_eq_false_iff,
      decide_eq_true_eq] at hns
    split at hns
    · rename_i hdigits
      cases hns
      have numeric : isNumericPart s.toList = true := by
        simp [isPreIdent, hdigits.1.2] at hs
        exact hs.2
      exact digits_eq_toDigits numeric
    · cases hns
  exact String.toList_injective ((written a ha hna).trans (written b hb hnb).symm)

/-- Pre-release identifiers as the order sees them: numbers before words, numbers by value,
words by their text. -/
def identOrder : String → String → Ordering :=
  compareLex (compareOn fun s => (identNumber s).isNone)
    (compareLex (compareOn fun s => (identNumber s).getD 0) compare)

instance : Std.TransCmp identOrder := inferInstanceAs (Std.TransCmp (compareLex _ _))

/-- Two different texts compare as less or greater, by their order. -/
theorem compare_of_ne {a b : String} (h : a ≠ b) : compare a b = if b < a then .gt else .lt := by
  show compareOfLessAndEq a b = _
  unfold compareOfLessAndEq
  by_cases hlt : a < b
  · rw [if_pos hlt, if_neg (String.lt_asymm hlt)]
  · have hgt : b < a := by
      by_contra hnot
      exact h (String.le_antisymm (String.not_lt.mp hnot) (String.not_lt.mp hlt))
    rw [if_neg hlt, if_neg h, if_pos hgt]

/-- On well-formed identifiers `compareIdent` is `identOrder`. -/
theorem compareIdent_eq_identOrder {a b : String} (ha : isPreIdent a.toList = true)
    (hb : isPreIdent b.toList = true) : compareIdent a b = identOrder a b := by
  by_cases hab : a = b
  · subst hab
    simp [compareIdent, Std.ReflCmp.compare_self]
  have aFull : a.isEmpty = false := by simpa using isPreIdent_ne_nil ha
  have bFull : b.isEmpty = false := by simpa using isPreIdent_ne_nil hb
  unfold compareIdent identOrder
  rw [if_neg (by simpa using hab), if_neg (by simp [aFull]), if_neg (by simp [bFull])]
  cases hna : identNumber a <;> cases hnb : identNumber b
  case none.none =>
    simp [compareLex, compareOn, hna, hnb, compare_of_ne hab, gt_iff_lt]
  case none.some y =>
    simp only [compareLex, compareOn, hna, hnb, Option.isNone_none, Option.isNone_some]
    rfl
  case some.none x =>
    simp only [compareLex, compareOn, hna, hnb, Option.isNone_none, Option.isNone_some]
    rfl
  case some.some x y =>
    -- two different identifiers that are numbers have different values
    have hxy : x ≠ y := fun hxy => hab (eq_of_identNumber ha hb hna (hxy ▸ hnb))
    simp only [compareLex, compareOn, hna, hnb, Option.isNone_some, Option.getD_some]
    rcases Nat.lt_or_gt_of_ne hxy with hlt | hgt
    · rw [Nat.compare_eq_lt.mpr hlt, if_neg (Nat.lt_asymm hlt)]
      rfl
    · rw [Nat.compare_eq_gt.mpr hgt, if_pos hgt]
      rfl

/-- The missing identifier comes before every pre-release identifier. -/
theorem compareIdent_empty_left {b : String} (hb : isPreIdent b.toList = true) :
    compareIdent "" b = .lt := by
  have bNe : "" ≠ b := fun h => isPreIdent_ne_nil hb (by rw [← h]; rfl)
  simp [compareIdent, bNe]

/-- Every pre-release identifier comes after the missing one. -/
theorem compareIdent_empty_right {a : String} (ha : isPreIdent a.toList = true) :
    compareIdent a "" = .gt := by
  have aNe : a ≠ "" := fun h => isPreIdent_ne_nil ha (by rw [h]; rfl)
  have aFull : a.isEmpty = false := by simpa using isPreIdent_ne_nil ha
  simp [compareIdent, aNe, aFull]

/-- Padding the shorter list with empty identifiers orders it first, as lists are ordered. -/
theorem compareIdents_eq_compareLex {as bs : List String}
    (ha : ∀ a ∈ as, isPreIdent a.toList = true) (hb : ∀ b ∈ bs, isPreIdent b.toList = true) :
    compareIdents as bs = List.compareLex identOrder as bs := by
  induction as generalizing bs with
  | nil =>
    cases bs with
    | nil => simp [compareIdents, List.compareLex_nil_nil]
    | cons b rest =>
      rw [compareIdents, compareIdent_empty_left (hb b List.mem_cons_self), Ordering.lt_then]
      rfl
  | cons a rest ih =>
    cases bs with
    | nil =>
      rw [compareIdents, compareIdent_empty_right (ha a List.mem_cons_self), Ordering.gt_then]
      rfl
    | cons b bs =>
      rw [compareIdents, List.compareLex_cons_cons,
        compareIdent_eq_identOrder (ha a List.mem_cons_self) (hb b List.mem_cons_self),
        ih (fun x hx => ha x (List.mem_cons_of_mem _ hx)) (fun x hx => hb x (List.mem_cons_of_mem _ hx))]

/-! ## Versions -/

/-- The order of the pre-release tags of two versions, identifier by identifier. -/
def preOrder (v w : Version) : Ordering :=
  List.compareLex identOrder (preIdents v.pre) (preIdents w.pre)

instance : Std.TransCmp preOrder where
  eq_swap := by
    unfold preOrder
    exact Std.OrientedCmp.eq_swap
  isLE_trans huv hvw := by
    unfold preOrder at *
    exact Std.TransCmp.isLE_trans huv hvw

/-- The order of versions: the numeric parts, then whether there is a tag (a version with
none comes after every tagged one), then the tags. -/
def versionOrder : Version → Version → Ordering :=
  compareLex (compareOn (·.major)) <| compareLex (compareOn (·.minor)) <|
    compareLex (compareOn (·.patch)) <| compareLex (compareOn (·.pre.isEmpty)) preOrder

instance : Std.TransCmp versionOrder := inferInstanceAs (Std.TransCmp (compareLex _ _))

/-- The pre-release rule of the comparison puts a version without a tag after one with a
tag, and orders two tags identifier by identifier. -/
theorem preRule_eq {v w : Version} (hv : v.Canonical) (hw : w.Canonical) :
    (if v.pre.isEmpty && w.pre.isEmpty then Ordering.eq else if v.pre.isEmpty then .gt
      else if w.pre.isEmpty then .lt else comparePre v.pre w.pre) =
    (compare v.pre.isEmpty w.pre.isEmpty).then (preOrder v w) := by
  cases hve : v.pre.isEmpty <;> cases hwe : w.pre.isEmpty
  case false.false => exact compareIdents_eq_compareLex (hv hve) (hw hwe)
  case true.true =>
    -- two versions without a tag: both read as the one empty identifier
    have hv' : v.pre = "" := by simpa using hve
    have hw' : w.pre = "" := by simpa using hwe
    have same : preOrder v w = .eq := by
      unfold preOrder
      rw [hv', hw']
      exact Std.ReflCmp.compare_self
    rw [same]
    rfl
  all_goals rfl

/-- On versions as reading leaves them, `Version.compare` is `versionOrder`. -/
theorem Version.compare_eq_versionOrder {v w : Version} (hv : v.Canonical) (hw : w.Canonical) :
    v.compare w = versionOrder v w := by
  rw [Version.compare, preRule_eq hv hw]
  rfl

/-- On versions as reading leaves them, comparing the other way round swaps the answer. -/
theorem Version.compare_swap {v w : Version} (hv : v.Canonical) (hw : w.Canonical) :
    v.compare w = (w.compare v).swap := by
  rw [Version.compare_eq_versionOrder hv hw, Version.compare_eq_versionOrder hw hv]
  exact Std.OrientedCmp.eq_swap

/-! ## Lawful libraries -/

namespace Library.Lawful

variable {lib : Library} {u v w : lib.Version}

/-- Every version compares equal to itself. -/
theorem compare_self (lawful : lib.Lawful) (v : lib.Version) : lib.compare v v = .eq := by
  have := lawful.compare_trans
  exact Std.ReflCmp.compare_self

/-- Comparing the other way round swaps the answer. -/
theorem compare_swap (lawful : lib.Lawful) (v w : lib.Version) :
    lib.compare v w = (lib.compare w v).swap := by
  have := lawful.compare_trans
  exact Std.OrientedCmp.eq_swap

/-- A version greater than one that is at least a third is greater than the third. -/
theorem gt_of_gt_of_isGE (lawful : lib.Lawful) (huv : lib.compare u v = .gt)
    (hvw : (lib.compare v w).isGE = true) : lib.compare u w = .gt := by
  have := lawful.compare_trans
  exact Std.TransCmp.gt_of_gt_of_isGE huv hvw

/-- Of two versions, one that is not greater than the other is at most it. -/
theorem isGE_swap_of_not_gt (lawful : lib.Lawful) (h : lib.compare v w ≠ .gt) :
    (lib.compare w v).isGE = true := by
  rw [lawful.compare_swap w v]
  cases hc : lib.compare v w <;> simp_all

/-- A version that is at least another is not below it. -/
theorem not_gt_of_isGE (lawful : lib.Lawful) (h : (lib.compare v w).isGE = true) :
    lib.compare w v ≠ .gt := by
  rw [lawful.compare_swap w v]
  cases hc : lib.compare v w <;> simp_all

/-- Two versions neither of which is greater compare equal. -/
theorem eq_of_not_gt (lawful : lib.Lawful) (hvw : lib.compare v w ≠ .gt)
    (hwv : lib.compare w v ≠ .gt) : lib.compare v w = .eq := by
  rw [lawful.compare_swap v w] at hvw ⊢
  cases h : lib.compare w v <;> simp_all

end Library.Lawful

/-! ## The library that runs -/

/-- The library that runs reads what `Version.parse` reads. -/
theorem library_newVersion_eq_ok {raw : String} {v : {v : Version // v.Canonical}} :
    library.newVersion raw = .ok v ↔ Version.parse raw = .ok v.1 :=
  mapError_eq_ok.trans Version.read_eq_ok

/-- The library that runs is lawful: on the versions reading gives, `Version.compare` is
`versionOrder`, a total preorder; a version keeps its text; the empty text does not read. -/
theorem library_lawful : library.Lawful where
  compare_trans :=
    { eq_swap := fun {v w} => Version.compare_swap v.2 w.2
      isLE_trans := fun {u v w} huv hvw => by
        change (u.1.compare v.1).isLE = true at huv
        change (v.1.compare w.1).isLE = true at hvw
        change (u.1.compare w.1).isLE = true
        rw [Version.compare_eq_versionOrder u.2 v.2] at huv
        rw [Version.compare_eq_versionOrder v.2 w.2] at hvw
        rw [Version.compare_eq_versionOrder u.2 w.2]
        exact Std.TransCmp.isLE_trans huv hvw }
  original_newVersion h := Version.parse_text (library_newVersion_eq_ok.mp h)
  newVersion_empty v h := by
    have read : Version.parse "" = .ok v.1 := library_newVersion_eq_ok.mp h
    have unread : Version.parse "" = .error .malformed := rfl
    rw [unread] at read
    cases read

end DepLock.Semver
