import DepLock.Source.Reference
import Mathlib.Data.List.TakeDrop
import Mathlib.Data.List.TakeWhile
/-!
# Reading a written reference back

`Reference.parse` accepts a specifier exactly when the owner, repository and ref it finds
pass the host's rules (`Reference.parse_eq_ok_iff`), and refuses every other one with
`INVALID_SPECIFIER`, either directly or around the refusal of one of those rules
(`Reference.parse_error_cases`).

Writing an accepted reference as `owner/repo#ref` (`Reference.text`), with or without
`github:` in front, and reading it again gives the same owner and ref, and the repository
without one trailing `.git` (`Reference.parse_text`). The argument follows the text through
the reader: its ends are not blank, so trimming keeps it; its first `#` is the one before the
ref, since names hold none; and the names hold none of `:`, `@` or a second `/`, which would
steer the reader to another form. Reading drops one `.git` each time, so a written reference
reads back as itself when its repository does not end in `.git`; a repository that does (read
from a specifier with `.git` twice) loses that `.git` on the next reading.
-/

set_option autoImplicit false

namespace DepLock.Source

open DepLock.Text

/-! ## Texts -/

/-- The scan for a pattern finds it exactly when it occurs in the text. -/
theorem containsText_go_iff (p cs : List Char) : containsText.go p cs = true ↔ p <:+: cs := by
  induction cs with
  | nil => simp [containsText.go]
  | cons c rest ih =>
    simp only [containsText.go, Bool.or_eq_true, ih, List.isPrefixOf_iff_prefix]
    exact List.infix_cons_iff.symm

/-- A text contains a pattern exactly when the pattern occurs in it. -/
theorem containsText_iff (s pat : String) : containsText s pat = true ↔ pat.toList <:+: s.toList :=
  containsText_go_iff _ _

/-- A text ends with another exactly when the other is its suffix. -/
theorem endsWith_iff (s p : String) : s.endsWith p = true ↔ p.toList <:+ s.toList := by
  rw [← String.endsWith_toSlice, String.Slice.endsWith_string_iff]
  simp

/-- A text with no `sep` is not cut. -/
theorem cutAt_of_not_mem {s : String} {sep : Char} (h : sep ∉ s.toList) : cutAt s sep = (s, none) := by
  have all : ∀ c ∈ s.toList, (c != sep) = true := fun c hc => by
    simpa using fun heq : c = sep => h (heq ▸ hc)
  unfold cutAt
  rw [List.span_eq_takeWhile_dropWhile, List.dropWhile_eq_nil_iff.mpr all]

/-- A text is cut at its first `sep`. -/
theorem cutAt_append {xs ys : List Char} {sep : Char} (h : sep ∉ xs) :
    cutAt (String.ofList (xs ++ sep :: ys)) sep = (String.ofList xs, some (String.ofList ys)) := by
  have all : ∀ c ∈ xs, (c != sep) = true := fun c hc => by
    simpa using fun heq : c = sep => h (heq ▸ hc)
  unfold cutAt
  simp [List.span_eq_takeWhile_dropWhile, List.takeWhile_append_of_pos all,
    List.dropWhile_append_of_pos all]

/-- What follows the first `sep` of a text is the rest of it. -/
theorem cutAt_eq_some {s before after : String} {sep : Char}
    (h : cutAt s sep = (before, some after)) : s.toList = before.toList ++ sep :: after.toList := by
  unfold cutAt at h
  rw [List.span_eq_takeWhile_dropWhile] at h
  cases hrest : s.toList.dropWhile (· != sep) with
  | nil => simp [hrest] at h
  | cons c rest =>
    simp only [hrest, Prod.mk.injEq, Option.some.injEq] at h
    obtain ⟨rfl, rfl⟩ := h
    have hc : (c != sep) = false := by
      simpa [hrest] using List.head?_dropWhile_not (· != sep) s.toList
    simp only [bne_eq_false_iff_eq] at hc
    subst hc
    rw [String.toList_ofList, String.toList_ofList, ← hrest, List.takeWhile_append_dropWhile]

/-- Trimming keeps a text whose first and last characters are not blank. -/
theorem trimBlank_ofList {cs : List Char} (hhead : ∀ c ∈ cs.head?, isBlank c = false)
    (hlast : ∀ c ∈ cs.getLast?, isBlank c = false) : trimBlank (String.ofList cs) = String.ofList cs := by
  have keep : ∀ ds : List Char, (∀ c ∈ ds.head?, isBlank c = false) → ds.dropWhile isBlank = ds := by
    intro ds hd
    cases ds with
    | nil => rfl
    | cons d rest => exact List.dropWhile_cons_of_neg (by simp [hd d rfl])
  unfold trimBlank trimBlankList
  rw [String.toList_ofList, keep cs hhead, keep cs.reverse (by simpa using hlast), List.reverse_reverse]

/-- The last character of a trimmed text is not blank. -/
theorem getLast_trimBlank (s : String) : ∀ c ∈ (trimBlank s).toList.getLast?, isBlank c = false := by
  intro c hc
  have hlast : c ∈ ((s.toList.dropWhile isBlank).reverse.dropWhile isBlank).head? := by
    simpa [trimBlank, trimBlankList] using hc
  have := List.head?_dropWhile_not isBlank (s.toList.dropWhile isBlank).reverse
  rw [Option.mem_def.mp hlast] at this
  exact this

/-- Dropping a suffix from a text that ends with it gives the text before it. -/
theorem dropSuffix_append (s p : String) : dropSuffix (s ++ p) p = s := by
  have ends : (s ++ p).endsWith p = true :=
    (endsWith_iff _ _).mpr (by simp [String.toList_append])
  unfold dropSuffix
  rw [if_pos ends]
  apply String.toList_injective
  simp [String.toList_append, ← String.length_toList]

/-- Dropping a suffix that a text does not end with leaves the text. -/
theorem dropSuffix_of_endsWith_eq_false {s p : String} (h : s.endsWith p = false) :
    dropSuffix s p = s := by
  simp [dropSuffix, h]

/-! ## Names -/

/-- The characters of owner and repository names. -/
def isRepoChar (c : Char) : Bool := isAsciiAlnum c || c == '.' || c == '_' || c == '-'

/-- The code points of name characters: `-`, `.`, the digits, the upper-case letters, `_`
and the lower-case letters. -/
theorem isRepoChar_toNat {c : Char} (h : isRepoChar c = true) :
    c.toNat = 45 ∨ c.toNat = 46 ∨ (48 ≤ c.toNat ∧ c.toNat ≤ 57) ∨ (65 ≤ c.toNat ∧ c.toNat ≤ 90) ∨
      c.toNat = 95 ∨ (97 ≤ c.toNat ∧ c.toNat ≤ 122) := by
  simp only [isRepoChar, isAsciiAlnum, Bool.or_eq_true, Bool.and_eq_true, decide_eq_true_eq,
    beq_iff_eq, Char.le_def, UInt32.le_iff_toNat_le] at h
  have lits : 'a'.val.toNat = 97 ∧ 'z'.val.toNat = 122 ∧ 'A'.val.toNat = 65 ∧ 'Z'.val.toNat = 90 ∧
      '0'.val.toNat = 48 ∧ '9'.val.toNat = 57 ∧ '.'.toNat = 46 ∧ '_'.toNat = 95 ∧ '-'.toNat = 45 :=
    ⟨rfl, rfl, rfl, rfl, rfl, rfl, rfl, rfl, rfl⟩
  have hval : c.toNat = c.val.toNat := rfl
  rcases h with ((((h | h) | h) | rfl) | rfl) | rfl <;> omega

/-- Name characters are not blank and none of the characters that steer the reader. -/
theorem isRepoChar_ne {c : Char} (h : isRepoChar c = true) :
    isBlank c = false ∧ c ≠ '#' ∧ c ≠ '/' ∧ c ≠ ':' ∧ c ≠ '@' := by
  have range := isRepoChar_toNat h
  have ne : ∀ d : Char, d.toNat ≠ c.toNat → c ≠ d := fun d hd heq => hd (heq ▸ rfl)
  have lits : '#'.toNat = 35 ∧ '/'.toNat = 47 ∧ ':'.toNat = 58 ∧ '@'.toNat = 64 :=
    ⟨rfl, rfl, rfl, rfl⟩
  refine ⟨?_, ne '#' (by omega), ne '/' (by omega), ne ':' (by omega), ne '@' (by omega)⟩
  simp only [isBlank, Bool.or_eq_false_iff, Bool.and_eq_false_imp, decide_eq_true_eq,
    beq_eq_false_iff_ne, ne_eq, decide_eq_false_iff_not]
  omega

/-- An owner name is an ASCII letter or digit followed by at most 38 letters, digits or
hyphens. -/
theorem isOwnerName_iff (s : String) :
    isOwnerName s = true ↔ ∃ c rest, s.toList = c :: rest ∧ isAsciiAlnum c = true ∧
      rest.length ≤ 38 ∧ ∀ d ∈ rest, isAsciiAlnum d = true ∨ d = '-' := by
  unfold isOwnerName
  cases s.toList with
  | nil => simp
  | cons c rest => simp [List.all_eq_true, and_assoc]

/-- An owner name is not empty and made of name characters. -/
theorem isOwnerName_chars {s : String} (h : isOwnerName s = true) :
    s.toList ≠ [] ∧ ∀ c ∈ s.toList, isRepoChar c = true := by
  obtain ⟨c, rest, hs, hc, -, hrest⟩ := (isOwnerName_iff s).mp h
  rw [hs]
  refine ⟨List.cons_ne_nil c rest, ?_⟩
  intro d hd
  rcases List.mem_cons.mp hd with rfl | hd
  · simp [isRepoChar, hc]
  · rcases hrest d hd with h | rfl <;> simp [isRepoChar, h]

/-- A repository name is not empty and made of name characters. -/
theorem isRepoName_chars {s : String} (h : isRepoName s = true) :
    s.toList ≠ [] ∧ ∀ c ∈ s.toList, isRepoChar c = true := by
  simp only [isRepoName, Bool.and_eq_true, Bool.not_eq_true', List.isEmpty_eq_false_iff,
    List.all_eq_true] at h
  exact ⟨h.1.1.1.1, fun c hc => by simpa [isRepoChar, Bool.or_assoc] using h.1.1.2 c hc⟩

/-- The owner check passes exactly the owner names. -/
theorem checkOwner_eq_ok (owner : String) : checkOwner owner = .ok () ↔ isOwnerName owner = true := by
  unfold checkOwner
  by_cases hempty : owner.isEmpty = true
  · have : owner = "" := by simpa using hempty
    subst this
    simp [isOwnerName]
  · simp only [hempty]
    split <;> simp_all

/-- The repository check passes exactly the repository names. -/
theorem checkRepo_eq_ok (repo : String) : checkRepo repo = .ok () ↔ isRepoName repo = true := by
  unfold checkRepo
  by_cases hempty : repo.isEmpty = true
  · have : repo = "" := by simpa using hempty
    subst this
    simp [isRepoName]
  · simp only [hempty]
    split <;> simp_all

/-! ## The reader's steps -/

/-- A refused owner fails with INVALID_SPECIFIER. -/
theorem checkOwner_error {owner : String} {e : Error} (h : checkOwner owner = .error e) :
    ∃ m, e = .make .invalidSpecifier m := by
  unfold checkOwner at h
  split at h
  · cases h
    exact ⟨_, rfl⟩
  · split at h
    · cases h
    · cases h
      exact ⟨_, rfl⟩

/-- A refused repository fails with INVALID_SPECIFIER. -/
theorem checkRepo_error {repo : String} {e : Error} (h : checkRepo repo = .error e) :
    ∃ m, e = .make .invalidSpecifier m := by
  unfold checkRepo at h
  split at h
  · cases h
    exact ⟨_, rfl⟩
  · split at h
    · cases h
    · cases h
      exact ⟨_, rfl⟩

/-- A refused ref fails with INVALID_SPECIFIER. -/
theorem checkRef_error {ref : String} {e : Error} (h : checkRef ref = .error e) :
    ∃ m, e = .make .invalidSpecifier m := by
  unfold checkRef at h
  split at h
  · cases h
  · cases h
    exact ⟨_, rfl⟩

/-- A specifier whose owner and repository part cannot be found fails with
INVALID_SPECIFIER. -/
theorem repoPath_error {spec body : String} {e : Error} (h : repoPath spec body = .error e) :
    ∃ m, e = .make .invalidSpecifier m := by
  unfold repoPath at h
  split at h
  · cases h
  · split at h
    · dsimp only at h
      split at h
      · cases h
      · cases h
        exact ⟨_, rfl⟩
    · split at h
      · cases h
      · cases h
        exact ⟨_, rfl⟩

/-- An owner and repository path splits at its first slash into an owner and a repository,
one trailing .git dropped, that pass their checks. -/
theorem splitRepoPath_eq_ok {path owner repo : String} :
    splitRepoPath path = .ok (owner, repo) ↔
      ∃ rest, cutAt path '/' = (owner, some rest) ∧ repo = dropSuffix rest ".git" ∧
        checkOwner owner = .ok () ∧ checkRepo repo = .ok () := by
  unfold splitRepoPath
  split
  case h_1 first hcut => simp [hcut]
  case h_2 first rest hcut =>
    rw [hcut]
    constructor
    · intro h
      cases ho : checkOwner first with
      | error c => simp [ho, bind, Except.bind] at h
      | ok u =>
        cases hr : checkRepo (dropSuffix rest ".git") with
        | error c => simp [ho, hr, bind, Except.bind] at h
        | ok v =>
          simp only [ho, hr, bind, Except.bind, pure, Except.pure, Except.ok.injEq,
            Prod.mk.injEq] at h
          obtain ⟨rfl, rfl⟩ := h
          exact ⟨rest, rfl, rfl, ho, hr⟩
    · rintro ⟨rest', hcut', rfl, ho, hr⟩
      simp only [Prod.mk.injEq, Option.some.injEq] at hcut'
      obtain ⟨rfl, rfl⟩ := hcut'
      simp [ho, hr, bind, Except.bind, pure, Except.pure]

/-- A path that does not split fails with INVALID_SPECIFIER. -/
theorem splitRepoPath_error {path : String} {e : Error} (h : splitRepoPath path = .error e) :
    ∃ m, e = .make .invalidSpecifier m := by
  unfold splitRepoPath at h
  split at h
  · cases h
    exact ⟨_, rfl⟩
  · rename_i first rest _
    cases ho : checkOwner first with
    | error c =>
      simp only [ho, bind, Except.bind] at h
      cases h
      exact checkOwner_error ho
    | ok u =>
      cases hr : checkRepo (dropSuffix rest ".git") with
      | error c =>
        simp only [ho, hr, bind, Except.bind] at h
        cases h
        exact checkRepo_error hr
      | ok v => simp [ho, hr, bind, Except.bind, pure, Except.pure] at h

/-- What reading a specifier finds: the text before its first `#` names the repository in one
of the host's forms, and the text after it, if any, is the ref; all three pass the rules. -/
theorem Reference.parse_eq_ok_iff {spec : String} {r : Reference} :
    Reference.parse spec = .ok r ↔
      ∃ path, repoPath spec (cutAt (trimBlank spec) '#').1 = .ok path ∧
        splitRepoPath path = .ok (r.owner, r.repo) ∧
        r.ref = (cutAt (trimBlank spec) '#').2.getD "" ∧ checkRef r.ref = .ok () := by
  unfold Reference.parse
  rcases cutAt (trimBlank spec) '#' with ⟨body, ref⟩
  cases hp : repoPath spec body with
  | error e => simp [hp, bind, Except.bind]
  | ok path =>
    cases hs : splitRepoPath path with
    | error e => simp [hp, hs, bind, Except.bind, Except.mapError]
    | ok names =>
      cases hr : checkRef (ref.getD "") with
      | error e =>
        simp only [hp, hs, hr, bind, Except.bind, Except.mapError, reduceCtorEq, false_iff]
        rintro ⟨_, hpath, -, href, hok⟩
        rw [href, hr] at hok
        cases hok
      | ok u =>
        cases u
        obtain ⟨owner, repo⟩ := names
        simp only [hp, hs, hr, bind, Except.bind, Except.mapError, pure, Except.pure,
          Except.ok.injEq]
        constructor
        · rintro rfl
          exact ⟨path, rfl, hs, rfl, hr⟩
        · rintro ⟨_, hpath, hnames, href, -⟩
          cases hpath
          rw [hs] at hnames
          cases r
          simp_all

/-- Every refusal is `INVALID_SPECIFIER`: a refusal of the reader's own, or one of the host's
rules refusing a part, under a layer that names the specifier. -/
theorem Reference.parse_error_cases {spec : String} {e : Error} (h : Reference.parse spec = .error e) :
    (∃ m, e = .make .invalidSpecifier m) ∨
      ∃ m c, (∃ m', c = .make .invalidSpecifier m') ∧ e = .wrap .invalidSpecifier c m := by
  unfold Reference.parse at h
  generalize cutAt (trimBlank spec) '#' = cut at h
  obtain ⟨body, ref⟩ := cut
  cases hp : repoPath spec body with
  | error c =>
    simp only [hp, bind, Except.bind] at h
    cases h
    exact .inl (repoPath_error hp)
  | ok path =>
    cases hs : splitRepoPath path with
    | error c =>
      simp only [hp, hs, bind, Except.bind, Except.mapError] at h
      cases h
      exact .inr ⟨_, c, splitRepoPath_error hs, rfl⟩
    | ok names =>
      cases hr : checkRef (ref.getD "") with
      | error c =>
        simp only [hp, hs, hr, bind, Except.bind, Except.mapError] at h
        cases h
        exact .inr ⟨_, c, checkRef_error hr, rfl⟩
      | ok u => simp [hp, hs, hr, bind, Except.bind, Except.mapError, pure, Except.pure] at h

/-- The ref of an accepted specifier does not end in a blank: it ends where the trimmed
specifier does. -/
theorem Reference.parse_ref_last {spec : String} {r : Reference} (h : Reference.parse spec = .ok r) :
    ∀ c ∈ r.ref.toList.getLast?, isBlank c = false := by
  obtain ⟨-, -, -, href, -⟩ := Reference.parse_eq_ok_iff.mp h
  rw [href]
  rcases hcut : cutAt (trimBlank spec) '#' with ⟨body, _ | after⟩
  · simp
  · intro c hc
    have split := cutAt_eq_some hcut
    have last : (trimBlank spec).toList.getLast? = some c := by
      rw [split, List.getLast?_append, List.getLast?_cons]
      simp only [Option.getD_some] at hc
      rw [Option.mem_def.mp hc]
      rfl
    exact getLast_trimBlank spec c last

/-! ## Reading a written reference -/

/-- A text lacking a character of a prefix does not start with it. -/
theorem startsWith_eq_false_of_not_mem {s p : String} {c : Char} (hp : c ∈ p.toList)
    (hs : c ∉ s.toList) : s.startsWith p = false := by
  rw [← Bool.not_eq_true, String.startsWith_string_iff]
  exact fun pre => hs (pre.subset hp)

/-- A text lacking a character of a pattern does not contain it. -/
theorem containsText_eq_false_of_not_mem {s p : String} {c : Char} (hp : c ∈ p.toList)
    (hs : c ∉ s.toList) : containsText s p = false := by
  rw [← Bool.not_eq_true, containsText_iff]
  exact fun inf => hs (inf.subset hp)

/-- The characters of a written reference: the owner, `/`, the repository, and `#` and the
ref when there is one. -/
theorem Reference.text_toList (r : Reference) :
    r.text.toList = (r.owner ++ "/" ++ r.repo).toList ++
      (if r.ref.isEmpty then [] else '#' :: r.ref.toList) := by
  unfold Reference.text
  split <;> simp [String.toList_append]

section Names

variable {o rp : String}

/-- The characters of `owner/repo`: name characters and the one `/` between them. -/
theorem mem_names {c : Char} (ho : ∀ d ∈ o.toList, isRepoChar d = true)
    (hrp : ∀ d ∈ rp.toList, isRepoChar d = true) (hc : c ∈ (o ++ "/" ++ rp).toList) :
    c = '/' ∨ isRepoChar c = true := by
  simp only [String.toList_append, List.mem_append] at hc
  rcases hc with (hc | hc) | hc
  · exact .inr (ho c hc)
  · exact .inl (by simpa using hc)
  · exact .inr (hrp c hc)

/-- `owner/repo` with name characters on both sides is read as it stands. -/
theorem repoPath_names (spec : String) (ho : ∀ c ∈ o.toList, isRepoChar c = true)
    (hrp : ∀ c ∈ rp.toList, isRepoChar c = true) :
    repoPath spec (o ++ "/" ++ rp) = .ok (o ++ "/" ++ rp) := by
  have absent : ∀ d, d ≠ '/' → (∀ c, isRepoChar c = true → c ≠ d) → d ∉ (o ++ "/" ++ rp).toList :=
    fun d hd hne hmem => (mem_names ho hrp hmem).elim hd (fun h => hne _ h rfl)
  have noColon := absent ':' (by decide) fun c h => (isRepoChar_ne h).2.2.2.1
  have noAt := absent '@' (by decide) fun c h => (isRepoChar_ne h).2.2.2.2
  have noSlash : ∀ t : String, (∀ c ∈ t.toList, isRepoChar c = true) →
      t.toList.filter (· == '/') = [] :=
    fun t ht => List.filter_eq_nil_iff.mpr fun c hc => by simpa using (isRepoChar_ne (ht c hc)).2.2.1
  have notGithub : dropPrefix? (o ++ "/" ++ rp) "github:" = none := by
    rw [dropPrefix?, startsWith_eq_false_of_not_mem (by simp) noColon]
    rfl
  have notUrl : containsText (o ++ "/" ++ rp) "://" = false :=
    containsText_eq_false_of_not_mem (show ':' ∈ "://".toList by simp) noColon
  have notGit : (o ++ "/" ++ rp).startsWith "git@" = false :=
    startsWith_eq_false_of_not_mem (show '@' ∈ "git@".toList by simp) noAt
  have colonFree : containsText (o ++ "/" ++ rp) ":" = false :=
    containsText_eq_false_of_not_mem (show ':' ∈ ":".toList by simp) noColon
  have notScoped : (o ++ "/" ++ rp).startsWith "@" = false :=
    startsWith_eq_false_of_not_mem (show '@' ∈ "@".toList by simp) noAt
  unfold repoPath
  simp [notGithub, notUrl, notGit, colonFree, notScoped, noSlash o ho, noSlash rp hrp]

/-- `github:` followed by anything is read as what follows it. -/
theorem repoPath_github (spec rest : String) : repoPath spec ("github:" ++ rest) = .ok rest := by
  have prefixed : ("github:" ++ rest).startsWith "github:" = true := by simp
  have len : "github:".length = 7 := by decide
  unfold repoPath dropPrefix?
  simp [prefixed, len, String.toList_append]

/-- `owner/repo` splits at its `/`, and the repository loses one trailing `.git`. -/
theorem splitRepoPath_names (ho : isOwnerName o = true)
    (hrepo : checkRepo (dropSuffix rp ".git") = .ok ()) :
    splitRepoPath (o ++ "/" ++ rp) = .ok (o, dropSuffix rp ".git") := by
  have noSlash : '/' ∉ o.toList := fun h => (isRepoChar_ne ((isOwnerName_chars ho).2 _ h)).2.2.1 rfl
  have text : o ++ "/" ++ rp = String.ofList (o.toList ++ '/' :: rp.toList) :=
    String.toList_injective (by simp [String.toList_append])
  have cut : cutAt (o ++ "/" ++ rp) '/' = (o, some rp) := by
    rw [text, cutAt_append noSlash, String.ofList_toList, String.ofList_toList]
  exact splitRepoPath_eq_ok.mpr ⟨rp, cut, rfl, (checkOwner_eq_ok o).mpr ho, hrepo⟩

end Names

section Written

variable {o rp ref pre : String}

/-- The characters of a written reference after a prefix: the prefix and the names, then
`#` and the ref when there is one. -/
theorem Reference.written_toList (pre : String) :
    (pre ++ Reference.text ⟨o, rp, ref⟩).toList =
      (pre ++ (o ++ "/" ++ rp)).toList ++ (if ref.isEmpty then [] else '#' :: ref.toList) := by
  simp only [String.toList_append, Reference.text_toList, List.append_assoc]

/-- A written reference starts with its prefix or its owner, neither of them blank. -/
theorem Reference.written_head (hpre : pre = "" ∨ pre = "github:") (ho : isOwnerName o = true) :
    ∀ c ∈ (pre ++ Reference.text ⟨o, rp, ref⟩).toList.head?, isBlank c = false := by
  obtain ⟨oNe, oChars⟩ := isOwnerName_chars ho
  obtain ⟨d, rest, hd⟩ := List.exists_cons_of_ne_nil oNe
  intro c hc
  rw [Reference.written_toList] at hc
  rcases hpre with rfl | rfl
  · simp only [String.toList_append, hd, String.toList_empty, List.nil_append, List.cons_append,
      List.head?_cons, Option.mem_def, Option.some.injEq] at hc
    subst hc
    exact (isRepoChar_ne (oChars d (by simp [hd]))).1
  · simp at hc
    subst hc
    decide

/-- A written reference ends with its ref, or with its repository when the ref is empty. -/
theorem Reference.written_last (hrp : isRepoName rp = true)
    (hlast : ∀ c ∈ ref.toList.getLast?, isBlank c = false) :
    ∀ c ∈ (pre ++ Reference.text ⟨o, rp, ref⟩).toList.getLast?, isBlank c = false := by
  obtain ⟨rpNe, rpChars⟩ := isRepoName_chars hrp
  intro c hc
  rw [Reference.written_toList, List.getLast?_append] at hc
  by_cases hempty : ref.isEmpty = true
  · obtain ⟨d, hd⟩ := Option.isSome_iff_exists.mp (List.getLast?_isSome.mpr rpNe)
    simp [hempty, String.toList_append, List.getLast?_cons, hd] at hc
    subst hc
    exact (isRepoChar_ne (rpChars _ (List.mem_of_getLast? hd))).1
  · have refNe : ref.toList ≠ [] := by simpa using hempty
    obtain ⟨d, hd⟩ := Option.isSome_iff_exists.mp (List.getLast?_isSome.mpr refNe)
    simp [hempty, List.getLast?_cons, hd] at hc
    subst hc
    exact hlast _ hd

/-- The written text of a reference, with its form's prefix, has no blanks to trim. -/
theorem Reference.trimBlank_written (hpre : pre = "" ∨ pre = "github:")
    (ho : isOwnerName o = true) (hrp : isRepoName rp = true)
    (hlast : ∀ c ∈ ref.toList.getLast?, isBlank c = false) :
    trimBlank (pre ++ Reference.text ⟨o, rp, ref⟩) = pre ++ Reference.text ⟨o, rp, ref⟩ := by
  have kept := trimBlank_ofList (Reference.written_head hpre ho) (Reference.written_last hrp hlast)
  rwa [String.ofList_toList] at kept

/-- The first `#` of a written reference is the one before its ref: the prefix and the names
hold none. -/
theorem Reference.cutAt_written (hpre : pre = "" ∨ pre = "github:")
    (ho : ∀ c ∈ o.toList, isRepoChar c = true) (hrp : ∀ c ∈ rp.toList, isRepoChar c = true) :
    cutAt (pre ++ Reference.text ⟨o, rp, ref⟩) '#' =
      (pre ++ (o ++ "/" ++ rp), if ref.isEmpty then none else some ref) := by
  have prefixFree : '#' ∉ pre.toList := by
    rcases hpre with rfl | rfl <;> decide
  have noHash : '#' ∉ (pre ++ (o ++ "/" ++ rp)).toList := by
    intro hmem
    rw [String.toList_append, List.mem_append] at hmem
    rcases hmem with hmem | hmem
    · exact prefixFree hmem
    · rcases mem_names ho hrp hmem with h | h
      · cases h
      · exact (isRepoChar_ne h).2.1 rfl
  by_cases hempty : ref.isEmpty = true
  · have same : pre ++ Reference.text ⟨o, rp, ref⟩ = pre ++ (o ++ "/" ++ rp) :=
      String.toList_injective (by rw [Reference.written_toList]; simp [hempty])
    rw [same, cutAt_of_not_mem noHash]
    simp [hempty]
  · have text : pre ++ Reference.text ⟨o, rp, ref⟩ =
        String.ofList ((pre ++ (o ++ "/" ++ rp)).toList ++ '#' :: ref.toList) :=
      String.toList_injective (by rw [Reference.written_toList]; simp [hempty])
    rw [text, cutAt_append noHash, String.ofList_toList, String.ofList_toList]
    simp [hempty]

/-- The owner and repository part of a written reference is found as written. -/
theorem repoPath_written (spec : String) (hpre : pre = "" ∨ pre = "github:")
    (ho : ∀ c ∈ o.toList, isRepoChar c = true) (hrp : ∀ c ∈ rp.toList, isRepoChar c = true) :
    repoPath spec (pre ++ (o ++ "/" ++ rp)) = .ok (o ++ "/" ++ rp) := by
  rcases hpre with rfl | rfl
  · rw [String.empty_append]
    exact repoPath_names spec ho hrp
  · exact repoPath_github spec _

end Written

/-- Reading a written reference, with or without `github:` in front, gives its owner and ref
back, and its repository without one trailing `.git`. The ref is one that reading accepts: it
passes the ref rule and does not end in a blank. -/
theorem Reference.parse_text (o rp ref : String) (ho : isOwnerName o = true)
    (hrp : isRepoName rp = true) (href : checkRef ref = .ok ())
    (hlast : ∀ c ∈ ref.toList.getLast?, isBlank c = false)
    (hrepo : checkRepo (dropSuffix rp ".git") = .ok ()) (pre : String)
    (hpre : pre = "" ∨ pre = "github:") :
    Reference.parse (pre ++ Reference.text ⟨o, rp, ref⟩) = .ok ⟨o, dropSuffix rp ".git", ref⟩ := by
  obtain ⟨-, oChars⟩ := isOwnerName_chars ho
  obtain ⟨-, rpChars⟩ := isRepoName_chars hrp
  -- trimming keeps the text, and its first `#` separates the names from the ref
  have trim := Reference.trimBlank_written hpre ho hrp hlast
  refine Reference.parse_eq_ok_iff.mpr ⟨o ++ "/" ++ rp, ?_, splitRepoPath_names ho hrepo, ?_, href⟩
  · rw [trim, Reference.cutAt_written hpre oChars rpChars]
    exact repoPath_written _ hpre oChars rpChars
  · rw [trim, Reference.cutAt_written hpre oChars rpChars]
    by_cases hempty : ref.isEmpty = true
    · simp [String.isEmpty_iff.mp hempty]
    · simp [hempty]

/-- A read reference passes the host's three rules, and its written form, with or without
`github:` in front, reads back as the same reference unless its repository ends in `.git`;
every refusal is `INVALID_SPECIFIER`. -/
theorem Reference.parse_sound_and_rereadable (spec : String) :
    (∀ r, Reference.parse spec = .ok r →
      checkOwner r.owner = .ok () ∧ checkRepo r.repo = .ok () ∧ checkRef r.ref = .ok () ∧
      (r.repo.endsWith ".git" = false →
        Reference.parse r.text = .ok r ∧ Reference.parse ("github:" ++ r.text) = .ok r)) ∧
    (∀ e, Reference.parse spec = .error e → e.code? = some .invalidSpecifier) := by
  constructor
  · rintro ⟨owner, repo, ref⟩ h
    obtain ⟨path, -, hsplit, -, href⟩ := Reference.parse_eq_ok_iff.mp h
    obtain ⟨rest, -, -, howner, hrepo⟩ := splitRepoPath_eq_ok.mp hsplit
    refine ⟨howner, hrepo, href, fun plain => ?_⟩
    have same := dropSuffix_of_endsWith_eq_false plain
    have reread := Reference.parse_text owner repo ref ((checkOwner_eq_ok _).mp howner)
      ((checkRepo_eq_ok _).mp hrepo) href (Reference.parse_ref_last h) (same ▸ hrepo)
    rw [same] at reread
    exact ⟨by simpa using reread "" (.inl rfl), reread "github:" (.inr rfl)⟩
  · intro e h
    rcases Reference.parse_error_cases h with ⟨m, rfl⟩ | ⟨m, c, -, rfl⟩ <;> rfl

/-- Reading drops one `.git` each time: `o/foo.git.git` reads as the repository `foo.git`,
whose written form `o/foo.git` reads as `foo`. -/
theorem Reference.parse_text_drops_git :
    Reference.parse "o/foo.git.git" = .ok ⟨"o", "foo.git", ""⟩ ∧
      Reference.parse (Reference.text ⟨"o", "foo.git", ""⟩) = .ok ⟨"o", "foo", ""⟩ := by
  have owner : isOwnerName "o" = true := by decide
  have noRef : checkRef "" = .ok () := rfl
  have once : dropSuffix "foo.git.git" ".git" = "foo.git" := dropSuffix_append "foo.git" ".git"
  have twice : dropSuffix "foo.git" ".git" = "foo" := dropSuffix_append "foo" ".git"
  have first := Reference.parse_text "o" "foo.git.git" "" owner (by decide) noRef (by simp)
    ((checkRepo_eq_ok _).mpr (by rw [once]; decide)) "" (.inl rfl)
  have second := Reference.parse_text "o" "foo.git" "" owner (by decide) noRef (by simp)
    ((checkRepo_eq_ok _).mpr (by rw [twice]; decide)) "" (.inl rfl)
  have written : Reference.text ⟨"o", "foo.git.git", ""⟩ = "o/foo.git.git" := by decide
  rw [once, String.empty_append, written] at first
  rw [twice, String.empty_append] at second
  exact ⟨first, second⟩

end DepLock.Source
