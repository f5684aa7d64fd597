import DepLock.Proofs.Source.Reference
/-!
# Normalizing repository addresses

`normalizeRepoUrl` trims the address, cuts it at its first `#`, and rewrites the part before
it in three steps, each taken once: one pass of the host's rewrites (`replaceEach`), then one
leading `git+` and one trailing `.git` dropped (`rewriteBody`). The fragment is put back as it
was.

One pass of the rewrites leaves none of their patterns behind (`Settling.clean`): for the
host's rules no pattern can start inside a replacement, or run from the text before a
replacement into it, so a pattern left after the pass would have been there before, where the
pass would have replaced it (`Settling.prefix_of_prefix`). Dropping a prefix or a suffix
keeps that.

The other two steps are not repeated, so a second normalization is not always idle: it drops
a second `git+` or `.git`, and blanks that the first one uncovered
(`normalizeRepoUrl_drops_one_git`). It changes nothing exactly when the first left none of
these (`normalizeRepoUrl_stable_iff`), and `normalizeRepoUrl_rewrites_once` puts the facts
together.
-/

set_option autoImplicit false

namespace DepLock.Source

open DepLock.Text

/-! ## One pass of a replacer -/

/-- Rules that one pass settles: no pattern is empty, no tail of a pattern cut after its
first character agrees with a replacement as far as both go, and no pattern agrees with a
replacement from one of its positions on. -/
structure Settling (rules : List (List Char × List Char)) : Prop where
  nonempty : ∀ r ∈ rules, r.1 ≠ []
  noRunInto : ∀ p ∈ rules, ∀ r ∈ rules, ∀ i, 0 < i → i < p.1.length →
    ¬ p.1.drop i <+: r.2 ∧ ¬ r.2 <+: p.1.drop i
  noStartInside : ∀ p ∈ rules, ∀ r ∈ rules, ∀ j < r.2.length,
    ¬ p.1 <+: r.2.drop j ∧ ¬ r.2.drop j <+: p.1

/-- Decides `Settling`. -/
def settlingCheck (rules : List (List Char × List Char)) : Bool :=
  rules.all (fun r => !r.1.isEmpty) &&
  rules.all (fun p => rules.all fun r => (List.range p.1.length).all fun i =>
    i == 0 || (!(p.1.drop i).isPrefixOf r.2 && !r.2.isPrefixOf (p.1.drop i))) &&
  rules.all (fun p => rules.all fun r => (List.range r.2.length).all fun j =>
    !p.1.isPrefixOf (r.2.drop j) && !(r.2.drop j).isPrefixOf p.1)

/-- The check decides that one pass settles a list of rules. -/
theorem settling_of_check {rules : List (List Char × List Char)} (h : settlingCheck rules = true) :
    Settling rules := by
  have apart : ∀ x y : List Char, x.isPrefixOf y = false → ¬ x <+: y := fun x y h hxy => by
    rw [List.isPrefixOf_iff_prefix.mpr hxy] at h
    cases h
  simp only [settlingCheck, Bool.and_eq_true, List.all_eq_true, List.mem_range,
    Bool.or_eq_true, beq_iff_eq, Bool.not_eq_true', List.isEmpty_eq_false_iff] at h
  obtain ⟨⟨nonempty, runInto⟩, startInside⟩ := h
  refine ⟨nonempty, fun p hp r hr i hi hlen => ?_, fun p hp r hr j hj => ?_⟩
  · rcases runInto p hp r hr i hlen with zero | ⟨runs, covers⟩
    · omega
    · exact ⟨apart _ _ runs, apart _ _ covers⟩
  · obtain ⟨starts, covers⟩ := startInside p hp r hr j hj
    exact ⟨apart _ _ starts, apart _ _ covers⟩

section Replace

variable {rules : List (List Char × List Char)}

/-- Replacing in the empty text gives the empty text. -/
theorem replaceEach_nil : replaceEach rules [] = [] := replaceEach.eq_1 rules

/-- Where a rule's pattern starts, the pass writes the rule's replacement and goes on after
the pattern. -/
theorem replaceEach_of_find?_some {c : Char} {rest : List Char} {r : List Char × List Char}
    (h : rules.find? (fun r => !r.1.isEmpty && r.1.isPrefixOf (c :: rest)) = some r) :
    replaceEach rules (c :: rest) = r.2 ++ replaceEach rules (rest.drop (r.1.length - 1)) := by
  rw [replaceEach.eq_2, h]

/-- Where no rule's pattern starts, the pass keeps the character and goes on. -/
theorem replaceEach_of_find?_none {c : Char} {rest : List Char}
    (h : rules.find? (fun r => !r.1.isEmpty && r.1.isPrefixOf (c :: rest)) = none) :
    replaceEach rules (c :: rest) = c :: replaceEach rules rest := by
  rw [replaceEach.eq_2, h]

/-- The test a pass makes at each position: the rule's pattern is not empty and starts there. -/
theorem ruleStarts_iff {r : List Char × List Char} {cs : List Char} :
    (!r.1.isEmpty && r.1.isPrefixOf cs) = true ↔ r.1 ≠ [] ∧ r.1 <+: cs := by
  simp only [Bool.and_eq_true, Bool.not_eq_true', List.isEmpty_eq_false_iff,
    List.isPrefixOf_iff_prefix]

/-- What follows a prefix of `a ++ ys`, past `a`, is a prefix of `ys`. -/
theorem drop_prefix_of_prefix_append {p a ys : List Char} (h : p <+: a ++ ys) :
    p.drop a.length <+: ys := by
  obtain ⟨t, ht⟩ := h
  have dropped := congrArg (List.drop a.length) ht
  rw [List.drop_append, List.drop_left] at dropped
  exact ⟨t.drop (a.length - p.length), dropped⟩

/-- An infix that is not empty starts at a position of the text. -/
theorem exists_prefix_drop_of_infix {p ys : List Char} (hp : p ≠ []) (h : p <:+: ys) :
    ∃ j < ys.length, p <+: ys.drop j := by
  obtain ⟨s, t, hst⟩ := h
  have len := congrArg List.length hst
  simp only [List.length_append] at len
  have hlen : 0 < p.length := List.length_pos_iff.mpr hp
  refine ⟨s.length, by omega, t, ?_⟩
  rw [← hst, List.append_assoc, List.drop_left]

/-- A suffix that is not empty starts at a position of the text. -/
theorem exists_drop_eq_of_suffix {l ys : List Char} (hl : l ≠ []) (h : l <:+ ys) :
    ∃ j < ys.length, ys.drop j = l := by
  obtain ⟨s, rfl⟩ := h
  have hlen : 0 < l.length := List.length_pos_iff.mpr hl
  exact ⟨s.length, by simp; omega, List.drop_left⟩

variable (hs : Settling rules)
include hs

/-- A pattern that starts before what one pass left, and runs into it, started the same way
before the pass: it cannot run into a replacement. -/
theorem Settling.prefix_of_prefix {p : List Char × List Char} (hp : p ∈ rules) (cs : List Char) :
    ∀ a : List Char, a ≠ [] → p.1 <+: a ++ replaceEach rules cs → p.1 <+: a ++ cs := by
  induction cs using replaceEach.induct rules with
  | case1 =>
    intro a _ h
    rwa [replaceEach_nil] at h
  | case2 c rest r found _ =>
    intro a ha h
    rw [replaceEach_of_find?_some found] at h
    by_cases short : p.1.length ≤ a.length
    · exact List.prefix_append_of_prefix (List.prefix_of_prefix_length_le h (List.prefix_append a _) short)
    · -- the pattern would run from `a` into the replacement `r.2`
      have into : p.1.drop a.length <+: r.2 ++ _ := drop_prefix_of_prefix_append h
      have hr : r ∈ rules := List.mem_of_find?_eq_some found
      have start : 0 < a.length := List.length_pos_iff.mpr ha
      rcases List.prefix_or_prefix_of_prefix into (List.prefix_append r.2 _) with runs | covers
      · exact absurd runs (hs.noRunInto p hp r hr a.length start (by omega)).1
      · exact absurd covers (hs.noRunInto p hp r hr a.length start (by omega)).2
  | case3 c rest none ih =>
    intro a ha h
    rw [replaceEach_of_find?_none none, ← List.singleton_append, ← List.append_assoc] at h
    have := ih (a ++ [c]) (by simp) h
    rwa [List.append_assoc, List.singleton_append] at this

/-- After one pass no pattern is left. -/
theorem Settling.clean {p : List Char × List Char} (hp : p ∈ rules) (cs : List Char) :
    ¬ p.1 <:+: replaceEach rules cs := by
  have hne := hs.nonempty p hp
  induction cs using replaceEach.induct rules with
  | case1 =>
    rw [replaceEach_nil, List.infix_nil]
    exact hne
  | case2 c rest r found ih =>
    rw [replaceEach_of_find?_some found, List.infix_append_iff_ne_nil]
    have hr : r ∈ rules := List.mem_of_find?_eq_some found
    rintro (inside | later | ⟨l₁, l₂, h₁, -, split, suffix, -⟩)
    · -- the pattern would start inside the replacement
      obtain ⟨j, hj, starts⟩ := exists_prefix_drop_of_infix hne inside
      exact (hs.noStartInside p hp r hr j hj).1 starts
    · exact ih later
    · -- the pattern would start inside the replacement and run past it
      obtain ⟨j, hj, tail⟩ := exists_drop_eq_of_suffix h₁ suffix
      refine (hs.noStartInside p hp r hr j hj).2 ?_
      rw [tail, split]
      exact List.prefix_append l₁ l₂
  | case3 c rest none ih =>
    rw [replaceEach_of_find?_none none, List.infix_cons_iff]
    rintro (here | later)
    · -- a pattern at the head of the result was at the head of the text, which no rule matched
      have before := hs.prefix_of_prefix hp rest [c] (List.cons_ne_nil c []) here
      exact List.find?_eq_none.mp none p hp (ruleStarts_iff.mpr ⟨hne, before⟩)
    · exact ih later

end Replace

/-- A pass over a text that holds no pattern changes nothing. -/
theorem replaceEach_of_clean {rules : List (List Char × List Char)} {cs : List Char}
    (h : ∀ r ∈ rules, ¬ r.1 <:+: cs) : replaceEach rules cs = cs := by
  induction cs using replaceEach.induct rules with
  | case1 => exact replaceEach_nil
  | case2 c rest r found _ =>
    have matched := List.find?_some found
    replace matched := ruleStarts_iff.mp matched
    exact absurd matched.2.isInfix (h r (List.mem_of_find?_eq_some found))
  | case3 c rest none ih =>
    rw [replaceEach_of_find?_none none, ih fun r hr inner => h r hr (inner.trans (List.suffix_cons c rest).isInfix)]

/-- A pass writes only characters of the text and of the replacements. -/
theorem mem_replaceEach {rules : List (List Char × List Char)} {x : Char} {cs : List Char}
    (h : x ∈ replaceEach rules cs) : x ∈ cs ∨ ∃ r ∈ rules, x ∈ r.2 := by
  induction cs using replaceEach.induct rules with
  | case1 => simp [replaceEach_nil] at h
  | case2 c rest r found ih =>
    rw [replaceEach_of_find?_some found, List.mem_append] at h
    rcases h with new | later
    · exact .inr ⟨r, List.mem_of_find?_eq_some found, new⟩
    · rcases ih later with old | new
      · exact .inl (List.mem_cons_of_mem c (List.mem_of_mem_drop old))
      · exact .inr new
  | case3 c rest none ih =>
    rw [replaceEach_of_find?_none none, List.mem_cons] at h
    rcases h with rfl | later
    · exact .inl List.mem_cons_self
    · exact (ih later).imp_left (List.mem_cons_of_mem c)

/-! ## Texts around a `#` -/

/-- A text followed by `#` and the fragment, when there is one. -/
def withFragment (s : String) : Option String → String
  | some f => s ++ "#" ++ f
  | none => s

/-- A text with a fragment is the text followed by the fragment's part. -/
theorem withFragment_toList (s : String) (fr : Option String) :
    (withFragment s fr).toList = s.toList ++ (withFragment "" fr).toList := by
  cases fr with
  | none => simp [withFragment]
  | some f => simp [withFragment, String.toList_append]

/-- A text with a fragment is as long as the text and the fragment's part together. -/
theorem length_withFragment (s : String) (fr : Option String) :
    (withFragment s fr).length = s.length + (withFragment "" fr).length := by
  rw [← String.length_toList, withFragment_toList, List.length_append, String.length_toList,
    String.length_toList]

/-- What comes before the first `sep` holds no `sep`. -/
theorem sep_not_mem_cutAt_fst (s : String) (sep : Char) : sep ∉ (cutAt s sep).1.toList := by
  unfold cutAt
  rw [List.span_eq_takeWhile_dropWhile]
  split
  · rename_i before after hsplit
    simp only [Prod.mk.injEq] at hsplit
    rw [String.toList_ofList, ← hsplit.1]
    intro hmem
    simpa using List.mem_takeWhile_imp hmem
  · rename_i hsplit
    simp only [Prod.mk.injEq] at hsplit
    intro hmem
    simpa using List.dropWhile_eq_nil_iff.mp hsplit.2 sep hmem

/-- Cutting at the first `#` and putting the `#` back gives the text. -/
theorem withFragment_cutAt (t : String) : withFragment (cutAt t '#').1 (cutAt t '#').2 = t := by
  cases hcut : cutAt t '#' with
  | mk before after =>
    cases after with
    | none =>
      -- no `#`: the text is not cut
      unfold cutAt at hcut
      split at hcut
      · cases hcut
      · cases hcut
        rfl
    | some after =>
      apply String.toList_injective
      rw [withFragment, cutAt_eq_some hcut]
      simp [String.toList_append]

/-- A text with no `#` is the part before the `#` of itself followed by a fragment. -/
theorem cutAt_withFragment {s : String} (hs : '#' ∉ s.toList) (fr : Option String) :
    cutAt (withFragment s fr) '#' = (s, fr) := by
  cases fr with
  | none => exact cutAt_of_not_mem hs
  | some f =>
    have joined : withFragment s (some f) = String.ofList (s.toList ++ '#' :: f.toList) := by
      apply String.toList_injective
      simp [withFragment, String.toList_append]
    rw [joined, cutAt_append hs, String.ofList_toList, String.ofList_toList]

/-- Blanks are dropped from the ends of a text only up to a character that is not blank. -/
theorem dropWhile_append_cons {p : Char → Bool} {c : Char} (hc : p c = false) (xs ys : List Char) :
    (xs ++ c :: ys).dropWhile p = xs.dropWhile p ++ c :: ys := by
  induction xs with
  | nil => simp [hc]
  | cons x xs ih =>
    by_cases hx : p x = true
    · simp [hx, ih]
    · simp [hx]

/-- Trimming a text with a non-blank character trims only the blanks before and after it. -/
theorem trimBlankList_append_cons {c : Char} (hc : isBlank c = false) (xs ys : List Char) :
    trimBlankList (xs ++ c :: ys) =
      xs.dropWhile isBlank ++ c :: (ys.reverse.dropWhile isBlank).reverse := by
  unfold trimBlankList
  rw [dropWhile_append_cons hc, List.reverse_append, List.reverse_cons, List.append_assoc,
    List.singleton_append, dropWhile_append_cons hc]
  simp

/-- Trimming a text whose part before the `#` is `body` leaves, before the `#`, a piece of
`body`: trimming stops at the `#`, which is not blank. -/
theorem cutAt_trimBlank_isInfix {body : String} (hbody : '#' ∉ body.toList) (fr : Option String) :
    (cutAt (trimBlank (withFragment body fr)) '#').1.toList <:+: body.toList := by
  cases fr with
  | none =>
    have piece : (trimBlank body).toList <:+: body.toList := by
      simpa [trimBlank] using trimBlankList_infix body.toList
    rw [withFragment, cutAt_of_not_mem fun h => hbody (piece.subset h)]
    exact piece
  | some f =>
    have trimmed : trimBlank (withFragment body (some f)) =
        String.ofList (body.toList.dropWhile isBlank ++
          '#' :: (f.toList.reverse.dropWhile isBlank).reverse) := by
      rw [trimBlank, withFragment_toList]
      simp only [withFragment, String.toList_append, String.toList_empty, List.nil_append]
      rw [show "#".toList = ['#'] from rfl, List.singleton_append,
        trimBlankList_append_cons (by decide)]
    have noHash : '#' ∉ body.toList.dropWhile isBlank := fun h =>
      hbody ((List.dropWhile_suffix isBlank).subset h)
    rw [trimmed, cutAt_append noHash, String.toList_ofList]
    exact (List.dropWhile_suffix isBlank).isInfix

/-! ## The host's rewrites, and the body of an address -/

/-- The host's rewrites as lists of characters, as `normalizeRepoUrl` applies them. -/
def hostRules : List (List Char × List Char) := hostRewrites.map fun (a, b) => (a.toList, b.toList)

/-- No clone form of the host starts inside its web prefix `https://github.com/` or runs
into it. -/
theorem hostRules_settling : Settling hostRules := settling_of_check (by decide)

/-- No replacement of the host's rewrites holds a hash sign. -/
theorem hash_not_mem_hostRules : ∀ r ∈ hostRules, '#' ∉ r.2 := by
  have check : hostRules.all (fun r => !r.2.contains '#') = true := by decide
  intro r hr
  simpa using List.all_eq_true.mp check r hr

/-- The part of an address before its fragment, rewritten: one pass of the host's rewrites,
then one leading `git+` and one trailing `.git` dropped. -/
def rewriteBody (body : String) : String :=
  let s := String.ofList (replaceEach hostRules body.toList)
  dropSuffix ((dropPrefix? s "git+").getD s) ".git"

/-- Dropping a suffix leaves a prefix. -/
theorem dropSuffix_isPrefix (s p : String) : (dropSuffix s p).toList <+: s.toList := by
  unfold dropSuffix
  split
  · rw [String.toList_ofList]
    exact List.take_prefix _ _
  · exact List.prefix_refl _

/-- Dropping a prefix leaves a suffix. -/
theorem dropPrefix?_getD_isSuffix (s p : String) : ((dropPrefix? s p).getD s).toList <:+ s.toList := by
  unfold dropPrefix?
  split
  · rw [Option.getD_some, String.toList_ofList]
    exact List.drop_suffix _ _
  · exact List.suffix_refl _

/-- Dropping a suffix that a text ends with shortens it by the suffix's length. -/
theorem length_dropSuffix_of_endsWith {s p : String} (h : s.endsWith p = true) :
    (dropSuffix s p).length + p.length = s.length := by
  have long := ((endsWith_iff _ _).mp h).length_le
  rw [dropSuffix, if_pos h, ← String.length_toList, String.toList_ofList, List.length_take]
  simp only [String.length_toList] at long ⊢
  omega

/-- Dropping a prefix that a text starts with shortens it by the prefix's length. -/
theorem length_dropPrefix?_getD_of_startsWith {s p : String} (h : s.startsWith p = true) :
    ((dropPrefix? s p).getD s).length + p.length = s.length := by
  have long := (String.startsWith_string_iff.mp h).length_le
  rw [dropPrefix?, if_pos h, Option.getD_some, ← String.length_toList, String.toList_ofList,
    List.length_drop]
  simp only [String.length_toList] at long ⊢
  omega

/-- The rewritten body is a piece of what the pass of the rewrites gave. -/
theorem rewriteBody_isInfix (body : String) :
    (rewriteBody body).toList <:+: replaceEach hostRules body.toList := by
  have piece := (dropSuffix_isPrefix _ ".git").isInfix.trans
    (dropPrefix?_getD_isSuffix (String.ofList (replaceEach hostRules body.toList)) "git+").isInfix
  rw [String.toList_ofList] at piece
  exact piece

/-- A rewritten body holds no pattern of the host's rewrites. -/
theorem clean_rewriteBody (body : String) : ∀ r ∈ hostRules, ¬ r.1 <:+: (rewriteBody body).toList :=
  fun _ hr h => hostRules_settling.clean hr body.toList (h.trans (rewriteBody_isInfix body))

/-- Rewriting a body with no hash sign adds none. -/
theorem hash_not_mem_rewriteBody {body : String} (hbody : '#' ∉ body.toList) :
    '#' ∉ (rewriteBody body).toList := fun h => by
  rcases mem_replaceEach ((rewriteBody_isInfix body).subset h) with old | ⟨r, hr, new⟩
  · exact hbody old
  · exact hash_not_mem_hostRules r hr new

/-- On a body with none of the host's clone forms the pass of the rewrites does nothing. -/
theorem rewriteBody_eq_of_clean {body : String} (clean : ∀ r ∈ hostRules, ¬ r.1 <:+: body.toList) :
    rewriteBody body = dropSuffix ((dropPrefix? body "git+").getD body) ".git" := by
  rw [rewriteBody, replaceEach_of_clean clean, String.ofList_toList]

/-- A body with none of the host's clone forms, no leading `git+` and no trailing `.git` is
left as it is. -/
theorem rewriteBody_of_clean {body : String} (clean : ∀ r ∈ hostRules, ¬ r.1 <:+: body.toList)
    (plain : body.startsWith "git+" = false) (bare : body.endsWith ".git" = false) :
    rewriteBody body = body := by
  rw [rewriteBody_eq_of_clean clean, dropPrefix?, if_neg (by simp [plain]), Option.getD_none,
    dropSuffix_of_endsWith_eq_false bare]

/-- On a body with none of the host's clone forms, rewriting only drops characters, and
drops some when the body starts with `git+` or ends with `.git`. -/
theorem length_rewriteBody_le {body : String} (clean : ∀ r ∈ hostRules, ¬ r.1 <:+: body.toList) :
    (rewriteBody body).length ≤ body.length ∧
      (body.startsWith "git+" = true ∨ body.endsWith ".git" = true →
        (rewriteBody body).length < body.length) := by
  have outer := (dropSuffix_isPrefix ((dropPrefix? body "git+").getD body) ".git").length_le
  have inner := (dropPrefix?_getD_isSuffix body "git+").length_le
  simp only [String.length_toList] at outer inner
  rw [rewriteBody_eq_of_clean clean]
  refine ⟨by omega, fun dropped => ?_⟩
  by_cases pre : body.startsWith "git+" = true
  · have four : "git+".length = 4 := rfl
    have := length_dropPrefix?_getD_of_startsWith pre
    omega
  · -- nothing was dropped in front, so the `.git` at the end is
    have suf : body.endsWith ".git" = true := dropped.resolve_left pre
    have kept : (dropPrefix? body "git+").getD body = body := by simp [dropPrefix?, pre]
    have four : ".git".length = 4 := rfl
    have := length_dropSuffix_of_endsWith suf
    rw [kept]
    omega

/-! ## The whole address -/

/-- The empty body rewrites to itself. -/
theorem rewriteBody_empty : rewriteBody "" = "" := by
  rw [rewriteBody, String.toList_empty, replaceEach_nil]
  rfl

/-- Normalising an address trims it, rewrites the part before the first hash sign and keeps
the fragment. -/
theorem normalizeRepoUrl_eq (raw : String) :
    normalizeRepoUrl raw =
      withFragment (rewriteBody (cutAt (trimBlank raw) '#').1) (cutAt (trimBlank raw) '#').2 := by
  unfold normalizeRepoUrl
  by_cases empty : raw.isEmpty = true
  · rw [if_pos empty, String.isEmpty_iff.mp empty]
    have trimmed : trimBlank "" = "" := rfl
    rw [trimmed, cutAt_of_not_mem (by simp), rewriteBody_empty]
    rfl
  · rw [if_neg empty]
    cases cutAt (trimBlank raw) '#' with
    | mk body fragment => cases fragment <;> rfl

/-- Before its first `#` a normalized address is the rewritten body of the trimmed address,
and after it the fragment is kept as it was. -/
theorem cutAt_normalizeRepoUrl (raw : String) :
    cutAt (normalizeRepoUrl raw) '#' =
      (rewriteBody (cutAt (trimBlank raw) '#').1, (cutAt (trimBlank raw) '#').2) := by
  rw [normalizeRepoUrl_eq]
  exact cutAt_withFragment (hash_not_mem_rewriteBody (sep_not_mem_cutAt_fst _ _)) _

/-- Two texts that give the same text with the same fragment are the same. -/
theorem withFragment_cancel {a b : String} {fr : Option String}
    (h : withFragment a fr = withFragment b fr) : a = b := by
  have lists := congrArg String.toList h
  rw [withFragment_toList a, withFragment_toList b] at lists
  exact String.toList_injective (List.append_cancel_right lists)

/-- Normalizing an address whose trimmed body holds none of the host's clone forms gives
no more characters than trimming it. -/
theorem length_normalizeRepoUrl_le {u : String}
    (clean : ∀ r ∈ hostRules, ¬ r.1 <:+: (cutAt (trimBlank u) '#').1.toList) :
    (normalizeRepoUrl u).length ≤ (trimBlank u).length := by
  have whole := congrArg String.length (withFragment_cutAt (trimBlank u))
  have shorter := (length_rewriteBody_le clean).1
  rw [length_withFragment] at whole
  rw [normalizeRepoUrl_eq, length_withFragment]
  omega

/-- An address that a second normalization keeps: no blank at either end, and before its
first `#` neither a leading `git+` nor a trailing `.git`. -/
def Stable (u : String) : Prop :=
  trimBlank u = u ∧ (cutAt u '#').1.startsWith "git+" = false ∧
    (cutAt u '#').1.endsWith ".git" = false

/-- A second normalization changes nothing exactly when the first left neither blanks at
the ends nor a `git+` or `.git` to drop: the host's clone forms are all gone after the
first. -/
theorem normalizeRepoUrl_stable_iff (raw : String) :
    normalizeRepoUrl (normalizeRepoUrl raw) = normalizeRepoUrl raw ↔ Stable (normalizeRepoUrl raw) := by
  have noHash := hash_not_mem_rewriteBody (sep_not_mem_cutAt_fst (trimBlank raw) '#')
  have clean := clean_rewriteBody (cutAt (trimBlank raw) '#').1
  rw [normalizeRepoUrl_eq raw]
  generalize rewriteBody (cutAt (trimBlank raw) '#').1 = body at noHash clean
  generalize (cutAt (trimBlank raw) '#').2 = fr
  have cut := cutAt_withFragment noHash fr
  unfold Stable
  rw [cut]
  constructor
  · intro same
    by_cases trimmed : trimBlank (withFragment body fr) = withFragment body fr
    · -- trimming kept the address, so the second rewrite kept the body
      rw [normalizeRepoUrl_eq, trimmed, cut] at same
      have kept : rewriteBody body = body := withFragment_cancel same
      refine ⟨trimmed, ?_⟩
      by_contra unstable
      have dropped := (length_rewriteBody_le clean).2 (by simpa only [not_and_or, Bool.not_eq_false] using unstable)
      rw [kept] at dropped
      exact Nat.lt_irrefl _ dropped
    · -- trimming dropped a blank, and the rewrites never put a character back
      have piece := cutAt_trimBlank_isInfix noHash fr
      have shorter := length_normalizeRepoUrl_le fun r hr h => clean r hr (h.trans piece)
      have trimPiece : (trimBlank (withFragment body fr)).toList <:+: (withFragment body fr).toList := by
        simpa [trimBlank] using trimBlankList_infix (withFragment body fr).toList
      have strict : (trimBlank (withFragment body fr)).length < (withFragment body fr).length := by
        rw [← String.length_toList, ← String.length_toList]
        refine lt_of_le_of_ne trimPiece.length_le fun eq => trimmed ?_
        exact String.toList_injective (trimPiece.eq_of_length eq)
      rw [same] at shorter
      omega
  · rintro ⟨trimmed, plain, bare⟩
    rw [normalizeRepoUrl_eq, trimmed, cut]
    dsimp only
    rw [rewriteBody_of_clean clean plain bare]

/-- Normalizing keeps the fragment, takes every clone form of the host out of the part
before it, and is done after one run exactly when the result is `Stable`. -/
theorem normalizeRepoUrl_rewrites_once (raw : String) :
    (∀ r ∈ hostRewrites, ¬ r.1.toList <:+: (cutAt (normalizeRepoUrl raw) '#').1.toList) ∧
      (cutAt (normalizeRepoUrl raw) '#').2 = (cutAt (trimBlank raw) '#').2 ∧
      (normalizeRepoUrl (normalizeRepoUrl raw) = normalizeRepoUrl raw ↔
        Stable (normalizeRepoUrl raw)) := by
  refine ⟨fun r hr => ?_, by rw [cutAt_normalizeRepoUrl], normalizeRepoUrl_stable_iff raw⟩
  rw [cutAt_normalizeRepoUrl]
  exact clean_rewriteBody _ (r.1.toList, r.2.toList) (List.mem_map_of_mem hr)

/-- An address with no blank at its ends, no `#`, none of the host's clone forms and no
leading `git+` loses exactly its trailing `.git`. -/
theorem normalizeRepoUrl_of_plain {s : String} (trimmed : trimBlank (s ++ ".git") = s ++ ".git")
    (noHash : '#' ∉ (s ++ ".git").toList)
    (clean : hostRules.all (fun r => !containsText.go r.1 (s ++ ".git").toList) = true)
    (plain : (s ++ ".git").startsWith "git+" = false) :
    normalizeRepoUrl (s ++ ".git") = s := by
  have clean' : ∀ r ∈ hostRules, ¬ r.1 <:+: (s ++ ".git").toList := fun r hr found => by
    have := List.all_eq_true.mp clean r hr
    rw [(containsText_go_iff _ _).mpr found] at this
    exact absurd this (by decide)
  rw [normalizeRepoUrl_eq, trimmed, cutAt_of_not_mem noHash]
  dsimp only
  rw [rewriteBody_eq_of_clean clean', dropPrefix?, if_neg (by simp [plain]), Option.getD_none,
    dropSuffix_append]
  rfl

/-- Only one trailing `.git` goes per run: a doubled one needs a second normalization. -/
theorem normalizeRepoUrl_drops_one_git :
    normalizeRepoUrl "https://github.com/u/r.git.git" = "https://github.com/u/r.git" ∧
      normalizeRepoUrl (normalizeRepoUrl "https://github.com/u/r.git.git") ≠
        normalizeRepoUrl "https://github.com/u/r.git.git" := by
  have first : normalizeRepoUrl "https://github.com/u/r.git.git" = "https://github.com/u/r.git" := by
    rw [show "https://github.com/u/r.git.git" = "https://github.com/u/r.git" ++ ".git" by decide]
    exact normalizeRepoUrl_of_plain (by decide) (by decide) (by decide)
      (startsWith_eq_false_of_not_mem (c := '+') (by decide) (by decide))
  have second : normalizeRepoUrl "https://github.com/u/r.git" = "https://github.com/u/r" := by
    rw [show "https://github.com/u/r.git" = "https://github.com/u/r" ++ ".git" by decide]
    exact normalizeRepoUrl_of_plain (by decide) (by decide) (by decide)
      (startsWith_eq_false_of_not_mem (c := '+') (by decide) (by decide))
  refine ⟨first, ?_⟩
  rw [first, second]
  decide

end DepLock.Source
