import DepLock.Source.Client
import Mathlib.Tactic.SplitIfs
import Mathlib.Data.List.TakeWhile
/-!
# The ref a commit lookup asks for

`HostClient.resolveCommit` writes the ref into the lookup's address as it is, and
`Url.parse` reads everything after the address's first `#` as the fragment, which a web
client never sends. A ref `a#b` therefore asks the source host about `a`: through a
transport that does not read fragments, the lookup of `a#b` answers exactly when the
lookup of `a` does, with the same commit.

Failures are compared only by whether they happen: their messages quote the address,
which differs.
-/

set_option autoImplicit false

namespace DepLock

/-- A failure has no value. -/
@[simp] theorem Except.toOption_error {ε α : Type} (e : ε) : (Except.error e : Except ε α).toOption = none :=
  rfl

/-- Two computations with the same values, continued by continuations with the same values,
have the same values. -/
theorem Except.toOption_bind_congr {ε α β : Type} {x y : Except ε α} {f g : α → Except ε β}
    (hxy : x.toOption = y.toOption) (hfg : ∀ a, (f a).toOption = (g a).toOption) :
    (x >>= f).toOption = (y >>= g).toOption := by
  cases x with
  | error e =>
    cases y with
    | error e' => rfl
    | ok b => cases hxy
  | ok a =>
    cases y with
    | error e' => cases hxy
    | ok b =>
      cases hxy
      exact hfg a

/-- In `Id`, every run of a retried action gives the same outcome, so retrying changes
nothing. -/
theorem retryRuns_id {α : Type} (act : Except Error α) (n : Nat) :
    retryRuns (m := Id) act n = act := by
  induction n with
  | zero => rfl
  | succ n ih =>
    cases act with
    | ok a => rfl
    | error e =>
      show (if e.retryable then retryRuns (m := Id) (.error e) n else pure (.error e)) = _
      split
      · exact ih
      · rfl

namespace Web

/-- A transport that does not read an address's fragment, which never goes on the wire. -/
def Transport.IgnoresFragment (t : Transport) : Prop :=
  ∀ req : Request, t req = t { req with url := { req.url with fragment := none } }

section Hash

variable {pre post : String}

/-- A text with no hash sign has only characters other than the hash sign. -/
theorem ne_hash_of_not_mem (hpre : '#' ∉ pre.toList) : ∀ c ∈ pre.toList, (c != '#') = true := by
  intro c hc
  simp only [bne_iff_ne, ne_eq]
  rintro rfl
  exact hpre hc

/-- The characters before the first hash sign of a text joined at a hash sign are the first
text's. -/
theorem takeWhile_hash (hpre : '#' ∉ pre.toList) :
    (pre ++ "#" ++ post).toList.takeWhile (· != '#') = pre.toList := by
  simp only [String.toList_append]
  rw [show "#".toList = ['#'] from rfl, List.append_assoc, List.singleton_append,
    List.takeWhile_append_of_pos (ne_hash_of_not_mem hpre)]
  simp

/-- From the first hash sign of a text joined at a hash sign on, the text is the sign and
the second text. -/
theorem dropWhile_hash (hpre : '#' ∉ pre.toList) :
    (pre ++ "#" ++ post).toList.dropWhile (· != '#') = '#' :: post.toList := by
  simp only [String.toList_append]
  rw [show "#".toList = ['#'] from rfl, List.append_assoc, List.singleton_append,
    List.dropWhile_append_of_pos (ne_hash_of_not_mem hpre)]
  simp

/-- An address without `#` is read whole, and a refusal names it. -/
theorem Url.parse_of_no_hash (hpre : '#' ∉ pre.toList) :
    Url.parse pre = (parseMain pre.toList).mapError fun reason => ⟨pre, reason⟩ := by
  have whole : pre.toList.takeWhile (· != '#') = pre.toList :=
    List.takeWhile_eq_self_iff.mpr (ne_hash_of_not_mem hpre)
  have rest : pre.toList.dropWhile (· != '#') = [] :=
    List.dropWhile_eq_nil_iff.mpr (ne_hash_of_not_mem hpre)
  unfold Url.parse
  simp only [whole, rest, String.ofList_toList]
  cases parseMain pre.toList <;> rfl

/-- What follows the first `#` of an address is its fragment when its escapes are well
formed, and the rest is read as if the address ended there. -/
theorem Url.parse_hash (hpre : '#' ∉ pre.toList) (hpost : badEscape? post.toList = none) :
    Url.parse (pre ++ "#" ++ post) =
      (fun u => if post.isEmpty then u else { u with fragment := some post }) <$> Url.parse pre := by
  rw [Url.parse_of_no_hash hpre]
  unfold Url.parse
  simp only [takeWhile_hash hpre, dropWhile_hash hpre, String.ofList_toList]
  cases parseMain pre.toList with
  | error reason => rfl
  | ok u =>
    -- the fragment is taken only when it is not empty
    cases hp : post.toList with
    | nil =>
      have : post = "" := String.toList_injective (by simpa using hp)
      subst this
      rfl
    | cons c cs =>
      have nonempty : post.isEmpty = false := by
        rw [Bool.eq_false_iff, ne_eq, String.isEmpty_iff]
        intro h
        simp [h] at hp
      simp only [nonempty, Bool.false_eq_true, if_false, ← hp, String.ofList_toList, hpost]
      rfl

/-- A malformed escape after the first `#` fails the address, whatever precedes it. -/
theorem Url.parse_bad_fragment (hpre : '#' ∉ pre.toList) (hbad : badEscape? post.toList ≠ none) :
    ∃ e, Url.parse (pre ++ "#" ++ post) = .error e := by
  unfold Url.parse
  simp only [takeWhile_hash hpre, dropWhile_hash hpre]
  cases parseMain pre.toList with
  | error reason => exact ⟨_, rfl⟩
  | ok u =>
    dsimp only
    cases hp : post.toList with
    | nil => simp [hp, badEscape?] at hbad
    | cons c cs =>
      rw [hp] at hbad
      obtain ⟨bad, hb⟩ := Option.ne_none_iff_exists'.mp hbad
      simp only [hb]
      exact ⟨_, rfl⟩

/-- Sending to `a#b` is sending to `a` when the escapes of `b` are well formed: the same
request reaches a transport that does not read fragments, so the same reply comes back. -/
theorem Client.send_hash (c : Client) {t : Transport} (ht : t.IgnoresFragment)
    (extra : List (String × String)) (hpre : '#' ∉ pre.toList)
    (hpost : badEscape? post.toList = none) :
    (c.send t (pre ++ "#" ++ post) extra).toOption = (c.send t pre extra).toOption := by
  unfold Client.send
  rw [Url.parse_hash hpre hpost]
  cases Url.parse pre with
  | error m => simp only [Functor.map, Except.map, Except.toOption_error]
  | ok u =>
    have same : t ⟨if post.isEmpty then u else { u with fragment := some post }, c.requestHeaders extra⟩ =
        t ⟨u, c.requestHeaders extra⟩ := by
      split
      · rfl
      · exact (ht _).trans (ht ⟨u, c.requestHeaders extra⟩).symm
    simp only [Functor.map, Except.map, same]
    -- the checks read the same scheme and host; only failures quote the address
    split <;> split_ifs
    all_goals first
      | simp only [Except.toOption_error]
      | (cases t ⟨u, c.requestHeaders extra⟩ <;> simp only [Except.toOption_error])

/-- A malformed escape after the first `#` fails the request before anything is sent. -/
theorem Client.send_bad_fragment (c : Client) (t : Transport) (extra : List (String × String))
    (hpre : '#' ∉ pre.toList) (hbad : badEscape? post.toList ≠ none) :
    (c.send t (pre ++ "#" ++ post) extra).toOption = none := by
  obtain ⟨e, he⟩ := Url.parse_bad_fragment hpre hbad
  unfold Client.send
  rw [he]
  rfl

/-- A well-formed fragment changes nothing that a fetch gives, over a transport that does
not read fragments. -/
theorem Client.getDecoded_hash {α : Type} (c : Client) {t : Transport} (ht : t.IgnoresFragment)
    (extra : List (String × String)) (decode : Json.Value → Except String α)
    (hpre : '#' ∉ pre.toList) (hpost : badEscape? post.toList = none) :
    (c.getDecoded t (pre ++ "#" ++ post) extra decode).toOption =
      (c.getDecoded t pre extra decode).toOption := by
  unfold Client.getDecoded
  refine Except.toOption_bind_congr (c.send_hash ht extra hpre hpost) fun r => ?_
  -- a reply decodes alike at both addresses; only the failures name the address
  cases Json.readFirst r.body with
  | error e => simp only [Except.toOption_error]
  | ok v =>
    dsimp only
    cases decode v with
    | error m => simp only [Except.toOption_error]
    | ok a => dsimp only

/-- An address with a malformed escape in its fragment is fetched in vain. -/
theorem Client.getDecoded_bad_fragment {α : Type} (c : Client) (t : Transport)
    (extra : List (String × String)) (decode : Json.Value → Except String α)
    (hpre : '#' ∉ pre.toList) (hbad : badEscape? post.toList ≠ none) :
    (c.getDecoded t (pre ++ "#" ++ post) extra decode).toOption = none := by
  unfold Client.getDecoded
  cases hs : c.send t (pre ++ "#" ++ post) extra with
  | error e => rfl
  | ok r =>
    have := c.send_bad_fragment t extra hpre hbad
    rw [hs] at this
    cases this

end Hash

/-- A refreshing look-up that meets one outcome at every attempt answers with it. -/
theorem Client.cached_refresh {α : Type} (c : Client) (store : Cache.Store) (now : Int)
    (key : String) (decode : String → Option α) (encode : α → String) (fetch : Except Error α) :
    (Id.run (c.cached store now key true decode encode (pure fetch))).2 = fetch := by
  simp only [cached, lookUp, if_true, Id.run_map]
  rw [retry, retryRuns_id]
  cases fetch <;> rfl

end Web

namespace Source

/-- A refreshing lookup through one transport answers as one attempt at the commit does. -/
theorem HostClient.resolveCommit_refresh (hc : HostClient) (t : Web.Transport) (store : Cache.Store)
    (now : Int) (owner repo ref : String) :
    (Id.run (hc.resolveCommit (pure t) store now owner repo ref true)).2 =
      (hc.commitAttempt t owner repo (if ref.isEmpty then "HEAD" else ref)).map (·.sha) := by
  simp only [HostClient.resolveCommit, map_pure, Id.run_map]
  rw [Web.Client.cached_refresh]

/-- How a lookup reads a ref `a#b`: when the escapes of `b` are well formed, the commit
looked up is the commit of `a` (the lookups succeed together and with the same commit),
and when they are not, the address does not parse and the lookup fails, whatever the host
would answer. -/
theorem HostClient.resolveCommit_ref_stops_at_hash (hc : HostClient) {t : Web.Transport}
    (ht : t.IgnoresFragment) (store : Cache.Store) (now : Int) (owner repo a b : String)
    (hbase : '#' ∉ hc.base.toList) (howner : '#' ∉ owner.toList) (hrepo : '#' ∉ repo.toList)
    (ha : '#' ∉ a.toList) (hne : a ≠ "") :
    (Web.badEscape? b.toList = none →
      (Id.run (hc.resolveCommit (pure t) store now owner repo (a ++ "#" ++ b) true)).2.toOption =
        (Id.run (hc.resolveCommit (pure t) store now owner repo a true)).2.toOption) ∧
    (Web.badEscape? b.toList ≠ none →
      (Id.run (hc.resolveCommit (pure t) store now owner repo (a ++ "#" ++ b) true)).2.toOption =
        none) := by
  -- neither ref is empty, so both are written into the address as they are
  have cut : a.isEmpty = false := by simpa using hne
  have whole : (a ++ "#" ++ b).isEmpty = false := by simp
  have hpre : '#' ∉ (hc.base ++ "/repos/" ++ owner ++ "/" ++ repo ++ "/commits/" ++ a).toList := by
    simp [String.toList_append, hbase, howner, hrepo, ha]
  rw [resolveCommit_refresh, resolveCommit_refresh]
  simp only [cut, whole, Bool.false_eq_true, if_false, HostClient.commitAttempt]
  have addr : hc.base ++ "/repos/" ++ owner ++ "/" ++ repo ++ "/commits/" ++ (a ++ "#" ++ b) =
      hc.base ++ "/repos/" ++ owner ++ "/" ++ repo ++ "/commits/" ++ a ++ "#" ++ b := by
    simp only [String.append_assoc]
  rw [addr]
  refine ⟨fun hb => ?_, fun hb => ?_⟩
  · have decoded := hc.client.getDecoded_hash ht []
      (fun v => (readCommitAnswer [] v).mapError (·.message "commitResponse")) hpre hb
    -- the two answers fail together or are the same commit, and the same check follows
    generalize hc.client.getDecoded t
      (hc.base ++ "/repos/" ++ owner ++ "/" ++ repo ++ "/commits/" ++ a ++ "#" ++ b) []
      (fun v => (readCommitAnswer [] v).mapError (·.message "commitResponse")) = long at decoded ⊢
    generalize hc.client.getDecoded t (hc.base ++ "/repos/" ++ owner ++ "/" ++ repo ++ "/commits/" ++ a) []
      (fun v => (readCommitAnswer [] v).mapError (·.message "commitResponse")) = short at decoded ⊢
    cases long with
    | error e =>
      cases short with
      | error e' => simp only [Except.map, Except.toOption_error]
      | ok c => cases decoded
    | ok c =>
      cases short with
      | error e' => cases decoded
      | ok c' =>
        cases decoded
        dsimp only
        cases c.sha.isEmpty
        · simp only [Bool.false_eq_true, if_false]
        · simp only [if_true, Except.map, Except.toOption_error]
  · have failed := hc.client.getDecoded_bad_fragment t []
      (fun v => (readCommitAnswer [] v).mapError (·.message "commitResponse")) hpre hb
    generalize hc.client.getDecoded t
      (hc.base ++ "/repos/" ++ owner ++ "/" ++ repo ++ "/commits/" ++ a ++ "#" ++ b) []
      (fun v => (readCommitAnswer [] v).mapError (·.message "commitResponse")) = long at failed ⊢
    cases long with
    | error e => simp only [Except.map, Except.toOption_error]
    | ok c => cases failed

/-- A host that knows one commit, `abc1`, of `o/r` at `main`, and nothing else. -/
def mainOnly : Web.Transport := fun req =>
  if req.url.path == "/repos/o/r/commits/main" then .ok ⟨200, [], "\x7b\"sha\": \"abc1\"\x7d"⟩
  else .ok ⟨404, [], ""⟩

/-- Asking a host that knows `main` for the ref `main#x` gives the commit of `main`, and
asking for `main#%zz` fails. -/
theorem HostClient.resolveCommit_branch_with_hash :
    (Id.run ((HostClient.mk ⟨"github", 0, [], 1⟩ defaultApi).resolveCommit (pure mainOnly) .none 0
        "o" "r" "main" true)).2.toOption = some "abc1" ∧
    (Id.run ((HostClient.mk ⟨"github", 0, [], 1⟩ defaultApi).resolveCommit (pure mainOnly) .none 0
        "o" "r" ("main" ++ "#" ++ "x") true)).2.toOption = some "abc1" ∧
    (Id.run ((HostClient.mk ⟨"github", 0, [], 1⟩ defaultApi).resolveCommit (pure mainOnly) .none 0
        "o" "r" ("main" ++ "#" ++ "%zz") true)).2.toOption = none := by
  have ignores : mainOnly.IgnoresFragment := fun _ => rfl
  have answered : (Id.run ((HostClient.mk ⟨"github", 0, [], 1⟩ defaultApi).resolveCommit (pure mainOnly)
      .none 0 "o" "r" "main" true)).2.toOption = some "abc1" := by decide +kernel
  have viaHash := (HostClient.resolveCommit_ref_stops_at_hash (HostClient.mk ⟨"github", 0, [], 1⟩ defaultApi)
    ignores .none 0 "o" "r" "main" "x" (by decide) (by decide) (by decide) (by decide) (by simp)).1 rfl
  have badHash := (HostClient.resolveCommit_ref_stops_at_hash (HostClient.mk ⟨"github", 0, [], 1⟩ defaultApi)
    ignores .none 0 "o" "r" "main" "%zz" (by decide) (by decide) (by decide) (by decide) (by simp)).2
    (Option.some_ne_none _)
  exact ⟨answered, viaHash.trans answered, badHash⟩

end Source

end DepLock
