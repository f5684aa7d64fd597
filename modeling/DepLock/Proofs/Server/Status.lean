import DepLock.Proofs.Resolve.Failure
import DepLock.Proofs.Manifest.RoundTrip
import DepLock.Proofs.Source.Reference
import DepLock.Registry.Resolve
import DepLock.Source.Resolve
import DepLock.Local.Resolve
import DepLock.Server.Handle
/-!
# The status of a failed build

A build that fails answers `RESOLUTION_FAILED` or `DEPTH_EXCEEDED`, and `statusFor` picks the
status from the whole chain under that layer: 429 for a rate limit, 501 for a missing
backend, 400 for a refused specifier, and 502 otherwise. It finds a rate limit by its code,
`RATE_LIMITED`, so the signal of a remote service counts only through a layer of that code.
The resolvers of the library never let the signal through without one (`Error.Tagged`):
`classify` puts it under `RATE_LIMITED` before anything else, and every other error they
make holds no signal. A failed build served by them therefore answers with `chainStatus`,
which finds a rate limit by the signal and by the code alike.
-/

set_option autoImplicit false

namespace DepLock

namespace Error

/-- The chain holds a rate limit: the signal of a remote service, or a layer coded
`RATE_LIMITED`. -/
def holdsRateLimit (e : Error) : Bool := e.rateLimit?.isSome || e.has .rateLimited

/-- A rate-limit signal in the chain comes with a `RATE_LIMITED` layer. -/
def Tagged (e : Error) : Prop := e.rateLimit?.isSome = true → e.has .rateLimited = true

variable {e : Error} {c : Code} {m : String}

/-- A wrapped error holds a code when the wrapping layer has it or the cause holds it. -/
@[simp] theorem has_wrap (c' : Code) : (wrap c e m).has c' = (c == c' || e.has c') := rfl

/-- An error with no rate-limit signal is tagged. -/
theorem tagged_of_rateLimit_eq_none (h : e.rateLimit? = none) : e.Tagged := by
  intro hsome
  rw [h] at hsome
  cases hsome

/-- Wrapping keeps an error tagged. -/
theorem Tagged.wrap (h : e.Tagged) : (wrap c e m).Tagged := by
  intro hsome
  rw [has_wrap, Bool.or_eq_true]
  exact .inr (h hsome)

/-- Classifying tags a rate limit: it is the first thing `classify` looks for, and every
other outcome keeps the chain's signals as they are. -/
theorem tagged_classify (e : Error) (m : String) : (e.classify m).Tagged := by
  unfold classify
  by_cases hlimit : e.rateLimit?.isSome = true
  · intro _
    simp [hlimit]
  · have quiet : e.rateLimit? = none := Option.not_isSome_iff_eq_none.mp hlimit
    rw [if_neg hlimit]
    split_ifs <;> exact tagged_of_rateLimit_eq_none quiet

/-- A tagged error holds a rate limit exactly when a layer is coded RATE_LIMITED. -/
theorem Tagged.holdsRateLimit_eq (h : e.Tagged) : e.holdsRateLimit = e.has .rateLimited := by
  unfold holdsRateLimit
  cases hlimit : e.rateLimit?.isSome
  · rfl
  · rw [h hlimit]
    rfl

end Error

/-! ## Failures of a computation -/

/-- Every error that `x` fails with satisfies `P`. -/
def FailsWith {ε α : Type} (P : ε → Prop) (x : Except ε α) : Prop :=
  ∀ e, x = .error e → P e

namespace FailsWith

variable {ε ε' α β : Type} {P Q : ε → Prop} {x : Except ε α}

/-- A success fails with nothing. -/
theorem ok (a : α) : FailsWith P (.ok a : Except ε α) := fun _ h => by cases h

/-- A failure with an error that satisfies the property fails only as it says. -/
theorem error {e : ε} (h : P e) : FailsWith P (.error e : Except ε α) := fun _ he => by
  cases he
  exact h

/-- A computation and its continuation that fail only as the property says, joined, fail
only as it says. -/
theorem bind {f : α → Except ε β} (hx : FailsWith P x)
    (hf : ∀ a, FailsWith P (f a)) : FailsWith P (x >>= f) := by
  intro e he
  cases x with
  | error e' =>
    have same : e' = e := by simpa [bind, Except.bind] using he
    exact same ▸ hx e' rfl
  | ok a => exact hf a e he

/-- Changing the errors of a computation carries what they satisfy along the change. -/
theorem mapError {R : ε' → Prop} {x : Except ε' α} {g : ε' → ε} (hx : FailsWith R x)
    (hg : ∀ e, R e → P (g e)) : FailsWith P (x.mapError g) := by
  intro e he
  cases x with
  | error e' =>
    cases he
    exact hg e' (hx e' rfl)
  | ok a => cases he

/-- Mapping the result changes no error. -/
theorem map {f : α → β} (hx : FailsWith P x) : FailsWith P (x.map f) := by
  intro e he
  cases x with
  | error e' =>
    cases he
    exact hx _ rfl
  | ok a => cases he

/-- Every computation fails only with some error. -/
theorem any (x : Except ε α) : FailsWith (fun _ => True) x := fun _ _ => trivial

/-- A property that a computation's failures satisfy is kept by a weaker one. -/
theorem mono (h : FailsWith P x) (hq : ∀ e, P e → Q e) : FailsWith Q x :=
  fun e he => hq e (h e he)

end FailsWith

/-! ## The resolvers of the library -/

section Resolvers

open Error

/-- A specifier's local path is refused as `INVALID_SPECIFIER`, or, when `$HOME` is not
defined, as `INVALID_PATH` around that failure. -/
theorem Local.localPath_refused (home base spec : String) :
    FailsWith (fun e : Error => (∃ m, e = .make .invalidSpecifier m) ∨
        (home = "" ∧ ∃ m, e = .wrap .invalidPath (.plain "$HOME is not defined") m))
      (Local.localPath home base spec) := by
  unfold Local.localPath
  split
  · exact FailsWith.error (.inl ⟨_, rfl⟩)
  · exact FailsWith.error (.inl ⟨_, rfl⟩)
  · dsimp only
    split
    · exact FailsWith.error (.inl ⟨_, rfl⟩)
    · split
      · -- a path from the home directory needs `$HOME`
        unfold Local.userHomeDir
        by_cases unset : home.isEmpty = true
        · rw [if_pos unset]
          exact FailsWith.error (.inr ⟨String.isEmpty_iff.mp unset, _, rfl⟩)
        · rw [if_neg unset]
          exact FailsWith.ok _
      · split <;> exact FailsWith.ok _

/-- Finding a local path never fails with a rate-limit signal. -/
theorem Local.localPath_quiet (home base spec : String) :
    FailsWith (fun e : Error => e.rateLimit? = none) (Local.localPath home base spec) :=
  (Local.localPath_refused home base spec).mono fun _ refused => by
    rcases refused with ⟨_, rfl⟩ | ⟨-, _, rfl⟩ <;> rfl

/-- A failure of the file system carries no rate-limit signal. -/
theorem Local.fileError_quiet (message : String) (f : Local.FileFailure) :
    (Local.fileError message f).rateLimit? = none := by
  unfold Local.fileError
  split <;> rfl

/-- Reading a local manifest never fails with a rate-limit signal. -/
theorem Local.readManifest_quiet (fs : Local.FileSystem) (path : String) :
    FailsWith (fun e : Error => e.rateLimit? = none) (Local.readManifest fs path) := by
  unfold Local.readManifest
  refine FailsWith.bind (FailsWith.mapError (FailsWith.any _) fun f _ => Local.fileError_quiet _ f)
    fun text => ?_
  exact FailsWith.mapError (fun e he => Manifest.parse_error_refusal he) fun e refusal =>
    refusal.rateLimit_eq

/-- The local resolver makes every error itself, and none holds a rate-limit signal. -/
theorem Local.resolve_tagged (fs : Local.FileSystem) (home base spec : String) :
    FailsWith Tagged (Local.resolve fs home base spec) := by
  refine FailsWith.mono ?_ fun e => tagged_of_rateLimit_eq_none
  unfold Local.resolve
  refine FailsWith.bind (Local.localPath_quiet home base spec) fun path => ?_
  refine FailsWith.bind (FailsWith.mapError (FailsWith.any _)
    fun f _ => Local.fileError_quiet _ f) fun entry => ?_
  exact FailsWith.bind (Local.readManifest_quiet fs _) fun m => FailsWith.ok _

/-- The registry resolver classifies every failed fetch. -/
theorem Registry.resolve_tagged (lib : Semver.Library)
    (fetch : String → Except Error Registry.Packument) (name range : String) :
    FailsWith Tagged (Registry.resolve lib fetch name range) := by
  unfold Registry.resolve Registry.resolveIn
  cases fetch name with
  | error e => exact FailsWith.error (tagged_classify e _)
  | ok doc =>
    dsimp only [bind, Id.run, pure]
    split
    · exact FailsWith.error (tagged_of_rateLimit_eq_none rfl)
    · exact FailsWith.ok _

/-- The source resolver refuses a specifier with an error of its own, classifies every
failure of the host, and keeps the code of a manifest that does not read. -/
theorem Source.resolve_tagged (host : Source.Host) (spec : String) :
    FailsWith Tagged (Source.resolve host spec) := by
  unfold Source.resolve Source.resolveIn
  cases hparse : Source.Reference.parse spec with
  | error e =>
    refine FailsWith.error (tagged_of_rateLimit_eq_none ?_)
    rcases Source.Reference.parse_error_cases hparse with ⟨m, rfl⟩ | ⟨m, c, ⟨m', rfl⟩, rfl⟩ <;> rfl
  | ok r =>
    dsimp only [bind, Id.run, pure]
    cases host.resolveCommit r.owner r.repo r.ref with
    | error e => exact FailsWith.error (tagged_classify e _)
    | ok sha =>
      dsimp only
      cases host.fetchFile r.owner r.repo "package.json" sha with
      | error e => exact FailsWith.error (tagged_classify e _)
      | ok content =>
        dsimp only
        cases hread : Manifest.parse content with
        | error e =>
          exact FailsWith.error (tagged_of_rateLimit_eq_none (Manifest.parse_error_refusal hread).rateLimit_eq)
        | ok m => exact FailsWith.ok _

end Resolvers

/-! ## Builds served by the library -/

/-- Backends whose resolvers are the library's own, over any file system, packument source,
version library and source host; any of them may be missing. -/
structure Backends.Served (b : Backends) : Prop where
  localFiles : ∀ f ∈ b.localFiles, ∃ fs home base, f = fun raw => (Local.resolve fs home base raw).map some
  registry : ∀ f ∈ b.registry, ∃ lib fetch,
    f = fun name raw => (Registry.resolve lib fetch name raw).map some
  source : ∀ f ∈ b.source, ∃ host, f = fun raw => (Source.resolve host raw).map some

/-- A refusal of served backends is tagged: a resolver's own error, or the `UNSUPPORTED`
error of a missing backend. -/
theorem Backends.Served.dispatch_tagged {b : Backends} (hb : b.Served) (name : String)
    (spec : Specifier) : FailsWith Error.Tagged (b.dispatch name spec) := by
  intro c hc
  rcases Backends.dispatch_eq_error hc with hask | ⟨-, backend, rfl⟩ | ⟨-, rfl⟩
  · unfold Backends.ask? at hask
    split at hask
    · obtain ⟨f, hf, hres⟩ := Option.map_eq_some_iff.mp hask
      obtain ⟨fs, home, base, rfl⟩ := hb.localFiles f hf
      exact (Local.resolve_tagged fs home base _).map c hres
    · obtain ⟨f, hf, hres⟩ := Option.map_eq_some_iff.mp hask
      obtain ⟨lib, fetch, rfl⟩ := hb.registry f hf
      exact (Registry.resolve_tagged lib fetch _ _).map c hres
    · obtain ⟨f, hf, hres⟩ := Option.map_eq_some_iff.mp hask
      obtain ⟨host, rfl⟩ := hb.source f hf
      exact (Source.resolve_tagged host _).map c hres
  · exact Error.tagged_of_rateLimit_eq_none rfl
  · exact Error.tagged_of_rateLimit_eq_none rfl

/-- A failed build of served backends answers `RESOLUTION_FAILED` or `DEPTH_EXCEEDED`, and
its error is tagged. -/
theorem Backends.Served.build_error {b : Backends} (hb : b.Served) {o : BuildOptions}
    {m : Option Manifest} {e : Error} (h : build b o m = .error e) :
    (e.code? = some .resolutionFailed ∨ e.code? = some .depthExceeded) ∧ e.Tagged := by
  obtain ⟨ℓ, -, fault⟩ := build_error_mayReport h
  cases fault with
  | deep => exact ⟨.inr rfl, Error.tagged_of_rateLimit_eq_none rfl⟩
  | refused _ _ _ err => exact ⟨.inl rfl, (hb.dispatch_tagged _ _ _ err).wrap⟩

/-! ## The answer to a failed build -/

/-- The status a failed build answers with, read off its whole chain: a rate limit, by its
signal or its code, then a missing backend, then a refused specifier. -/
def chainStatus (e : Error) : Nat :=
  if e.holdsRateLimit then 429
  else if e.has .unsupported then 501
  else if e.has .invalidSpecifier then 400
  else 502

open Server

/-- A tagged resolution or depth failure answers with the status read off its whole chain. -/
theorem statusFor_tagged {e : Error} (h : e.Tagged)
    (hc : e.code? = some .resolutionFailed ∨ e.code? = some .depthExceeded) :
    statusFor (e.code?.getD .internal) e = chainStatus e := by
  rw [chainStatus, h.holdsRateLimit_eq]
  rcases hc with hc | hc <;> rw [hc] <;> rfl

/-- A body within the size limit that reads as a manifest fails as resolving the manifest
fails. -/
theorem Server.Service.resolveBody_eq_error {srv : Service} {body : String} {m : Manifest}
    {e : Error} (hsize : body.utf8ByteSize ≤ maxBodyBytes) (hparse : Manifest.parse body = .ok m)
    (hres : srv.resolve m = .error e) : srv.resolveBody body = .error e := by
  unfold Service.resolveBody
  simp [Nat.not_lt.mpr hsize, hparse, hres, bind, Except.bind]

/-- A manifest posted for a tree, or for a lock to a server with a store, whose build with
the library's backends fails, gets the answer of the build's error and leaves the service as
it was. The answer carries `RESOLUTION_FAILED` or `DEPTH_EXCEEDED`, and its status is read
off the whole chain of the error. -/
theorem Server.Service.failed_build_status {srv : Service} {b : Backends} {o : BuildOptions}
    {pretty : Bool} {body : String} {rt : Route} {m : Manifest} {e : Error}
    (hb : b.Served) (hsrv : ∀ m, srv.resolve m = build b o (some m))
    (hrt : rt = .tree ∨ (rt = .createLock ∧ srv.store.isSome = true))
    (hsize : body.utf8ByteSize ≤ maxBodyBytes) (hparse : Manifest.parse body = .ok m)
    (hbuild : build b o (some m) = .error e) :
    srv.answer pretty body rt = (srv, errorResponse pretty e) ∧
      (e.code? = some .resolutionFailed ∨ e.code? = some .depthExceeded) ∧
      (errorResponse pretty e).status = chainStatus e := by
  have failed := Service.resolveBody_eq_error hsize hparse ((hsrv m).trans hbuild)
  obtain ⟨code, tagged⟩ := hb.build_error hbuild
  refine ⟨?_, code, statusFor_tagged tagged code⟩
  rcases hrt with rfl | ⟨rfl, hstore⟩
  · simp [Service.answer, failed]
  · obtain ⟨store, hs⟩ := Option.isSome_iff_exists.mp hstore
    simp [Service.answer, hs, failed]

/-- A server whose registry is the library's resolver, over a registry that rate-limits
every fetch, answers a posted manifest that asks for `a@^1` with the rate limit under
`RESOLUTION_FAILED`, and so with 429. -/
theorem Server.Service.failed_build_status_rate_limited :
    let b : Backends := ⟨none,
      some fun name raw => (Registry.resolve Semver.library (fun _ => .error (.rateLimit 30)) name raw).map some,
      none, fun _ _ => false⟩
    let m : Manifest := ⟨"", "", ⟨[(Group.production.name, ⟨[("a", ⟨.range, "^1"⟩)], List.pairwise_singleton _ _⟩)],
      List.pairwise_singleton _ _⟩⟩
    let srv : Service := ⟨fun m => build b {} (some m), none, fun _ => "", Timestamp.zero, 0⟩
    let e := Error.wrap .resolutionFailed ((Error.rateLimit 30).classify "fetch a")
      "resolve dependencies a@^1"
    build b {} (some m) = .error e ∧ chainStatus e = 429 ∧
      (srv.answer false m.toText .tree = (srv, errorResponse false e) ∧
        (e.code? = some .resolutionFailed ∨ e.code? = some .depthExceeded) ∧
        (errorResponse false e).status = chainStatus e) := by
  intro b m srv e
  have hbuild : build b {} (some m) = .error e := rfl
  have served : b.Served := by
    constructor <;> intro f hf <;> cases hf
    exact ⟨_, _, rfl⟩
  have storable : m.Storable := by
    constructor <;> simp [m, knownGroupNames, Group.known, Group.production] <;> rfl
  exact ⟨hbuild, by decide, Server.Service.failed_build_status served (fun _ => rfl) (.inl rfl)
    (by decide) storable.parse_toText hbuild⟩

end DepLock
