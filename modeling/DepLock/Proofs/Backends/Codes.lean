import DepLock.Proofs.Server.Status
/-!
# The codes of the resolvers' errors

A caller tells failures apart by the code of the first coded layer (`Error.code?`). The
registry and source resolvers code every error they return, and every code they use has a
name:

* a failure of the remote service gets the code of its cause (`Error.causeCode`): a rate
  limit, a missing resource and a network failure in that order, then the failure's own
  code, else `INTERNAL_ERROR`;
* a range that no published version satisfies is `PACKAGE_NOT_FOUND`;
* a refused specifier is `INVALID_SPECIFIER`, a manifest that does not read is
  `INVALID_MANIFEST`.

The local resolver codes a refused specifier, a path from the home directory when `$HOME`
is not defined, a missing path and a manifest that does not read, but gives every other
failure of the file system back as its plain text, with no code (`Local.Refusal`): reading a directory, walking through a file, a name that is too
long, a path with a zero character.
-/

set_option autoImplicit false

namespace DepLock

namespace Error

/-- The code `classify` gives a failure of a remote service, by its cause. -/
def causeCode (e : Error) : Code :=
  if e.rateLimit?.isSome then .rateLimited
  else if e.reportsMissing then .packageNotFound
  else if e.reportsNetwork then .network
  else if e.codeName != "" then e.code?.getD .internal
  else .internal

variable {e : Error} {c : Code}

/-- An error whose chain has a code is named by that code. -/
theorem codeName_of_code (h : e.code? = some c) : e.codeName = c.name := by
  simp [codeName, h]

/-- An error with a code of non-empty name has a non-empty code name. -/
theorem codeName_ne_empty_of_code (h : e.code? = some c) (named : c.name ≠ "") : e.codeName ≠ "" := by
  rw [codeName_of_code h]
  exact named

/-- Classifying an error codes it with the code its cause calls for. -/
theorem code_classify (e : Error) (m : String) : (e.classify m).code? = some e.causeCode := by
  unfold classify causeCode
  split_ifs with hlimit hmissing hnetwork hnamed <;> try rfl
  -- a failure kept as it is has a code, since the name of its code is not empty
  cases hc : e.code? with
  | none => simp [codeName, hc] at hnamed
  | some c => rfl

/-- Every code a remote failure gets has a name. -/
theorem causeCode_name_ne_empty (e : Error) : e.causeCode.name ≠ "" := by
  unfold causeCode
  split_ifs with hlimit hmissing hnetwork hnamed
  · decide
  · decide
  · decide
  · cases hc : e.code? with
    | none => decide
    | some c =>
      rw [Option.getD_some, ← codeName_of_code hc]
      simpa using hnamed
  · decide

end Error

/-! ## The registry and the source host -/

section Remote

open Error

/-- The registry resolver codes a failed fetch by its cause and a range that no version
satisfies as `PACKAGE_NOT_FOUND`. -/
theorem Registry.resolve_error_code (lib : Semver.Library)
    (fetch : String → Except Error Registry.Packument) (name range : String) :
    FailsWith (fun e => (∃ cause, fetch name = .error cause ∧ e.code? = some cause.causeCode) ∨
        ∃ doc, fetch name = .ok doc ∧ Registry.selectVersion lib doc range = none ∧
          e.code? = some .packageNotFound)
      (Registry.resolve lib fetch name range) := by
  unfold Registry.resolve Registry.resolveIn
  cases hfetch : fetch name with
  | error cause => exact FailsWith.error (.inl ⟨cause, rfl, code_classify cause _⟩)
  | ok doc =>
    dsimp only [bind, Id.run, pure]
    cases hselect : Registry.selectVersion lib doc range with
    | none => exact FailsWith.error (.inr ⟨doc, rfl, hselect, rfl⟩)
    | some v => exact FailsWith.ok _

/-- Where a failure of the source resolver comes from: a refused specifier, a failure of the
host at one of its two questions, coded by its cause, or a manifest that does not read. -/
theorem Source.resolve_error_code (host : Source.Host) (spec : String) :
    FailsWith (fun e => (Source.Reference.parse spec = .error e ∧ e.code? = some .invalidSpecifier) ∨
        (∃ r cause, Source.Reference.parse spec = .ok r ∧
          (host.resolveCommit r.owner r.repo r.ref = .error cause ∨
            ∃ sha, host.resolveCommit r.owner r.repo r.ref = .ok sha ∧
              host.fetchFile r.owner r.repo "package.json" sha = .error cause) ∧
          e.code? = some cause.causeCode) ∨
        e.code? = some .invalidManifest)
      (Source.resolve host spec) := by
  unfold Source.resolve Source.resolveIn
  cases hparse : Source.Reference.parse spec with
  | error e =>
    refine FailsWith.error (.inl ⟨rfl, ?_⟩)
    rcases Source.Reference.parse_error_cases hparse with ⟨m, rfl⟩ | ⟨m, c, -, rfl⟩ <;> rfl
  | ok r =>
    dsimp only [bind, Id.run, pure]
    cases hcommit : host.resolveCommit r.owner r.repo r.ref with
    | error cause => exact FailsWith.error (.inr (.inl ⟨r, cause, rfl, .inl hcommit, code_classify _ _⟩))
    | ok sha =>
      dsimp only
      cases hfile : host.fetchFile r.owner r.repo "package.json" sha with
      | error cause =>
        exact FailsWith.error (.inr (.inl ⟨r, cause, rfl, .inr ⟨sha, hcommit, hfile⟩, code_classify _ _⟩))
      | ok content =>
        dsimp only
        cases hread : Manifest.parse content with
        | error e =>
          -- the manifest's refusal is `INVALID_MANIFEST`, and the layer around it keeps that code
          refine FailsWith.error (.inr (.inr ?_))
          show some (e.code?.getD (.other "")) = some .invalidManifest
          rw [(Manifest.parse_error_refusal hread).code_eq]
          rfl
        | ok m => exact FailsWith.ok _

end Remote

/-! ## The local file system -/

section Files

open Local

/-- A computation fails only with its own errors. -/
theorem FailsWith.self {ε α : Type} (x : Except ε α) : FailsWith (fun e => x = .error e) x :=
  fun _ h => h

/-- The errors of the local resolver, with `home` the value of `$HOME`: a refused specifier,
a path from the home directory when `$HOME` is not defined, a manifest that does not read,
or a failure of the file system on some path, coded `FILE_NOT_FOUND` when the path is
missing and given back as its plain text, with no code, otherwise. -/
def Local.Refusal (fs : FileSystem) (home : String) (e : Error) : Prop :=
  e.code? = some .invalidSpecifier ∨ (home = "" ∧ e.code? = some .invalidPath) ∨
    e.code? = some .invalidManifest ∨
    ∃ p f, (fs.stat p = .error f ∨ fs.read p = .error f) ∧
      (f.fault = .missing ∧ e.code? = some .fileNotFound ∨ f.fault ≠ .missing ∧ e = .plain f.text)

variable {fs : FileSystem} {home : String}

/-- Finding the path of a local specifier fails only by refusing the specifier or, when
`$HOME` is not defined, the path from the home directory. -/
theorem Local.localPath_refusal (base spec : String) :
    FailsWith (Refusal fs home) (localPath home base spec) :=
  (localPath_refused home base spec).mono fun _ refused => by
    rcases refused with ⟨_, rfl⟩ | ⟨unset, _, rfl⟩
    · exact .inl rfl
    · exact .inr (.inl ⟨unset, rfl⟩)

/-- A failure of the file system is coded exactly when the path is missing. -/
theorem Local.fileError_refusal {p : String} {f : FileFailure} (message : String)
    (hf : fs.stat p = .error f ∨ fs.read p = .error f) : Refusal fs home (fileError message f) := by
  refine .inr (.inr (.inr ⟨p, f, hf, ?_⟩))
  unfold fileError
  by_cases hmissing : f.fault = .missing
  · exact .inl ⟨hmissing, by simp [hmissing]; rfl⟩
  · exact .inr ⟨hmissing, by simp [hmissing]⟩

/-- Reading a local manifest fails only as the file system fails on its path or as the text
fails to read as a manifest. -/
theorem Local.readManifest_refusal (path : String) :
    FailsWith (Refusal fs home) (readManifest fs path) := by
  unfold readManifest
  refine FailsWith.bind (FailsWith.mapError (FailsWith.self _)
    fun f hf => fileError_refusal _ (.inr hf)) fun text => ?_
  refine FailsWith.mapError (fun e he => Manifest.parse_error_refusal he) fun e refusal => ?_
  -- the layer around a manifest's refusal keeps its code, `INVALID_MANIFEST`
  refine .inr (.inr (.inl ?_))
  show some (e.code?.getD (.other "")) = some .invalidManifest
  rw [refusal.code_eq]
  rfl

/-- Every error of the local resolver is one of `Local.Refusal`. -/
theorem Local.resolve_refusal (base spec : String) :
    FailsWith (Refusal fs home) (resolve fs home base spec) := by
  unfold resolve
  refine FailsWith.bind (localPath_refusal base spec) fun path => ?_
  refine FailsWith.bind (FailsWith.mapError (FailsWith.self _)
    fun f hf => fileError_refusal _ (.inl hf)) fun entry => ?_
  exact FailsWith.bind (readManifest_refusal _) fun m => FailsWith.ok _

end Files

/-- The codes of the resolvers' errors. The registry and source resolvers code every error
with a named code: a failure of the remote service by its cause, a range that no version
satisfies as `PACKAGE_NOT_FOUND`, a refused specifier as `INVALID_SPECIFIER`, a manifest that
does not read as `INVALID_MANIFEST`. The local resolver codes a refused specifier, a path
from the home directory when `$HOME` is not defined (`INVALID_PATH`), a manifest that does
not read and a missing path, and gives any other failure of the file system back as its
plain text, with no code. -/
theorem resolver_errors_by_cause (lib : Semver.Library)
    (fetch : String → Except Error Registry.Packument)
    (host : Source.Host) (fs : Local.FileSystem) (name range spec home base : String) :
    FailsWith (fun e => e.codeName ≠ "" ∧
        ((∃ cause, fetch name = .error cause ∧ e.code? = some cause.causeCode) ∨
          ∃ doc, fetch name = .ok doc ∧ Registry.selectVersion lib doc range = none ∧
            e.code? = some .packageNotFound))
      (Registry.resolve lib fetch name range) ∧
    FailsWith (fun e => e.codeName ≠ "" ∧
        ((Source.Reference.parse spec = .error e ∧ e.code? = some .invalidSpecifier) ∨
          (∃ r cause, Source.Reference.parse spec = .ok r ∧
            (host.resolveCommit r.owner r.repo r.ref = .error cause ∨
              ∃ sha, host.resolveCommit r.owner r.repo r.ref = .ok sha ∧
                host.fetchFile r.owner r.repo "package.json" sha = .error cause) ∧
            e.code? = some cause.causeCode) ∨
          e.code? = some .invalidManifest))
      (Source.resolve host spec) ∧
    FailsWith (fun e => e.code? = some .invalidSpecifier ∨ (home = "" ∧ e.code? = some .invalidPath) ∨
        e.code? = some .invalidManifest ∨
        ∃ p f, (fs.stat p = .error f ∨ fs.read p = .error f) ∧
          (f.fault = .missing ∧ e.code? = some .fileNotFound ∨
            f.fault ≠ .missing ∧ e = .plain f.text ∧ e.code? = none))
      (Local.resolve fs home base spec) := by
  refine ⟨?_, ?_, ?_⟩
  · refine (Registry.resolve_error_code lib fetch name range).mono fun e he => ⟨?_, he⟩
    rcases he with ⟨cause, -, hcode⟩ | ⟨doc, -, -, hcode⟩
    · exact Error.codeName_ne_empty_of_code hcode (Error.causeCode_name_ne_empty cause)
    · exact Error.codeName_ne_empty_of_code hcode (by decide)
  · refine (Source.resolve_error_code host spec).mono fun e he => ⟨?_, he⟩
    rcases he with ⟨-, hcode⟩ | ⟨r, cause, -, -, hcode⟩ | hcode
    · exact Error.codeName_ne_empty_of_code hcode (by decide)
    · exact Error.codeName_ne_empty_of_code hcode (Error.causeCode_name_ne_empty cause)
    · exact Error.codeName_ne_empty_of_code hcode (by decide)
  · refine (Local.resolve_refusal base spec).mono fun e he => ?_
    rcases he with hcode | unset | hcode | ⟨p, f, hf, ⟨hmissing, hcode⟩ | ⟨hmissing, rfl⟩⟩
    · exact .inl hcode
    · exact .inr (.inl unset)
    · exact .inr (.inr (.inl hcode))
    · exact .inr (.inr (.inr ⟨p, f, hf, .inl ⟨hmissing, hcode⟩⟩))
    · exact .inr (.inr (.inr ⟨p, f, hf, .inr ⟨hmissing, rfl, rfl⟩⟩))

end DepLock
