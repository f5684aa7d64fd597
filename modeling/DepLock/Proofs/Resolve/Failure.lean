import DepLock.Proofs.Resolve.Level

/-!
# The errors of a build

A build that fails returns an error and no tree. The error is one of the faults of a level
the build reaches (`build_error_mayReport`), and a fault has one of two shapes:

* a refusal: the backend of an entry answered with an error or with nothing at all, or the
  build has no backend of the entry's kind. The error is that answer under exactly one `RESOLUTION_FAILED`
  layer, whose message names the entry's own group, name and specifier, at whatever
  depth the entry stands. Nothing wraps it again on its way up, so every signal in the
  answer (a missing resource, a network failure, a rate limit) is still found through
  the chain;
* a depth error: `DEPTH_EXCEEDED` with no cause.

`build_error_shape` states this for every build, and `Backends.dispatch_eq_error` says what
the answer of a refused entry is: its backend's own error, `UNSUPPORTED` when the build
has no backend of its kind, or `INTERNAL_ERROR` when the backend answered with nothing.
-/

set_option autoImplicit false

namespace DepLock

/-- A missing backend's error is `UNSUPPORTED`, naming the resolver that is missing. -/
theorem noBackend_eq (k : SpecKind) :
    ∃ backend, noBackend k = .make .unsupported ("no " ++ backend ++ " resolver configured") := by
  cases k
  · exact ⟨"filesystem", congrArg (Error.make .unsupported) (by decide)⟩
  · exact ⟨"registry", congrArg (Error.make .unsupported) (by decide)⟩
  · exact ⟨"source-host", congrArg (Error.make .unsupported) (by decide)⟩

/-- A refusal is the error the backend of the entry's kind answers with; or, when the build
has no backend of that kind, an `UNSUPPORTED` error with no cause; or, when the backend
answers with neither an error nor a resolution, an `INTERNAL_ERROR` with no cause. -/
theorem Backends.dispatch_eq_error {b : Backends} {name : String} {spec : Specifier} {c : Error}
    (h : b.dispatch name spec = .error c) :
    b.ask? name spec = some (.error c) ∨
      (b.ask? name spec = none ∧
        ∃ backend, c = .make .unsupported ("no " ++ backend ++ " resolver configured")) ∨
      (b.ask? name spec = some (.ok none) ∧
        c = .make .internal (backendName spec.kind ++ " resolver returned no result for " ++ name)) := by
  unfold Backends.dispatch at h
  split at h
  · -- no backend of the kind
    rename_i missing
    cases h
    exact .inr (.inl ⟨missing, noBackend_eq spec.kind⟩)
  · rename_i e answered
    cases h
    exact .inl answered
  · rename_i empty
    cases h
    exact .inr (.inr ⟨empty, rfl⟩)
  · cases h

/-- The shape of every error of a build, which comes with no tree. Either it is the refusal
of one entry of a level the build reaches, which no ancestor satisfies: the answer `c` of
the entry's backend, `UNSUPPORTED` for a missing backend, or `INTERNAL_ERROR` for a
backend that answered with nothing, under one
`RESOLUTION_FAILED` layer naming the entry's own group, name and specifier, so that its
text is that layer's followed by `c`'s and the signals of `c` are still found. Or it is
`DEPTH_EXCEEDED` with no cause. -/
theorem build_error_shape (b : Backends) (o : BuildOptions) (m : Option Manifest) (e : Error)
    (h : build b o m = .error e) :
    (∃ ℓ g name spec c, Reaches b o (Level.root o m) ℓ ∧ (g, name, spec) ∈ ℓ.entries ∧
      b.satisfiedByAncestor name spec ℓ.ancestors = false ∧ b.dispatch name spec = .error c ∧
      (b.ask? name spec = some (.error c) ∨
        (b.ask? name spec = none ∧
          ∃ backend, c = .make .unsupported ("no " ++ backend ++ " resolver configured")) ∨
        (b.ask? name spec = some (.ok none) ∧
          c = .make .internal (backendName spec.kind ++ " resolver returned no result for " ++ name))) ∧
      e = Error.wrap .resolutionFailed c (resolveContext g name spec) ∧
      e.text = "RESOLUTION_FAILED: resolve " ++ g.name ++ " " ++ name ++ "@" ++ spec.raw ++ ": " ++
        c.text ∧
      e.unwrap? = some c ∧ e.reportsMissing = c.reportsMissing ∧
      e.reportsNetwork = c.reportsNetwork ∧ e.rateLimit? = c.rateLimit?) ∨
    (∃ message, e = .coded .depthExceeded message none) := by
  obtain ⟨ℓ, reach, fault⟩ := build_error_mayReport h
  cases fault with
  | deep => exact .inr ⟨_, rfl⟩
  | @refused g name spec c _ mem unsat err =>
    -- one coded layer over the backend's answer: its text, cause and signals read through
    refine .inl ⟨ℓ, g, name, spec, c, reach, mem, unsat, err, Backends.dispatch_eq_error err, rfl,
      ?_, rfl, rfl, rfl, rfl⟩
    have lit : "RESOLUTION_FAILED: resolve " = "RESOLUTION_FAILED" ++ ": " ++ "resolve " := by
      decide
    simp only [Error.wrap, Error.text, Code.name, resolveContext, lit, String.append_assoc]

/-- A build whose registry answers with neither an error nor a resolution, of a manifest
that asks the registry for `a@^1`, fails with `RESOLUTION_FAILED` around the
`INTERNAL_ERROR` of the empty answer. -/
theorem build_error_shape_empty_answer :
    let b : Backends := ⟨none, some fun _ _ => .ok none, none, fun _ _ => false⟩
    let m : Manifest := ⟨"", "", ⟨[(Group.production.name, ⟨[("a", ⟨.range, "^1"⟩)], List.pairwise_singleton _ _⟩)],
      List.pairwise_singleton _ _⟩⟩
    let e := Error.wrap .resolutionFailed
      (.make .internal "registry resolver returned no result for a") "resolve dependencies a@^1"
    build b {} (some m) = .error e ∧
    ((∃ ℓ g name spec c, Reaches b {} (Level.root {} (some m)) ℓ ∧ (g, name, spec) ∈ ℓ.entries ∧
      b.satisfiedByAncestor name spec ℓ.ancestors = false ∧ b.dispatch name spec = .error c ∧
      (b.ask? name spec = some (.error c) ∨
        (b.ask? name spec = none ∧
          ∃ backend, c = .make .unsupported ("no " ++ backend ++ " resolver configured")) ∨
        (b.ask? name spec = some (.ok none) ∧
          c = .make .internal (backendName spec.kind ++ " resolver returned no result for " ++ name))) ∧
      e = Error.wrap .resolutionFailed c (resolveContext g name spec) ∧
      e.text = "RESOLUTION_FAILED: resolve " ++ g.name ++ " " ++ name ++ "@" ++ spec.raw ++ ": " ++
        c.text ∧
      e.unwrap? = some c ∧ e.reportsMissing = c.reportsMissing ∧
      e.reportsNetwork = c.reportsNetwork ∧ e.rateLimit? = c.rateLimit?) ∨
    (∃ message, e = .coded .depthExceeded message none)) :=
  ⟨rfl, build_error_shape _ _ _ _ rfl⟩

end DepLock
