import DepLock.Registry.Flight
import Mathlib.Data.List.Induction
/-!
# One fetch at a time, refreshing until one succeeds

Every state that a run of a resolver reaches is `FetchState.Sound`:

* of a name's fetches, all but the last have ended (`EndedButLast`), so at most one runs;
* a name's fetches ask to refresh exactly until one of them has succeeded, when the
  resolver refreshes, and never otherwise (`RefreshOrdered`);
* a name is marked refreshed exactly when a refreshing fetch of it has succeeded;
* every call waits on a fetch of its name, and every answer given is one the caller was
  ready to give: its context's error once that is done, its fetch's outcome once that has
  come.

Each event keeps this (`Sound.step`), so every reachable state has it
(`Reachable.sound`). `shared_fetch_contract` draws the consequences: one fetch of a name
runs at a time and a call made meanwhile joins it; the refresh flags follow the order of
successes, so at most one refreshing fetch of a name succeeds, and one does as soon as any
fetch of it succeeds; a caller returns its own cancellation or its fetch's outcome, and a
cancellation changes nothing but the caller, while a fetch that ends hands its outcome to
every caller still waiting on it.
-/

set_option autoImplicit false

namespace DepLock.Registry

/-! ## The fetches of one name -/

/-- Every fetch of a name but the last has ended. -/
def EndedButLast (fs : List Fetch) : Prop := ∀ f ∈ fs.dropLast, f.outcome.isSome

/-- A name's fetches ask to refresh exactly until one of them has succeeded, when the
resolver refreshes, and never otherwise. -/
def RefreshOrdered (r : Bool) (fs : List Fetch) : Prop :=
  ∀ i (h : i < fs.length), fs[i].refresh = (r && !(fs.take i).any Fetch.succeeded)

/-- A fetch that asked to refresh and succeeded. -/
def Fetch.refreshedBy (f : Fetch) : Bool := f.refresh && f.succeeded

/-- A fetch that has not ended has not succeeded. -/
theorem Fetch.succeeded_of_outcome_eq_none {f : Fetch} (h : f.outcome = none) :
    f.succeeded = false := by
  simp [Fetch.succeeded, h]

/-- A name's fetches with one more started are ended but the last exactly when the earlier
ones have all ended. -/
theorem endedButLast_concat {fs : List Fetch} {g : Fetch} :
    EndedButLast (fs ++ [g]) ↔ ∀ f ∈ fs, f.outcome.isSome := by
  simp [EndedButLast]

/-- The running fetch of a name whose earlier fetches have ended is its last one. -/
theorem EndedButLast.running {fs : List Fetch} {i : Nat} (h : EndedButLast fs)
    (hi : fs.findIdx? (fun f => f.outcome.isNone) = some i) :
    ∃ pre f, fs = pre ++ [f] ∧ i = pre.length ∧ f.outcome = none := by
  rcases List.eq_nil_or_concat fs with rfl | ⟨pre, f, rfl⟩
  · simp at hi
  · rw [List.concat_eq_append] at h hi ⊢
    have ended := endedButLast_concat.mp h
    have before : pre.findIdx? (fun f => f.outcome.isNone) = none := by
      rw [List.findIdx?_eq_none_iff]
      intro x hx
      simpa [Option.isSome_iff_ne_none] using ended x hx
    rw [List.findIdx?_append, before] at hi
    cases hf : f.outcome with
    | none =>
      simp [hf] at hi
      exact ⟨pre, f, rfl, hi.symm, hf⟩
    | some o => simp [hf] at hi

/-- Of fetches ended but the last, only the last can still run. -/
theorem EndedButLast.last_of_outcome_eq_none {fs : List Fetch} (h : EndedButLast fs) {i : Nat}
    (hi : i < fs.length) (hn : fs[i].outcome = none) : i + 1 = fs.length := by
  refine Nat.le_antisymm hi (Nat.le_of_not_lt fun later => ?_)
  have mem : fs[i] ∈ fs.dropLast := by
    rw [← List.getElem_dropLast (by simp; omega)]
    exact List.getElem_mem _
  simpa [hn] using h _ mem

/-- A name with no fetches has its refresh flags in order. -/
theorem RefreshOrdered.nil (r : Bool) : RefreshOrdered r [] := fun _ h => absurd h (Nat.not_lt_zero _)

/-- One more fetch keeps the refresh flags in order exactly when it asks to refresh as long
as no earlier fetch has succeeded. -/
theorem refreshOrdered_concat {r : Bool} {fs : List Fetch} {g : Fetch} :
    RefreshOrdered r (fs ++ [g]) ↔
      RefreshOrdered r fs ∧ g.refresh = (r && !fs.any Fetch.succeeded) := by
  constructor
  · intro h
    refine ⟨fun i hi => ?_, ?_⟩
    · have := h i (by simp; omega)
      rwa [List.getElem_append_left hi, List.take_append_of_le_length (Nat.le_of_lt hi)] at this
    · simpa using h fs.length (by simp)
  · rintro ⟨h, hg⟩ i hi
    rcases Nat.lt_or_ge i fs.length with lt | ge
    · rw [List.getElem_append_left lt, List.take_append_of_le_length (Nat.le_of_lt lt)]
      exact h i lt
    · obtain rfl : i = fs.length := by simp at hi; omega
      simpa using hg

/-- With ordered flags a refreshing fetch succeeded exactly when the resolver refreshes and
some fetch succeeded: the first success was a refreshing one. -/
theorem RefreshOrdered.any_refreshedBy {r : Bool} {fs : List Fetch} (h : RefreshOrdered r fs) :
    fs.any Fetch.refreshedBy = (r && fs.any Fetch.succeeded) := by
  induction fs using List.reverseRecOn with
  | nil => simp
  | append_singleton fs g ih =>
    obtain ⟨ordered, flag⟩ := refreshOrdered_concat.mp h
    simp only [List.any_append, List.any_cons, List.any_nil, Bool.or_false, ih ordered,
      Fetch.refreshedBy, flag]
    cases r <;> cases fs.any Fetch.succeeded <;> simp

/-- No fetch after a success asks to refresh. -/
theorem RefreshOrdered.refresh_eq_false {r : Bool} {fs : List Fetch} (h : RefreshOrdered r fs)
    {i j : Nat} (hi : i < fs.length) (hj : j < fs.length) (hij : i < j) (ok : fs[i].succeeded) :
    fs[j].refresh = false := by
  have hi' : i < (fs.take j).length := by simp; omega
  have earlier : (fs.take j).any Fetch.succeeded := by
    refine List.any_eq_true.mpr ⟨(fs.take j)[i], List.getElem_mem hi', ?_⟩
    rwa [List.getElem_take]
  rw [h j hj, earlier]
  simp

/-- At most one fetch of a name asks to refresh and succeeds. -/
theorem RefreshOrdered.refreshedBy_unique {r : Bool} {fs : List Fetch} (h : RefreshOrdered r fs)
    {i j : Nat} (hi : i < fs.length) (hj : j < fs.length) (fi : fs[i].refreshedBy)
    (fj : fs[j].refreshedBy) : i = j := by
  simp only [Fetch.refreshedBy, Bool.and_eq_true] at fi fj
  rcases Nat.lt_trichotomy i j with lt | eq | gt
  · simpa [h.refresh_eq_false hi hj lt fi.2] using fj.1
  · exact eq
  · simpa [h.refresh_eq_false hj hi gt fj.2] using fi.1

/-! ## What every reachable state satisfies -/

namespace FetchState

/-- What runs keep: fetches ended but the last, refresh flags in the order of successes,
marks for exactly the names a refreshing fetch succeeded for, calls that wait on fetches of
their names, and answers that the callers were ready to give. -/
structure Sound (s : FetchState) : Prop where
  ended : ∀ n, EndedButLast (s.fetches n)
  ordered : ∀ n, RefreshOrdered s.refresh (s.fetches n)
  marks : ∀ n, s.refreshed n = (s.fetches n).any Fetch.refreshedBy
  waits : ∀ k ∈ s.calls, k.fetch < (s.fetches k.name).length
  answers : ∀ k ∈ s.calls, ∀ a, k.answer = some a → ∃ shared, s.ready k shared = some a

/-- The state before any event is sound. -/
theorem sound_init (r : Bool) : (init r).Sound where
  ended _ := by simp [init, EndedButLast]
  ordered _ := RefreshOrdered.nil r
  marks _ := rfl
  waits _ h := by cases h
  answers _ h := by cases h

/-- A name has no running fetch exactly when all its fetches have ended. -/
theorem running_eq_none_iff {s : FetchState} {name : String} :
    s.running name = none ↔ ∀ f ∈ s.fetches name, f.outcome.isSome := by
  simp [running, List.findIdx?_eq_none_iff, Option.isSome_iff_ne_none]

/-- The running fetch of a name is one of its fetches. -/
theorem running_lt {s : FetchState} {name : String} {i : Nat} (h : s.running name = some i) :
    i < (s.fetches name).length := by
  obtain ⟨hi, -⟩ := List.findIdx?_eq_some_iff_getElem.mp h
  exact hi

/-- A call that finds no running fetch of its name starts one, flagged as the order of
successes asks. -/
theorem Sound.refreshFor_eq {s : FetchState} (h : s.Sound) (name : String) :
    s.refreshFor name = (s.refresh && !(s.fetches name).any Fetch.succeeded) := by
  rw [FetchState.refreshFor, h.marks, (h.ordered name).any_refreshedBy]
  cases s.refresh <;> simp

/-- A call keeps a state sound. -/
theorem Sound.call {s : FetchState} (h : s.Sound) (name : String) : (s.call name).Sound := by
  unfold FetchState.call
  cases hr : s.running name with
  | some i =>
    -- a call that joins adds itself and nothing else
    refine ⟨h.ended, h.ordered, h.marks, fun k hk => ?_, fun k hk a ha => ?_⟩
    · rcases List.mem_append.mp hk with hk | hk
      · exact h.waits k hk
      · obtain rfl := List.mem_singleton.mp hk
        exact running_lt hr
    · rcases List.mem_append.mp hk with hk | hk
      · exact h.answers k hk a ha
      · obtain rfl := List.mem_singleton.mp hk
        cases ha
  | none =>
    -- a call that starts a fetch appends it to its name's fetches
    have ended := running_eq_none_iff.mp hr
    have grow : ∀ k ∈ s.calls, (if k.name = name then s.fetches name ++ [⟨s.refreshFor name, none⟩]
        else s.fetches k.name)[k.fetch]? = (s.fetches k.name)[k.fetch]? := by
      intro k hk
      split
      · rename_i hk'
        rw [← hk'] at ⊢
        exact List.getElem?_append_left (h.waits k hk)
      · rfl
    refine ⟨fun n => ?_, fun n => ?_, fun n => ?_, fun k hk => ?_, fun k hk a ha => ?_⟩
    · dsimp only
      split
      · exact endedButLast_concat.mpr ended
      · exact h.ended n
    · dsimp only
      split
      · exact refreshOrdered_concat.mpr ⟨h.ordered name, h.refreshFor_eq name⟩
      · exact h.ordered n
    · dsimp only
      split
      · rename_i hn
        subst hn
        simp [h.marks, Fetch.refreshedBy, Fetch.succeeded]
      · exact h.marks n
    · dsimp only
      rcases List.mem_append.mp hk with hk | hk
      · have := h.waits k hk
        split
        · rename_i hn
          rw [hn] at this
          simp only [List.length_append, List.length_singleton]
          omega
        · exact this
      · obtain rfl := List.mem_singleton.mp hk
        simp
    · rcases List.mem_append.mp hk with hk | hk
      · obtain ⟨shared, hready⟩ := h.answers k hk a ha
        refine ⟨shared, ?_⟩
        simpa [ready, grow k hk] using hready
      · obtain rfl := List.mem_singleton.mp hk
        cases ha

/-- What ending a name's fetch does: it gives the running fetch its outcome, and marks the
name when a refreshing fetch succeeded. -/
theorem finish_eq_some {s s' : FetchState} {name : String} {o : FetchOutcome}
    (hs : s.finish name o = some s') : ∃ i f, s.running name = some i ∧ (s.fetches name)[i]? = some f ∧
      s' = { s with
        refreshed := if f.refresh && Fetch.succeeded { f with outcome := some o } then
          fun n => n == name || s.refreshed n else s.refreshed
        fetches := fun n => if n = name then (s.fetches name).set i { f with outcome := some o }
          else s.fetches n } := by
  unfold finish at hs
  obtain ⟨i, hr, hs⟩ := Option.bind_eq_some_iff.mp hs
  obtain ⟨f, hf, hs⟩ := Option.bind_eq_some_iff.mp hs
  exact ⟨i, f, hr, hf, (Option.some.inj hs).symm⟩

/-- What a caller's context being done does: it marks that caller cancelled. -/
theorem cancel_eq_some {s s' : FetchState} {c : Nat} (hs : s.cancel c = some s') :
    ∃ k, s.calls[c]? = some k ∧ s' = { s with calls := s.calls.set c { k with cancelled := true } } := by
  unfold cancel at hs
  obtain ⟨k, hk, hs⟩ := Option.bind_eq_some_iff.mp hs
  exact ⟨k, hk, (Option.some.inj hs).symm⟩

/-- What a caller returning does: it records an answer the caller was ready to give. -/
theorem answer_eq_some {s s' : FetchState} {c : Nat} {shared : Bool}
    (hs : s.answer c shared = some s') :
    ∃ k a, s.calls[c]? = some k ∧ k.answer = none ∧ s.ready k shared = some a ∧
      s' = { s with calls := s.calls.set c { k with answer := some a } } := by
  unfold answer at hs
  obtain ⟨k, hk, hs⟩ := Option.bind_eq_some_iff.mp hs
  split at hs
  · cases hs
  · rename_i unanswered
    obtain ⟨a, ha, hs⟩ := Option.bind_eq_some_iff.mp hs
    exact ⟨k, a, hk, Option.not_isSome_iff_eq_none.mp unanswered, ha, (Option.some.inj hs).symm⟩

/-- Ending a fetch keeps a state sound. -/
theorem Sound.finish {s s' : FetchState} (h : s.Sound) {name : String} {o : FetchOutcome}
    (hs : s.finish name o = some s') : s'.Sound := by
  obtain ⟨i, f, hr, hf, rfl⟩ := finish_eq_some hs
  -- the running fetch is the last of its name
  obtain ⟨pre, f', hfs, rfl, hnone⟩ := (h.ended name).running hr
  have hff : f' = f := by simpa [hfs] using hf
  subst hff
  have set : (s.fetches name).set pre.length { f' with outcome := some o } =
      pre ++ [{ f' with outcome := some o }] := by
    rw [hfs, List.set_append_right _ _ (Nat.le_refl _)]
    simp
  refine ⟨fun n => ?_, fun n => ?_, fun n => ?_, fun k hk => ?_, fun k hk a ha => ?_⟩
  · dsimp only
    split
    · have old := h.ended name
      rw [hfs] at old
      rw [set, endedButLast_concat]
      exact endedButLast_concat.mp old
    · exact h.ended n
  · dsimp only
    split
    · have old := h.ordered name
      rw [hfs] at old
      obtain ⟨before, flag⟩ := refreshOrdered_concat.mp old
      rw [set]
      exact refreshOrdered_concat.mpr ⟨before, flag⟩
    · exact h.ordered n
  · -- the fetch that ended marks its name when it refreshed and succeeded
    have old := h.marks n
    dsimp only
    by_cases hn : n = name
    · subst hn
      rw [hfs, List.any_append] at old
      rw [if_pos rfl, set, List.any_append]
      split
      · rename_i marked
        have done : Fetch.refreshedBy { f' with outcome := some o } = true := marked
        simp [done]
      · rename_i unmarked
        have done : Fetch.refreshedBy { f' with outcome := some o } = false :=
          Bool.eq_false_iff.mpr unmarked
        have running : f'.refreshedBy = false := by
          simp [Fetch.refreshedBy, Fetch.succeeded_of_outcome_eq_none hnone]
        simp only [List.any_cons, List.any_nil, Bool.or_false, done, running] at old ⊢
        exact old
    · rw [if_neg hn]
      split <;> simp [hn, old]
  · dsimp only
    have := h.waits k hk
    split <;> simp_all
  · obtain ⟨shared, hready⟩ := h.answers k hk a ha
    refine ⟨shared, ?_⟩
    cases shared
    · simpa [ready] using hready
    · -- an answered fetch has ended, so it is not the one that just ended
      simp only [ready, if_true] at hready ⊢
      split
      · rename_i hn
        have ne : k.fetch ≠ pre.length := by
          rintro heq
          rw [hn, heq, hfs] at hready
          simp [hnone] at hready
        rw [List.getElem?_set_ne (Ne.symm ne)]
        rwa [hn] at hready
      · exact hready

/-- Replacing a call by one that waits on the same fetch keeps a state sound, when the new
call's answer is one it is ready to give. -/
theorem Sound.set_call {s : FetchState} (h : s.Sound) {c : Nat} {k k' : Call}
    (hk : s.calls[c]? = some k) (name : k'.name = k.name) (fetch : k'.fetch = k.fetch)
    (answers : ∀ a, k'.answer = some a → ∃ shared, s.ready k' shared = some a) :
    ({ s with calls := s.calls.set c k' } : FetchState).Sound := by
  have kmem : k ∈ s.calls := List.mem_of_getElem? hk
  refine ⟨h.ended, h.ordered, h.marks, fun k'' hk'' => ?_, fun k'' hk'' => ?_⟩
  · rcases List.mem_or_eq_of_mem_set hk'' with hk'' | rfl
    · exact h.waits k'' hk''
    · rw [name, fetch]
      exact h.waits k kmem
  · rcases List.mem_or_eq_of_mem_set hk'' with hk'' | rfl
    · exact h.answers k'' hk''
    · exact answers

/-- A caller's context being done keeps a state sound. -/
theorem Sound.cancel {s s' : FetchState} (h : s.Sound) {c : Nat} (hs : s.cancel c = some s') :
    s'.Sound := by
  obtain ⟨k, hk, rfl⟩ := cancel_eq_some hs
  refine h.set_call hk rfl rfl fun a ha => ?_
  -- a caller whose context is done is ready for at least what it was ready for
  obtain ⟨shared, hready⟩ := h.answers k (List.mem_of_getElem? hk) a ha
  refine ⟨shared, ?_⟩
  cases shared <;> simp_all [ready]

/-- A caller returning keeps a state sound. -/
theorem Sound.answer {s s' : FetchState} (h : s.Sound) {c : Nat} {shared : Bool}
    (hs : s.answer c shared = some s') : s'.Sound := by
  obtain ⟨k, a, hk, -, ha, rfl⟩ := answer_eq_some hs
  refine h.set_call hk rfl rfl fun a' ha' => ?_
  -- the answer given is the one the caller was ready to give
  obtain rfl : a = a' := Option.some.inj ha'
  exact ⟨shared, by simpa [ready] using ha⟩

/-- Every event keeps a state sound. -/
theorem Sound.step {s s' : FetchState} (h : s.Sound) {e : FetchEvent} (hs : s.step e = some s') :
    s'.Sound := by
  cases e with
  | call name =>
    cases hs
    exact h.call name
  | finish name o => exact h.finish hs
  | cancel c => exact h.cancel hs
  | answer c shared => exact h.answer hs

/-- No event changes whether the resolver refreshes. -/
theorem step_refresh {s s' : FetchState} {e : FetchEvent} (hs : s.step e = some s') :
    s'.refresh = s.refresh := by
  cases e with
  | call name =>
    cases hs
    unfold FetchState.call
    split <;> rfl
  | finish name o =>
    obtain ⟨i, f, -, -, rfl⟩ := finish_eq_some hs
    rfl
  | cancel c =>
    obtain ⟨k, -, rfl⟩ := cancel_eq_some hs
    rfl
  | answer c shared =>
    obtain ⟨k, a, -, -, -, rfl⟩ := answer_eq_some hs
    rfl

/-- Every reachable state is sound. -/
theorem Reachable.sound {r : Bool} {s : FetchState} (h : Reachable r s) : s.Sound := by
  induction h with
  | start => exact sound_init r
  | step e _ hs ih => exact ih.step hs

/-- Every reachable state refreshes as the resolver it started from does. -/
theorem Reachable.refresh {r : Bool} {s : FetchState} (h : Reachable r s) : s.refresh = r := by
  induction h with
  | start => rfl
  | step e _ hs ih => exact (step_refresh hs).trans ih

/-- A run of events from a reachable state ends in a reachable state. -/
theorem Reachable.of_run {r : Bool} {s s' : FetchState} (h : Reachable r s) {events : List FetchEvent}
    (hrun : s.run events = some s') : Reachable r s' := by
  induction events generalizing s with
  | nil =>
    cases hrun
    exact h
  | cons e rest ih =>
    obtain ⟨mid, hmid, hrest⟩ := Option.bind_eq_some_iff.mp hrun
    exact ih (.step e h hmid) hrest

/-! ## The contract -/

/-- Of a name's fetches at most one runs: only the last can. -/
theorem Sound.running_unique {s : FetchState} (h : s.Sound) {n : String} {i j : Nat}
    (hi : i < (s.fetches n).length) (hj : j < (s.fetches n).length)
    (ri : (s.fetches n)[i].outcome = none) (rj : (s.fetches n)[j].outcome = none) : i = j := by
  have li := (h.ended n).last_of_outcome_eq_none hi ri
  have lj := (h.ended n).last_of_outcome_eq_none hj rj
  omega

/-- A call made while a fetch of its name runs starts none and waits on the running one. -/
theorem call_of_running {s : FetchState} {n : String} (h : ∃ f ∈ s.fetches n, f.outcome = none) :
    (s.call n).fetches = s.fetches ∧ ∃ i f, (s.fetches n)[i]? = some f ∧ f.outcome = none ∧
      (s.call n).calls = s.calls ++ [⟨n, i, false, none⟩] := by
  obtain ⟨f, hf, hnone⟩ := h
  cases hr : s.running n with
  | none =>
    have := running_eq_none_iff.mp hr f hf
    simp [hnone] at this
  | some i =>
    obtain ⟨hi, found, -⟩ := List.findIdx?_eq_some_iff_getElem.mp hr
    unfold FetchState.call
    rw [hr]
    exact ⟨rfl, i, _, List.getElem?_eq_getElem hi, by simpa using found, rfl⟩

/-- A call made while no fetch of its name runs starts one, which asks to refresh exactly
when the resolver refreshes and no earlier fetch of the name has succeeded. -/
theorem Sound.call_of_idle {s : FetchState} (h : s.Sound) {n : String}
    (idle : ∀ f ∈ s.fetches n, f.outcome.isSome) :
    (s.call n).fetches n = s.fetches n ++ [⟨s.refresh && !(s.fetches n).any Fetch.succeeded, none⟩] := by
  unfold FetchState.call
  rw [running_eq_none_iff.mpr idle]
  simp [h.refreshFor_eq n]

/-- A caller can answer that its context is done only once it is. -/
theorem ready_cancelled {s : FetchState} {k : Call} {shared : Bool}
    (h : s.ready k shared = some .cancelled) : k.cancelled := by
  unfold ready at h
  split at h
  · obtain ⟨o, -, impossible⟩ := Option.map_eq_some_iff.mp h
    cases impossible
  · split at h
    · assumption
    · cases h

/-- A caller can answer with a shared outcome only once its fetch has ended with it. -/
theorem ready_shared {s : FetchState} {k : Call} {shared : Bool} {o : FetchOutcome}
    (h : s.ready k shared = some (.shared o)) :
    ∃ f, (s.fetches k.name)[k.fetch]? = some f ∧ f.outcome = some o := by
  unfold ready at h
  split at h
  · obtain ⟨o', ho', heq⟩ := Option.map_eq_some_iff.mp h
    cases heq
    obtain ⟨f, hf, hout⟩ := Option.bind_eq_some_iff.mp ho'
    exact ⟨f, hf, hout⟩
  · split at h <;> cases h

/-- A cancellation changes nothing but its own caller. -/
theorem cancel_frame {s s' : FetchState} {c : Nat} (hs : s.cancel c = some s') :
    s'.fetches = s.fetches ∧ s'.refreshed = s.refreshed ∧ ∀ c', c' ≠ c → s'.calls[c']? = s.calls[c']? := by
  obtain ⟨k, -, rfl⟩ := cancel_eq_some hs
  exact ⟨rfl, rfl, fun c' hc' => List.getElem?_set_ne (Ne.symm hc')⟩

/-- A running fetch can end with any outcome, and then every caller still waiting on it can
return that outcome. -/
theorem finish_delivers {s : FetchState} {n : String} {i : Nat} (hr : s.running n = some i)
    (o : FetchOutcome) : ∃ s', s.finish n o = some s' ∧
      ∀ c k, s'.calls[c]? = some k → k.name = n → k.fetch = i → k.answer = none →
        s'.answer c true = some { s' with calls := s'.calls.set c { k with answer := some (.shared o) } } := by
  obtain ⟨f, hf⟩ : ∃ f, (s.fetches n)[i]? = some f := ⟨_, List.getElem?_eq_getElem (running_lt hr)⟩
  refine ⟨{ s with
    refreshed := if f.refresh && Fetch.succeeded { f with outcome := some o } then
      fun m => m == n || s.refreshed m else s.refreshed
    fetches := fun m => if m = n then (s.fetches n).set i { f with outcome := some o } else s.fetches m },
    ?_, fun c k hk hn hfetch hnone => ?_⟩
  · unfold finish
    simp only [hr, hf, bind, Option.bind]
    rfl
  · -- the waiting caller finds the outcome at its fetch's place
    unfold answer
    simp only [hk, hnone, bind, Option.bind]
    simp [ready, hn, hfetch, List.getElem?_set_self (running_lt hr)]

/-- The contract of a resolver's shared fetches, in every state a run reaches. One fetch of
a name runs at a time, and a call starts a fetch exactly when none of its name runs, else
it waits on the running one. A name's fetches ask to refresh, when the resolver refreshes,
exactly until one of them has succeeded, and never otherwise; so at most one refreshing
fetch of a name succeeds, and one does as soon as any fetch of it succeeds. A caller
returns its context's error only once that is done, and otherwise the outcome of the
fetch it waited on; a cancellation changes nothing but its caller, and a running fetch can
always end, handing its outcome to every caller still waiting on it. -/
theorem shared_fetch_contract {r : Bool} {s : FetchState} (h : Reachable r s) :
    (∀ n i j (hi : i < (s.fetches n).length) (hj : j < (s.fetches n).length),
      (s.fetches n)[i].outcome = none → (s.fetches n)[j].outcome = none → i = j) ∧
    (∀ n, (∃ f ∈ s.fetches n, f.outcome = none) →
      (s.call n).fetches = s.fetches ∧ ∃ i f, (s.fetches n)[i]? = some f ∧ f.outcome = none ∧
        (s.call n).calls = s.calls ++ [⟨n, i, false, none⟩]) ∧
    (∀ n, (∀ f ∈ s.fetches n, f.outcome.isSome) →
      (s.call n).fetches n = s.fetches n ++ [⟨r && !(s.fetches n).any Fetch.succeeded, none⟩]) ∧
    (∀ n i (hi : i < (s.fetches n).length),
      (s.fetches n)[i].refresh = (r && !((s.fetches n).take i).any Fetch.succeeded)) ∧
    (∀ n i j (hi : i < (s.fetches n).length) (hj : j < (s.fetches n).length),
      (s.fetches n)[i].refreshedBy → (s.fetches n)[j].refreshedBy → i = j) ∧
    (r → ∀ n, (∃ f ∈ s.fetches n, f.succeeded) → ∃ f ∈ s.fetches n, f.refreshedBy) ∧
    (∀ k ∈ s.calls, (k.answer = some .cancelled → k.cancelled) ∧
      ∀ o, k.answer = some (.shared o) →
        ∃ f, (s.fetches k.name)[k.fetch]? = some f ∧ f.outcome = some o) ∧
    (∀ c s', s.cancel c = some s' →
      s'.fetches = s.fetches ∧ s'.refreshed = s.refreshed ∧ ∀ c', c' ≠ c → s'.calls[c']? = s.calls[c']?) ∧
    (∀ n i, s.running n = some i → ∀ o, ∃ s', s.finish n o = some s' ∧
      ∀ c k, s'.calls[c]? = some k → k.name = n → k.fetch = i → k.answer = none →
        s'.answer c true = some { s' with calls := s'.calls.set c { k with answer := some (.shared o) } }) := by
  have sound := h.sound
  have refresh := h.refresh
  refine ⟨fun n i j hi hj => sound.running_unique hi hj, fun n => call_of_running,
    fun n idle => ?_, fun n i hi => ?_, fun n i j hi hj => (sound.ordered n).refreshedBy_unique hi hj,
    fun hr n hs => ?_, fun k hk => ?_, fun c s' hs => cancel_frame hs,
    fun n i hr o => finish_delivers hr o⟩
  · rw [sound.call_of_idle idle, refresh]
  · rw [sound.ordered n i hi, refresh]
  · -- the first success of the name was a refreshing one
    have any := (sound.ordered n).any_refreshedBy
    rw [refresh, hr, Bool.true_and] at any
    obtain ⟨f, hf, hsucc⟩ := hs
    exact List.any_eq_true.mp (any.trans (List.any_eq_true.mpr ⟨f, hf, hsucc⟩))
  · refine ⟨fun ha => ?_, fun o ha => ?_⟩
    · obtain ⟨shared, hready⟩ := sound.answers k hk _ ha
      exact ready_cancelled hready
    · obtain ⟨shared, hready⟩ := sound.answers k hk _ ha
      exact ready_shared hready

/-- Two callers share a refreshing fetch of `chalk`. The first caller's context is done
and it returns that; the fetch fails, and the second caller returns the failure; the next
call starts a second fetch, which still asks to refresh. -/
theorem shared_fetch_contract_joined_failure :
    ∃ s, (init true).run [.call "chalk", .call "chalk", .cancel 0,
        .finish "chalk" (.error .unreachable), .answer 1 true, .answer 0 false, .call "chalk"] = some s ∧
      Reachable true s ∧
      s.calls.map (·.fetch) = [0, 0, 1] ∧
      s.calls.map (fun k => (k.cancelled, k.answer.isSome)) = [(true, true), (false, true), (false, false)] ∧
      (s.fetches "chalk").map (·.refresh) = [true, true] ∧
      (∀ k ∈ s.calls, (k.answer = some .cancelled → k.cancelled) ∧
        ∀ o, k.answer = some (.shared o) →
          ∃ f, (s.fetches k.name)[k.fetch]? = some f ∧ f.outcome = some o) := by
  obtain ⟨s, hs⟩ : ∃ s, (init true).run [.call "chalk", .call "chalk", .cancel 0,
      .finish "chalk" (.error .unreachable), .answer 1 true, .answer 0 false, .call "chalk"] = some s :=
    Option.isSome_iff_exists.mp (by decide)
  have reach : Reachable true s := Reachable.start.of_run hs
  have fetched := congrArg (Option.map fun s : FetchState => s.calls.map (·.fetch)) hs
  have answered := congrArg
    (Option.map fun s : FetchState => s.calls.map fun k => (k.cancelled, k.answer.isSome)) hs
  have refreshing := congrArg (Option.map fun s : FetchState => (s.fetches "chalk").map (·.refresh)) hs
  simp only [Option.map_some] at fetched answered refreshing
  refine ⟨s, hs, reach, ?_, ?_, ?_, (shared_fetch_contract reach).2.2.2.2.2.2.1⟩
  · rw [← Option.some_inj, ← fetched]
    decide
  · rw [← Option.some_inj, ← answered]
    decide
  · rw [← Option.some_inj, ← refreshing]
    decide

end FetchState

end DepLock.Registry
