import DepLock.Retry
import DepLock.Web.Client
/-!
# Retrying with waits

`retryTimed attempts delay act pause stopped` calls `act` until an outcome settles the runs
(a success, or a failure that is not marked worth retrying) or `attempts` calls are made,
at least one; between two calls it waits, `delay` first and twice as long each time after.
A wait that the context cuts short ends the runs with the context's error `stopped`.

To say what a run does we run it in a `World`: the outcomes of the coming calls, whether
each coming wait is cut short, and the events seen so far (`Event.call`,
`Event.wait d`). `trace` is a run from a world that has seen nothing: its answer and its
events. One round is a call, and a wait when the outcome is worth retrying
(`runs_succ`); by induction on the rounds left, every run ends after the calls `0, …, n`
(`runs_trace`):

* either call `n` settles the runs or is the last one allowed, the answer is its outcome,
  and the events are `schedule delay n`: a wait of `delay * 2 ^ i` before re-run `i + 1`,
  in 64-bit arithmetic, and nothing after the last call;
* or the wait after call `n` is cut short, the answer is `stopped`, and no call follows.

With a context that is never done only the first way is open (`trace_never_cut`). The
web client marks exactly two failures worth retrying (`send_worthRetry_iff`): no reply at
all, and a reply of status 500 or above; a missing resource (404), a rate limit (429, or
403 with no requests left), any other status and a body that does not decode are not.
`retry_waits_and_settles` puts the three together.

`retry`, which the clients use, is `retryTimed` with a context that is never done
(`retry_eq_retryTimed`).
-/

set_option autoImplicit false

namespace DepLock

namespace Retry

/-- What a run of the loop shows its surroundings. -/
inductive Event where
  /-- The action is called. -/
  | call
  /-- A wait of the given length, in nanoseconds. -/
  | wait (delay : Int64)
deriving DecidableEq, Repr

/-- Whether an outcome calls for another run: a failure marked worth retrying. A success
settles the runs, and so does every other failure. -/
def worthRetry {α : Type} : Except Error α → Bool
  | .ok _ => false
  | .error e => e.retryable

/-- The events of calls `0, …, n`: a wait of `delay * 2 ^ i` before call `i + 1`, and none
after the last call. -/
def schedule (delay : Int64) (n : Nat) : List Event :=
  .call :: (List.range n).flatMap fun i => [.wait (delay * 2 ^ i), .call]

/-- A wait of `delay` and the calls that follow it, with doubled waits between them. -/
theorem schedule_succ (delay : Int64) (n : Nat) :
    schedule delay (n + 1) = .call :: .wait delay :: schedule (delay * 2) n := by
  unfold schedule
  rw [List.range_succ_eq_map, List.flatMap_cons, List.flatMap_map]
  have doubled : ∀ i, delay * 2 ^ (i + 1) = delay * 2 * 2 ^ i := fun i => by
    rw [Int64.pow_succ, Int64.mul_assoc, Int64.mul_comm (2 ^ i)]
  simp [doubled]

/-- The surroundings of a run: the outcomes of the coming calls in order, for each coming
wait whether the context is done before its timer fires, and the events so far. -/
structure World (α : Type) where
  outcomes : Nat → Except Error α
  cuts : Nat → Bool
  seen : List Event

namespace World

variable {α β : Type}

/-- The world after a call. -/
def called (w : World α) : World α :=
  { w with outcomes := fun i => w.outcomes (i + 1), seen := w.seen ++ [.call] }

/-- The world after a wait of `d`. -/
def waited (w : World α) (d : Int64) : World α :=
  { w with cuts := fun i => w.cuts (i + 1), seen := w.seen ++ [.wait d] }

/-- A call: the outcome whose turn it is. -/
def call : StateM (World α) (Except Error α) := fun w => (w.outcomes 0, w.called)

/-- A wait of `d`: whether it ran its course. -/
def pause (d : Int64) : StateM (World α) Bool := fun w => (!w.cuts 0, w.waited d)

/-- After a call the coming outcomes move up by one. -/
@[simp] theorem called_outcomes (w : World α) (i : Nat) : w.called.outcomes i = w.outcomes (i + 1) :=
  rfl

/-- A call leaves the coming waits as they were. -/
@[simp] theorem called_cuts (w : World α) : w.called.cuts = w.cuts := rfl

/-- A call is recorded as seen. -/
@[simp] theorem called_seen (w : World α) : w.called.seen = w.seen ++ [.call] := rfl

/-- A wait leaves the coming outcomes as they were. -/
@[simp] theorem waited_outcomes (w : World α) (d : Int64) : (w.waited d).outcomes = w.outcomes := rfl

/-- After a wait the coming waits move up by one. -/
@[simp] theorem waited_cuts (w : World α) (d : Int64) (i : Nat) :
    (w.waited d).cuts i = w.cuts (i + 1) := rfl

/-- A wait is recorded with its delay. -/
@[simp] theorem waited_seen (w : World α) (d : Int64) : (w.waited d).seen = w.seen ++ [.wait d] :=
  rfl

/-- A call answers the first coming outcome. -/
theorem run_call (w : World α) : call.run w = (w.outcomes 0, w.called) := rfl

/-- A call followed by a continuation continues with the first coming outcome. -/
theorem run_call_bind (f : Except Error α → StateM (World α) β) (w : World α) :
    (call >>= f).run w = (f (w.outcomes 0)).run w.called := rfl

/-- A wait followed by a continuation continues with whether the wait ran its course. -/
theorem run_pause_bind (d : Int64) (f : Bool → StateM (World α) β) (w : World α) :
    (pause d >>= f).run w = (f (!w.cuts 0)).run (w.waited d) := rfl

end World

/-- A run of `retryTimed` from a world that has seen nothing: the answer and the events. -/
def trace {α : Type} (attempts : Int) (delay : Int64) (outcomes : Nat → Except Error α)
    (cuts : Nat → Bool) (stopped : Error) : Except Error α × List Event :=
  Prod.map id World.seen
    ((retryTimed attempts delay World.call World.pause stopped).run ⟨outcomes, cuts, []⟩)

/-! ## One round, and a whole run -/

section Runs

variable {α : Type} (stopped : Error)

/-- One round: a call, then, when its outcome is worth retrying, a wait and the rounds left. -/
theorem runs_succ (rest : Nat) (delay : Int64) (w : World α) :
    (retryTimedRuns World.call World.pause stopped (rest + 1) delay).run w =
      if worthRetry (w.outcomes 0) then
        if w.cuts 0 then (.error stopped, w.called.waited delay)
        else (retryTimedRuns World.call World.pause stopped rest (delay * 2)).run (w.called.waited delay)
      else (w.outcomes 0, w.called) := by
  rw [retryTimedRuns, World.run_call_bind]
  cases ho : w.outcomes 0 with
  | ok a => rfl
  | error e =>
    cases hr : e.retryable with
    | false =>
      simp only [worthRetry, hr, Bool.false_eq_true, if_false]
      rfl
    | true =>
      simp only [worthRetry, hr, if_true]
      rw [World.run_pause_bind]
      -- the call leaves the cuts as they are, so the wait reads the first of them
      cases hc : w.cuts 0 with
      | false =>
        simp only [World.called, hc]
        rfl
      | true =>
        simp only [World.called, hc]
        rfl

/-- Every run over `w` with up to `rest` re-runs makes calls `0, …, n` for some `n ≤ rest`,
each but the last with an outcome worth retrying and a wait after it that ran its course. It
ends with call `n` when that settles the runs or no re-run is left, and otherwise with a cut
wait after call `n`. -/
theorem runs_trace (rest : Nat) (delay : Int64) (w : World α) :
    ∃ n ≤ rest, (∀ i < n, worthRetry (w.outcomes i) = true ∧ w.cuts i = false) ∧
      (((n = rest ∨ worthRetry (w.outcomes n) = false) ∧
          Prod.map id World.seen ((retryTimedRuns World.call World.pause stopped rest delay).run w) =
            (w.outcomes n, w.seen ++ schedule delay n)) ∨
        (n < rest ∧ worthRetry (w.outcomes n) = true ∧ w.cuts n = true ∧
          Prod.map id World.seen ((retryTimedRuns World.call World.pause stopped rest delay).run w) =
            (.error stopped, w.seen ++ schedule delay n ++ [.wait (delay * 2 ^ n)]))) := by
  induction rest generalizing delay w with
  | zero =>
    -- no re-run is left: one call, and its outcome is the answer
    exact ⟨0, Nat.le_refl 0, fun i hi => absurd hi (Nat.not_lt_zero i),
      .inl ⟨.inl rfl, by simp [retryTimedRuns, World.run_call, schedule]⟩⟩
  | succ rest ih =>
    rw [runs_succ]
    by_cases worth : worthRetry (w.outcomes 0) = true
    · by_cases cut : w.cuts 0 = true
      · -- the first wait is cut short
        refine ⟨0, Nat.zero_le _, fun i hi => absurd hi (Nat.not_lt_zero i),
          .inr ⟨Nat.succ_pos rest, worth, cut, ?_⟩⟩
        simp [worth, cut, schedule, Int64.mul_one]
      · -- the first wait runs its course, and the rounds left run in the world after it
        obtain ⟨n, hn, before, ending⟩ := ih (delay * 2) (w.called.waited delay)
        have cut' : w.cuts 0 = false := by simpa using cut
        refine ⟨n + 1, Nat.succ_le_succ hn, fun i hi => ?_, ?_⟩
        · cases i with
          | zero => exact ⟨worth, cut'⟩
          | succ i => simpa using before i (Nat.lt_of_succ_lt_succ hi)
        · simp only [worth, cut', if_true, Bool.false_eq_true, if_false]
          have shifted : (w.called.waited delay).seen = w.seen ++ [.call, .wait delay] := by simp
          rcases ending with ⟨last, answer⟩ | ⟨hlt, worthN, cutN, answer⟩
          · refine .inl ⟨by simpa using last, ?_⟩
            rw [answer, shifted, schedule_succ]
            simp
          · refine .inr ⟨Nat.succ_lt_succ hlt, by simpa using worthN, by simpa using cutN, ?_⟩
            rw [answer, shifted, schedule_succ, Int64.pow_succ, Int64.mul_comm (2 ^ n),
              ← Int64.mul_assoc]
            simp
    · -- the first call settles the runs
      have settled : worthRetry (w.outcomes 0) = false := by simpa using worth
      refine ⟨0, Nat.zero_le _, fun i hi => absurd hi (Nat.not_lt_zero i),
        .inl ⟨.inr settled, ?_⟩⟩
      simp [settled, schedule]

end Runs

/-- A run with `attempts` ends after calls `0, …, n`, with `n` below the number of calls
allowed, in one of the two ways of `runs_trace`. -/
theorem trace_ends {α : Type} (attempts : Int) (delay : Int64) (outcomes : Nat → Except Error α)
    (cuts : Nat → Bool) (stopped : Error) :
    ∃ n < (max attempts 1).toNat, (∀ i < n, worthRetry (outcomes i) = true ∧ cuts i = false) ∧
      (((n + 1 = (max attempts 1).toNat ∨ worthRetry (outcomes n) = false) ∧
          trace attempts delay outcomes cuts stopped = (outcomes n, schedule delay n)) ∨
        (n + 1 < (max attempts 1).toNat ∧ worthRetry (outcomes n) = true ∧ cuts n = true ∧
          trace attempts delay outcomes cuts stopped =
            (.error stopped, schedule delay n ++ [.wait (delay * 2 ^ n)]))) := by
  have allowed : 0 < (max attempts 1).toNat := Int.lt_toNat.mpr (by omega)
  obtain ⟨n, hn, before, ending⟩ := runs_trace stopped ((max attempts 1).toNat - 1) delay
    ⟨outcomes, cuts, []⟩
  unfold trace retryTimed
  generalize (max attempts 1).toNat = calls at allowed hn ending ⊢
  refine ⟨n, by omega, before, ?_⟩
  rcases ending with ⟨last, answer⟩ | ⟨hlt, worth, cut, answer⟩
  · exact .inl ⟨last.imp_left fun h => by omega, by simpa using answer⟩
  · exact .inr ⟨by omega, worth, cut, by simpa using answer⟩

/-- With a context that is never done, the run calls until an outcome settles it or no call
is left, answers the last outcome, and waits only between calls. -/
theorem trace_never_cut {α : Type} (attempts : Int) (delay : Int64) (outcomes : Nat → Except Error α)
    (stopped : Error) :
    ∃ n < (max attempts 1).toNat, (∀ i < n, worthRetry (outcomes i) = true) ∧
      (n + 1 = (max attempts 1).toNat ∨ worthRetry (outcomes n) = false) ∧
      trace attempts delay outcomes (fun _ => false) stopped = (outcomes n, schedule delay n) := by
  obtain ⟨n, hn, before, ending⟩ := trace_ends attempts delay outcomes (fun _ => false) stopped
  rcases ending with ⟨last, answer⟩ | ⟨-, -, cut, -⟩
  · exact ⟨n, hn, fun i hi => (before i hi).1, last, answer⟩
  · cases cut

/-- The loop without waits is the loop whose waits all run their course. -/
theorem retryRuns_eq_retryTimedRuns {m : Type → Type} [Monad m] [LawfulMonad m] {α : Type}
    (act : m (Except Error α)) (stopped : Error) (rest : Nat) (delay : Int64) :
    retryRuns act rest = retryTimedRuns act (fun _ => pure true) stopped rest delay := by
  induction rest generalizing delay with
  | zero => rfl
  | succ rest ih =>
    simp only [retryRuns, retryTimedRuns, pure_bind, if_true]
    refine congrArg (act >>= ·) (funext fun x => ?_)
    cases x with
    | ok a => rfl
    | error e => rw [ih (delay * 2)]

/-- Retrying without waits is retrying with waits that are never cut short. -/
theorem retry_eq_retryTimed {m : Type → Type} [Monad m] [LawfulMonad m] {α : Type} (attempts : Int)
    (delay : Int64) (act : m (Except Error α)) (stopped : Error) :
    retry attempts act = retryTimed attempts delay act (fun _ => pure true) stopped :=
  retryRuns_eq_retryTimedRuns act stopped _ delay

end Retry

/-! ## What the web client marks worth retrying -/

namespace Web.Client

open Retry

/-- The request for `addr` is made and no reply comes back: the address's scheme is neither
`http` nor `https`, it names no host, or the transport fails. -/
def NoReply (c : Client) (t : Transport) (addr : String) (extra : List (String × String)) : Prop :=
  ∃ u, Url.parse addr = .ok u ∧
    ((u.scheme ≠ "http" ∧ u.scheme ≠ "https") ∨ u.host.isEmpty = true ∨
      ∃ m, t ⟨u, c.requestHeaders extra⟩ = .error m)

/-- The request for `addr` goes out and the transport replies `r`. -/
def Replies (c : Client) (t : Transport) (addr : String) (extra : List (String × String))
    (r : Reply) : Prop :=
  ∃ u, Url.parse addr = .ok u ∧ (u.scheme = "http" ∨ u.scheme = "https") ∧
    u.host.isEmpty = false ∧ t ⟨u, c.requestHeaders extra⟩ = .ok r

/-- A continuation that never calls for a retry leaves the call for one to the first step. -/
theorem worthRetry_bind {α β : Type} (x : Except Error α) {f : α → Except Error β}
    (settles : ∀ a, worthRetry (f a) = false) : worthRetry (x >>= f) = worthRetry x := by
  cases x with
  | error e => rfl
  | ok a => exact settles a

/-- Mapping a value does not change whether a retry is called for. -/
theorem worthRetry_map {α β : Type} (x : Except Error α) (f : α → β) :
    worthRetry (x.map f) = worthRetry x := by
  cases x <;> rfl

/-- Of the replies, only those of status 500 and above fail worth retrying; the checks of
a rate limit, of a missing resource and of the other statuses all come first or give a
failure that is not. -/
theorem checkReply_worthRetry (r : Reply) : worthRetry (checkReply r) = decide (500 ≤ r.status) := by
  unfold checkReply
  by_cases limited : (r.status == 429 || (r.status == 403 &&
      headerValue r.headers "X-RateLimit-Remaining" == "0")) = true
  · -- a rate limit is 429 or 403, below 500
    have low : r.status < 500 := by
      simp only [Bool.or_eq_true, beq_iff_eq, Bool.and_eq_true] at limited
      omega
    rw [if_pos limited]
    simp [worthRetry, Error.retryable, Nat.not_le.mpr low]
  · rw [if_neg limited]
    by_cases ok : r.status = 200
    · simp [worthRetry, ok]
    · by_cases missing : r.status = 404
      · simp [worthRetry, Error.retryable, missing]
      · by_cases high : 500 ≤ r.status
        · simp [worthRetry, Error.retryable, ok, missing, high]
        · simp [worthRetry, networkFailure, Error.retryable, ok, missing, high]

variable (c : Client) (t : Transport) (addr : String) (extra : List (String × String))

/-- Sending fails worth retrying exactly when no reply comes back or the reply's status is
500 or above. -/
theorem send_worthRetry_iff :
    worthRetry (c.send t addr extra) = true ↔
      c.NoReply t addr extra ∨ ∃ r, c.Replies t addr extra r ∧ 500 ≤ r.status := by
  unfold send NoReply Replies
  cases parsed : Url.parse addr with
  | error m => simp [worthRetry, Error.retryable]
  | ok u =>
    simp only [Except.ok.injEq, exists_eq_left']
    by_cases web : (u.scheme != "http" && u.scheme != "https") = true
    · -- a scheme the transport does not speak
      have other : u.scheme ≠ "http" ∧ u.scheme ≠ "https" := by simpa using web
      simp [web, other, worthRetry, Error.retryable]
    · have spoken : u.scheme = "http" ∨ u.scheme = "https" := by
        simp only [Bool.and_eq_true, bne_iff_ne, ne_eq, not_and, Decidable.not_not] at web
        by_cases h : u.scheme = "http"
        · exact .inl h
        · exact .inr (web h)
      rw [if_neg web]
      by_cases hostless : u.host.isEmpty = true
      · simp [hostless, worthRetry, Error.retryable]
      · have hosted : u.host.isEmpty = false := by simpa using hostless
        rw [if_neg hostless]
        cases answer : t ⟨u, c.requestHeaders extra⟩ with
        | error m => simp [worthRetry, Error.retryable]
        | ok r =>
          have check : worthRetry (checkReply r >>= fun _ => pure r) = decide (500 ≤ r.status) := by
            rw [worthRetry_bind _ fun _ => rfl, checkReply_worthRetry]
          simp only [check, decide_eq_true_eq]
          constructor
          · intro high
            exact .inr ⟨r, ⟨spoken, hosted, rfl⟩, high⟩
          · rintro ((⟨notHttp, notHttps⟩ | hostless' | ⟨m, failed⟩) | ⟨r', ⟨-, -, replied⟩, high⟩)
            · rcases spoken with h | h
              · exact absurd h notHttp
              · exact absurd h notHttps
            · exact absurd hostless' hostless
            · cases failed
            · cases replied
              exact high

/-- Reading the body of a reply fails in no way worth retrying. -/
theorem getDecoded_worthRetry {α : Type} (decode : Json.Value → Except String α) :
    worthRetry (c.getDecoded t addr extra decode) = worthRetry (c.send t addr extra) := by
  refine worthRetry_bind _ fun r => ?_
  split
  · rfl
  · split <;> rfl

/-- Fetching bytes calls for a retry exactly when sending the request does. -/
theorem getRaw_worthRetry : worthRetry (c.getRaw t addr extra) = worthRetry (c.send t addr extra) := by
  refine worthRetry_bind _ fun r => ?_
  split <;> rfl

/-- Fetching a text calls for a retry exactly when sending the request does. -/
theorem getText_worthRetry : worthRetry (c.getText t addr) = worthRetry (c.send t addr []) :=
  worthRetry_map _ _

end Web.Client

namespace Retry

/-- The retry loop calls until an outcome settles the runs or the attempts are used up, at
least one: with a context that is never done it answers the last outcome, after a wait of
`delay * 2 ^ i` (64-bit) before re-run `i + 1` and none after the last call. A wait that the
context cuts short ends the runs with the context's error, and no call follows it. Through
the web client, a failure is worth retrying exactly when no reply came back or the reply's
status is 500 or above, whichever of its ways of getting a document is used. -/
theorem retry_waits_and_settles {α : Type} :
    (∀ (attempts : Int) (delay : Int64) (outcomes : Nat → Except Error α) (stopped : Error),
      ∃ n < (max attempts 1).toNat, (∀ i < n, worthRetry (outcomes i) = true) ∧
        (n + 1 = (max attempts 1).toNat ∨ worthRetry (outcomes n) = false) ∧
        trace attempts delay outcomes (fun _ => false) stopped = (outcomes n, schedule delay n)) ∧
    (∀ (attempts : Int) (delay : Int64) (outcomes : Nat → Except Error α) (cuts : Nat → Bool)
      (stopped : Error),
      ∃ n < (max attempts 1).toNat, (∀ i < n, worthRetry (outcomes i) = true ∧ cuts i = false) ∧
        (((n + 1 = (max attempts 1).toNat ∨ worthRetry (outcomes n) = false) ∧
            trace attempts delay outcomes cuts stopped = (outcomes n, schedule delay n)) ∨
          (n + 1 < (max attempts 1).toNat ∧ worthRetry (outcomes n) = true ∧ cuts n = true ∧
            trace attempts delay outcomes cuts stopped =
              (.error stopped, schedule delay n ++ [.wait (delay * 2 ^ n)])))) ∧
    (∀ (c : Web.Client) (t : Web.Transport) (addr : String) (extra : List (String × String)),
      (worthRetry (c.send t addr extra) = true ↔
        c.NoReply t addr extra ∨ ∃ r, c.Replies t addr extra r ∧ 500 ≤ r.status) ∧
      (∀ decode : Json.Value → Except String α,
        worthRetry (c.getDecoded t addr extra decode) = worthRetry (c.send t addr extra)) ∧
      worthRetry (c.getRaw t addr extra) = worthRetry (c.send t addr extra) ∧
      worthRetry (c.getText t addr) = worthRetry (c.send t addr [])) :=
  ⟨trace_never_cut, trace_ends, fun c t addr extra =>
    ⟨Web.Client.send_worthRetry_iff c t addr extra, Web.Client.getDecoded_worthRetry c t addr extra,
      Web.Client.getRaw_worthRetry c t addr extra, Web.Client.getText_worthRetry c t addr⟩⟩

end Retry

end DepLock
