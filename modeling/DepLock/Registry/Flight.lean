import DepLock.Registry.Packument
/-!
# Shared packument fetches

A registry resolver shares its fetches between callers. A caller that asks for a name
while a fetch of that name runs joins that fetch instead of starting one; the fetch lets
go of the name when it ends, and the next caller of the name starts a new one. With
refreshing on, a fetch asks the registry to bypass its cache until a refreshing fetch of
the name has succeeded: the resolver marks the name when that happens, before the fetch
lets go of it.

A caller waits for its fetch and for its own context at once. Once its context is done it
may return that, or the fetch's outcome when that has come too; the fetch runs on,
unaffected, for every other caller waiting on it.

`FetchState.step` is what one event does: a call, the end of a running fetch with any
outcome, a caller's context being done, a caller returning. Every interleaving of events
is a run, and `FetchState.Reachable` holds of the states that runs reach.
-/

set_option autoImplicit false

namespace DepLock.Registry

/-- How a fetch ends: the packument or the fetcher's error. -/
abbrev FetchOutcome := Except Error Packument

/-- One fetch of a name: whether it asks the registry to refresh, and its outcome once it
has ended. -/
structure Fetch where
  refresh : Bool
  outcome : Option FetchOutcome

/-- Whether a fetch has ended with a packument. -/
def Fetch.succeeded (f : Fetch) : Bool :=
  match f.outcome with
  | some (.ok _) => true
  | _ => false

/-- What a caller returns: its own context's error, or the outcome of the fetch it waited
on. -/
inductive Answer where
  | cancelled
  | shared (outcome : FetchOutcome)

/-- One call for a name: the fetch it waits on, by its place among the name's fetches,
whether the caller's context is done, and what the call returned, once it has. -/
structure Call where
  name : String
  fetch : Nat
  cancelled : Bool
  answer : Option Answer

/-- A resolver's shared fetches: whether it refreshes, the names whose refreshing fetch has
succeeded, every fetch of every name in order, and every call so far. -/
structure FetchState where
  refresh : Bool
  refreshed : String → Bool
  fetches : String → List Fetch
  calls : List Call

/-- The events of a run. -/
inductive FetchEvent where
  /-- A caller asks for a name. -/
  | call (name : String)
  /-- The running fetch of a name ends. -/
  | finish (name : String) (outcome : FetchOutcome)
  /-- A caller's context is done. -/
  | cancel (call : Nat)
  /-- A caller returns the outcome of its fetch, or its context's error. -/
  | answer (call : Nat) (shared : Bool)

namespace FetchState

/-- A resolver before any call. -/
def init (refresh : Bool) : FetchState := ⟨refresh, fun _ => false, fun _ => [], []⟩

/-- The running fetch of a name, by its place among the name's fetches. -/
def running (s : FetchState) (name : String) : Option Nat :=
  (s.fetches name).findIdx? fun f => f.outcome.isNone

/-- Whether a fetch started now asks to refresh: when the resolver refreshes and no
refreshing fetch of the name has succeeded. -/
def refreshFor (s : FetchState) (name : String) : Bool :=
  s.refresh && !s.refreshed name

/-- A call joins the running fetch of its name, or starts one. -/
def call (s : FetchState) (name : String) : FetchState :=
  match s.running name with
  | some i => { s with calls := s.calls ++ [⟨name, i, false, none⟩] }
  | none =>
    { s with
      fetches := fun n => if n = name then s.fetches name ++ [⟨s.refreshFor name, none⟩] else s.fetches n
      calls := s.calls ++ [⟨name, (s.fetches name).length, false, none⟩] }

/-- The running fetch of a name ends with an outcome. A refreshing fetch that succeeded
marks its name first; then the fetch lets go of the name. -/
def finish (s : FetchState) (name : String) (o : FetchOutcome) : Option FetchState := do
  let i ← s.running name
  let f ← (s.fetches name)[i]?
  let done : Fetch := { f with outcome := some o }
  pure { s with
    refreshed := if f.refresh && done.succeeded then fun n => n == name || s.refreshed n
      else s.refreshed
    fetches := fun n => if n = name then (s.fetches name).set i done else s.fetches n }

/-- A caller's context is done; nothing else changes. -/
def cancel (s : FetchState) (c : Nat) : Option FetchState := do
  let k ← s.calls[c]?
  pure { s with calls := s.calls.set c { k with cancelled := true } }

/-- What a caller may return: the outcome of its fetch once that has ended, or its
context's error once that is done. -/
def ready (s : FetchState) (k : Call) (shared : Bool) : Option Answer :=
  if shared then (((s.fetches k.name)[k.fetch]?).bind (·.outcome)).map .shared
  else if k.cancelled then some .cancelled
  else none

/-- A caller that has not returned yet returns what it may. -/
def answer (s : FetchState) (c : Nat) (shared : Bool) : Option FetchState := do
  let k ← s.calls[c]?
  if k.answer.isSome then none
  else
    let a ← s.ready k shared
    pure { s with calls := s.calls.set c { k with answer := some a } }

/-- What one event does, when it can happen. -/
def step (s : FetchState) : FetchEvent → Option FetchState
  | .call name => some (s.call name)
  | .finish name o => s.finish name o
  | .cancel c => s.cancel c
  | .answer c shared => s.answer c shared

/-- A run of events, while each can happen. -/
def run (s : FetchState) (events : List FetchEvent) : Option FetchState :=
  events.foldlM step s

/-- The states that runs of a resolver reach. -/
inductive Reachable (refresh : Bool) : FetchState → Prop
  | start : Reachable refresh (init refresh)
  | step {s s' : FetchState} (e : FetchEvent) : Reachable refresh s → s.step e = some s' →
      Reachable refresh s'

end FetchState

end DepLock.Registry
