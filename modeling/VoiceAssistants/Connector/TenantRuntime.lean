import VoiceAssistants.Async.Run

/-!
# The single-tenant runtime (`threecx-tenant-runtime.mjs`)

`start()`, `shutdown()` and the adapter's `shutdown()` that both of them run, with every `await` as a point where
anything else may happen.  The PBX client and the call controller are outside: `client.connect()`,
`controller.shutdown()` and `client.disconnect()` settle by actions, with any outcome.

The promise of `start()` is one; each promise of `shutdown()` is a round, numbered in order, and `shutdownPromise`
is the round that new callers share until its `finally` has run.  `connects` counts the calls of
`client.connect()` and `drains` those of `controller.shutdown()`; `drained` says that one of these has resolved
with `stopped`, `disconnected` that a `client.disconnect()` has resolved, and `listening` is the adapter's
`started`.
-/

namespace VoiceAssistants
namespace Connector

open Async

inductive RuntimeState
  | idle
  | starting
  | running
  | failed
  | draining
  | stopped
  deriving DecidableEq, Repr

/-- The adapter's `shutdown()`: at `controller.shutdown()` (its number among these calls), at
`client.disconnect()`, returned with the given `stopped`, or rejected. -/
inductive AdapterShutdown
  | drainingCalls (drain : Nat)
  | disconnecting
  | returned (stopped : Bool)
  | raised
  deriving DecidableEq, Repr

/-- The promise of `start()`. -/
inductive StartPhase
  | notCalled
  | connecting
  | cleaning (adapter : AdapterShutdown)
  | settled (started : Bool)
  deriving DecidableEq, Repr

/-- A promise of `shutdown()`; it settles with `stopped`, or is rejected. -/
inductive RoundPhase
  | awaitingStart
  | adapter (adapter : AdapterShutdown)
  | settled (result : Option Bool)
  deriving DecidableEq, Repr

structure TenantRuntime where
  state : RuntimeState
  start : StartPhase
  rounds : List RoundPhase
  shutdownPromise : Option Nat
  lastShutdown : Option Bool
  listening : Bool
  connects : Nat
  drains : Nat
  drained : Bool
  disconnected : Bool
  deriving DecidableEq, Repr

/-- How `controller.shutdown()` ends. -/
inductive DrainOutcome
  | stopped
  | incomplete
  | raised
  deriving DecidableEq, Repr

/-- What a caller of `shutdown()` gets: a round's promise, or a resolved one. -/
inductive ShutdownReply
  | round (round : Nat)
  | resolved (stopped : Bool)
  deriving DecidableEq, Repr

/-- Whose adapter shutdown: the clean-up of `start()`, or a round of `shutdown()`. -/
inductive Owner
  | start
  | round (round : Nat)
  deriving DecidableEq, Repr

inductive RuntimeAction
  | start
  | shutdown
  | connectSettles (resolved : Bool)
  | startAwaited (round : Nat)
  | drainSettles (owner : Owner) (outcome : DrainOutcome)
  | disconnectSettles (owner : Owner) (resolved : Bool)
  | adapterReturns (owner : Owner)
  | shutdownFinally
  deriving DecidableEq, Repr

namespace TenantRuntime

/-- `createThreeCxTenantRuntime(…)`. -/
def initial : TenantRuntime where
  state := .idle
  start := .notCalled
  rounds := []
  shutdownPromise := none
  lastShutdown := none
  listening := false
  connects := 0
  drains := 0
  drained := false
  disconnected := false

/-- `start()`: a second caller gets the first promise or a resolved one, or an exception. -/
def callStart (r : TenantRuntime) : TenantRuntime :=
  if r.state = .idle then
    { r with state := .starting, start := .connecting, listening := true, connects := r.connects + 1 }
  else r

/-- The owner's adapter shutdown, if it has one. -/
def adapterOf (r : TenantRuntime) : Owner → Option AdapterShutdown
  | .start =>
      match r.start with
      | .cleaning adapter => some adapter
      | _ => none
  | .round n =>
      match r.rounds[n]? with
      | some (.adapter adapter) => some adapter
      | _ => none

def setAdapter (r : TenantRuntime) (owner : Owner) (adapter : AdapterShutdown) : TenantRuntime :=
  match owner with
  | .start => { r with start := .cleaning adapter }
  | .round n => { r with rounds := r.rounds.set n (.adapter adapter) }

/-- `eventAdapter.shutdown()` up to `controller.shutdown()`. -/
def beginAdapter (r : TenantRuntime) (owner : Owner) : TenantRuntime :=
  { r.setAdapter owner (.drainingCalls r.drains) with drains := r.drains + 1 }

/-- The body of a round once it no longer waits for `start()`. -/
def runRound (r : TenantRuntime) (n : Nat) : TenantRuntime :=
  if r.state = .failed then
    -- `lastShutdown || { stopped: true, calls: [] }`
    { r with rounds := r.rounds.set n (.settled (some (r.lastShutdown.getD true))) }
  else { r with state := .draining }.beginAdapter (.round n)

/-- `shutdown()`. -/
def callShutdown (r : TenantRuntime) : TenantRuntime × ShutdownReply :=
  match r.shutdownPromise with
  | some n => (r, .round n)
  | none =>
      -- `stopped` is set together with `lastShutdown`
      if r.state = .stopped then (r, .resolved (r.lastShutdown.getD true))
      else
        let n := r.rounds.length
        let begun := { r with rounds := r.rounds ++ [.awaitingStart], shutdownPromise := some n }
        if r.start = .notCalled then (begun.runRound n, .round n) else (begun, .round n)

def startSettled (r : TenantRuntime) : Bool :=
  match r.start with
  | .settled _ => true
  | _ => false

/-- The continuation after `controller.shutdown()`. -/
def drainSettles (r : TenantRuntime) (owner : Owner) : DrainOutcome → TenantRuntime
  | .stopped => { r with listening := false, drained := true }.setAdapter owner .disconnecting
  | .incomplete => r.setAdapter owner (.returned false)
  | .raised => r.setAdapter owner .raised

/-- The continuation after `client.disconnect()`. -/
def disconnectSettles (r : TenantRuntime) (owner : Owner) (resolved : Bool) : TenantRuntime :=
  { r with disconnected := r.disconnected || resolved }.setAdapter owner (.returned resolved)

/-- The continuation after `eventAdapter.shutdown()`. -/
def adapterReturns (r : TenantRuntime) (owner : Owner) (adapter : AdapterShutdown) : Option TenantRuntime :=
  match owner, adapter with
  | .start, .returned stopped =>
      some { r with
        start := .settled false
        lastShutdown := some stopped
        state := if stopped then .failed else .draining }
  -- the rejection leaves `catch`, and `state` stays `starting`
  | .start, .raised => some { r with start := .settled false }
  | .round n, .returned stopped =>
      some { r with
        rounds := r.rounds.set n (.settled (some stopped))
        lastShutdown := some stopped
        state := if stopped then .stopped else .draining }
  | .round n, .raised => some { r with rounds := r.rounds.set n (.settled none) }
  | _, _ => none

/-- The round that new callers share has settled. -/
def promiseSettled (r : TenantRuntime) : Bool :=
  match r.shutdownPromise with
  | some n =>
      match r.rounds[n]? with
      | some (.settled _) => true
      | _ => false
  | none => false

/-- One turn of the event loop. -/
def step (r : TenantRuntime) : RuntimeAction → Option TenantRuntime
  | .start => some r.callStart
  | .shutdown => some r.callShutdown.1
  | .connectSettles resolved =>
      if r.start = .connecting then
        some (if resolved then { r with start := .settled true, state := .running } else r.beginAdapter .start)
      else none
  | .startAwaited n =>
      if r.rounds[n]? = some .awaitingStart ∧ r.startSettled then some (r.runRound n) else none
  | .drainSettles owner outcome =>
      match r.adapterOf owner with
      | some (.drainingCalls _) => some (r.drainSettles owner outcome)
      | _ => none
  | .disconnectSettles owner resolved =>
      match r.adapterOf owner with
      | some .disconnecting => some (r.disconnectSettles owner resolved)
      | _ => none
  | .adapterReturns owner =>
      match r.adapterOf owner with
      | some adapter => r.adapterReturns owner adapter
      | none => none
  | .shutdownFinally => if r.promiseSettled then some { r with shutdownPromise := none } else none

end TenantRuntime

end Connector
end VoiceAssistants
