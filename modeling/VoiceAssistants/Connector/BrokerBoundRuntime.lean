import VoiceAssistants.Connector.TenantRuntime

/-!
# The lease-bound runtime (`broker-bound-tenant-runtime.mjs`)

One tenant lease around one tenant runtime: `start()`, `shutdown()`, `releaseOnce()` and the expiry watchdog, with
the runtime inside moving between their turns by its own actions.  The runtime is started in the turn that creates
it; `inner` is that runtime, also after the variable `runtime` has been set to `null`.

`acquireTenantLease` and `releaseTenantLease` are outside.  `releases` are the calls of `releaseTenantLease`, in
order, each with the inner runtime as it was then; `releasePromise` is the one that `releaseOnce()` shares until
its `finally` has run.
-/

namespace VoiceAssistants
namespace Connector

open Async

inductive BrokerState
  | idle
  | starting
  | running
  | failed
  | stopping
  | draining
  | stopped
  deriving DecidableEq, Repr

/-- The promise of `releaseTenantLease(lease)`, and that of its `finally`. -/
inductive ReleasePhase
  | pending
  | settled (resolved : Bool)
  | finalized (resolved : Bool)
  deriving DecidableEq, Repr

/-- A call of `releaseTenantLease`. -/
structure Release where
  inner : Option TenantRuntime
  phase : ReleasePhase
  deriving DecidableEq, Repr

/-- The promise of `start()`; at `await releaseOnce()` there may be no lease to wait for. -/
inductive BrokerStart
  | notCalled
  | acquiring
  | startingRuntime
  | releasing (release : Option Nat)
  | settled (started : Bool)
  deriving DecidableEq, Repr

/-- A promise of `shutdown()`. -/
inductive BrokerShutdown
  | awaitingStart
  | awaitingRuntime (reply : ShutdownReply)
  | releasing (release : Option Nat)
  | settled (result : Option Bool)
  deriving DecidableEq, Repr

structure Broker where
  state : BrokerState
  start : BrokerStart
  shutdowns : List BrokerShutdown
  inner : Option TenantRuntime
  runtime : Bool
  lease : Bool
  releasePromise : Option Nat
  releases : List Release
  watchdog : Bool
  deriving DecidableEq, Repr

/-- How `acquireTenantLease` ends: rejected, with something that is no lease, or with a lease, for which
`createThreeCxRuntime` may throw. -/
inductive LeaseOutcome
  | raised
  | invalid
  | lease (factoryThrows : Bool)
  deriving DecidableEq, Repr

/-- `throws` says that `releaseTenantLease`, if the turn calls it, throws at once. -/
inductive BrokerAction
  | start
  | acquired (outcome : LeaseOutcome) (throws : Bool)
  | runtime (action : RuntimeAction)
  | runtimeStarted (throws : Bool)
  | startReleased
  | shutdown (throws : Bool)
  | startAwaited (task : Nat) (throws : Bool)
  | runtimeResumes (task : Nat) (throws : Bool)
  | shutdownReleased (task : Nat)
  | leaseExpires (throws : Bool)
  | releaseSettles (release : Nat) (resolved : Bool)
  | releaseFinally (release : Nat)
  deriving DecidableEq, Repr

namespace Broker

/-- `createBrokerBoundTenantRuntime(…)`. -/
def initial : Broker where
  state := .idle
  start := .notCalled
  shutdowns := []
  inner := none
  runtime := false
  lease := false
  releasePromise := none
  releases := []
  watchdog := false

/-- `releaseOnce()`, and the release its caller waits for. -/
def releaseOnce (b : Broker) (throws : Bool) : Broker × Option Nat :=
  if b.lease then
    match b.releasePromise with
    | some release => (b, some release)
    | none =>
        let release := b.releases.length
        if throws then
          ({ b with releases := b.releases ++ [{ inner := b.inner, phase := .finalized false }] }, some release)
        else
          ({ b with
            releases := b.releases ++ [{ inner := b.inner, phase := .pending }]
            releasePromise := some release }, some release)
  else (b, none)

/-- How `await releaseOnce()` ends, if it has. -/
def released (b : Broker) : Option Nat → Option Bool
  | none => some true
  | some release =>
      match b.releases[release]?.map Release.phase with
      | some (.finalized resolved) => some resolved
      | _ => none

/-- `start()`: a second caller gets the first promise or a resolved one, or an exception. -/
def callStart (b : Broker) : Broker :=
  if b.state = .idle then { b with state := .starting, start := .acquiring } else b

/-- The `catch` of `start()` up to `await releaseOnce()`. -/
def startFails (b : Broker) (throws : Bool) : Broker :=
  let next := b.releaseOnce throws
  { next.1 with start := .releasing next.2 }

/-- The continuation after `acquireTenantLease`, up to `await runtime.start()`. -/
def acquired (b : Broker) (outcome : LeaseOutcome) (throws : Bool) : Broker :=
  match outcome with
  | .raised => b.startFails throws
  | .invalid => b.startFails throws
  | .lease true => { b with lease := true }.startFails throws
  | .lease false =>
      { b with lease := true, runtime := true, inner := some TenantRuntime.initial.callStart, start := .startingRuntime }

/-- The continuation after `runtime.start()`. -/
def runtimeStarted (b : Broker) (started throws : Bool) : Broker :=
  if started then { b with watchdog := true, state := .running, start := .settled true } else b.startFails throws

/-- The end of the `catch` of `start()`. -/
def startReleased (b : Broker) (resolved : Bool) : Broker :=
  { b with
    watchdog := false
    runtime := false
    lease := b.lease && !resolved
    state := if b.lease && !resolved then .draining else .failed
    start := .settled false }

def setShutdown (b : Broker) (task : Nat) (phase : BrokerShutdown) : Broker :=
  { b with shutdowns := b.shutdowns.set task phase }

/-- `shutdown()` from `runtime.shutdown()` on, when the runtime is stopped. -/
def releaseLease (b : Broker) (task : Nat) (throws : Bool) : Broker :=
  let next := b.releaseOnce throws
  next.1.setShutdown task (.releasing next.2)

/-- The body of `shutdown()` from `state = "stopping"` on. -/
def runShutdown (b : Broker) (task : Nat) (throws : Bool) : Broker :=
  let stopping := { b with state := .stopping }
  match b.runtime, b.inner with
  | true, some runtime =>
      let next := runtime.callShutdown
      { stopping with inner := some next.1 }.setShutdown task (.awaitingRuntime next.2)
  | _, _ => stopping.releaseLease task throws

/-- `shutdown()`. -/
def callShutdown (b : Broker) (throws : Bool) : Broker :=
  if b.state = .stopped then b
  else
    let begun := { b with shutdowns := b.shutdowns ++ [.awaitingStart] }
    if b.state = .starting then begun else begun.runShutdown b.shutdowns.length throws

/-- The continuation of `shutdown()` after `startPromise`. -/
def startAwaited (b : Broker) (task : Nat) (throws : Bool) : Broker :=
  if b.state = .stopped then b.setShutdown task (.settled (some true)) else b.runShutdown task throws

/-- The continuation of `shutdown()` after `runtime.shutdown()`. -/
def runtimeResumes (b : Broker) (task : Nat) (result : Option Bool) (throws : Bool) : Broker :=
  match result with
  | some true => b.releaseLease task throws
  | some false => { b with state := .draining }.setShutdown task (.settled (some false))
  | none => { b with state := .draining }.setShutdown task (.settled none)

/-- The end of `shutdown()`, after `releaseOnce()`. -/
def shutdownReleased (b : Broker) (task : Nat) (resolved : Bool) : Broker :=
  if resolved then
    { b with watchdog := false, runtime := false, lease := false, state := .stopped }.setShutdown task
      (.settled (some true))
  else { b with state := .draining }.setShutdown task (.settled none)

/-- How a promise of `runtime.shutdown()` has ended for its callers: a round is seen after its `finally`. -/
def replied (b : Broker) : ShutdownReply → Option (Option Bool)
  | .resolved stopped => some (some stopped)
  | .round n =>
      match b.inner with
      | some runtime =>
          match runtime.rounds[n]? with
          | some (.settled result) => if runtime.shutdownPromise = some n then none else some result
          | _ => none
      | none => none

def setRelease (b : Broker) (release : Nat) (entry : Release) (phase : ReleasePhase) : Broker :=
  { b with releases := b.releases.set release { entry with phase := phase } }

/-- The promise of `runtime.start()`, once it has settled. -/
def runtimeStart (b : Broker) : Option Bool :=
  match b.inner.map TenantRuntime.start with
  | some (.settled started) => some started
  | _ => none

/-- One turn of the event loop. -/
def step (b : Broker) : BrokerAction → Option Broker
  | .start => some b.callStart
  | .acquired outcome throws => if b.start = .acquiring then some (b.acquired outcome throws) else none
  | .runtime action =>
      match b.inner with
      | some runtime =>
          match runtime.step action with
          | some next => some { b with inner := some next }
          | none => none
      | none => none
  | .runtimeStarted throws =>
      if b.start = .startingRuntime then
        match b.runtimeStart with
        | some started => some (b.runtimeStarted started throws)
        | none => none
      else none
  | .startReleased =>
      match b.start with
      | .releasing release =>
          match b.released release with
          | some resolved => some (b.startReleased resolved)
          | none => none
      | _ => none
  | .shutdown throws => some (b.callShutdown throws)
  | .startAwaited task throws =>
      match b.shutdowns[task]?, b.start with
      | some .awaitingStart, .settled _ => some (b.startAwaited task throws)
      | _, _ => none
  | .runtimeResumes task throws =>
      match b.shutdowns[task]? with
      | some (.awaitingRuntime reply) =>
          match b.replied reply with
          | some result => some (b.runtimeResumes task result throws)
          | none => none
      | _ => none
  | .shutdownReleased task =>
      match b.shutdowns[task]? with
      | some (.releasing release) =>
          match b.released release with
          | some resolved => some (b.shutdownReleased task resolved)
          | none => none
      | _ => none
  | .leaseExpires throws =>
      if b.watchdog then
        let fired := { b with watchdog := false }
        some (if b.state = .running then fired.callShutdown throws else fired)
      else none
  | .releaseSettles release resolved =>
      match b.releases[release]? with
      | some entry => if entry.phase = .pending then some (b.setRelease release entry (.settled resolved)) else none
      | none => none
  | .releaseFinally release =>
      match b.releases[release]? with
      | some entry =>
          match entry.phase with
          | .settled resolved =>
              some { b.setRelease release entry (.finalized resolved) with releasePromise := none }
          | _ => none
      | none => none

end Broker

end Connector
end VoiceAssistants
