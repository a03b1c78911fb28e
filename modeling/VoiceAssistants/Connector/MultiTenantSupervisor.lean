import VoiceAssistants.Async.Run
import VoiceAssistants.Text
import VoiceAssistants.Collections.OrderedMap

/-!
# The multi-tenant supervisor (`multi-tenant-supervisor.mjs`)

The supervisor with every `await` of its methods as a point where anything else may happen.  At most one
`reconcile()` pass is under way (`pass` is what `reconciling` guards); any number of `shutdown()` calls are.

What the supervisor calls is outside: the tenant list, the factory and the runtimes.  Their results are part of
the actions, in any order and with any outcome.  Of a runtime the model keeps what its supervisor was told:
how its `start()` ended, whether its `shutdown()` has been called, and whether a `shutdown()` has reported
`{ stopped: true }`.  A runtime whose `start()` is rejected may have failed to clean up behind itself
(`draining`).  The metrics signals and the returned counts are left out.
-/

namespace VoiceAssistants
namespace Connector

open Async Collections

/-- The fields of a tenant configuration that the supervisor reads; a missing field is `none`. -/
structure TenantConfig where
  companyId : Option String
  routePointDn : Option String
  pbxHostname : Option String
  pbxUrl : Option String
  appId : Option String
  dids : Option (List String)
  failureAction : Option String
  failureDestination : Option String
  credentialUpdatedAt : Option String
  deriving DecidableEq, Repr

/-- `value || undefined` on texts. -/
def truthy (value : Option String) : Option String :=
  value.filter (· ≠ "")

/-- `computeFingerprint`; `join` writes a missing part as the empty text. -/
def computeFingerprint (config : TenantConfig) : String :=
  let parts : List (Option String) :=
    [config.companyId, config.routePointDn, (truthy config.pbxHostname).or config.pbxUrl, config.appId,
      some (",".intercalate (jsSort (config.dids.getD []))), config.failureAction, config.failureDestination,
      truthy config.credentialUpdatedAt]
  "|".intercalate (parts.map fun part => part.getD "")

/-- `entry.state`. -/
inductive EntryState
  | starting
  | running
  | stopping
  deriving DecidableEq, Repr

/-- How the `start()` of a runtime ended. -/
inductive StartStatus
  | calling
  | started
  | rejected (draining : Bool)
  deriving DecidableEq, Repr

/-- An entry of the tenant map, with its runtime. -/
structure TenantEntry where
  companyId : String
  config : TenantConfig
  fingerprint : String
  state : EntryState
  start : StartStatus
  shutdownCalled : Bool
  stopped : Bool
  deriving DecidableEq, Repr

/-- What a pass still has to do: the removals of its first loop, the visits of its second one, and the start
that follows the stop of an updated tenant. -/
inductive Work
  | remove (companyId : String) (entry : Nat)
  | visit (companyId : String) (config : TenantConfig)
  | start (companyId : String) (config : TenantConfig) (fingerprint : String)
  deriving DecidableEq, Repr

def Work.companyId : Work → String
  | remove companyId _ | visit companyId _ | start companyId _ _ => companyId

/-- The `await` a pass stands at: the tenant list, the `shutdown()` or the `start()` of a runtime, or the return
of `#stopTenant` or `#startTenant`. -/
inductive Pass
  | fetching
  | stopping (companyId : String) (entry : Nat) (rest : List Work)
  | starting (companyId : String) (entry : Nat) (rest : List Work)
  | returning (rest : List Work)
  deriving DecidableEq, Repr

def Pass.rest : Pass → List Work
  | fetching => []
  | stopping _ _ rest | starting _ _ rest | returning rest => rest

/-- Who awaits a pass: `start()` and the timer schedule the next one afterwards. -/
inductive Caller
  | chain
  | explicit
  deriving DecidableEq, Repr

inductive SupervisorState
  | idle
  | running
  | stopping
  | stopped
  deriving DecidableEq, Repr

/-- The supervisor.  Entries are numbered in the order of their creation; a `shutdown()` call that has not
returned is the list of the stops it still awaits; `resuming` counts the chain's awaits that have ended. -/
structure Supervisor where
  state : SupervisorState
  tenants : OrderedMap String Nat
  entries : List TenantEntry
  pass : Option (Pass × Caller)
  shutdowns : List (List (String × Nat))
  timer : Bool
  resuming : Nat
  deriving DecidableEq

/-- The outcome of a `shutdown()` of a runtime. -/
inductive StopOutcome
  | stopped
  | incomplete
  | raised
  deriving DecidableEq, Repr

/-- The outcome of a `start()` of a runtime. -/
inductive StartOutcome
  | resolved
  | rejected (draining : Bool)
  deriving DecidableEq, Repr

inductive SupervisorAction
  | start
  | reconcile
  | timerFires
  | chainResumes
  /-- the tenant list: an error, something that is no array, or its elements, some of which may be `null` -/
  | fetched (result : Except String (Option (List (Option TenantConfig)))) (factoryThrows : Bool)
  | passResumes (factoryThrows : Bool)
  | passStarted (outcome : StartOutcome)
  | passStopped (outcome : StopOutcome)
  | shutdown
  | shutdownStopped (task stop : Nat) (outcome : StopOutcome)
  | shutdownResolves (task : Nat)

namespace Supervisor

/-- `new MultiTenantSupervisor(…)`. -/
def initial : Supervisor where
  state := .idle
  tenants := .empty
  entries := []
  pass := none
  shutdowns := []
  timer := false
  resuming := 0

def modifyEntry (s : Supervisor) (entry : Nat) (change : TenantEntry → TenantEntry) : Supervisor :=
  { s with entries := s.entries.modify entry change }

/-- `new Map()` filled with the tenants that name a company; a company that is named twice keeps its first place
and its last configuration. -/
def activeMap (activeList : List (Option TenantConfig)) : OrderedMap String TenantConfig :=
  .ofPairs (activeList.filterMap fun tenant => do
    let config ← tenant
    let companyId ← truthy config.companyId
    some (companyId, config))

/-- The first part of `#stopTenant`, up to the call of `entry.runtime.shutdown()`. -/
def callShutdown (s : Supervisor) (entry : Nat) : Supervisor :=
  s.modifyEntry entry fun e => { e with state := .stopping, shutdownCalled := true }

/-- The rest of `#stopTenant`: whatever the outcome, the company is deleted. -/
def settleStop (s : Supervisor) (companyId : String) (entry : Nat) (outcome : StopOutcome) : Supervisor :=
  let told := s.modifyEntry entry fun e => { e with stopped := e.stopped || outcome = .stopped }
  { told with tenants := told.tenants.delete companyId }

/-- `#startTenant` up to the call of `runtime.start()`, or to its end if the factory throws. -/
def startTenant (s : Supervisor) (factoryThrows : Bool) (companyId : String) (config : TenantConfig)
    (fingerprint : String) (rest : List Work) : Supervisor × Option Pass :=
  if factoryThrows then ({ s with tenants := s.tenants.delete companyId }, some (.returning rest))
  else
    let entry : TenantEntry := ⟨companyId, config, fingerprint, .starting, .calling, false, false⟩
    ({ s with
        entries := s.entries ++ [entry]
        tenants := s.tenants.set companyId s.entries.length },
      some (.starting companyId s.entries.length rest))

/-- The rest of `#startTenant`. -/
def settleStart (s : Supervisor) (companyId : String) (entry : Nat) : StartOutcome → Supervisor
  | .resolved => s.modifyEntry entry fun e => { e with start := .started, state := .running }
  | .rejected draining =>
      let told := s.modifyEntry entry fun e => { e with start := .rejected draining }
      { told with tenants := told.tenants.delete companyId }

/-- The loops of a pass up to the next `await`; `none` at their end. -/
def runWork (factoryThrows : Bool) : List Work → Supervisor → Supervisor × Option Pass
  | [], s => (s, none)
  | .remove companyId entry :: rest, s => (s.callShutdown entry, some (.stopping companyId entry rest))
  | .visit companyId config :: rest, s =>
      let fingerprint := computeFingerprint config
      match s.tenants.get companyId with
      | none => s.startTenant factoryThrows companyId config fingerprint rest
      | some existing =>
          if (s.entries[existing]?.map TenantEntry.fingerprint) ≠ some fingerprint then
            (s.callShutdown existing,
              some (.stopping companyId existing (.start companyId config fingerprint :: rest)))
          else runWork factoryThrows rest s
  | .start companyId config fingerprint :: rest, s =>
      s.startTenant factoryThrows companyId config fingerprint rest

/-- The awaiting caller goes on later. -/
def release (s : Supervisor) : Caller → Supervisor
  | .chain => { s with resuming := s.resuming + 1 }
  | .explicit => s

/-- The `finally` of `reconcile()`. -/
def endPass (s : Supervisor) (caller : Caller) : Supervisor :=
  { s.release caller with pass := none }

/-- Stop at an `await`, or end the pass. -/
def awaitNext (caller : Caller) : Supervisor × Option Pass → Supervisor
  | (s, some pass) => { s with pass := some (pass, caller) }
  | (s, none) => s.endPass caller

/-- Continue a pass up to its next `await`. -/
def carryOn (s : Supervisor) (factoryThrows : Bool) (work : List Work) (caller : Caller) : Supervisor :=
  awaitNext caller (runWork factoryThrows work s)

/-- `reconcile()` up to the tenant list. -/
def beginPass (s : Supervisor) (caller : Caller) : Supervisor :=
  if s.pass.isSome ∨ s.state ≠ .running then s.release caller
  else { s with pass := some (.fetching, caller) }

/-- What a pass does with the active tenants: first the removals, then the visits. -/
def plan (s : Supervisor) (active : OrderedMap String TenantConfig) : List Work :=
  ((s.tenants.entries.filter fun tenant => (active.get tenant.1).isNone).map fun tenant =>
    .remove tenant.1 tenant.2) ++ active.entries.map fun tenant => .visit tenant.1 tenant.2

/-- `start()`; started twice it does nothing, and once stopped it throws. -/
def start (s : Supervisor) : Supervisor :=
  if s.state = .idle then { s with state := .running }.beginPass .chain else s

/-- `shutdown()` up to `Promise.allSettled`. -/
def shutdown (s : Supervisor) : Supervisor :=
  if s.state = .stopped then s
  else
    let stops := s.tenants.entries
    let called := stops.foldl (fun t stop => t.callShutdown stop.2) s
    { called with state := .stopping, timer := false, shutdowns := s.shutdowns ++ [stops] }

/-- A runtime that `shutdown()` awaits settles. -/
def shutdownStopped (s : Supervisor) (task stop : Nat) (outcome : StopOutcome) : Option Supervisor := do
  let stops ← s.shutdowns[task]?
  let (companyId, entry) ← stops[stop]?
  some { s.settleStop companyId entry outcome with shutdowns := s.shutdowns.set task (stops.eraseIdx stop) }

/-- The rest of `shutdown()` once every stop has settled. -/
def shutdownResolves (s : Supervisor) (task : Nat) : Option Supervisor :=
  if s.shutdowns[task]? = some [] then
    some { s with state := .stopped, tenants := .empty, shutdowns := s.shutdowns.eraseIdx task }
  else none

/-- One turn of the event loop. -/
def step (s : Supervisor) : SupervisorAction → Option Supervisor
  | .start => some s.start
  | .reconcile => some (s.beginPass .explicit)
  | .timerFires =>
      if s.timer then
        let fired := { s with timer := false }
        some (if s.state = .running then fired.beginPass .chain else fired)
      else none
  | .chainResumes =>
      match s.resuming with
      | 0 => none
      | n + 1 => some { s with resuming := n, timer := s.timer || s.state = .running }
  | .fetched result factoryThrows =>
      match s.pass with
      | some (.fetching, caller) =>
          match result with
          | .ok (some activeList) => some (s.carryOn factoryThrows (s.plan (activeMap activeList)) caller)
          | .ok none | .error _ => some (s.endPass caller)
      | _ => none
  | .passResumes factoryThrows =>
      match s.pass with
      | some (.returning rest, caller) => some (s.carryOn factoryThrows rest caller)
      | _ => none
  | .passStarted outcome =>
      match s.pass with
      | some (.starting companyId entry rest, caller) =>
          some { s.settleStart companyId entry outcome with pass := some (.returning rest, caller) }
      | _ => none
  | .passStopped outcome =>
      match s.pass with
      | some (.stopping companyId entry rest, caller) =>
          some { s.settleStop companyId entry outcome with pass := some (.returning rest, caller) }
      | _ => none
  | .shutdown => some s.shutdown
  | .shutdownStopped task stop outcome => s.shutdownStopped task stop outcome
  | .shutdownResolves task => s.shutdownResolves task

end Supervisor

end Connector
end VoiceAssistants
