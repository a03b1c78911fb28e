import VoiceAssistants.Backend.BrokerRoutes
import VoiceAssistants.Connector.BrokerBoundRuntime
import VoiceAssistants.Connector.MultiTenantSupervisor

/-!
# The supervisor as it is wired (`run-supervisor.mjs`)

One `reconcile()` over the tenants that the credential broker lists, with the factory that makes broker-bound runtimes.  The
broker lists the DIDs of a tenant as the text of a `jsonb` column, and the wiring refers to a tenant by an object.

* `supervisor_runs_tenants_iff` — every listed tenant is run exactly if none is listed.

How the runtimes' `start()` and `shutdown()` end is outside.
-/

namespace VoiceAssistants

open Collections
open Db (JsonbColumn StoredIntegration jsonbText jsonbText_ne listActiveThreecxIntegrations)
open Broker (TenantDescriptor Setup Store Answer threecxActiveTenants sampleSetup sampleIntegration)

namespace Connector

/-! ## The fingerprint -/

/-- `(config.dids || []).slice()` as an array; a text has no `sort`. -/
def didsArray : JsonbColumn → Except String (List String)
  | .list values => .ok values
  | .text value => if value = "" then .ok [] else .error "(config.dids || []).slice(...).sort is not a function"

/-- The fields that the fingerprint reads. -/
def tenantConfig (config : TenantDescriptor) (dids : List String) : TenantConfig where
  companyId := some config.companyId
  routePointDn := some config.routePointDn
  pbxHostname := some config.pbxHostname
  pbxUrl := none
  appId := config.appId
  dids := some dids
  failureAction := config.failureAction
  failureDestination := config.failureDestination
  credentialUpdatedAt := config.credentialUpdatedAt

/-- `computeFingerprint` of a tenant that the broker lists; an error is the message of the `TypeError`. -/
def listedFingerprint (config : TenantDescriptor) : Except String String :=
  (didsArray config.dids).map fun dids => computeFingerprint (tenantConfig config dids)

/-! ## The factory -/

/-- What `createBrokerBoundTenantRuntime` is given for a tenant. -/
inductive TenantRef
  | text (value : String)
  | object (companyId : String) (profileVersion : Int)
  deriving DecidableEq, Repr

def isTenantRef : TenantRef → Bool
  | .text value => 0 < jsLength value && jsLength value ≤ 255
  | .object _ _ => false

/-- The arguments; the first three say whether they are functions. -/
structure RuntimeArguments where
  acquireTenantLease : Bool
  releaseTenantLease : Bool
  createThreeCxRuntime : Bool
  tenantRef : TenantRef
  deriving DecidableEq, Repr

/-- `createBrokerBoundTenantRuntime`; an error is the message of the `TypeError`. -/
def createBrokerBoundTenantRuntime (arguments : RuntimeArguments) : Except String Broker :=
  if !arguments.acquireTenantLease then .error "acquireTenantLease must be a function"
  else if !arguments.releaseTenantLease then .error "releaseTenantLease must be a function"
  else if !arguments.createThreeCxRuntime then .error "createThreeCxRuntime must be a function"
  else if !isTenantRef arguments.tenantRef then .error "A bounded tenant reference is required"
  else .ok .initial

/-- `createTenantRuntime` of the wiring.  The broker lists no `profileVersion`, so it is 1. -/
def createTenantRuntime (config : TenantDescriptor) : Except String Broker :=
  createBrokerBoundTenantRuntime
    { acquireTenantLease := true, releaseTenantLease := true, createThreeCxRuntime := true,
      tenantRef := .object config.companyId 1 }

/-! ## One pass -/

inductive SupervisorSignal
  | stoppingRemovedTenant (companyId : String)
  | restartingUpdatedTenant (companyId : String)
  | tenantStarted (companyId : String)
  | tenantStartFailed (companyId error : String)
  | tenantStopError (companyId error : String)
  | tenantStopped (companyId : String)
  | reconcileCompleted (activeCount : Nat)
  | reconcileError (error : String)
  deriving DecidableEq, Repr

/-- How the promises of a tenant's runtime settle. -/
structure Runtimes where
  start : (companyId : String) → Except String Unit
  shutdown : (companyId : String) → Except String Unit

/-- The tenants that run, with their fingerprints, and what has been signalled. -/
structure Reconciling where
  tenants : OrderedMap String String
  signals : List SupervisorSignal

namespace Reconciling

variable (runtimes : Runtimes) (pass : Reconciling)

def signal (event : SupervisorSignal) : Reconciling :=
  { pass with signals := pass.signals ++ [event] }

/-- `#stopTenant` -/
def stopTenant (companyId : String) : Reconciling :=
  let told := match runtimes.shutdown companyId with
    | .ok _ => pass
    | .error error => pass.signal (.tenantStopError companyId error)
  { told with tenants := told.tenants.delete companyId }.signal (.tenantStopped companyId)

/-- `#startTenant` -/
def startTenant (companyId : String) (config : TenantDescriptor) (fingerprint : String) : Reconciling :=
  match createTenantRuntime config with
  | .error error =>
      { pass with tenants := pass.tenants.delete companyId }.signal (.tenantStartFailed companyId error)
  | .ok _ =>
      match runtimes.start companyId with
      | .ok _ => { pass with tenants := pass.tenants.set companyId fingerprint }.signal (.tenantStarted companyId)
      | .error error =>
          { pass with tenants := pass.tenants.delete companyId }.signal (.tenantStartFailed companyId error)

/-- The second loop of `reconcile()`, and the message of the exception that ends it. -/
def visit (runtimes : Runtimes) : List (String × TenantDescriptor) → Reconciling → Reconciling × Option String
  | [], pass => (pass, none)
  | (companyId, config) :: rest, pass =>
      match listedFingerprint config with
      | .error error => (pass, some error)
      | .ok fingerprint =>
          match pass.tenants.get companyId with
          | none => visit runtimes rest (pass.startTenant runtimes companyId config fingerprint)
          | some existing =>
              if existing ≠ fingerprint then
                visit runtimes rest (((pass.signal (.restartingUpdatedTenant companyId)).stopTenant runtimes
                  companyId).startTenant runtimes companyId config fingerprint)
              else visit runtimes rest pass

end Reconciling

/-- `fetchActiveTenants`; an answer without `tenants` lists none. -/
def fetchActiveTenants : Answer → Except String (List TenantDescriptor)
  | .tenants tenants => .ok tenants
  | .error status _ => .error ("Failed to fetch active tenants: HTTP " ++ toString status)
  | .result _ => .ok []

/-- The listed tenants that name a company, by company. -/
def listedMap (activeList : List TenantDescriptor) : OrderedMap String TenantDescriptor :=
  .ofPairs ((activeList.filter fun tenant => tenant.companyId ≠ "").map fun tenant => (tenant.companyId, tenant))

/-- `reconcile()` while the supervisor runs some tenants. -/
def reconcile (runtimes : Runtimes) (tenants : OrderedMap String String)
    (fetched : Except String (List TenantDescriptor)) : Reconciling :=
  match fetched with
  | .error error => { tenants, signals := [.reconcileError error] }
  | .ok activeList =>
      let active := listedMap activeList
      let removed := (tenants.entries.filter fun tenant => (active.get tenant.1).isNone).foldl
        (fun (pass : Reconciling) tenant => (pass.signal (.stoppingRemovedTenant tenant.1)).stopTenant runtimes tenant.1)
        { tenants, signals := [] }
      match Reconciling.visit runtimes active.entries removed with
      | (pass, none) => pass.signal (.reconcileCompleted pass.tenants.entries.length)
      | (pass, some error) => pass.signal (.reconcileError error)

/-! ## What becomes of the listed tenants -/

section Listed

variable {config : TenantDescriptor} {activeList : List TenantDescriptor} {runtimes : Runtimes}

/-- The factory refuses every tenant. -/
theorem createTenantRuntime_eq : createTenantRuntime config = .error "A bounded tenant reference is required" := rfl

/-- A tenant whose DIDs are a text has no fingerprint. -/
theorem listedFingerprint_text {value : String} (htext : config.dids = .text value) (hne : value ≠ "") :
    listedFingerprint config = .error "(config.dids || []).slice(...).sort is not a function" := by
  rw [listedFingerprint, htext, didsArray, if_neg hne]
  rfl

/-- A pass over tenants whose DIDs are texts ends at the first of them. -/
theorem reconcileError_of_texts (tenants : OrderedMap String String) (hne : activeList ≠ [])
    (hcompanies : ∀ tenant ∈ activeList, tenant.companyId ≠ "")
    (htexts : ∀ tenant ∈ activeList, ∃ value, tenant.dids = .text value ∧ value ≠ "") :
    .reconcileError "(config.dids || []).slice(...).sort is not a function" ∈
      (reconcile runtimes tenants (.ok activeList)).signals := by
  have hall : (activeList.filter fun tenant => tenant.companyId ≠ "") = activeList := by
    rw [List.filter_eq_self]
    intro tenant htenant
    exact decide_eq_true (hcompanies tenant htenant)
  have hentries : (listedMap activeList).entries ≠ [] := by
    rw [listedMap, hall]
    exact OrderedMap.ofPairs_ne_nil (by simpa using hne)
  cases hcases : (listedMap activeList).entries with
  | nil => exact absurd hcases hentries
  | cons entry rest =>
      obtain ⟨companyId, first⟩ := entry
      have hfirst : first ∈ activeList := by
        have hmem : (companyId, first) ∈ (listedMap activeList).entries := by
          rw [hcases]
          exact List.mem_cons_self
        rw [listedMap, hall] at hmem
        obtain ⟨tenant, htenant, hpair⟩ := List.mem_map.mp (OrderedMap.mem_of_mem_ofPairs hmem)
        rwa [← (Prod.mk.inj hpair).2]
      obtain ⟨value, hdids, hvalue⟩ := htexts first hfirst
      unfold reconcile
      simp only [hcases, Reconciling.visit, listedFingerprint_text hdids hvalue]
      exact List.mem_append_right _ List.mem_cons_self

/-- A pass over no tenants completes. -/
theorem reconcile_nil (tenants : OrderedMap String String) (error : String) :
    .reconcileError error ∉ (reconcile runtimes tenants (.ok [])).signals := by
  have hstop : ∀ (pass : Reconciling) (companyId : String), .reconcileError error ∉ pass.signals →
      .reconcileError error ∉ (pass.stopTenant runtimes companyId).signals := by
    intro pass companyId hpass
    unfold Reconciling.stopTenant
    cases runtimes.shutdown companyId <;> simp [Reconciling.signal, hpass]
  have hremoved : ∀ (removals : List (String × String)) (pass : Reconciling), .reconcileError error ∉ pass.signals →
      .reconcileError error ∉ (removals.foldl (fun (pass : Reconciling) tenant =>
        (pass.signal (.stoppingRemovedTenant tenant.1)).stopTenant runtimes tenant.1) pass).signals := by
    intro removals
    induction removals with
    | nil => exact fun _ hpass => hpass
    | cons tenant removals ih =>
        intro pass hpass
        apply ih
        apply hstop
        simp [Reconciling.signal, hpass]
  have hnothing : .reconcileError error ∉ ({ tenants, signals := [] } : Reconciling).signals := List.not_mem_nil
  intro h
  unfold reconcile at h
  rcases List.mem_append.mp h with hpass | hcompleted
  · exact hremoved _ _ hnothing hpass
  · cases List.mem_singleton.mp hcompleted

end Listed

/-! ## The result -/

section Result

variable {K Data : Type}

/-- The tenants that the broker lists. -/
def listedTenants (setup : Setup K Data) (store : Store K Data) : List TenantDescriptor :=
  (listActiveThreecxIntegrations setup.bypassesRls store.integrations).map setup.descriptor

/-- Every pass over the broker's list completes, and each listed tenant gets a runtime whose `start()` asks for a lease. -/
def RunsTenants (setup : Setup K Data) (store : Store K Data) : Prop :=
  (∀ (runtimes : Runtimes) (tenants : OrderedMap String String) (error : String),
    .reconcileError error ∉
      (reconcile runtimes tenants (fetchActiveTenants (threecxActiveTenants setup store))).signals) ∧
  ∀ config ∈ listedTenants setup store, ∃ runtime, createTenantRuntime config = .ok runtime ∧
    runtime.callStart.start = .acquiring

/-- The supervisor runs the tenants that are listed exactly if there are none: no integration is active, or the policies of
the database hide them from the broker. -/
theorem supervisor_runs_tenants_iff (setup : Setup K Data) (store : Store K Data) :
    RunsTenants setup store ↔ setup.bypassesRls = false ∨ ∀ row ∈ store.integrations, row.state ≠ .active := by
  have hlisted : listedTenants setup store = [] ↔
      setup.bypassesRls = false ∨ ∀ row ∈ store.integrations, row.state ≠ .active := by
    rw [listedTenants, List.map_eq_nil_iff, List.eq_nil_iff_forall_not_mem]
    constructor
    · intro hnone
      cases hrls : setup.bypassesRls with
      | false => exact .inl rfl
      | true =>
          refine .inr fun row hrow hactive => ?_
          exact hnone row (Db.mem_listActive.mpr ⟨hrls, hrow, hactive⟩)
    · intro hnone row hrow
      obtain ⟨hrls, hmem, hactive⟩ := Db.mem_listActive.mp hrow
      rcases hnone with hpolicies | hinactive
      · rw [hrls] at hpolicies
        cases hpolicies
      · exact hinactive row hmem hactive
  rw [← hlisted]
  constructor
  · intro hruns
    rw [List.eq_nil_iff_forall_not_mem]
    intro config hconfig
    -- no tenant that is listed gets a runtime
    obtain ⟨runtime, hruntime, -⟩ := hruns.2 config hconfig
    rw [createTenantRuntime_eq] at hruntime
    cases hruntime
  · intro hnone
    constructor
    · intro runtimes tenants error
      have hfetched : fetchActiveTenants (threecxActiveTenants setup store) = .ok [] := by
        rw [← hnone]
        rfl
      rw [hfetched]
      exact reconcile_nil tenants error
    · intro config hconfig
      rw [hnone] at hconfig
      cases hconfig

/-- When an active integration is listed, no pass completes either. -/
theorem reconcile_fails (setup : Setup K Data) (store : Store K Data) (runtimes : Runtimes)
    (tenants : OrderedMap String String) (hlisted : listedTenants setup store ≠ []) :
    .reconcileError "(config.dids || []).slice(...).sort is not a function" ∈
      (reconcile runtimes tenants (fetchActiveTenants (threecxActiveTenants setup store))).signals := by
  apply reconcileError_of_texts tenants hlisted
  · intro tenant htenant
    obtain ⟨row, -, rfl⟩ := List.mem_map.mp htenant
    intro hempty
    have hlength := congrArg String.length hempty
    simp [Setup.descriptor, Uuid.text] at hlength
  · intro tenant htenant
    obtain ⟨row, -, rfl⟩ := List.mem_map.mp htenant
    exact ⟨jsonbText row.dids, rfl, jsonbText_ne row.dids⟩

end Result

/-- An integration that is active and listed is not run. -/
theorem listed_tenant_not_run :
    ¬ ∀ (setup : Setup ℚ Unit) (store : Store ℚ Unit), RunsTenants setup store := by
  intro hall
  have hruns := (supervisor_runs_tenants_iff sampleSetup ⟨[], [sampleIntegration], ()⟩).mp (hall _ _)
  rcases hruns with hrls | hinactive
  · cases hrls
  · exact hinactive sampleIntegration List.mem_cons_self rfl

end Connector
end VoiceAssistants
