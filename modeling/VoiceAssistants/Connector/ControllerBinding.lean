import VoiceAssistants.Exceptions
import VoiceAssistants.Backend.ThreeCxRequests
import VoiceAssistants.Connector.CallController

/-!
# The binding of a call controller (the constructor of `ThreeCxCallController`)

The constructor checks the tenant's binding again, in JavaScript: texts are bounded in UTF-16 units and trimmed of
JavaScript's white space, and entries of the lists that do not fit are dropped.

* `newController_eq_ok` — when the constructor accepts a binding, and what it makes of it.
* `saved_integration_usable_iff` — a saved integration makes a controller that accepts the joins of exactly its DIDs
  exactly if the request for it keeps the bounds of the controller.
-/

namespace VoiceAssistants
namespace Connector

open Exceptions (bind_eq_ok)
open Backend (ThreeCXRequest ThreeCxBroker put3cx put3cx_stored)
open Db (StoredIntegration)

/-! ## The constructor -/

/-- `UUID_RE.test(text)` -/
def isUuid (text : String) : Bool :=
  match text.toList.splitOn '-' with
  | [first, second, third, fourth, fifth] =>
      first.length == 8 && second.length == 4 && third.length == 4 && fourth.length == 4 && fifth.length == 12 &&
        [first, second, third, fourth, fifth].all (fun digits => digits.all fun c => (hexDigit c).isSome) &&
        third.head?.any (fun c => '1' ≤ c && c ≤ '8') &&
        fourth.head?.any fun c => c == '8' || c == '9' || c.toLower == 'a' || c.toLower == 'b'
  | _ => false

/-- `boundedString(value, maxLength)?.trim() || null` -/
def trimmedString (value : Option String) (maxLength : Nat) : Option String :=
  ((boundedString value maxLength).map jsTrim).filter (· ≠ "")

/-- `values.map((value) => boundedString(value, maxLength)?.trim()).filter(Boolean)` -/
def trimmedStrings (values : List String) (maxLength : Nat) : List String :=
  values.filterMap fun value => trimmedString (some value) maxLength

/-- `tenantBinding`.  A field is `none` when it is missing or not of its type; `failureDestination` is `null` or a text. -/
structure TenantBindingInput where
  companyId : Option String
  authSubject : Option String
  timezone : Option String
  profileVersion : Option Int
  integrationId : Option String
  routePointDn : Option String
  dids : Option (List String)
  transferDestinations : Option (List String)
  failureAction : Option String
  failureDestination : Option String
  deriving DecidableEq, Repr

/-- The arguments of the constructor. -/
structure ControllerArguments where
  tenantBinding : TenantBindingInput
  /-- The dependency is a function. -/
  isFunction : (name : String) → Bool
  leaseRenewIntervalMs : Option Int

/-- The dependencies, in the order in which they are checked. -/
def dependencies : List String :=
  ["claimCall", "transitionCall", "renewCallLease", "dispatchAgent", "attachMedia", "stopAgent", "handlePbxFallback",
    "onDecision"]

/-- The value, or the exception with a message. -/
def orThrow {α : Type} (message : String) : Option α → Except String α
  | some value => .ok value
  | none => .error message

/-- `throw` where a condition does not hold. -/
def ensure (condition : Bool) (message : String) : Except String Unit :=
  if condition then .ok () else .error message

/-- The constructor; an error is the message of the exception. -/
def newController (isIanaTimezone : String → Bool) (arguments : ControllerArguments) : Except String TenantBinding := do
  let input := arguments.tenantBinding
  let companyId ← orThrow "A verified tenant binding is required" (input.companyId.filter isUuid)
  let authSubject ← orThrow "A verified auth subject is required" (trimmedString input.authSubject 255)
  let timezone ← orThrow "A valid tenant timezone is required"
    ((trimmedString input.timezone 128).filter isIanaTimezone)
  let profileVersion ← orThrow "A published profile version is required"
    (input.profileVersion.filter fun version => 1 ≤ version)
  let integrationId ← orThrow "A tenant-bound active integration is required" (trimmedString input.integrationId 255)
  let routePointDn ← orThrow "A tenant-bound active integration is required" (trimmedString input.routePointDn 128)
  let given ← orThrow "A tenant-bound active integration is required" input.dids
  let dids := trimmedStrings given 64
  ensure (!dids.isEmpty) "At least one tenant-bound inbound DID is required"
  let failureDestination := trimmedString input.failureDestination 128
  let destinations ← orThrow "An explicit tenant 3CX failure policy is required" input.transferDestinations
  let transferDestinations := trimmedStrings destinations 128
  let failureAction ← orThrow "An explicit tenant 3CX failure policy is required"
    (input.failureAction.filter fun action => action = "disconnect" || action = "transfer")
  ensure (!(failureAction = "disconnect" && input.failureDestination.isSome))
    "Disconnect failure policy cannot include a destination"
  ensure (failureAction ≠ "transfer" || failureDestination.any transferDestinations.contains)
    "Transfer failure destination must be allowlisted for this tenant"
  dependencies.forM fun name => ensure (arguments.isFunction name) (name ++ " must be a function")
  ensure (arguments.leaseRenewIntervalMs.any fun interval => 100 ≤ interval && interval ≤ 300000)
    "leaseRenewIntervalMs must be between 100 and 300000 milliseconds"
  return { companyId, authSubject, timezone, profileVersion, integrationId, routePointDn, dids, transferDestinations,
           failureAction, failureDestination }

section Constructor

variable {isIanaTimezone : String → Bool} {arguments : ControllerArguments} {binding : TenantBinding}

theorem orThrow_eq_ok {α : Type} {message : String} {value : Option α} {result : α} :
    orThrow message value = .ok result ↔ value = some result := by
  cases value <;> simp [orThrow]

theorem ensure_eq_ok {condition : Bool} {message : String} {result : Unit} :
    ensure condition message = .ok result ↔ condition = true := by
  cases condition <;> simp [ensure]

theorem forM_ensure {names : List String} {condition : String → Bool} {message : String → String} {result : Unit} :
    (names.forM fun name => ensure (condition name) (message name)) = .ok result ↔
      ∀ name ∈ names, condition name = true := by
  induction names with
  | nil => simp [pure, Except.pure]
  | cons name names ih =>
      change (ensure (condition name) (message name) >>= fun _ =>
        names.forM fun name => ensure (condition name) (message name)) = .ok result ↔ _
      rw [bind_eq_ok]
      simp only [ensure_eq_ok, ih, List.mem_cons, forall_eq_or_imp, exists_const]

/-- A binding that the constructor makes of what it is given. -/
structure Binds (isIanaTimezone : String → Bool) (input : TenantBindingInput) (binding : TenantBinding) : Prop where
  companyId : input.companyId.filter isUuid = some binding.companyId
  authSubject : trimmedString input.authSubject 255 = some binding.authSubject
  timezone : (trimmedString input.timezone 128).filter isIanaTimezone = some binding.timezone
  profileVersion : input.profileVersion.filter (fun version => 1 ≤ version) = some binding.profileVersion
  integrationId : trimmedString input.integrationId 255 = some binding.integrationId
  routePointDn : trimmedString input.routePointDn 128 = some binding.routePointDn
  dids : ∃ given, input.dids = some given ∧ binding.dids = trimmedStrings given 64
  dids_ne : binding.dids ≠ []
  transferDestinations : ∃ given, input.transferDestinations = some given ∧
    binding.transferDestinations = trimmedStrings given 128
  failureAction : input.failureAction.filter (fun action => action = "disconnect" || action = "transfer") =
    some binding.failureAction
  failureDestination : binding.failureDestination = trimmedString input.failureDestination 128
  disconnect : binding.failureAction = "disconnect" → input.failureDestination = none
  transfer : binding.failureAction = "transfer" → ∃ destination, binding.failureDestination = some destination ∧
    destination ∈ binding.transferDestinations

/-- What the constructor accepts is bound. -/
theorem binds_of_newController (h : newController isIanaTimezone arguments = .ok binding) :
    Binds isIanaTimezone arguments.tenantBinding binding := by
  simp only [newController, bind_eq_ok, orThrow_eq_ok, ensure_eq_ok, forM_ensure, exists_const] at h
  obtain ⟨companyId, hcompany, authSubject, hauth, timezone, hzone, profileVersion, hversion, integrationId,
    hintegration, routePointDn, hroute, given, hdids, hne, destinations, htransfers, failureAction, haction,
    hdisconnect, htransfer, -, -, hbinding⟩ := h
  obtain rfl := Except.ok.inj hbinding
  constructor
  case companyId => exact hcompany
  case authSubject => exact hauth
  case timezone => exact hzone
  case profileVersion => exact hversion
  case integrationId => exact hintegration
  case routePointDn => exact hroute
  case dids => exact ⟨given, hdids, rfl⟩
  case dids_ne => simpa using hne
  case transferDestinations => exact ⟨destinations, htransfers, rfl⟩
  case failureAction => exact haction
  case failureDestination => rfl
  case disconnect => simpa [imp_iff_not_or] using hdisconnect
  case transfer =>
    intro htra
    obtain rfl : failureAction = "transfer" := htra
    simpa [Option.any_eq_true] using htransfer

/-- What can be bound is accepted, when the other arguments are in order. -/
theorem newController_of_binds (hbinds : Binds isIanaTimezone arguments.tenantBinding binding)
    (hfunctions : ∀ name ∈ dependencies, arguments.isFunction name = true) {interval : Int}
    (hinterval : arguments.leaseRenewIntervalMs = some interval) (hbounds : 100 ≤ interval ∧ interval ≤ 300000) :
    newController isIanaTimezone arguments = .ok binding := by
  obtain ⟨given, hdids, hdidsEq⟩ := hbinds.dids
  obtain ⟨destinations, htransfers, htransfersEq⟩ := hbinds.transferDestinations
  have hne := hbinds.dids_ne
  have htransfer := hbinds.transfer
  have hdisconnect := hbinds.disconnect
  have hdestination := hbinds.failureDestination
  simp only [newController, bind_eq_ok, orThrow_eq_ok, ensure_eq_ok, forM_ensure, exists_const]
  refine ⟨_, hbinds.companyId, _, hbinds.authSubject, _, hbinds.timezone, _, hbinds.profileVersion, _,
    hbinds.integrationId, _, hbinds.routePointDn, given, hdids, ?_, destinations, htransfers, _, hbinds.failureAction,
    ?_, ?_, hfunctions, ?_, ?_⟩
  · rw [← hdidsEq]
    simpa using hne
  · simpa [imp_iff_not_or] using hdisconnect
  · rw [← hdestination, ← htransfersEq]
    simpa [imp_iff_not_or, Option.any_eq_true] using htransfer
  · simp [hinterval, hbounds]
  · rw [← hdidsEq, ← htransfersEq, ← hdestination]
    rfl

end Constructor

/-! ## The joins that are accepted -/

/-- An inbound join at the route point of the binding. -/
structure WellFormedJoin (binding : TenantBinding) (event : CallEvent) : Prop where
  type : event.type = some ROUTE_POINT_JOIN
  callId : (boundedString event.callId 255).isSome
  eventId : (boundedString event.eventId 255).isSome
  participantId : ∃ participantId, event.participantId = some participantId ∧ 1 ≤ participantId
  routePointDn : event.routePointDn = some binding.routePointDn
  direction : event.direction = some "inbound"

/-- The join goes on to claim its call. -/
def ClaimsCall (binding : TenantBinding) (event : CallEvent) (sessionId : String) : Prop :=
  ∃ request next, handleJoinEvent binding event sessionId = .call (.claimCall request) next

/-- Of the inbound joins at the route point, those for the given DIDs are accepted, and no others. -/
def AcceptsJoinsOf (binding : TenantBinding) (dids : List String) : Prop :=
  ∀ (event : CallEvent) (sessionId : String), WellFormedJoin binding event →
    (ClaimsCall binding event sessionId ↔ ∃ did ∈ dids, event.did = some did)

section Joins

variable {binding : TenantBinding} {event : CallEvent} {sessionId : String}

theorem not_claimsCall_of_decision (reason : String)
    (h : handleJoinEvent binding event sessionId = joinDecision reason) : ¬ ClaimsCall binding event sessionId := by
  rintro ⟨request, next, hcall⟩
  rw [h] at hcall
  cases hcall

/-- A join is accepted exactly for a DID of the binding. -/
theorem claimsCall_iff (hjoin : WellFormedJoin binding event) :
    ClaimsCall binding event sessionId ↔ ∃ did ∈ binding.dids, boundedString event.did 64 = some did := by
  obtain ⟨callId, hcall⟩ := Option.isSome_iff_exists.mp hjoin.callId
  obtain ⟨eventId, hevent⟩ := Option.isSome_iff_exists.mp hjoin.eventId
  obtain ⟨participantId, hparticipant, hpositive⟩ := hjoin.participantId
  cases hdid : boundedString event.did 64 with
  | none =>
      constructor
      · intro hclaims
        refine absurd hclaims (not_claimsCall_of_decision "invalid_route_point_event" ?_)
        simp [handleJoinEvent, hjoin.type, hcall, hevent, hdid]
      · rintro ⟨did, -, h⟩
        cases h
  | some did =>
      have hhandle : handleJoinEvent binding event sessionId =
          if did ∉ binding.dids then joinDecision "unconfigured_did"
          else claimJoin binding callId eventId did ROUTE_POINT_JOIN sessionId participantId := by
        have hstart : ¬ (participantId < 1 ∨ event.routePointDn ≠ some binding.routePointDn) := by
          rw [not_or, not_lt, not_not]
          exact ⟨hpositive, hjoin.routePointDn⟩
        simp only [handleJoinEvent, hjoin.type, hcall, hevent, hdid, hparticipant, hjoin.direction, ne_eq,
          not_true_eq_false, if_false, if_neg hstart]
      constructor
      · intro hclaims
        by_contra hnone
        have habsent : did ∉ binding.dids := fun hmem => hnone ⟨did, hmem, rfl⟩
        exact not_claimsCall_of_decision _ (hhandle.trans (if_pos habsent)) hclaims
      · rintro ⟨other, hmem, hother⟩
        obtain rfl := Option.some.inj hother
        rw [if_neg (not_not.mpr hmem)] at hhandle
        exact ⟨_, _, hhandle⟩

end Joins

/-! ## Texts within the bounds -/

theorem utf16Units_pos (c : Char) : 0 < utf16Units c := by
  unfold utf16Units
  split <;> omega

theorem jsLength_pos {text : String} (hne : text ≠ "") : 0 < jsLength text := by
  have hgrows : ∀ (chars : List Char) (units : Nat), units ≤ chars.foldl (fun units c => units + utf16Units c) units := by
    intro chars
    induction chars with
    | nil => exact fun units => le_rfl
    | cons c chars ih => exact fun units => (Nat.le_add_right units _).trans (ih _)
  unfold jsLength
  cases hchars : text.toList with
  | nil => exact absurd (String.toList_eq_nil_iff.mp hchars) hne
  | cons c chars =>
      rw [List.foldl_cons, Nat.zero_add]
      exact (utf16Units_pos c).trans_le (hgrows chars _)

theorem jsTrim_empty : jsTrim "" = "" := rfl

theorem trimmedString_eq_some {text trimmed : String} {maxLength : Nat} :
    trimmedString (some text) maxLength = some trimmed ↔
      jsLength text ≤ maxLength ∧ jsTrim text = trimmed ∧ trimmed ≠ "" := by
  unfold trimmedString boundedString
  constructor
  · intro h
    obtain ⟨h, hne⟩ := Option.filter_eq_some_iff.mp h
    obtain ⟨given, hgiven, rfl⟩ := Option.map_eq_some_iff.mp h
    obtain ⟨hsome, hbounds⟩ := Option.filter_eq_some_iff.mp hgiven
    obtain rfl := Option.some.inj hsome
    rw [Bool.and_eq_true, decide_eq_true_eq, decide_eq_true_eq] at hbounds
    exact ⟨hbounds.2, rfl, of_decide_eq_true hne⟩
  · rintro ⟨hlength, rfl, hne⟩
    have hpos : 0 < jsLength text := jsLength_pos fun hempty => hne (by rw [hempty, jsTrim_empty])
    rw [Option.filter_some_pos (by simp [hpos, hlength]), Option.map_some, Option.filter_some_pos (by simpa using hne)]

/-- The DIDs that the controller keeps are those that it was given, if none is changed. -/
theorem trimmedStrings_eq_self {values : List String} {maxLength : Nat}
    (h : ∀ value ∈ values, value ≠ "" ∧ jsLength value ≤ maxLength ∧ jsTrim value = value) :
    trimmedStrings values maxLength = values := by
  unfold trimmedStrings
  induction values with
  | nil => rfl
  | cons value values ih =>
      obtain ⟨hne, hlength, htrim⟩ := h value List.mem_cons_self
      have hvalue : trimmedString (some value) maxLength = some value := trimmedString_eq_some.mpr ⟨hlength, htrim, hne⟩
      rw [List.filterMap_cons, hvalue]
      dsimp only
      rw [ih fun other hother => h other (List.mem_cons_of_mem _ hother)]

/-! ## The saved integration -/

/-- What a tenant's binding has besides the integration. -/
structure TenantIdentity (isIanaTimezone : String → Bool) where
  companyId : String
  companyId_valid : isUuid companyId = true
  authSubject : String
  authSubject_valid : (trimmedString (some authSubject) 255).isSome
  timezone : String
  timezone_valid : ((trimmedString (some timezone) 128).filter isIanaTimezone).isSome
  profileVersion : Int
  profileVersion_valid : 1 ≤ profileVersion
  integrationId : String
  integrationId_valid : (trimmedString (some integrationId) 255).isSome

/-- The arguments that bind a stored integration, with the default interval. -/
def TenantIdentity.arguments {isIanaTimezone : String → Bool} (identity : TenantIdentity isIanaTimezone)
    (row : StoredIntegration) : ControllerArguments where
  tenantBinding :=
    { companyId := some identity.companyId
      authSubject := some identity.authSubject
      timezone := some identity.timezone
      profileVersion := some identity.profileVersion
      integrationId := some identity.integrationId
      routePointDn := some row.routePointDn
      dids := some row.dids
      transferDestinations := some row.transferDestinations
      failureAction := row.failureAction
      failureDestination := row.failureDestination }
  isFunction _ := true
  leaseRenewIntervalMs := some 15000

/-- The connector can use a stored integration. -/
def UsableBy {isIanaTimezone : String → Bool} (identity : TenantIdentity isIanaTimezone) (row : StoredIntegration) : Prop :=
  ∃ binding, newController isIanaTimezone (identity.arguments row) = .ok binding ∧ AcceptsJoinsOf binding row.dids

/-- The request keeps the bounds of the controller. -/
structure KeepsBounds (request : ThreeCXRequest) : Prop where
  dids_ne : request.dids ≠ []
  dids : ∀ did ∈ request.dids, did ≠ "" ∧ jsLength did ≤ 64 ∧ jsTrim did = did
  routePointDn : jsTrim request.routePointDn ≠ "" ∧ jsLength request.routePointDn ≤ 128
  failureDestination : ∀ destination, request.failureDestination = some destination →
    jsTrim destination ≠ "" ∧ jsLength destination ≤ 128

section Saved

variable {isIanaTimezone : String → Bool} {identity : TenantIdentity isIanaTimezone} {request : ThreeCXRequest}
  {row : StoredIntegration}

/-- A request within the bounds gives a usable integration. -/
theorem usableBy_of_keepsBounds (haccepted : request.Accepted) (hstored : request.StoredAs row)
    (h : KeepsBounds request) : UsableBy identity row := by
  obtain ⟨authSubject, hauth⟩ := Option.isSome_iff_exists.mp identity.authSubject_valid
  obtain ⟨timezone, hzone⟩ := Option.isSome_iff_exists.mp identity.timezone_valid
  obtain ⟨integrationId, hintegration⟩ := Option.isSome_iff_exists.mp identity.integrationId_valid
  have hdids : trimmedStrings row.dids 64 = row.dids := by
    rw [hstored.dids]
    exact trimmedStrings_eq_self h.dids
  let binding : TenantBinding :=
    { companyId := identity.companyId, authSubject, timezone, profileVersion := identity.profileVersion, integrationId,
      routePointDn := jsTrim row.routePointDn, dids := row.dids,
      transferDestinations := trimmedStrings row.transferDestinations 128, failureAction := request.failureAction,
      failureDestination := trimmedString row.failureDestination 128 }
  have hbinds : Binds isIanaTimezone (identity.arguments row).tenantBinding binding := by
    constructor
    case companyId => exact Option.filter_some_pos identity.companyId_valid
    case authSubject => exact hauth
    case timezone => exact hzone
    case profileVersion => exact Option.filter_some_pos (decide_eq_true identity.profileVersion_valid)
    case integrationId => exact hintegration
    case routePointDn =>
      obtain ⟨hne, hlength⟩ := h.routePointDn
      rw [← hstored.routePointDn] at hne hlength
      exact trimmedString_eq_some.mpr ⟨hlength, rfl, hne⟩
    case dids => exact ⟨row.dids, rfl, hdids.symm⟩
    case dids_ne =>
      change row.dids ≠ []
      rw [hstored.dids]
      exact h.dids_ne
    case transferDestinations => exact ⟨row.transferDestinations, rfl, rfl⟩
    case failureAction =>
      change row.failureAction.filter _ = _
      rw [hstored.failureAction]
      exact Option.filter_some_pos (by simpa using haccepted.action)
    case failureDestination => rfl
    case disconnect =>
      intro hdisconnect
      change row.failureDestination = none
      rw [hstored.failureDestination]
      exact haccepted.disconnect hdisconnect
    case transfer =>
      intro htransfer
      obtain ⟨destination, hsome, -, -, hmem⟩ := haccepted.transfer htransfer
      obtain ⟨hne, hlength⟩ := h.failureDestination destination hsome
      have htrimmed : trimmedString (some destination) 128 = some (jsTrim destination) :=
        trimmedString_eq_some.mpr ⟨hlength, rfl, hne⟩
      refine ⟨jsTrim destination, ?_, ?_⟩
      · change trimmedString row.failureDestination 128 = _
        rw [hstored.failureDestination, hsome, htrimmed]
      · change jsTrim destination ∈ trimmedStrings row.transferDestinations 128
        rw [hstored.transferDestinations]
        exact List.mem_filterMap.mpr ⟨destination, hmem, htrimmed⟩
  refine ⟨binding, newController_of_binds hbinds (fun _ _ => rfl) rfl (by decide), ?_⟩
  intro event sessionId hjoin
  rw [claimsCall_iff hjoin]
  constructor
  · rintro ⟨did, hmem, hdid⟩
    exact ⟨did, hmem, boundedString_eq_some hdid⟩
  · rintro ⟨did, hmem, hdid⟩
    refine ⟨did, hmem, ?_⟩
    obtain ⟨hne, hlength, -⟩ := h.dids did (hstored.dids ▸ hmem)
    rw [hdid]
    exact Option.filter_some_pos (by simp [jsLength_pos hne, hlength])

/-- A usable integration comes from a request within the bounds. -/
theorem keepsBounds_of_usableBy (haccepted : request.Accepted) (hstored : request.StoredAs row)
    (h : UsableBy identity row) : KeepsBounds request := by
  obtain ⟨binding, hnew, haccepts⟩ := h
  have hbinds := binds_of_newController hnew
  have hdids : binding.dids = trimmedStrings row.dids 64 := by
    obtain ⟨given, hgiven, hdids⟩ := hbinds.dids
    obtain rfl := Option.some.inj hgiven
    exact hdids
  constructor
  case dids_ne =>
    intro hempty
    apply hbinds.dids_ne
    rw [hdids, hstored.dids, hempty]
    rfl
  case dids =>
    intro did hmem
    -- the join for a stored DID is accepted
    let event : CallEvent :=
      { type := some ROUTE_POINT_JOIN, callId := some "call", eventId := some "event", did := some did,
        participantId := some 1, routePointDn := some binding.routePointDn, direction := some "inbound" }
    have hcall : (boundedString (some "call") 255).isSome := by decide
    have hevent : (boundedString (some "event") 255).isSome := by decide
    have hjoin : WellFormedJoin binding event := ⟨rfl, hcall, hevent, ⟨1, rfl, le_rfl⟩, rfl, rfl⟩
    have hclaims := (haccepts event "session" hjoin).mpr ⟨did, hstored.dids ▸ hmem, rfl⟩
    obtain ⟨other, hother, hbounded⟩ := (claimsCall_iff hjoin).mp hclaims
    obtain rfl := Option.some.inj (boundedString_eq_some hbounded)
    rw [hdids] at hother
    obtain ⟨original, -, htrimmed⟩ := List.mem_filterMap.mp hother
    obtain ⟨-, htrim, hne⟩ := trimmedString_eq_some.mp htrimmed
    have hbounds := (Option.filter_eq_some_iff.mp hbounded).2
    rw [Bool.and_eq_true, decide_eq_true_eq, decide_eq_true_eq] at hbounds
    refine ⟨hne, hbounds.2, ?_⟩
    rw [← htrim, jsTrim_jsTrim]
  case routePointDn =>
    obtain ⟨hlength, htrim, hne⟩ := trimmedString_eq_some.mp hbinds.routePointDn
    rw [← hstored.routePointDn]
    exact ⟨htrim ▸ hne, hlength⟩
  case failureDestination =>
    intro destination hsome
    have htransfer : request.failureAction = "transfer" := by
      rcases haccepted.action with hdisconnect | htransfer
      · rw [haccepted.disconnect hdisconnect] at hsome
        cases hsome
      · exact htransfer
    have haction : binding.failureAction = "transfer" := by
      have hbound := (Option.filter_eq_some_iff.mp hbinds.failureAction).1
      change row.failureAction = _ at hbound
      rw [hstored.failureAction, htransfer] at hbound
      exact (Option.some.inj hbound).symm
    obtain ⟨bound, hbound, -⟩ := hbinds.transfer haction
    have htrimmed := hbinds.failureDestination
    change _ = trimmedString row.failureDestination 128 at htrimmed
    rw [hbound, hstored.failureDestination, hsome] at htrimmed
    obtain ⟨hlength, htrim, hne⟩ := trimmedString_eq_some.mp htrimmed.symm
    exact ⟨htrim ▸ hne, hlength⟩

/-- An integration that is saved as active is usable by the connector exactly if the request for it keeps the bounds of
the controller. -/
theorem saved_integration_usable_iff {broker : ThreeCxBroker} {body : Python.Json} {now : Int} {companyId : String}
    {table table' : List StoredIntegration} (hread : ThreeCXRequest.read broker.coercions body = some request)
    (hsaved : put3cx broker now companyId request table = some (row, table')) :
    UsableBy identity row ↔ KeepsBounds request := by
  have haccepted := ThreeCXRequest.accepted_of_read hread
  obtain ⟨hstored, -⟩ := put3cx_stored haccepted hsaved
  exact ⟨keepsBounds_of_usableBy haccepted hstored, usableBy_of_keepsBounds haccepted hstored⟩

end Saved

/-- A broker whose probes succeed. -/
def sampleBroker : ThreeCxBroker where
  coercions := ⟨default, fun _ => "None", fun _ => .error .valueError⟩
  readUuid := Uuid.parse
  probePbx _ _ _ := some "pbx.example.com"

def sampleIdentity : TenantIdentity fun zone => zone == "Indian/Mauritius" where
  companyId := "11111111-1111-4111-8111-111111111111"
  companyId_valid := by decide
  authSubject := "auth-user-456"
  authSubject_valid := by decide
  timezone := "Indian/Mauritius"
  timezone_valid := by decide
  profileVersion := 3
  profileVersion_valid := by decide
  integrationId := "integration-1"
  integrationId_valid := by decide

/-- A request with the fields that have no default, and some DIDs. -/
def sampleBody (dids : List String) : Python.Json :=
  .obj [("pbx_url", .str "pbx.example.com"), ("app_id", .str "900"), ("client_secret", .str "a secret"),
    ("dids", .arr (dids.map .str))]

/-- What the API reads of it. -/
def sampleRequest (dids : List String) : ThreeCXRequest where
  connectionName := "3CX PBX Connection"
  pbxUrl := "https://pbx.example.com"
  appId := "900"
  routePointDn := "900"
  clientSecret := "a secret"
  dids := dids
  transferDestinations := []
  failureAction := "disconnect"
  failureDestination := none

def sampleRow (dids : List String) : StoredIntegration where
  companyId := 0x11111111111141118111111111111111
  connectionName := "3CX PBX Connection"
  pbxHostname := "pbx.example.com"
  appId := some "900"
  routePointDn := "900"
  dids := dids
  transferDestinations := []
  state := .active
  failureAction := some "disconnect"
  failureDestination := none
  credentialUpdatedAt := 0

theorem saved_integration_usable_did : UsableBy sampleIdentity (sampleRow ["+23052500000"]) := by
  have hread : ThreeCXRequest.read sampleBroker.coercions (sampleBody ["+23052500000"]) =
      some (sampleRequest ["+23052500000"]) := by decide +kernel
  have hsaved : put3cx sampleBroker 0 sampleIdentity.companyId (sampleRequest ["+23052500000"]) [] =
      some (sampleRow ["+23052500000"], [sampleRow ["+23052500000"]]) := by decide +kernel
  apply (saved_integration_usable_iff hread hsaved).mpr
  constructor
  case dids_ne => decide
  case dids => decide
  case routePointDn => decide
  case failureDestination => exact fun destination h => by cases h

/-- An integration without DIDs is saved, but not usable. -/
theorem saved_integration_without_dids :
    ¬ ∀ (broker : ThreeCxBroker) (body : Python.Json) (request : ThreeCXRequest) (now : Int) (companyId : String)
      (table table' : List StoredIntegration) (row : StoredIntegration) (isIanaTimezone : String → Bool)
      (identity : TenantIdentity isIanaTimezone), ThreeCXRequest.read broker.coercions body = some request →
      put3cx broker now companyId request table = some (row, table') → UsableBy identity row := by
  intro hall
  have hread : ThreeCXRequest.read sampleBroker.coercions (sampleBody []) = some (sampleRequest []) := by decide +kernel
  have hsaved : put3cx sampleBroker 0 sampleIdentity.companyId (sampleRequest []) [] =
      some (sampleRow [], [sampleRow []]) := by decide +kernel
  have husable := hall sampleBroker _ _ 0 _ _ _ _ _ sampleIdentity hread hsaved
  have hbounds := (saved_integration_usable_iff hread hsaved).mp husable
  exact hbounds.dids_ne rfl

end Connector
end VoiceAssistants
