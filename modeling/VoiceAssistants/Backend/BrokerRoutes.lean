import VoiceAssistants.Backend.BrokerProtocol
import VoiceAssistants.Db.ThreeCxIntegrations

/-!
# The routes of the credential broker

Ten routes of `backend/credential_broker/main.py` depend on `verify_broker_request`, which verifies the caller.
`GET /internal/v1/threecx/active-tenants` depends on `require_broker_secret`, which only checks that the broker itself has
a secret.

* `unauthenticated_iff` — what a request without the secret is answered does not depend on the tenants' data, and changes
  none of it, exactly if it is not one to that route or the listing is empty anyway.

What the routes do behind `verify_broker_request` is a parameter.
-/

namespace VoiceAssistants
namespace Broker

open Backend (Delivery)
open Db (StoredIntegration JsonbColumn listActiveThreecxIntegrations fetchedJsonb)

/-- An item of `tenants`. -/
structure TenantDescriptor where
  companyId : String
  connectionName : String
  pbxHostname : String
  appId : Option String
  routePointDn : String
  dids : JsonbColumn
  transferDestinations : JsonbColumn
  failureAction : Option String
  failureDestination : Option String
  credentialUpdatedAt : Option String
  deriving DecidableEq, Repr

/-- The routes behind `verify_broker_request`. -/
inductive Operation
  | calendarList
  | calendarAvailability
  | calendarSync
  | calendarBook
  | calendarBookingStatus
  | calendarCancel
  | googleOauthComplete
  | googleOauthDisconnect
  | threecxTest
  | threecxSave
  deriving DecidableEq, Repr

def Operation.path : Operation → String
  | calendarList => "/internal/v1/calendar/list"
  | calendarAvailability => "/internal/v1/calendar/availability"
  | calendarSync => "/internal/v1/calendar/sync"
  | calendarBook => "/internal/v1/calendar/book"
  | calendarBookingStatus => "/internal/v1/calendar/book-status"
  | calendarCancel => "/internal/v1/calendar/cancel"
  | googleOauthComplete => "/internal/v1/google/oauth/complete"
  | googleOauthDisconnect => "/internal/v1/google/oauth/disconnect"
  | threecxTest => "/internal/v1/threecx/test"
  | threecxSave => "/internal/v1/threecx/save"

def operations : List Operation :=
  [.calendarList, .calendarAvailability, .calendarSync, .calendarBook, .calendarBookingStatus, .calendarCancel,
    .googleOauthComplete, .googleOauthDisconnect, .threecxTest, .threecxSave]

/-- A request with the headers of the connector, which the broker does not read. -/
structure HttpRequest extends BrokerRequest where
  /-- `Authorization` -/
  authorization : Option String
  /-- `X-Broker-Secret` -/
  brokerSecret : Option String
  deriving DecidableEq, Repr

inductive Route
  | operation (operation : Operation)
  | activeTenants
  deriving DecidableEq, Repr

/-- A route's pattern ends with `$`, which also matches before a last line break. -/
def matchesPath (path pattern : String) : Bool :=
  path == pattern || path == pattern ++ "\n"

/-- The route under `/internal/v1` that a request is for. -/
def HttpRequest.route (request : HttpRequest) : Option Route :=
  if request.method = "POST" then (operations.find? fun operation => matchesPath request.path operation.path).map .operation
  else if request.method = "GET" ∧ matchesPath request.path "/internal/v1/threecx/active-tenants" then some .activeTenants
  else none

inductive Answer
  | error (status : Nat) (detail : String)
  | tenants (tenants : List TenantDescriptor)
  | result (body : String)
  deriving DecidableEq, Repr

/-- What the broker stores of its tenants; `Data` is everything else than the two tables. -/
structure Store (K Data : Type) where
  ledger : List (NonceRow K)
  integrations : List StoredIntegration
  others : Data

structure Setup (K Data : Type) where
  protocol : Protocol
  /-- The database role bypasses row-level security. -/
  bypassesRls : Bool
  isoformat : (time : Int) → String
  perform : Operation → (body : List UInt8) → Store K Data → Answer × Store K Data
  /-- How the framework answers a request that no route is for. -/
  unrouted : HttpRequest → Answer

/-- What the database does to a request. -/
structure Database where
  /-- How the transaction on the ledger ends. -/
  consume : Delivery
  /-- The listing raises. -/
  listingFails : Bool
  deriving DecidableEq, Repr

section Routes

variable {K Data : Type} [Ring K] [LinearOrder K] [FloorRing K] (setup : Setup K Data) (now : K) (database : Database)

def Setup.descriptor (row : StoredIntegration) : TenantDescriptor where
  companyId := row.companyId.text
  connectionName := row.connectionName
  pbxHostname := row.pbxHostname
  appId := row.appId
  routePointDn := row.routePointDn
  dids := fetchedJsonb row.dids
  transferDestinations := fetchedJsonb row.transferDestinations
  failureAction := row.failureAction
  failureDestination := row.failureDestination
  credentialUpdatedAt := some (setup.isoformat row.credentialUpdatedAt)

/-- `threecx_active_tenants` -/
def threecxActiveTenants (store : Store K Data) : Answer :=
  .tenants ((listActiveThreecxIntegrations setup.bypassesRls store.integrations).map setup.descriptor)

/-- A route behind `verify_broker_request`, from the ledger on. -/
def performVerified (operation : Operation) (body : List UInt8) (ticket : Ticket) (store : Store K Data) :
    Answer × Store K Data :=
  let (consumed, ledger) := consumeBrokerNonce ticket now store.ledger
  match database.consume with
  | .failed => (.error 503 "Broker replay protection unavailable", store)
  | .lost => (.error 503 "Broker replay protection unavailable", { store with ledger := ledger })
  | .answered =>
      if consumed then setup.perform operation body { store with ledger := ledger }
      else (.error 401 "Broker request replay rejected", { store with ledger := ledger })

/-- The answer to a request, and the store after it. -/
def respond (request : HttpRequest) (store : Store K Data) : Answer × Store K Data :=
  match request.route with
  | none => (setup.unrouted request, store)
  | some (.operation operation) =>
      match authorize setup.protocol now request.toBrokerRequest with
      | none => (.error 401 "Invalid broker authorization", store)
      | some ticket => performVerified setup now database operation request.body ticket store
  | some .activeTenants =>
      -- `require_broker_secret` raises a `RuntimeError`
      if setup.protocol.secret.length < 32 then (.error 500 "Internal Server Error", store)
      else if database.listingFails then (.error 500 "Internal Server Error", store)
      else (threecxActiveTenants setup store, store)

/-- The request has a valid signature, or shows the secret itself. -/
def ProvesSecret (protocol : Protocol) (request : HttpRequest) : Prop :=
  (∃ timestamp nonce, request.timestamp = some timestamp ∧ request.nonce = some nonce ∧
    request.signature = some (signBrokerRequest protocol request.method request.path timestamp nonce request.body)) ∨
  request.authorization = some ("Bearer " ++ protocol.secret) ∨ request.brokerSecret = some protocol.secret

/-- The answer does not depend on the store, and the store stays as it is. -/
def Blind (request : HttpRequest) : Prop :=
  (∀ store store', (respond setup now database request store).1 = (respond setup now database request store').1) ∧
    ∀ store, (respond setup now database request store).2 = store

/-- The route that lists the tenants is not asked, or has nothing to give. -/
def ListsNothing (request : HttpRequest) : Prop :=
  request.route ≠ some .activeTenants ∨ setup.protocol.secret.length < 32 ∨ database.listingFails = true ∨
    setup.bypassesRls = false

variable {setup now database}

/-- A request that is authorised is signed. -/
theorem provesSecret_of_authorize {request : HttpRequest} {ticket : Ticket}
    (h : authorize setup.protocol now request.toBrokerRequest = some ticket) : ProvesSecret setup.protocol request := by
  simp only [authorize, guard, Option.bind_eq_bind, Option.bind_eq_some_iff, Option.pure_def] at h
  obtain ⟨-, -, timestamp, htimestamp, nonce, hnonce, signature, hsignature, _, -, _, -, _, -, _, hsigned, -⟩ := h
  refine .inl ⟨timestamp, nonce, htimestamp, hnonce, ?_⟩
  rw [hsignature]
  split at hsigned
  · rename_i heq
    rw [heq]
  · cases hsigned

theorem blind_of_listsNothing {request : HttpRequest} (hunproved : ¬ ProvesSecret setup.protocol request)
    (h : ListsNothing setup database request) : Blind setup now database request := by
  have hconstant : ∃ answer, ∀ store, respond setup now database request store = (answer, store) := by
    unfold respond
    cases hroute : request.route with
    | none => exact ⟨_, fun _ => rfl⟩
    | some route =>
        cases route with
        | operation operation =>
            cases hauthorize : authorize setup.protocol now request.toBrokerRequest with
            | none => exact ⟨_, fun _ => rfl⟩
            | some ticket => exact absurd (provesSecret_of_authorize hauthorize) hunproved
        | activeTenants =>
            dsimp only
            by_cases hsecret : setup.protocol.secret.length < 32
            · exact ⟨_, fun _ => if_pos hsecret⟩
            · by_cases hfails : database.listingFails = true
              · refine ⟨.error 500 "Internal Server Error", fun store => ?_⟩
                rw [if_neg hsecret, if_pos hfails]
              · -- the policies leave nothing to list
                have hrls : setup.bypassesRls = false := by
                  rcases h with h | h | h | h
                  · exact absurd hroute h
                  · exact absurd h hsecret
                  · exact absurd h hfails
                  · exact h
                refine ⟨.tenants [], fun store => ?_⟩
                rw [if_neg hsecret, if_neg hfails, threecxActiveTenants, hrls]
                rfl
  obtain ⟨answer, hanswer⟩ := hconstant
  constructor
  · intro store store'
    rw [hanswer, hanswer]
  · intro store
    rw [hanswer]

/-- A company with an active integration. -/
def sampleIntegration : StoredIntegration where
  companyId := 1
  connectionName := "3CX PBX Connection"
  pbxHostname := "pbx.example.com"
  appId := some "900"
  routePointDn := "900"
  dids := ["+23052500000"]
  transferDestinations := []
  state := .active
  failureAction := some "disconnect"
  failureDestination := none
  credentialUpdatedAt := 0

/-- What a request without the secret is answered does not depend on the tenants' data, and the request changes none of it,
exactly if it is not for the listing of the tenants, or that listing fails or is empty anyway. -/
theorem unauthenticated_iff [Nonempty Data] {request : HttpRequest} (hunproved : ¬ ProvesSecret setup.protocol request) :
    Blind setup now database request ↔ ListsNothing setup database request := by
  refine ⟨?_, blind_of_listsNothing hunproved⟩
  intro hblind
  by_contra hlists
  simp only [ListsNothing, not_or, not_not] at hlists
  obtain ⟨hroute, hsecret, hlisting, hrls⟩ := hlists
  obtain ⟨others⟩ := ‹Nonempty Data›
  -- a company more is listed
  have hsame := hblind.1 ⟨[], [], others⟩ ⟨[], [sampleIntegration], others⟩
  have hrls' : setup.bypassesRls = true := by simpa using hrls
  simp only [respond, hroute, if_neg hsecret, if_neg hlisting, threecxActiveTenants, hrls', listActiveThreecxIntegrations,
    if_true] at hsame
  cases hsame

end Routes

def sampleSetup : Setup ℚ Unit where
  protocol :=
    { secret := "0123456789abcdef0123456789abcdef", sha256 := fun body => toString body.length,
      hmac := fun secret message => secret ++ message, companyId := fun _ => none }
  bypassesRls := true
  isoformat := toString
  perform _ _ store := (.result "", store)
  unrouted _ := .error 404 "Not Found"

def calmDatabase : Database where
  consume := .answered
  listingFails := false

/-- A request without any proof of the secret. -/
def bareRequest (method path : String) : HttpRequest where
  method := method
  path := path
  timestamp := none
  nonce := none
  signature := none
  body := []
  authorization := none
  brokerSecret := none

theorem bareRequest_unproved (method path : String) :
    ¬ ProvesSecret sampleSetup.protocol (bareRequest method path) := by
  rintro (⟨timestamp, nonce, h, -⟩ | h | h) <;> cases h

theorem unauthenticated_iff_booking :
    Blind sampleSetup 0 calmDatabase (bareRequest "POST" "/internal/v1/calendar/book") :=
  (unauthenticated_iff (bareRequest_unproved _ _)).mpr (.inl (by decide))

/-- Anyone who asks is given the active tenants. -/
theorem tenants_disclosed :
    ¬ ∀ (setup : Setup ℚ Unit) (now : ℚ) (database : Database) (request : HttpRequest),
      ¬ ProvesSecret setup.protocol request → Blind setup now database request := by
  intro hall
  have hblind := hall sampleSetup 0 calmDatabase (bareRequest "GET" "/internal/v1/threecx/active-tenants")
    (bareRequest_unproved _ _)
  have hlists := (unauthenticated_iff (bareRequest_unproved _ _)).mp hblind
  revert hlists
  simp only [ListsNothing]
  decide

end Broker
end VoiceAssistants
