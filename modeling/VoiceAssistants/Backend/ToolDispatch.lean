import VoiceAssistants.Async.EarlyReturn
import VoiceAssistants.Backend.CalendarReadCache
import VoiceAssistants.Backend.SessionContext
import VoiceAssistants.Backend.ToolSchemas

/-!
# The dispatcher of the tools (`backend/app/api/tools.py`, with `backend/app/tools/calendar.py`)

`execute_tool` from its header to its response, as a program that calls the stores and the credential broker.  The
arguments of a tool are a dictionary: what the schema has left of the parameters, what the dispatcher sets, and of that
what the tool's signature names.

The state that requests share is the cache of `backend/app/services/profile_cache.py`.  What lies under its lock has no
`await`; a read that is in flight for the same key is awaited like one's own.  A profile is its `compiled_policy`.

`start` is marked when a tool function begins.  Responses are without the measured time and the echoed key.
-/

namespace VoiceAssistants
namespace ToolDispatch

open Async Collections Python
open Backend
  (ToolName ToolParams ToolExecutionResponse ReleaseReason orText validateToolParams isZone cancelEventResult isRetryable)
open Db (Acquisition BookingStatus)
open GoogleCalendar (Dates)
open ReadCache (moveToEnd trim)
open SessionContext (InternalSessionContext Settings)

/-! ## The interface -/

/-- A Python dictionary with names for keys. -/
abbrev Dict := List (String × Json)

/-- `ToolExecutionRequest` -/
structure ToolExecutionRequest where
  toolName : String
  parameters : Dict
  userId : Option String
  sessionContext : Option Dict
  sessionId : Option String
  idempotencyKey : Option String

/-- The calls of a request: the profiles and the settings of companies, the confirmation store, the idempotency store,
the credential broker and the booking queue. -/
inductive Call
  | getPublishedAgentProfile (companyId : String) (version : Int)
  | getCompanyProfile (companyId : String)
  | issueConfirmationToken (userId : Option String) (toolName eventId : String) (parameters : Dict)
  | consumeConfirmationToken (token : Json) (userId : Option String) (toolName eventId : String) (parameters : Dict)
  | acquireIdempotencyLock (key : String) (userId : Option String) (toolName : String)
  | commitIdempotencyLock (key : String) (responsePayload : JsonObject) (userId : Option String)
  | releaseIdempotencyLock (key : String) (userId : Option String)
  | brokerPost (path : String) (payload : Dict)
  | createBookingRequest (userId : String) (sessionId idempotencyKey : Json) (payload : Dict) (status : BookingStatus)
      (message : String)

/-- What a call returns: the compiled policy of the version if there is one, the zone of the company, the token, whether
it is accepted and the message, the acquisition, the broker's JSON object, and the row of the queue. -/
abbrev Call.Answer : Call → Type
  | getPublishedAgentProfile .. => Option Json
  | getCompanyProfile .. => Option String
  | issueConfirmationToken .. => String
  | consumeConfirmationToken .. => Bool × String
  | acquireIdempotencyLock .. => Acquisition
  | commitIdempotencyLock .. | releaseIdempotencyLock .. => Unit
  | brokerPost .. => JsonObject
  | createBookingRequest .. => Uuid × BookingStatus

/-- An `HTTPException`, or another exception. -/
inductive Failure
  | http (statusCode : Nat) (detail : String)
  | raised
  deriving DecidableEq, Repr

/-- The beginning of a tool function, with its arguments. -/
structure Start where
  toolName : ToolName
  arguments : Dict

/-- `_cache` of the profiles. -/
abbrev ProfileCache := OrderedMap (String × Int) Json

abbrev tools : Interface where
  State := ProfileCache
  Output := Start
  Request := Call
  Answer := Call.Answer
  Error := Failure

abbrev Operation (α : Type) := Program tools α

/-- A step of `execute_tool`. -/
abbrev Step (α : Type) := Handler tools ToolExecutionResponse α

/-- A call whose answer is awaited. -/
def perform (call : Call) : Operation call.Answer :=
  Program.request (I := tools) call

def raise {α : Type} (failure : Failure) : Operation α :=
  .done (.error failure)

/-- A computation that may raise. -/
def ofOption {α : Type} : Option α → Operation α
  | some value => pure value
  | none => raise .raised

def ofExcept {α : Type} (result : Except Raised α) : Operation α :=
  ofOption result.toOption

/-- What the dispatcher and the tools use of the language and its libraries. -/
structure Library where
  settings : Settings
  lax : Lax
  dates : Dates
  /-- The texts of a `ValidationError`. -/
  errorHints : ToolName → Dict → String
  /-- `_format_utc_iso(_parse_iso_datetime(start_time, timezone))`; `none` when it raises. -/
  formatUtc : (startTime timezone : String) → Option String
  /-- The text of `uuid.uuid4()`. -/
  uuid4 : String

variable (library : Library)

/-! ## The dictionaries -/

/-- `d.get(name, default)` -/
def keyword (arguments : Dict) (name : String) (default : Json) : Json :=
  ((Json.obj arguments).member? name).getD default

/-- `value or other` -/
def either (value other : Json) : Json :=
  if value.truthy then value else other

def optionalText : Option String → Json
  | some text => .str text
  | none => .null

def text? : Json → Option String
  | .str text => some text
  | _ => none

/-- The members that are not `None`. -/
def present (name : String) (value : Option Json) : Dict :=
  (value.map fun value => (name, value)).toList

/-- `model_dump(exclude_none=True)` -/
def modelDump : ToolParams → Dict
  | .getCalendarAvailability startDate endDate durationMinutes timezone =>
      present "start_date" (startDate.map .str) ++ present "end_date" (endDate.map .str) ++
        [("duration_minutes", .int durationMinutes)] ++ present "timezone" (timezone.map .str)
  | .bookEvent title startTime timezone durationMinutes attendees description location =>
      [("title", .str title), ("start_time", .str startTime)] ++ present "timezone" (timezone.map .str) ++
        [("duration_minutes", .int durationMinutes), ("attendees", .arr (attendees.map .str))] ++
        present "description" (description.map .str) ++ present "location" (location.map .str)
  | .cancelEvent eventId reason confirm confirmationToken =>
      [("event_id", .str eventId)] ++ present "reason" (reason.map .str) ++ [("confirm", .bool confirm)] ++
        present "confirmation_token" (confirmationToken.map .str)
  | .listEvents startDate endDate timezone =>
      present "start_date" (startDate.map .str) ++ present "end_date" (endDate.map .str) ++
        present "timezone" (timezone.map .str)

/-! ## The tools -/

section Tools

/-- An argument without a default; its absence is a `TypeError`. -/
def argument (arguments : Dict) (name : String) : Operation Json :=
  ofOption ((Json.obj arguments).member? name)

/-- `_company_uuid` -/
def companyUuid (companyId : Json) : Operation String :=
  if companyId.truthy then
    ofOption ((Uuid.parse (library.settings.coercions.str companyId)).map Uuid.text)
  else raise .raised

def brokerPost (path : String) (payload : Dict) : Operation JsonObject :=
  perform (.brokerPost path payload)

/-- `timezone or "Indian/Mauritius"` -/
def zoneOf (arguments : Dict) : Json :=
  either (keyword arguments "timezone" .null) (.str "Indian/Mauritius")

/-- `dict(business_hours) if business_hours else None` -/
def businessHoursOf (arguments : Dict) : Json :=
  either (keyword arguments "business_hours" .null) .null

/-- `get_calendar_availability` -/
def getCalendarAvailability (arguments : Dict) : Operation JsonObject := do
  let userId ← argument arguments "user_id"
  let companyId ← companyUuid library userId
  let result ← brokerPost "/internal/v1/calendar/availability"
    [("company_id", .str companyId), ("start_date", keyword arguments "start_date" .null),
      ("end_date", keyword arguments "end_date" .null),
      ("duration_minutes", keyword arguments "duration_minutes" (.int 30)), ("timezone", zoneOf arguments),
      ("business_hours", businessHoursOf arguments)]
  let timezone := keyword arguments "timezone" .null
  if timezone.truthy then
    return result.set "timezone" (.text (library.settings.coercions.str timezone))
  else return result

/-- What `book_event` does with the broker's answer; `store` is `create_booking_request`. -/
def afterBooking {m : Type → Type} [Monad m] (answer : JsonObject)
    (store : BookingStatus → String → m (Uuid × BookingStatus)) : m JsonObject :=
  if answer.status = some "temporarily_unavailable" ∨ isRetryable answer = true then do
    let request ← store .pending
      "Calendar is temporarily unavailable. This request is queued and the booking is not confirmed yet."
    return .ofPairs [("status", .text "pending_confirmation"), ("booking_request_id", .text request.1.text),
      ("message", .text ("I received your booking request, but the calendar service is temporarily unavailable. " ++
        "I will retry it and update you when it is confirmed. The booking is not confirmed yet.")),
      ("source", .text "calendar_booking_queue")]
  else if answer.status = some "needs_reconnect" then do
    let request ← store .needsReconnect
      "Reconnect the calendar account to resume this request. The booking is not confirmed yet."
    return (answer.set "booking_request_id" (.text request.1.text)).set "message"
      (.text ("I received your booking request, but the calendar account needs to be reconnected. " ++
        "I will resume it after reconnection and update you when it is confirmed. The booking is not confirmed yet."))
  else if answer.status = some "failed" then
    return answer.set "message"
      (.text "The calendar could not accept this booking request. The booking is not confirmed.")
  else return answer

/-- The broker's answer to a booking; an error of the server is an outage. -/
def postBooking (payload : Dict) : Operation JsonObject :=
  (brokerPost "/internal/v1/calendar/book" payload).settleThen fun
    | .ok answer => pure answer
    | .error (.http statusCode detail) =>
        if statusCode < 500 then raise (.http statusCode detail)
        else pure (.ofPairs [("status", .text "temporarily_unavailable"), ("retryable", .bool true)])
    | .error .raised => raise .raised

/-- `book_event` -/
def bookEvent (arguments : Dict) : Operation JsonObject := do
  let userId ← argument arguments "user_id"
  let title ← argument arguments "title"
  let startTime ← argument arguments "start_time"
  let companyId ← companyUuid library userId
  let requestKey := either (keyword arguments "idempotency_key" .null) (.str library.uuid4)
  let start ← ofOption (library.formatUtc (library.settings.coercions.str startTime)
    (library.settings.coercions.str (zoneOf arguments)))
  let durationMinutes := keyword arguments "duration_minutes" (.int 30)
  let attendees := either (keyword arguments "attendees" .null) (.arr [])
  let description := keyword arguments "description" .null
  let location := keyword arguments "location" (.str "Google Meet")
  let answer ← postBooking
    [("company_id", .str companyId), ("title", title), ("start_time", .str start),
      ("duration_minutes", durationMinutes), ("attendees", attendees), ("description", description),
      ("location", location), ("request_key", requestKey)]
  afterBooking answer fun status message =>
    perform (.createBookingRequest companyId (keyword arguments "session_id" .null) requestKey
      [("title", title), ("start_time", .str start), ("duration_minutes", durationMinutes), ("attendees", attendees),
        ("description", description), ("location", location), ("timezone", zoneOf arguments),
        ("business_hours", businessHoursOf arguments)] status message)

/-- `cancel_event` -/
def cancelEvent (arguments : Dict) : Operation JsonObject := do
  let userId ← argument arguments "user_id"
  let event ← argument arguments "event_id"
  let eventId := library.settings.coercions.str event
  if (keyword arguments "confirm" (.bool false)).truthy then
    let companyId ← companyUuid library userId
    let answer ← brokerPost "/internal/v1/calendar/cancel" [("company_id", .str companyId), ("event_id", .str eventId)]
    return cancelEventResult eventId (text? (keyword arguments "reason" .null)) answer
  else
    return .ofPairs [("status", .text "confirmation_required"),
      ("message", .text ("Confirmation required to cancel event '" ++ eventId ++ "'.")), ("event_id", .text eventId)]

/-- `list_events` -/
def listEvents (arguments : Dict) : Operation JsonObject := do
  let userId ← argument arguments "user_id"
  let companyId ← companyUuid library userId
  brokerPost "/internal/v1/calendar/list"
    [("company_id", .str companyId), ("start_date", keyword arguments "start_date" .null),
      ("end_date", keyword arguments "end_date" .null), ("timezone", zoneOf arguments)]

/-- `TOOL_REGISTRY` -/
def toolRegistry : List ToolName :=
  [.getCalendarAvailability, .bookEvent, .cancelEvent, .listEvents]

def toolFunc : ToolName → Dict → Operation JsonObject
  | .getCalendarAvailability => getCalendarAvailability library
  | .bookEvent => bookEvent library
  | .cancelEvent => cancelEvent library
  | .listEvents => listEvents library

/-- `inspect.signature(tool_func).parameters` -/
def signature : ToolName → List String
  | .getCalendarAvailability =>
      ["user_id", "start_date", "end_date", "duration_minutes", "timezone", "business_hours"]
  | .bookEvent =>
      ["user_id", "title", "start_time", "duration_minutes", "attendees", "description", "location", "session_id",
        "timezone", "idempotency_key", "business_hours"]
  | .cancelEvent => ["user_id", "event_id", "reason", "confirm", "confirmation_token"]
  | .listEvents => ["user_id", "start_date", "end_date", "timezone"]

/-- The endpoint of the broker that a tool posts to. -/
def brokerPath : ToolName → String
  | .getCalendarAvailability => "/internal/v1/calendar/availability"
  | .bookEvent => "/internal/v1/calendar/book"
  | .cancelEvent => "/internal/v1/calendar/cancel"
  | .listEvents => "/internal/v1/calendar/list"

end Tools

/-! ## The grant of a profile -/

/-- `_MAX_PROFILE_CACHE_ENTRIES` -/
def maxProfileCacheEntries : Nat := 512

/-- `get_cached_published_agent_profile`, for an exact version. -/
def getCachedPublishedAgentProfile (companyId : String) (version : Int) : Operation (Option Json) := do
  let cache ← Program.get
  match cache.get (companyId, version) with
  | some policy =>
      Program.modify fun cache => moveToEnd cache (companyId, version)
      return some policy
  | none =>
      let result ← perform (.getPublishedAgentProfile companyId version)
      match result with
      | some policy =>
          Program.modify fun cache =>
            trim maxProfileCacheEntries (moveToEnd (cache.set (companyId, version) policy) (companyId, version))
          return some policy
      | none => return none

/-- A value that has no hash. -/
def unhashable : Json → Bool
  | .arr _ | .obj _ => true
  | .null | .bool _ | .int _ | .float _ | .str _ => false

/-- The texts of `set(compiled_policy.get("allowedTools", ()))`; iterating over a dictionary gives its keys, and over a
text its characters. -/
def allowedTools (policy : Json) : Except Raised (List String) := do
  match ← getMember (either policy (.obj [])) "allowedTools" with
  | none => return []
  | some (.arr items) => if items.any unhashable then throw .typeError else return items.filterMap text?
  | some (.obj members) => return members.map Prod.fst
  | some (.str text) => return text.toList.map fun c => String.ofList [c]
  | some _ => throw .typeError

/-- `is_tool_granted_by_profile` -/
def isToolGrantedByProfile (toolName : String) : Option Json → Except Raised Bool
  | none => return false
  | some policy => return (← allowedTools policy).contains toolName

/-! ## The steps of `execute_tool` -/

/-- `ToolExecutionResponse(status="error", ...)` -/
def errorResponse (errorCode errorMessage : String) : ToolExecutionResponse :=
  ⟨"error", some errorCode, some errorMessage, none, none⟩

section Steps

/-- `verify_session_context` -/
def verifiedContext {K : Type} [Ring K] [LinearOrder K] (now : K) (header : Option String) :
    Step InternalSessionContext :=
  match library.settings.verifySessionContext now (header.map fun header => .text header.toList) with
  | .ok (some context) => pure context
  | .ok none =>
      Handler.returns (errorResponse "AUTHENTICATED_CONTEXT_REQUIRED" "A verified session context is required.")
  | .error _ => Handler.lift (raise .raised)

/-- `request.user_id = context.company_id` and `request.session_id = context.session_id` -/
def ToolExecutionRequest.identified (request : ToolExecutionRequest) (context : InternalSessionContext) :
    ToolExecutionRequest :=
  { request with userId := some context.companyId, sessionId := some context.sessionId }

def registeredTool (toolName : String) : Step ToolName :=
  match toolRegistry.find? fun tool => tool.value = toolName with
  | some tool => pure tool
  | none => Handler.lift (raise (.http 404 ("Unknown tool '" ++ toolName ++ "'. Available tools: [" ++
      ", ".intercalate (toolRegistry.map fun tool => "'" ++ tool.value ++ "'") ++ "]")))

/-- `ACTIVE_TOOL_NAMES` -/
def activeToolNames : List String :=
  ["get_calendar_availability", "list_events", "book_event", "cancel_event"]

/-- `is_active_tool` -/
def requireActive (toolName : ToolName) : Step Unit :=
  if activeToolNames.contains toolName.value then pure ()
  else Handler.returns (errorResponse "POLICY_TOOL_DENIED"
    ("Tool '" ++ toolName.value ++ "' is not enabled for the active company assistant policy."))

/-- The active profile, for a context that is bound to a version. -/
def authorize (context : InternalSessionContext) (toolName : ToolName) : Step (Option Json) :=
  match context.profileVersion with
  | none => pure none
  | some version => do
      let profile ← Handler.lift (getCachedPublishedAgentProfile context.companyId version)
      let granted ← Handler.lift (ofExcept (isToolGrantedByProfile toolName.value profile))
      if granted then return profile
      else Handler.returns (errorResponse "POLICY_TOOL_DENIED"
        ("Tool '" ++ toolName.value ++ "' is not granted by this session's published company profile."))

/-- `validate_tool_params` and `tool_kwargs` -/
def validated (toolName : ToolName) (parameters : Dict) : Step Dict :=
  match validateToolParams library.lax library.dates (.obj parameters) toolName with
  | some params => pure (modelDump params)
  | none => Handler.returns (errorResponse "VALIDATION_ERROR"
      ("Invalid arguments for " ++ toolName.value ++ ": " ++ library.errorHints toolName parameters))

/-- `tool_kwargs.get("confirm", False)` -/
def isConfirmed (kwargs : Dict) : Bool :=
  (keyword kwargs "confirm" (.bool false)).truthy

/-- The key, if it is not empty. -/
def ToolExecutionRequest.key? (request : ToolExecutionRequest) : Option String :=
  request.idempotencyKey.filter (· ≠ "")

def requireKey (request : ToolExecutionRequest) (toolName : ToolName) (kwargs : Dict) : Step Unit :=
  if (toolName = .bookEvent ∨ toolName = .cancelEvent ∧ isConfirmed kwargs = true) ∧ request.key? = none then
    Handler.returns (errorResponse "IDEMPOTENCY_KEY_REQUIRED"
      ("A client-generated idempotency key is required for " ++ toolName.value ++ "."))
  else pure ()

/-- `resolve_company_timezone` -/
def resolveCompanyTimezone (companyId : String) (sessionTimezone : Option String) : Operation String := do
  let session := strip (sessionTimezone.getD "")
  let name ← if session = "" then do
      let timezone ← perform (.getCompanyProfile companyId)
      pure (strip (timezone.getD ""))
    else pure session
  if isZone library.dates name then return name else raise .raised

def withTimezone (context : InternalSessionContext) (toolName : ToolName) (kwargs : Dict) : Step Dict :=
  if toolName ≠ .cancelEvent ∧ (keyword kwargs "timezone" .null).truthy = false then do
    let resolved ← Handler.lift (resolveCompanyTimezone library context.companyId context.timezone).attempt
    match resolved with
    | .ok zone => return Json.setMember "timezone" (.str zone) kwargs
    | .error _ => Handler.returns (errorResponse "COMPANY_TIMEZONE_UNAVAILABLE"
        "The company's calendar timezone could not be loaded.")
  else pure kwargs

/-- The parameters that a token is bound to. -/
def confirmedParameters (eventId : String) (kwargs : Dict) : Dict :=
  [("event_id", .str eventId), ("reason", keyword kwargs "reason" .null)]

/-- The response that asks for a confirmation. -/
def confirmationResponse (toolName : ToolName) (eventId token : String) (kwargs : Dict) : ToolExecutionResponse :=
  ⟨"confirmation_required", none, none, none, some (String.ofList (Json.dumps (.obj
    [("status", .str "confirmation_required"), ("confirmation_token", .str token),
      ("prompt_to_speak", .str ("Are you sure you want to cancel the event with ID " ++ eventId ++ "? " ++
        "Please say yes to confirm or no to cancel.")),
      ("tool_name", .str toolName.value),
      ("impact_summary", .obj [("action", .str toolName.value), ("parameters", .obj kwargs)])])))⟩

/-- Step 4: without a confirmation a token is issued, with one a token is needed. -/
def intercept (request : ToolExecutionRequest) (toolName : ToolName) (kwargs : Dict) : Step Unit :=
  if toolName.confirmationRequired then
    if isConfirmed kwargs then
      if (keyword kwargs "confirmation_token" .null).truthy then pure ()
      else Handler.returns (errorResponse "CONFIRMATION_TOKEN_REQUIRED"
        "A valid confirmation token is required to cancel an event.")
    else do
      let eventId := library.settings.coercions.str (keyword kwargs "event_id" (.str "specified item"))
      let token ← Handler.lift (perform
        (.issueConfirmationToken request.userId toolName.value eventId (confirmedParameters eventId kwargs)))
      Handler.returns (confirmationResponse toolName eventId token kwargs)
  else pure ()

/-- Step 5: a request with a key acquires it. -/
def acquireLock (request : ToolExecutionRequest) (toolName : ToolName) : Step Unit :=
  match request.key? with
  | none => pure ()
  | some key => do
      let acquisition ← Handler.lift (perform (.acquireIdempotencyLock key request.userId toolName.value))
      if acquisition.isNew then return ()
      else
        match acquisition.cached with
        | some payload => Handler.returns ⟨"success", none, none, none, some payload⟩
        | none => Handler.returns ⟨"conflict", some "IDEMPOTENCY_CONFLICT", some acquisition.message, none, none⟩

/-- `release_idempotency_lock`, if there is a key. -/
def releaseLock (request : ToolExecutionRequest) : Operation Unit :=
  match request.key? with
  | none => pure ()
  | some key => perform (.releaseIdempotencyLock key request.userId)

/-- A refused token releases the key. -/
def consumeToken (request : ToolExecutionRequest) (toolName : ToolName) (kwargs : Dict) : Step Unit :=
  if toolName.confirmationRequired then do
    let eventId := library.settings.coercions.str (keyword kwargs "event_id" .null)
    let result ← Handler.lift (perform (.consumeConfirmationToken
      (keyword kwargs "confirmation_token" .null) request.userId toolName.value eventId
      (confirmedParameters eventId kwargs)))
    if result.1 then return ()
    else
      Handler.lift (releaseLock request)
      Handler.returns (ReleaseReason.invalidConfirmation result.2).response
  else pure ()

/-- `business_hours` of the active profile, if they are a dictionary. -/
def withBusinessHours (profile : Option Json) (kwargs : Dict) : Except Raised Dict :=
  match profile with
  | none => return kwargs
  | some policy => do
      let rules ← getMember (either policy (.obj [])) "businessRules"
      let hours ← getMember (either (rules.getD .null) (.obj [])) "business_hours"
      match hours with
      | some (.obj hours) => return Json.setMember "business_hours" (.obj hours) kwargs
      | _ => return kwargs

/-- Step 6: the identity of the request, and what else the dispatcher knows. -/
def injected (request : ToolExecutionRequest) (toolName : ToolName) (profile : Option Json) (kwargs : Dict) :
    Except Raised Dict :=
  let kwargs := Json.setMember "user_id" (either (keyword kwargs "user_id" .null) (optionalText request.userId)) kwargs
  match toolName with
  | .getCalendarAvailability => withBusinessHours profile kwargs
  | .bookEvent =>
      let kwargs := Json.setMember "session_id"
        (either (keyword kwargs "session_id" .null) (optionalText request.sessionId)) kwargs
      withBusinessHours profile (Json.setMember "idempotency_key" (optionalText request.idempotencyKey) kwargs)
  | .cancelEvent | .listEvents => return kwargs

/-- What becomes of the key once the tool has returned. -/
def settled (request : ToolExecutionRequest) (result : JsonObject) : Operation ToolExecutionResponse :=
  if result.status = some "conflict" then do
    releaseLock request
    let message := orText (result.text? "error") (orText (result.text? "message") "Time slot already occupied")
    return (ReleaseReason.slotConflict message result.dumps).response
  else if result.status = some "confirmation_required" then
    return ⟨"confirmation_required", none, none, some (orText (result.text? "message") "Confirmation required"),
      some result.dumps⟩
  else do
    match request.key? with
    | some key => perform (.commitIdempotencyLock key result request.userId)
    | none => pure ()
    return ⟨"success", none, none, none, some result.dumps⟩

/-- Step 7: the tool function is called with the arguments that it names; every exception releases the key. -/
def execute (request : ToolExecutionRequest) (toolName : ToolName) (kwargs : Dict) : Operation ToolExecutionResponse :=
  let arguments := kwargs.filter fun member => (signature toolName).contains member.1
  let attempted : Operation ToolExecutionResponse := do
    Program.output ⟨toolName, arguments⟩
    let result ← toolFunc library toolName arguments
    settled request result
  attempted.settleThen fun
    | .ok response => pure response
    | .error _ => do
        releaseLock request
        return ReleaseReason.executionError.response

end Steps

/-- `execute_tool` under a verified context. -/
def dispatch (body : ToolExecutionRequest) (context : InternalSessionContext) : Step ToolExecutionResponse := do
  let request := body.identified context
  let toolName ← registeredTool request.toolName
  requireActive toolName
  let profile ← authorize context toolName
  let kwargs ← validated library toolName request.parameters
  requireKey request toolName kwargs
  let kwargs ← withTimezone library context toolName kwargs
  intercept library request toolName kwargs
  acquireLock request toolName
  consumeToken library request toolName kwargs
  let kwargs ← Handler.lift (ofExcept (injected request toolName profile kwargs))
  Handler.lift (execute library request toolName kwargs)

/-- `execute_tool` -/
def executeTool {K : Type} [Ring K] [LinearOrder K] (now : K) (header : Option String)
    (body : ToolExecutionRequest) : Operation ToolExecutionResponse :=
  Handler.respond do
    let context ← verifiedContext library now header
    dispatch library body context

end ToolDispatch
end VoiceAssistants
