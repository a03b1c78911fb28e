import VoiceAssistants.Backend.CalendarTools

/-!
# The calendar endpoints of the credential broker (`backend/credential_broker/main.py`)

`calendar_book` and `calendar_booking_status`, with the functions of `backend/app/services/google_calendar.py` under
them.  The calendar is the list of the events of the company's primary calendar.  Google is as the code relies on it: it
rejects an id that is taken with 409, it never forgets an id, a cancelled event included, and `freeBusy` reports the
events that are neither cancelled nor transparent.  Each request to Google is served, or it fails, and Google may have
acted on a request that fails.

An endpoint answers with a JSON object or with an error status; an exception that nothing catches is the status 500.
The access token, the hash of the request key and Python's `datetime` are parameters.
-/

namespace VoiceAssistants
namespace GoogleCalendar

open Sql Collections
open Backend (BookPayload orText)

/-! ## Python's `datetime` -/

inductive DateError
  | valueError
  | overflowError
  deriving DecidableEq, Repr

/-- What is used of `datetime`.  An instant is in microseconds since the epoch. -/
structure Datetime where
  /-- `datetime.fromisoformat(text)` as an instant; a text without an offset is read as UTC. -/
  fromIsoformat : String → Except DateError Int
  /-- `isoformat()` of an instant in UTC. -/
  isoformat : Int → String

/-- `value.replace("Z", "+00:00")`. -/
def replaceZulu (value : String) : String :=
  String.join (value.toList.map fun c => if c = 'Z' then "+00:00" else c.toString)

def Datetime.parse (datetime : Datetime) (value : String) : Except DateError Int :=
  datetime.fromIsoformat (replaceZulu value)

/-- The last instant of the year 9999. -/
def maxInstant : Int := 253402300799999999

/-- `start + timedelta(minutes=minutes)`. -/
def plusMinutes (start : Int) (minutes : Nat) : Except DateError Int :=
  if start + minutes * 60000000 ≤ maxInstant then .ok (start + minutes * 60000000) else .error .overflowError

/-- Python's `round(numerator / denominator)`. -/
def roundHalfEven (numerator denominator : Int) : Int :=
  let quotient := numerator / denominator
  let doubled := 2 * (numerator % denominator)
  if doubled < denominator ∨ doubled = denominator ∧ quotient % 2 = 0 then quotient else quotient + 1

/-! ## Google -/

/-- An event, with the instants that its start and end denote. -/
structure GoogleEvent where
  id : String
  summary : Option String
  description : Option String
  location : Option String
  startValue : Option String
  endValue : Option String
  start : Int
  stop : Int
  attendees : List String
  hangoutLink : Option String
  /-- The `uri` of the first entry point of the type `video`. -/
  videoLink : Option String
  htmlLink : Option String
  cancelled : Bool
  transparent : Bool
  deriving DecidableEq, Repr

/-- An HTTP status other than 200 and 201. -/
structure ErrorStatus where
  code : Nat
  unsuccessful : code ≠ 200 ∧ code ≠ 201
  deriving DecidableEq, Repr

/-- What becomes of a request to Google.  One that fails has an error status or ends with an `httpx.HTTPError`. -/
inductive Reply
  | served
  | failed (acted : Bool) (status : Option ErrorStatus)
  deriving DecidableEq, Repr

/-- What the client sees. -/
inductive Response (α : Type)
  | ok (body : α)
  | status (error : ErrorStatus)
  | httpError
  deriving DecidableEq, Repr

/-- The response to a request that fails. -/
def Response.ofFailure {α : Type} : Option ErrorStatus → Response α
  | some error => .status error
  | none => .httpError

/-- The event keeps others from a time: it is neither cancelled nor transparent, and overlaps it. -/
def GoogleEvent.busy (start stop : Int) (event : GoogleEvent) : Bool :=
  !event.cancelled && !event.transparent && event.start < stop && start < event.stop

/-- `POST /freeBusy`: the busy periods.  They are neither merged nor cut to the time asked for, which their readers do not
tell apart. -/
def freeBusy (reply : Reply) (start stop : Int) (calendar : List GoogleEvent) : Response (List (Int × Int)) :=
  match reply with
  | .served => .ok ((calendar.filter (GoogleEvent.busy start stop)).map fun event => (event.start, event.stop))
  | .failed _ status => .ofFailure status

def notFound : ErrorStatus := ⟨404, by decide⟩

def conflict : ErrorStatus := ⟨409, by decide⟩

/-- `GET /calendars/primary/events/{id}`. -/
def getEvent (reply : Reply) (id : String) (calendar : List GoogleEvent) : Response GoogleEvent :=
  match reply with
  | .served =>
      match selectKey GoogleEvent.id id calendar with
      | some event => .ok event
      | none => .status notFound
  | .failed _ status => .ofFailure status

/-- `POST /calendars/primary/events`. -/
def insertEvent (reply : Reply) (event : GoogleEvent) (calendar : List GoogleEvent) :
    Response GoogleEvent × List GoogleEvent :=
  match reply with
  | .served =>
      match insertAbsent GoogleEvent.id event calendar with
      | some calendar' => (.ok event, calendar')
      | none => (.status conflict, calendar)
  | .failed acted status =>
      (.ofFailure status, if acted then (insertAbsent GoogleEvent.id event calendar).getD calendar else calendar)

/-! ## The services -/

/-- `get_valid_access_token`. -/
inductive Token
  | valid
  | missing
  | raised
  deriving DecidableEq, Repr

def needsReconnect : JsonObject :=
  .ofPairs [("status", .text "needs_reconnect"), ("error_code", .text "GOOGLE_CALENDAR_REAUTH_REQUIRED")]

def temporarilyUnavailable : JsonObject :=
  .ofPairs [("status", .text "temporarily_unavailable"), ("retryable", .bool true)]

def rejected : JsonObject :=
  .ofPairs [("status", .text "failed"), ("retryable", .bool false)]

/-- The answer to an error status. -/
def refusal (error : ErrorStatus) : JsonObject :=
  if error.code = 401 ∨ error.code = 403 then needsReconnect
  else if error.code = 429 ∨ error.code ≥ 500 then temporarilyUnavailable
  else rejected

def jsonText : Option String → JsonValue
  | some text => .text text
  | none => .null

/-- Python's `first or second` on texts that may be `None`. -/
def orElse (first second : Option String) : Option String :=
  match first with
  | some text => if text = "" then second else some text
  | none => second

section Services

variable (datetime : Datetime) (providerEventId : String → String)

/-- `_duration_minutes`. -/
def durationMinutes (startValue endValue : Option String) : Int :=
  match startValue, endValue with
  | some first, some last =>
      if first = "" ∨ last = "" then 0
      else if first.length = 10 ∨ last.length = 10 then 1440
      else
        match datetime.parse first, datetime.parse last with
        | .ok start, .ok stop => max 0 (roundHalfEven (stop - start) 60000000)
        | _, _ => 0
  | _, _ => 0

/-- `_calendar_event_payload`. -/
def calendarEventPayload (event : GoogleEvent) : JsonObject :=
  .ofPairs [("id", .text event.id), ("title", .text (orText event.summary "Untitled event")),
    ("start_time", jsonText event.startValue), ("end_time", jsonText event.endValue),
    ("duration_minutes", .other (toString (durationMinutes datetime event.startValue event.endValue))),
    ("attendees", .texts event.attendees), ("meet_link", jsonText (orElse event.hangoutLink event.htmlLink)),
    ("status", .text (if event.cancelled then "cancelled" else "confirmed"))]

/-- `get_google_calendar_booking_by_request_key`; `none` is an exception. -/
def getBookingByRequestKey (token : Token) (reply : Reply) (requestKey : String) (calendar : List GoogleEvent) :
    Option JsonObject :=
  match token with
  | .raised => none
  | .missing => some needsReconnect
  | .valid =>
      match getEvent reply (providerEventId requestKey) calendar with
      | .ok event =>
          if event.cancelled then some rejected
          else some (((calendarEventPayload datetime event).set "status" (.text "confirmed")).set "source"
            (.text "google_calendar_live"))
      | .status error => if error.code = 404 then some (.ofPairs [("status", .text "not_found")]) else some (refusal error)
      | .httpError => some temporarilyUnavailable

/-- `check_google_calendar_interval_free`; `none` is an exception. -/
def checkIntervalFree (token : Token) (reply : Reply) (startTime : String) (minutes : Nat)
    (calendar : List GoogleEvent) : Option JsonObject :=
  match token with
  | .raised => none
  | .missing => some needsReconnect
  | .valid =>
      match datetime.parse startTime with
      | .error .valueError => some rejected
      | .error .overflowError => none
      | .ok start =>
          match plusMinutes start minutes with
          | .error _ => none
          | .ok stop =>
              match freeBusy reply start stop calendar with
              | .ok busy => some (.ofPairs [("status", .text (if busy.isEmpty then "available" else "conflict"))])
              | .status error => some (refusal error)
              | .httpError => some temporarilyUnavailable

/-- The start of a booking; `none` is the `ValueError`. -/
def bookingStart (startTime : String) : Option Int :=
  let clean := replaceZulu (String.ofList ((strip startTime).toList.map fun c => if c = ' ' then 'T' else c))
  match datetime.fromIsoformat clean with
  | .ok start => some start
  | .error _ =>
      if clean.length = 16 then (datetime.fromIsoformat (clean ++ ":00+00:00")).toOption else none

/-- What Google adds to a new event. -/
structure EventLinks where
  hangoutLink : Option String
  videoLink : Option String
  htmlLink : Option String
  deriving DecidableEq, Repr

/-- `event_payload`, as the event that Google makes of it. -/
def bookedEvent (payload : BookPayload) (start stop : Int) (links : EventLinks) : GoogleEvent where
  id := providerEventId payload.requestKey
  summary := some payload.title
  description := some (orText payload.description ("Voice Bot Scheduled Meeting: " ++ payload.title))
  location := payload.location.filter fun location =>
    location ≠ "" && !((location.toList.map Char.toLower).tails.any fun tail => "meet".toList.isPrefixOf tail)
  startValue := some (datetime.isoformat start)
  endValue := some (datetime.isoformat stop)
  start := start
  stop := stop
  attendees := payload.attendees.filter fun email => email.toList.contains '@'
  hangoutLink := links.hangoutLink
  videoLink := links.videoLink
  htmlLink := links.htmlLink
  cancelled := false
  transparent := false

/-- The `result` of a booking. -/
def bookingResult (payload : BookPayload) (start : Int) (event : GoogleEvent) : JsonObject :=
  .ofPairs [("event_id", .text event.id), ("title", .text (event.summary.getD payload.title)),
    ("start_time", .text (datetime.isoformat start)), ("duration_minutes", .other (toString payload.durationMinutes)),
    ("attendees", .texts payload.attendees),
    ("meet_link", jsonText (orElse (orElse event.hangoutLink event.videoLink) event.htmlLink)),
    ("html_link", jsonText event.htmlLink), ("status", .text "confirmed"), ("source", .text "google_calendar_live")]

/-- What is made of the event that was inserted or found. -/
def bookingAnswer (payload : BookPayload) (start : Int) (event : GoogleEvent) : JsonObject :=
  if event.cancelled then rejected else bookingResult datetime payload start event

/-- What happens outside while `calendar_book` runs. -/
structure BookOracle where
  checkToken : Token
  freeBusy : Reply
  bookToken : Token
  insert : Reply
  links : EventLinks
  get : Reply
  deriving DecidableEq, Repr

/-- The branch of 409: the event that exists is fetched. -/
def fetchBooked (reply : Reply) (payload : BookPayload) (start : Int) (id : String) (calendar : List GoogleEvent) :
    JsonObject :=
  match getEvent reply id calendar with
  | .ok event => bookingAnswer datetime payload start event
  | .status _ | .httpError => temporarilyUnavailable

/-- What is made of the response to the insertion. -/
def afterInsert (reply : Reply) (payload : BookPayload) (start : Int) (id : String) (calendar : List GoogleEvent) :
    Response GoogleEvent → JsonObject
  | .ok event => bookingAnswer datetime payload start event
  | .status error => if error.code = 409 then fetchBooked datetime reply payload start id calendar else refusal error
  | .httpError => temporarilyUnavailable

/-- `book_google_calendar_event`, with a request key; `none` is an exception. -/
def bookEvent (oracle : BookOracle) (payload : BookPayload) (calendar : List GoogleEvent) :
    Option JsonObject × List GoogleEvent :=
  match oracle.bookToken with
  | .raised => (none, calendar)
  | .missing => (some needsReconnect, calendar)
  | .valid =>
      match bookingStart datetime payload.startTime with
      | none => (none, calendar)
      | some start =>
          match plusMinutes start payload.durationMinutes with
          | .error _ => (none, calendar)
          | .ok stop =>
              let event := bookedEvent datetime providerEventId payload start stop oracle.links
              let (response, calendar) := insertEvent oracle.insert event calendar
              (some (afterInsert datetime oracle.get payload start event.id calendar response), calendar)

end Services

/-! ## The endpoints -/

/-- `CalendarBookPayload`. -/
def validPayload (payload : BookPayload) : Bool :=
  1 ≤ payload.requestKey.length && payload.requestKey.length ≤ 128 &&
    1 ≤ payload.title.length && payload.title.length ≤ 255 &&
    10 ≤ payload.startTime.length && payload.startTime.length ≤ 64 &&
    5 ≤ payload.durationMinutes && payload.durationMinutes ≤ 1440 && payload.attendees.length ≤ 100 &&
    payload.description.all (·.length ≤ 8000) && payload.location.all (·.length ≤ 255)

/-- An endpoint's answer to what the service has returned or raised. -/
def endpoint : Option JsonObject → Except Nat JsonObject
  | some answer => .ok answer
  | none => .error 500

/-- `POST /internal/v1/calendar/book`. -/
def calendarBook (datetime : Datetime) (providerEventId : String → String) (oracle : BookOracle) (payload : BookPayload)
    (calendar : List GoogleEvent) : Except Nat JsonObject × List GoogleEvent :=
  if validPayload payload then
    match checkIntervalFree datetime oracle.checkToken oracle.freeBusy payload.startTime payload.durationMinutes
        calendar with
    | none => (.error 500, calendar)
    | some availability =>
        if availability.status ≠ some "available" then (.ok availability, calendar)
        else
          let (result, calendar) := bookEvent datetime providerEventId oracle payload calendar
          (endpoint result, calendar)
  else (.error 422, calendar)

/-- `POST /internal/v1/calendar/book-status`. -/
def calendarBookingStatus (datetime : Datetime) (providerEventId : String → String) (token : Token) (reply : Reply)
    (requestKey : String) (calendar : List GoogleEvent) : Except Nat JsonObject :=
  if 1 ≤ requestKey.length ∧ requestKey.length ≤ 128 then
    endpoint (getBookingByRequestKey datetime providerEventId token reply requestKey calendar)
  else .error 422

/-! ## What the answers say -/

theorem status_refusal (error : ErrorStatus) :
    (refusal error).status = some "needs_reconnect" ∨ (refusal error).status = some "temporarily_unavailable" ∨
      (refusal error).status = some "failed" := by
  unfold refusal
  split
  · exact .inl (by decide)
  · split
    · exact .inr (.inl (by decide))
    · exact .inr (.inr (by decide))

section Booking

variable {datetime : Datetime} {payload : BookPayload} {start : Int} {event : GoogleEvent}

theorem status_bookingResult : (bookingResult datetime payload start event).status = some "confirmed" := by
  simp [bookingResult, JsonObject.status, JsonObject.text?, OrderedMap.ofPairs, OrderedMap.get_set]

theorem eventId_bookingResult : (bookingResult datetime payload start event).text? "event_id" = some event.id := by
  simp [bookingResult, JsonObject.text?, OrderedMap.ofPairs, OrderedMap.get_set]

end Booking

end GoogleCalendar
end VoiceAssistants
