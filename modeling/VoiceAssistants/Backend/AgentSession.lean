import VoiceAssistants.Collections.Slots
import VoiceAssistants.Backend.BookingRetries
import VoiceAssistants.Backend.DeferredAgreement
import VoiceAssistants.Backend.ToolSchemas
import VoiceAssistants.Python.JsonRoundTrip

/-!
# The bookings and cancellations of one agent session

The agent (`agent/agent.py`) calls `book_event` and `cancel_event` one after the other.  It gives every logical action, a
tool with its parameters, one key for the whole session; the backend answers a key that it has committed from its table
(`db/idempotency.py`), and the id of a booking's event is a hash of the key.  So an action that is repeated is answered
like a retry, and `confirmed_present` says when a confirmation is backed by an event: as long as no `book_event` repeats
an action whose event a `cancel_event` was called for.

A call may be given up before its answer, and its request goes on in the backend.  The broker may serve a request of a
tool that has been started more than once, for the worker of queued bookings or because an answer was lost, and its
answers may be late.  A new key is random: nobody has named its event, and it is not that of another key.
-/

namespace VoiceAssistants
namespace GoogleCalendar

open Sql Collections
open Backend (BookPayload CancelPayload)

/-! ## The broker cancels -/

def GoogleEvent.cancel (event : GoogleEvent) : GoogleEvent :=
  { event with cancelled := true }

/-- `DELETE /calendars/primary/events/{id}` -/
def deleteEvent (reply : Reply) (id : String) (calendar : List GoogleEvent) : Response Unit × List GoogleEvent :=
  let deleted := updateWhere (fun event => event.id = id) GoogleEvent.cancel calendar
  match reply with
  | .served =>
      match selectKey GoogleEvent.id id calendar with
      | some event => if event.cancelled then (.status ⟨410, by decide⟩, calendar) else (.ok (), deleted)
      | none => (.status notFound, calendar)
  | .failed acted status => (.ofFailure status, if acted then deleted else calendar)

/-- `cancel_google_calendar_event`; `none` is an exception. -/
def cancelEvent (token : Token) (reply : Reply) (id : String) (calendar : List GoogleEvent) :
    Option Bool × List GoogleEvent :=
  match token with
  | .raised => (none, calendar)
  | .missing => (some false, calendar)
  | .valid =>
      let (response, calendar) := deleteEvent reply id calendar
      match response with
      | .ok _ => (some true, calendar)
      | .status error => (some (error.code = 204), calendar)
      | .httpError => (none, calendar)

/-- `POST /internal/v1/calendar/cancel`; `denotes` gives the event that a path ending in an id denotes. -/
def calendarCancel (denotes : String → String) (token : Token) (reply : Reply) (payload : CancelPayload)
    (calendar : List GoogleEvent) : Except Nat JsonObject × List GoogleEvent :=
  if payload.valid then
    let (result, calendar) := cancelEvent token reply (denotes payload.eventId) calendar
    (match result with
      | some success =>
          .ok (.ofPairs [("status", .text (if success then "cancelled" else "integration_required")),
            ("event_id", .text payload.eventId)])
      | none => .error 500, calendar)
  else (.error 422, calendar)

section Cancelling

variable (token : Token) (reply : Reply) (calendar : List GoogleEvent)

theorem deleteEvent_calendar (id : String) :
    (deleteEvent reply id calendar).2 = calendar ∨
      (deleteEvent reply id calendar).2 = updateWhere (fun event => event.id = id) GoogleEvent.cancel calendar := by
  unfold deleteEvent
  cases reply with
  | served =>
      cases selectKey GoogleEvent.id id calendar with
      | none => exact .inl rfl
      | some event =>
          cases hcancelled : event.cancelled with
          | true => simp [hcancelled]
          | false => simp [hcancelled]
  | failed acted status => cases acted <;> simp

theorem cancelEvent_calendar (id : String) :
    (cancelEvent token reply id calendar).2 = calendar ∨
      (cancelEvent token reply id calendar).2 = updateWhere (fun event => event.id = id) GoogleEvent.cancel calendar := by
  unfold cancelEvent
  cases token with
  | raised | missing => exact .inl rfl
  | valid =>
      rcases deleteEvent_calendar reply calendar id with hsame | hdeleted
      · left
        cases hresponse : (deleteEvent reply id calendar).1 <;> simp [hresponse, hsame]
      · right
        cases hresponse : (deleteEvent reply id calendar).1 <;> simp [hresponse, hdeleted]

/-- A cancellation leaves the calendar as it is, or it cancels the event that the id denotes. -/
theorem calendarCancel_calendar (denotes : String → String) (payload : CancelPayload) :
    (calendarCancel denotes token reply payload calendar).2 = calendar ∨
      (calendarCancel denotes token reply payload calendar).2 =
        updateWhere (fun event => event.id = denotes payload.eventId) GoogleEvent.cancel calendar := by
  unfold calendarCancel
  split
  · exact cancelEvent_calendar token reply calendar (denotes payload.eventId)
  · exact .inl rfl

end Cancelling

section Confirming

variable {datetime : Datetime} {providerEventId : String → String} {payload : BookPayload}
  {calendar : List GoogleEvent} {answer : JsonObject}

theorem fetchBooked_confirmed {reply : Reply} {start : Int} {id : String}
    (h : (fetchBooked datetime reply payload start id calendar).status = some "confirmed") :
    ∃ event ∈ calendar, event.id = id := by
  have hunavailable : temporarilyUnavailable.status ≠ some "confirmed" := by decide
  unfold fetchBooked getEvent at h
  cases reply with
  | served =>
      cases hfound : selectKey GoogleEvent.id id calendar with
      | none =>
          rw [hfound] at h
          exact absurd h hunavailable
      | some event => exact ⟨event, selectKey_mem hfound, selectKey_key hfound⟩
  | failed acted status => cases status <;> exact absurd h hunavailable

theorem afterInsert_confirmed {reply : Reply} {start : Int} {id : String} {response : Response GoogleEvent}
    (h : (afterInsert datetime reply payload start id calendar response).status = some "confirmed") :
    (∃ event, response = .ok event) ∨ ∃ event ∈ calendar, event.id = id := by
  have hunavailable : temporarilyUnavailable.status ≠ some "confirmed" := by decide
  cases response with
  | ok event => exact .inl ⟨event, rfl⟩
  | status error =>
      right
      by_cases hconflict : error.code = 409
      · simp only [afterInsert, hconflict, ↓reduceIte] at h
        exact fetchBooked_confirmed h
      · simp only [afterInsert, hconflict, ↓reduceIte] at h
        rcases status_refusal error with hstatus | hstatus | hstatus <;> simp [hstatus] at h
  | httpError => exact absurd h hunavailable

theorem insertEvent_ok {reply : Reply} {event inserted : GoogleEvent} {calendar' : List GoogleEvent}
    (h : insertEvent reply event calendar = (.ok inserted, calendar')) : event ∈ calendar' := by
  unfold insertEvent at h
  cases reply with
  | served =>
      cases hinsert : insertAbsent GoogleEvent.id event calendar with
      | none => simp [hinsert] at h
      | some calendar'' =>
          simp only [hinsert, Prod.mk.injEq] at h
          obtain ⟨-, rfl⟩ := insertAbsent_eq_some hinsert
          rw [← h.2]
          exact List.mem_append_right _ List.mem_cons_self
  | failed acted status => cases status <;> simp [Response.ofFailure] at h

/-- A booking that is confirmed has its event in the calendar. -/
theorem bookEvent_confirmed {oracle : BookOracle}
    (h : (bookEvent datetime providerEventId oracle payload calendar).1 = some answer)
    (hconfirmed : answer.status = some "confirmed") :
    ∃ event ∈ (bookEvent datetime providerEventId oracle payload calendar).2,
      event.id = providerEventId payload.requestKey := by
  have hreconnect : needsReconnect.status ≠ some "confirmed" := by decide
  have hunavailable : temporarilyUnavailable.status ≠ some "confirmed" := by decide
  unfold bookEvent at h ⊢
  cases htoken : oracle.bookToken with
  | raised =>
      rw [htoken] at h
      cases h
  | missing =>
      rw [htoken] at h
      obtain rfl := Option.some.inj h
      exact absurd hconfirmed hreconnect
  | valid =>
      rw [htoken] at h
      cases hstart : bookingStart datetime payload.startTime with
      | none =>
          simp only [hstart] at h
          cases h
      | some start =>
          cases hstop : plusMinutes start payload.durationMinutes with
          | error error =>
              simp only [hstart, hstop] at h
              cases h
          | ok stop =>
              simp only [hstart, hstop, Option.some.injEq] at h ⊢
              subst h
              rcases afterInsert_confirmed hconfirmed with ⟨event, hinserted⟩ | hfetched
              · -- the event has just been inserted
                exact ⟨_, insertEvent_ok (Prod.ext hinserted rfl), rfl⟩
              · exact hfetched

theorem calendarBook_confirmed {oracle : BookOracle}
    (h : (calendarBook datetime providerEventId oracle payload calendar).1 = .ok answer)
    (hconfirmed : answer.status = some "confirmed") :
    ∃ event ∈ (calendarBook datetime providerEventId oracle payload calendar).2,
      event.id = providerEventId payload.requestKey := by
  unfold calendarBook at h ⊢
  split at h
  · rename_i hvalid
    rw [if_pos hvalid]
    split at h
    · cases h
    · rename_i availability hcheck
      split at h
      · obtain rfl := Except.ok.inj h
        exact absurd hconfirmed (status_checkIntervalFree hcheck)
      · rename_i havailable
        simp only [havailable, ↓reduceIte]
        cases hbooked : (bookEvent datetime providerEventId oracle payload calendar).1 with
        | none =>
            simp only [hbooked] at h
            cases h
        | some booked =>
            simp only [hbooked] at h
            obtain rfl := Except.ok.inj h
            exact bookEvent_confirmed hbooked hconfirmed
  · cases h

end Confirming

end GoogleCalendar

namespace AgentSession

open Async Sql Collections Python
open Backend (ProviderAnswer CalendarServices ToolContext ToolOutcome ToolParameters ToolName BookPayload CancelPayload
  bookPayload validateToolParams)
open BookingWorker (brokerAnswer)
open GoogleCalendar (GoogleEvent Datetime BookOracle Token Dates calendarBook calendarCancel bookedEvent bookingStart
  plusMinutes)

/-! ## The agent's calls -/

/-- A call of `book_event` or of `cancel_event`, with the arguments of the model. -/
inductive Call
  | book (title startTime : String) (durationMinutes : Int) (attendees : List String)
      (description location : Option String)
  | cancel (eventId : String) (reason : Option String) (confirm : Bool) (confirmationToken : Option String)
  deriving DecidableEq

def Call.toolName : Call → ToolName
  | book .. => .bookEvent
  | cancel .. => .cancelEvent

/-- A text that is there and not empty. -/
def given (value : Option String) : Option String :=
  value.filter (· ≠ "")

/-- A member that is left out when its text is empty. -/
def optionalMember (name : String) (value : Option String) : List (String × Json) :=
  ((given value).map fun text => (name, .str text)).toList

/-- The members of `params`. -/
def Call.members : Call → List (String × Json)
  | book title startTime durationMinutes attendees description location =>
      [("title", .str title), ("start_time", .str startTime), ("duration_minutes", .int durationMinutes),
        ("attendees", .arr (attendees.map .str)), ("location", .str (Backend.orText location "Google Meet"))] ++
        optionalMember "description" description
  | cancel eventId reason confirm confirmationToken =>
      [("event_id", .str eventId), ("confirm", .bool confirm)] ++ optionalMember "reason" reason ++
        optionalMember "confirmation_token" confirmationToken

def Call.params (call : Call) : Json :=
  .obj call.members

/-- The `logical_action` of `_stable_write_key`. -/
def Call.logicalAction (call : Call) : List Char :=
  call.toolName.value.toList ++ ':' :: (Json.sortKeys call.params).dumps

/-! ## The session -/

/-- What stays the same in a session: its company and zone, the published profile, and what is used of pydantic, of
`datetime` and of Google. -/
structure Config where
  companyId : String
  timezone : String
  context : ToolContext
  lax : Lax
  dates : Dates
  formatUtc : (startTime timezone : String) → Option String
  datetime : Datetime
  providerEventId : String → String
  denotes : String → String

/-- What happens outside while the broker serves a request. -/
structure BrokerRun where
  book : BookOracle
  cancelToken : Token
  delete : GoogleCalendar.Reply
  deriving DecidableEq

namespace Config

variable (config : Config)

/-- The services of the tools around one answer of the broker. -/
def services (answer : ProviderAnswer) (created : Option (Uuid × Db.BookingStatus)) : CalendarServices where
  formatUtc := config.formatUtc
  availability _ := .raised
  book _ := answer
  cancel _ _ := answer
  list _ _ _ _ := .raised
  createBookingRequest _ := created

/-- Steps 2 to 4 of `execute_tool`: the parameters with which a call reaches the idempotency engine, if it does. -/
def accept (call : Call) : Option ToolParameters :=
  match validateToolParams config.lax config.dates call.params call.toolName with
  | some (.bookEvent title startTime timezone durationMinutes attendees description location) =>
      some (.bookEvent title startTime (some (Backend.orText timezone config.timezone)) durationMinutes attendees
        description location)
  | some (.cancelEvent eventId reason confirm confirmationToken) =>
      if confirm then (given confirmationToken).map (.cancelEvent eventId reason ·) else none
  | _ => none

/-- The payload that the backend posts for the parameters of a booking. -/
def payload (parameters : ToolParameters) (key : String) : Option BookPayload :=
  match parameters with
  | .bookEvent title startTime timezone durationMinutes attendees description location =>
      bookPayload (config.services .raised none) config.companyId title startTime durationMinutes attendees description
        (some (location.getD "Google Meet")) timezone key
  | _ => none

/-- The event that a cancellation is for. -/
def cancelledId : ToolParameters → Option String
  | .cancelEvent eventId _ _ => some (config.denotes eventId)
  | _ => none

/-- What the broker does for a request of the backend. -/
def serve (run : BrokerRun) (parameters : ToolParameters) (key : String) (calendar : List GoogleEvent) :
    ProviderAnswer × List GoogleEvent :=
  match parameters with
  | .cancelEvent eventId _ _ =>
      match Uuid.parse config.companyId with
      | some companyId =>
          let (answer, calendar) :=
            calendarCancel config.denotes run.cancelToken run.delete ⟨companyId, eventId⟩ calendar
          (brokerAnswer answer, calendar)
      | none => (.raised, calendar)
  | parameters =>
      match config.payload parameters key with
      | some payload =>
          let (answer, calendar) := calendarBook config.datetime config.providerEventId run.book payload calendar
          (brokerAnswer answer, calendar)
      | none => (.raised, calendar)

end Config

/-- What a call has returned, with the calendar of that moment. -/
structure Answer where
  call : Call
  result : JsonObject
  calendar : List GoogleEvent

structure State where
  /-- `_idempotency_keys` -/
  keys : OrderedMap (List Char) String
  /-- The calls that have become requests, in the order of the backend's requests. -/
  calls : List Call
  /-- The request whose answer the agent waits for. -/
  waiting : Option Nat
  backend : Backend.State
  calendar : List GoogleEvent
  /-- The answers of the broker, with the numbers of the requests. -/
  served : List (Nat × JsonObject)
  /-- What the tools have returned, with the keys of the requests. -/
  results : List (String × JsonObject)
  /-- The events that `cancel_event` was called for. -/
  cancelled : List String
  answers : List Answer

/-- A session begins, with the rows and the events of others. -/
def State.initial (table : List Db.IdempotencyRow) (calendar : List GoogleEvent) : State where
  keys := .empty
  calls := []
  waiting := none
  backend := ⟨table, [], []⟩
  calendar := calendar
  served := []
  results := []
  cancelled := []
  answers := []

/-- A new key: it has no row, its event is neither there nor that of another key, and nobody has named it. -/
def State.isFresh (config : Config) (s : State) (key : String) : Bool :=
  s.backend.table.all (fun row => row.key ≠ key) &&
    s.keys.entries.all (fun entry => config.providerEventId entry.2 ≠ config.providerEventId key) &&
    s.calendar.all (fun event => event.id ≠ config.providerEventId key) &&
    !s.cancelled.contains (config.providerEventId key)

inductive Action
  /-- The agent calls a tool; `fresh` is what `uuid4` gives.  The request may fail before it reaches the idempotency
  engine. -/
  | call (call : Call) (fresh : String) (reached : Bool)
  /-- A step of the backend other than an arrival or the end of a tool. -/
  | backend (action : Backend.Action)
  /-- The broker serves the request of a tool. -/
  | serve (id : Nat) (run : BrokerRun)
  /-- The tool of a request ends with an answer of the broker, or without one. -/
  | finish (id : Nat) (answer : ProviderAnswer) (created : Option (Uuid × Db.BookingStatus))
  /-- The call returns what a tool has returned. -/
  | receive (result : JsonObject)
  /-- The call returns something else, or fails. -/
  | leave

/-- `_stable_write_key` -/
def State.stableWriteKey (config : Config) (s : State) (call : Call) (fresh : String) : Option (String × State) :=
  match s.keys.get call.logicalAction with
  | some key => some (key, s)
  | none =>
      if s.isFresh config fresh then some (fresh, { s with keys := s.keys.set call.logicalAction fresh }) else none

/-- The call becomes a request of the backend. -/
def State.send (config : Config) (s : State) (call : Call) (key : String) (parameters : ToolParameters) :
    Option State := do
  let backend ← Backend.step s.backend (.arrive config.companyId key parameters)
  return { s with
    calls := s.calls ++ [call]
    waiting := some s.backend.requests.length
    backend := backend
    cancelled := (config.cancelledId parameters).toList ++ s.cancelled }

/-- The tool function of the request has been started. -/
def State.started (s : State) (id : Nat) : Bool :=
  s.backend.history.any fun event =>
    match event with
    | .started request _ => request = id
    | _ => false

/-- What the broker's client can make of a request: an answer that the broker has given to it, or a failure. -/
def State.mayAnswer (s : State) (id : Nat) : ProviderAnswer → Bool
  | .returned object => s.served.contains (id, object)
  | .httpError _ | .raised => true

/-- One step. -/
def step (config : Config) (s : State) : Action → Option State
  | .call call fresh reached =>
      if s.waiting = none then do
        let (key, s) ← s.stableWriteKey config call fresh
        match config.accept call with
        | some parameters => if reached then s.send config call key parameters else some s
        | none => some s
      else none
  | .backend action =>
      match action with
      | .arrive .. | .finishTool .. => none
      | action => (Backend.step s.backend action).map fun backend => { s with backend := backend }
  | .serve id run => do
      let request ← s.backend.requests[id]?
      if s.started id then
        let (answer, calendar) := config.serve run request.parameters request.idempotencyKey s.calendar
        some { s with
          calendar := calendar
          served := ((answer.result?).map fun object => (id, object)).toList ++ s.served }
      else none
  | .finish id answer created => do
      let request ← s.backend.requests[id]?
      let result := request.callTool (config.services answer created) config.context
      let backend ← Backend.step s.backend (.finishTool id (.ofResult result))
      if s.mayAnswer id answer then
        some { s with
          backend := backend
          results := (result.map fun object => (request.idempotencyKey, object)).toList ++ s.results }
      else none
  | .receive result => do
      let id ← s.waiting
      let call ← s.calls[id]?
      let request ← s.backend.requests[id]?
      match request.phase with
      | .responded response =>
          -- what the text of a result is read as
          if response.data = some result.dumps ∧ (request.idempotencyKey, result) ∈ s.results then
            some { s with waiting := none, answers := ⟨call, result, s.calendar⟩ :: s.answers }
          else none
      | _ => none
  | .leave => s.waiting.map fun _ => { s with waiting := none }

/-! ## What a confirmation says -/

/-- The event is the one that the call books under the key, but for its cancellation. -/
def Config.EventFor (config : Config) (call : Call) (key : String) (event : GoogleEvent) : Prop :=
  ∃ parameters payload start stop links, config.accept call = some parameters ∧
    config.payload parameters key = some payload ∧ bookingStart config.datetime payload.startTime = some start ∧
    plusMinutes start payload.durationMinutes = .ok stop ∧
    { event with cancelled := false } = bookedEvent config.datetime config.providerEventId payload start stop links

/-- A booking that is returned as confirmed has a confirmed event in the calendar. -/
def Config.Backed (config : Config) (answer : Answer) : Prop :=
  answer.call.toolName = .bookEvent → answer.result.status = some "confirmed" →
    ∃ key, ∃ event ∈ answer.calendar, config.EventFor answer.call key event ∧ event.cancelled = false

/-- The condition on a step: `book_event` is not called for an action whose event `cancel_event` was called for. -/
def BooksUncancelled (config : Config) (s : State) : Action → Prop
  | .call call _ _ => call.toolName = .bookEvent → ∀ key, s.keys.get call.logicalAction = some key →
      config.providerEventId key ∉ s.cancelled
  | _ => True

/-! ## Calls with one logical action -/

section Calls

variable {call other : Call}

theorem canonical_params (floats : Json.Floats) (call : Call) : Json.Canonical floats call.params := by
  cases call with
  | book title startTime durationMinutes attendees description location =>
      have hattendees : Json.CanonicalItems floats (attendees.map .str) := by
        rw [Json.canonicalItems_iff]
        intro item hitem
        obtain ⟨text, -, rfl⟩ := List.mem_map.mp hitem
        trivial
      simp only [Call.params, Call.members, optionalMember]
      cases given description <;> simp [Json.Canonical, Json.CanonicalMembers, hattendees]
  | cancel eventId reason confirm confirmationToken =>
      simp only [Call.params, Call.members, optionalMember]
      cases given reason <;> cases given confirmationToken <;> simp [Json.Canonical, Json.CanonicalMembers]

/-- Numbers and texts are sorted as they are. -/
theorem sortKeys_texts (texts : List String) : Json.sortKeys (.arr (texts.map .str)) = .arr (texts.map .str) := by
  rw [Json.sortKeys]
  congr 1
  induction texts with
  | nil => rfl
  | cons text texts ih => rw [List.map_cons, Json.sortItems, ih, Json.sortKeys]

theorem find?_optionalMember (name key : String) (value : Option String) :
    (optionalMember name value).find? (fun member => member.1 = key) =
      if name = key then (given value).map fun text => (name, .str text) else none := by
  unfold optionalMember
  cases given value <;> by_cases hkey : name = key <;> simp [hkey]

/-- Texts that are looked up alike are alike. -/
theorem given_of_lookup (name : String) {value other : Option String}
    (h : (((given value).map fun text => (name, Json.str text)).map Prod.snd).map Json.sortKeys =
      (((given other).map fun text => (name, Json.str text)).map Prod.snd).map Json.sortKeys) :
    given value = given other := by
  rw [Option.map_map, Option.map_map, Option.map_map, Option.map_map] at h
  refine Option.map_injective ?_ h
  intro text text' htext
  exact Json.str.inj htext

theorem map_str_injective : Function.Injective (List.map Json.str) :=
  List.map_injective_iff.mpr fun _ _ h => Json.str.inj h

theorem toolName_of_logicalAction (h : call.logicalAction = other.logicalAction) : call.toolName = other.toolName := by
  have hhead := congrArg List.head? h
  cases call <;> cases other <;> first
    | rfl
    | simp [Call.logicalAction, Call.toolName, ToolName.value] at hhead

/-- Calls with one logical action have the same parameters. -/
theorem params_of_logicalAction (h : call.logicalAction = other.logicalAction) : call.params = other.params := by
  have htool := toolName_of_logicalAction h
  have hdumps : (Json.sortKeys call.params).dumps = (Json.sortKeys other.params).dumps := by
    unfold Call.logicalAction at h
    rw [htool] at h
    exact (List.cons.inj (List.append_cancel_left h)).2
  have hlookup : ∀ name, (call.params.member? name).map Json.sortKeys = (other.params.member? name).map Json.sortKeys :=
    Json.member?_of_sorted (canonical_params default call) (canonical_params default other) hdumps
  cases call with
  | book title startTime durationMinutes attendees description location =>
      cases other with
      | cancel => cases htool
      | book title' startTime' durationMinutes' attendees' description' location' =>
          have htitle := hlookup "title"
          have hstart := hlookup "start_time"
          have hduration := hlookup "duration_minutes"
          have hattendees := hlookup "attendees"
          have hlocation := hlookup "location"
          have hdescription := hlookup "description"
          simp [Call.params, Call.members, Json.member?, Json.sortKeys] at htitle hstart hduration hlocation
          simp [Call.params, Call.members, Json.member?, sortKeys_texts, map_str_injective.eq_iff] at hattendees
          simp only [Call.params, Call.members, Json.member?, List.find?_append, find?_optionalMember] at hdescription
          have hgiven : given description = given description' := given_of_lookup "description" hdescription
          simp only [Call.params, Call.members, optionalMember, htitle, hstart, hduration, hattendees, hlocation, hgiven]
  | cancel eventId reason confirm confirmationToken =>
      cases other with
      | book => cases htool
      | cancel eventId' reason' confirm' confirmationToken' =>
          have hevent := hlookup "event_id"
          have hconfirm := hlookup "confirm"
          have hreason := hlookup "reason"
          have htoken := hlookup "confirmation_token"
          simp [Call.params, Call.members, Json.member?, Json.sortKeys] at hevent hconfirm
          simp only [Call.params, Call.members, Json.member?, List.find?_append, find?_optionalMember] at hreason htoken
          have hgiven : given reason = given reason' := given_of_lookup "reason" (by simpa using hreason)
          have hgiven' : given confirmationToken = given confirmationToken' := given_of_lookup "confirmation_token" htoken
          simp only [Call.params, Call.members, optionalMember, hevent, hconfirm, hgiven, hgiven']

end Calls

/-! ## Requests keep their parameters -/

section Requests

variable {s t : Backend.State} {id : Nat} {request : Backend.Request}

theorem length_enter (s : Backend.State) (id : Nat) (request : Backend.Request) (phase : Backend.Phase) :
    (s.enter id request phase).requests.length = s.requests.length :=
  List.length_set

theorem length_acquire (now : Int) (delivery : Backend.Delivery) :
    (s.acquire id request now delivery).requests.length = s.requests.length := by
  unfold Backend.State.acquire
  split
  · exact length_enter s id request _
  · cases delivery with
    | answered =>
        dsimp only
        split <;> exact length_enter _ id request _
    | failed => exact length_enter s id request _
    | lost =>
        dsimp only
        split <;> exact length_enter _ id request _

theorem length_commit (json : Option Db.Payload) (delivery : Backend.Delivery) :
    (s.commit id request json delivery).requests.length = s.requests.length := by
  unfold Backend.State.commit
  split
  · exact length_enter s id request _
  · split
    · exact length_enter s id request _
    · cases delivery <;> exact length_enter _ id request _

theorem length_release (reason : Backend.ReleaseReason) (delivery : Backend.Delivery) :
    (s.release id request reason delivery).requests.length = s.requests.length := by
  unfold Backend.State.release
  split
  · exact length_enter s id request _
  · cases delivery <;> exact length_enter _ id request _

theorem length_advance {phase : Backend.Phase} {action : Backend.Action}
    (h : s.advance id request phase action = some t) : t.requests.length = s.requests.length := by
  unfold Backend.State.advance at h
  split at h
  · obtain rfl := Option.some.inj h
    exact length_acquire _ _
  · split at h
    · split at h <;> obtain rfl := Option.some.inj h <;> exact length_enter s id request _
    · cases h
  · split at h
    · cases h
    · obtain rfl := Option.some.inj h
      exact length_enter s id request _
  · obtain rfl := Option.some.inj h
    exact length_enter s id request _
  · obtain rfl := Option.some.inj h
    exact length_enter s id request _
  · obtain rfl := Option.some.inj h
    exact length_enter s id request _
  · obtain rfl := Option.some.inj h
    exact length_commit _ _
  · obtain rfl := Option.some.inj h
    exact length_release _ _
  all_goals first
    | (obtain rfl := Option.some.inj h; exact length_enter s id request _)
    | cases h

/-- A request after a step that is no arrival is one from before, but for its phase. -/
theorem request_of_step {action : Backend.Action} (haction : ∃ id, action.request? = some id)
    (h : Backend.step s action = some t) :
    t.requests.length = s.requests.length ∧ ∀ (id' : Nat) (request' : Backend.Request),
      t.requests[id']? = some request' →
      ∃ request, s.requests[id']? = some request ∧ request' = { request with phase := request'.phase } := by
  have hlength : t.requests.length = s.requests.length := by
    cases action with
    | arrive => simp [Backend.Action.request?] at haction
    | acquire | consumeToken | startTool | finishTool | commit | release | abandon =>
        obtain ⟨_, -, hadvance⟩ := Option.bind_eq_some_iff.mp h
        exact length_advance hadvance
  constructor
  · exact hlength
  · intro id' request' hfound
    have hlt : id' < s.requests.length := hlength ▸ (List.getElem?_eq_some_iff.mp hfound).1
    obtain ⟨phase, hkept⟩ := Backend.step_keeps (List.getElem?_eq_getElem hlt) h
    obtain rfl := Option.some.inj (hkept.symm.trans hfound)
    exact ⟨_, List.getElem?_eq_getElem hlt, rfl⟩

end Requests

/-! ## The tools and the broker -/

section Broker

variable {config : Config} {parameters : ToolParameters} {key : String} {calendar : List GoogleEvent} {run : BrokerRun}
  {call other : Call} {object result : JsonObject}

/-- A call reaches the engine as a request of its tool. -/
theorem accept_toolName (h : config.accept call = some parameters) : parameters.toolName = call.toolName := by
  unfold Config.accept at h
  cases hvalid : validateToolParams config.lax config.dates call.params call.toolName with
  | none =>
      rw [hvalid] at h
      cases h
  | some params =>
      have htool := Backend.toolName_of_validate hvalid
      rw [hvalid] at h
      cases params with
      | bookEvent title startTime timezone durationMinutes attendees description location =>
          obtain rfl := Option.some.inj h
          exact htool
      | cancelEvent eventId reason confirm confirmationToken =>
          cases confirm with
          | false => cases h
          | true =>
              obtain ⟨token, -, rfl⟩ := Option.map_eq_some_iff.mp h
              exact htool
      | getCalendarAvailability => cases h
      | listEvents => cases h

theorem accept_of_logicalAction (h : call.logicalAction = other.logicalAction) :
    config.accept call = config.accept other := by
  rw [Config.accept, Config.accept, params_of_logicalAction h, toolName_of_logicalAction h]

/-- The key of the request is in the payload. -/
theorem payload_key {payload : BookPayload} (h : config.payload parameters key = some payload) :
    payload.requestKey = key := by
  cases parameters with
  | bookEvent title startTime timezone durationMinutes attendees description location =>
      obtain ⟨companyId, -, hrest⟩ := Option.bind_eq_some_iff.mp h
      obtain ⟨start, -, hpayload⟩ := Option.bind_eq_some_iff.mp hrest
      obtain rfl := Option.some.inj hpayload
      rfl
  | getCalendarAvailability => cases h
  | cancelEvent => cases h
  | listEvents => cases h

/-- What the broker does to the calendar: nothing, the booking of the request under its key, or the cancellation of the
event that it names. -/
theorem serve_calendar (config : Config) (run : BrokerRun) (parameters : ToolParameters) (key : String)
    (calendar : List GoogleEvent) :
    (config.serve run parameters key calendar).2 = calendar ∨
      (∃ payload start stop links, config.payload parameters key = some payload ∧
        bookingStart config.datetime payload.startTime = some start ∧
        plusMinutes start payload.durationMinutes = .ok stop ∧
        (config.serve run parameters key calendar).2 =
          calendar ++ [bookedEvent config.datetime config.providerEventId payload start stop links]) ∨
      ∃ target, config.cancelledId parameters = some target ∧
        (config.serve run parameters key calendar).2 =
          updateWhere (fun event => event.id = target) GoogleEvent.cancel calendar := by
  have hbook : ∀ payload,
      (calendarBook config.datetime config.providerEventId run.book payload calendar).2 = calendar ∨
      ∃ start stop links, bookingStart config.datetime payload.startTime = some start ∧
        plusMinutes start payload.durationMinutes = .ok stop ∧
        (calendarBook config.datetime config.providerEventId run.book payload calendar).2 =
          calendar ++ [bookedEvent config.datetime config.providerEventId payload start stop links] := by
    intro payload
    rcases GoogleCalendar.calendarBook_calendar config.datetime config.providerEventId run.book payload calendar with
      hsame | ⟨-, start, stop, hstart, hstop, -, hnew⟩
    · exact .inl hsame
    · exact .inr ⟨start, stop, run.book.links, hstart, hstop, hnew⟩
  cases parameters with
  | bookEvent title startTime timezone durationMinutes attendees description location =>
      unfold Config.serve
      dsimp only
      split
      · rename_i payload hpayload
        rcases hbook payload with hsame | ⟨start, stop, links, hbooked⟩
        · exact .inl hsame
        · exact .inr (.inl ⟨payload, start, stop, links, hpayload, hbooked⟩)
      · exact .inl rfl
  | cancelEvent eventId reason confirmationToken =>
      unfold Config.serve
      dsimp only
      split
      · rename_i companyId hparse
        rcases GoogleCalendar.calendarCancel_calendar run.cancelToken run.delete calendar config.denotes
          ⟨companyId, eventId⟩ with hsame | hcancelled
        · exact .inl hsame
        · exact .inr (.inr ⟨_, rfl, hcancelled⟩)
      · exact .inl rfl
  | getCalendarAvailability => exact .inl rfl
  | listEvents => exact .inl rfl

theorem serve_confirmed (htool : parameters.toolName = .bookEvent)
    (h : (config.serve run parameters key calendar).1.result? = some object)
    (hconfirmed : object.status = some "confirmed") :
    ∃ event ∈ (config.serve run parameters key calendar).2, event.id = config.providerEventId key := by
  cases parameters with
  | bookEvent title startTime timezone durationMinutes attendees description location =>
      unfold Config.serve at h ⊢
      dsimp only at h ⊢
      split at h
      · rename_i payload hpayload
        cases hanswer : (calendarBook config.datetime config.providerEventId run.book payload calendar).1 with
        | error statusCode =>
            simp only [hanswer, brokerAnswer] at h
            cases h
        | ok answer =>
            simp only [hanswer, brokerAnswer, ProviderAnswer.result?, Option.some.injEq] at h
            subst h
            rw [← payload_key hpayload]
            exact GoogleCalendar.calendarBook_confirmed hanswer hconfirmed
      · cases h
  | getCalendarAvailability => cases htool
  | cancelEvent => cases htool
  | listEvents => cases htool

/-- A booking is returned as confirmed if the broker has confirmed it. -/
theorem bookEventResult_confirmed {answer : JsonObject}
    {store : Db.BookingStatus → String → Option (Uuid × Db.BookingStatus)}
    (h : Backend.bookEventResult answer store = some result) (hconfirmed : result.status = some "confirmed") :
    answer.status = some "confirmed" := by
  unfold Backend.bookEventResult at h
  split at h
  · obtain ⟨queued, -, hresult⟩ := Option.bind_eq_some_iff.mp h
    obtain rfl := Option.some.inj hresult
    exact absurd hconfirmed (by simp [JsonObject.status, JsonObject.text?, OrderedMap.ofPairs, OrderedMap.get_set])
  · split at h
    · rename_i hreconnect
      obtain ⟨queued, -, hresult⟩ := Option.bind_eq_some_iff.mp h
      obtain rfl := Option.some.inj hresult
      rw [Backend.status_set (by decide), Backend.status_set (by decide)] at hconfirmed
      exact hconfirmed
    · split at h
      · obtain rfl := Option.some.inj h
        rwa [Backend.status_set (by decide)] at hconfirmed
      · obtain rfl := Option.some.inj h
        exact hconfirmed

/-- A tool that returns a confirmation is a booking that the broker has confirmed. -/
theorem callTool_confirmed {request : Backend.Request} {answer : ProviderAnswer}
    {created : Option (Uuid × Db.BookingStatus)}
    (h : request.callTool (config.services answer created) config.context = some result)
    (hconfirmed : result.status = some "confirmed") :
    request.toolName = .bookEvent ∧ ∃ object, answer = .returned object ∧ object.status = some "confirmed" := by
  obtain ⟨userId, key, parameters, phase⟩ := request
  cases parameters with
  | bookEvent title startTime timezone durationMinutes attendees description location =>
      obtain ⟨payload, -, hbook⟩ := Option.bind_eq_some_iff.mp h
      constructor
      · rfl
      · cases answer with
        | returned object =>
            simp only [Backend.bookEvent, Config.services, bind, Option.bind_some] at hbook
            exact ⟨object, rfl, bookEventResult_confirmed hbook hconfirmed⟩
        | httpError statusCode =>
            -- the tool makes an answer of its own
            simp only [Backend.bookEvent, Config.services, bind, Option.bind_some] at hbook
            split at hbook
            · cases hbook
            · have hqueued := bookEventResult_confirmed hbook hconfirmed
              exact absurd hqueued (by decide)
        | raised => cases hbook
  | cancelEvent eventId reason confirmationToken =>
      obtain ⟨companyId, -, hcancel⟩ := Option.bind_eq_some_iff.mp h
      obtain ⟨object, -, hresult⟩ := Option.bind_eq_some_iff.mp hcancel
      obtain rfl := Option.some.inj hresult
      unfold Backend.cancelEventResult at hconfirmed
      split at hconfirmed <;>
        simp [JsonObject.status, JsonObject.text?, OrderedMap.ofPairs, OrderedMap.get_set] at hconfirmed
  | getCalendarAvailability startDate endDate durationMinutes timezone =>
      obtain ⟨companyId, -, hrest⟩ := Option.bind_eq_some_iff.mp h
      obtain ⟨object, hanswer, -⟩ := Option.bind_eq_some_iff.mp hrest
      cases hanswer
  | listEvents startDate endDate timezone =>
      obtain ⟨companyId, -, hanswer⟩ := Option.bind_eq_some_iff.mp h
      cases hanswer

end Broker

/-! ## The invariant -/

/-- The request is that of the call, under its key. -/
structure Sent (config : Config) (keys : OrderedMap (List Char) String) (call : Call) (request : Backend.Request) :
    Prop where
  accepted : config.accept call = some request.parameters
  key : keys.get call.logicalAction = some request.idempotencyKey

structure Invariant (config : Config) (s : State) : Prop where
  aligned : s.calls.length = s.backend.requests.length
  sent : ∀ (id : Nat) (request : Backend.Request), s.backend.requests[id]? = some request →
    ∃ call, s.calls[id]? = some call ∧ Sent config s.keys call request
  /-- the keys of different actions have different events -/
  keyed : ∀ action other key key', s.keys.get action = some key → s.keys.get other = some key' →
    config.providerEventId key = config.providerEventId key' → action = other
  /-- an event under a key of the session is the one that its action books, and is cancelled only if that was asked for -/
  events : ∀ event ∈ s.calendar, ∀ call key, s.keys.get call.logicalAction = some key →
    event.id = config.providerEventId key →
    config.EventFor call key event ∧ (event.cancelled = true → event.id ∈ s.cancelled)
  /-- what the broker or a tool has confirmed has an event -/
  served : ∀ id object, (id, object) ∈ s.served → object.status = some "confirmed" →
    ∀ request, s.backend.requests[id]? = some request → request.toolName = .bookEvent →
    ∃ event ∈ s.calendar, event.id = config.providerEventId request.idempotencyKey
  results : ∀ key object, (key, object) ∈ s.results → object.status = some "confirmed" →
    ∃ event ∈ s.calendar, event.id = config.providerEventId key
  cancels : ∀ (id : Nat) (request : Backend.Request), s.backend.requests[id]? = some request →
    ∀ target, config.cancelledId request.parameters = some target → target ∈ s.cancelled
  /-- no cancellation of the awaited booking has been asked for -/
  waiting : ∀ (id : Nat) (request : Backend.Request), s.waiting = some id → s.backend.requests[id]? = some request →
    request.toolName = .bookEvent → config.providerEventId request.idempotencyKey ∉ s.cancelled
  /-- a request whose answer is known has been sent -/
  numbered : ∀ id object, (id, object) ∈ s.served → id < s.backend.requests.length
  answers : ∀ answer ∈ s.answers, config.Backed answer

section Invariant

variable {config : Config} {s t : State}

theorem invariant_initial (table : List Db.IdempotencyRow) (calendar : List GoogleEvent) :
    Invariant config (State.initial table calendar) where
  aligned := rfl
  sent := by intro id request h; cases h
  keyed := by intro action other key key' h; cases h
  events := by intro event _ call key h; cases h
  served := by intro id object h; cases h
  results := by intro key object h; cases h
  cancels := by intro id request h; cases h
  waiting := by intro id request h; cases h
  numbered := by intro id object h; cases h
  answers := by intro answer h; cases h

/-- What a fresh key is not. -/
theorem isFresh_iff {fresh : String} (h : s.isFresh config fresh = true) :
    (∀ action key, s.keys.get action = some key → config.providerEventId key ≠ config.providerEventId fresh) ∧
      (∀ event ∈ s.calendar, event.id ≠ config.providerEventId fresh) ∧ config.providerEventId fresh ∉ s.cancelled := by
  simp only [State.isFresh, Bool.and_eq_true, List.all_eq_true, decide_eq_true_eq, Bool.not_eq_true',
    List.contains_eq_mem, decide_eq_false_iff_not] at h
  obtain ⟨⟨⟨-, hkeys⟩, hcalendar⟩, hcancelled⟩ := h
  constructor
  · intro action key hkey
    exact hkeys (action, key) (OrderedMap.mem_entries.mpr hkey)
  · exact ⟨hcalendar, hcancelled⟩

/-- A new key changes nothing for the keys that are held. -/
theorem Invariant.newKey (h : Invariant config s) {call : Call} {fresh : String}
    (hnone : s.keys.get call.logicalAction = none) (hfresh : s.isFresh config fresh = true) :
    Invariant config { s with keys := s.keys.set call.logicalAction fresh } := by
  obtain ⟨hkeys, hcalendar, -⟩ := isFresh_iff hfresh
  have hget : ∀ {action key}, (s.keys.set call.logicalAction fresh).get action = some key →
      s.keys.get action = some key ∨ action = call.logicalAction ∧ key = fresh := by
    intro action key hkey
    rw [OrderedMap.get_set] at hkey
    split at hkey
    · rename_i haction
      exact .inr ⟨haction, (Option.some.inj hkey).symm⟩
    · exact .inl hkey
  constructor
  · exact h.aligned
  · intro id request hfound
    obtain ⟨call', hcall, hsent⟩ := h.sent id request hfound
    refine ⟨call', hcall, hsent.accepted, ?_⟩
    have hne : call'.logicalAction ≠ call.logicalAction := by
      intro heq
      have hkey := hsent.key
      rw [heq, hnone] at hkey
      cases hkey
    exact (OrderedMap.get_set_ne hne).trans hsent.key
  · intro action other key key' hkey hkey' hid
    rcases hget hkey with hheld | ⟨rfl, rfl⟩
    · rcases hget hkey' with hheld' | ⟨rfl, rfl⟩
      · exact h.keyed action other key key' hheld hheld' hid
      · exact absurd hid (hkeys action key hheld)
    · rcases hget hkey' with hheld' | ⟨rfl, rfl⟩
      · exact absurd hid.symm (hkeys other key' hheld')
      · rfl
  · intro event hevent call' key hkey hid
    rcases hget hkey with hheld | ⟨-, rfl⟩
    · exact h.events event hevent call' key hheld hid
    · exact absurd hid (hcalendar event hevent)
  · exact h.served
  · exact h.results
  · exact h.cancels
  · exact h.waiting
  · exact h.numbered
  · exact h.answers

/-- The call becomes a request. -/
theorem Invariant.send (h : Invariant config s) {call : Call} {key : String} {parameters : ToolParameters}
    (haccept : config.accept call = some parameters) (hkey : s.keys.get call.logicalAction = some key)
    (huncancelled : call.toolName = .bookEvent → config.providerEventId key ∉ s.cancelled)
    (hsend : s.send config call key parameters = some t) : Invariant config t := by
  obtain ⟨backend, harrive, hsent⟩ := Option.bind_eq_some_iff.mp hsend
  obtain rfl := Option.some.inj hsent
  have hbackend : backend = { s.backend with
      requests := s.backend.requests ++ [⟨config.companyId, key, parameters, .received⟩] } := by
    unfold Backend.step at harrive
    dsimp only at harrive
    split at harrive
    · cases harrive
    · exact (Option.some.inj harrive).symm
  subst hbackend
  have hmono : ∀ target, target ∈ s.cancelled → target ∈ (config.cancelledId parameters).toList ++ s.cancelled :=
    fun target hmem => List.mem_append_right _ hmem
  constructor
  · show (s.calls ++ [call]).length = (s.backend.requests ++ [_]).length
    rw [List.length_append, List.length_append, h.aligned]
    rfl
  · intro id request hid
    rcases getElem?_concat_cases hid with hold | ⟨rfl, rfl⟩
    · obtain ⟨call', hcall, hsent'⟩ := h.sent id request hold
      have hlt := (List.getElem?_eq_some_iff.mp hcall).1
      exact ⟨call', (List.getElem?_append_left hlt).trans hcall, hsent'⟩
    · refine ⟨call, ?_, haccept, hkey⟩
      show (s.calls ++ [call])[s.backend.requests.length]? = some call
      rw [← h.aligned, List.getElem?_concat_length]
  · exact h.keyed
  · intro event hevent call' key' hkey' hid
    obtain ⟨hbooked, hasked⟩ := h.events event hevent call' key' hkey' hid
    exact ⟨hbooked, fun hcancelled => hmono _ (hasked hcancelled)⟩
  · intro id object hserved hconfirmed request hid
    rcases getElem?_concat_cases hid with hold | ⟨rfl, rfl⟩
    · exact h.served id object hserved hconfirmed request hold
    · exact absurd (h.numbered _ object hserved) (Nat.lt_irrefl _)
  · exact h.results
  · intro id request hid target htarget
    rcases getElem?_concat_cases hid with hold | ⟨rfl, rfl⟩
    · exact hmono _ (h.cancels id request hold target htarget)
    · exact List.mem_append_left _ (Option.mem_toList.mpr htarget)
  · intro id request hwaiting hid htool
    obtain rfl := Option.some.inj hwaiting
    rcases getElem?_concat_cases hid with hold | ⟨-, rfl⟩
    · exact absurd (List.getElem?_eq_some_iff.mp hold).1 (Nat.lt_irrefl _)
    · -- a booking cancels nothing
      have hnone : config.cancelledId parameters = none := by
        cases parameters with
        | cancelEvent => cases htool
        | bookEvent => rfl
        | getCalendarAvailability => rfl
        | listEvents => rfl
      show config.providerEventId key ∉ (config.cancelledId parameters).toList ++ s.cancelled
      rw [hnone]
      exact huncancelled ((accept_toolName haccept).symm.trans htool)
  · intro id object hserved
    show id < (s.backend.requests ++ [_]).length
    rw [List.length_append]
    exact Nat.lt_add_right _ (h.numbered id object hserved)
  · exact h.answers

/-- The backend steps, and the requests keep their parameters. -/
theorem Invariant.backendStep (h : Invariant config s) {action : Backend.Action} {backend : Backend.State}
    (haction : ∃ id, action.request? = some id) (hstep : Backend.step s.backend action = some backend) :
    Invariant config { s with backend := backend } := by
  obtain ⟨hlength, hrequests⟩ := request_of_step haction hstep
  constructor
  · exact h.aligned.trans hlength.symm
  · intro id request' hfound
    obtain ⟨request, hold, hsame⟩ := hrequests id request' hfound
    obtain ⟨call, hcall, hsent⟩ := h.sent id request hold
    exact ⟨call, hcall, hsame ▸ hsent.accepted, hsame ▸ hsent.key⟩
  · exact h.keyed
  · exact h.events
  · intro id object hserved hconfirmed request' hfound htool
    obtain ⟨request, hold, hsame⟩ := hrequests id request' hfound
    rw [hsame] at htool ⊢
    exact h.served id object hserved hconfirmed request hold htool
  · exact h.results
  · intro id request' hfound target htarget
    obtain ⟨request, hold, hsame⟩ := hrequests id request' hfound
    rw [hsame] at htarget
    exact h.cancels id request hold target htarget
  · intro id request' hwaiting hfound htool
    obtain ⟨request, hold, hsame⟩ := hrequests id request' hfound
    rw [hsame] at htool ⊢
    exact h.waiting id request hwaiting hold htool
  · intro id object hserved
    exact Nat.lt_of_lt_of_eq (h.numbered id object hserved) hlength.symm
  · exact h.answers

/-- What a tool returns is a confirmation only if the broker has confirmed. -/
theorem Invariant.finish (h : Invariant config s) {id : Nat} {request : Backend.Request} {answer : ProviderAnswer}
    (created : Option (Uuid × Db.BookingStatus)) (hfound : s.backend.requests[id]? = some request)
    (hanswer : s.mayAnswer id answer = true) :
    Invariant config { s with
      results := ((request.callTool (config.services answer created) config.context).map fun object =>
        (request.idempotencyKey, object)).toList ++ s.results } := by
  refine { h with results := ?_ }
  intro key object hmem hconfirmed
  rcases List.mem_append.mp hmem with hnew | hold
  · obtain ⟨result, hresult, heq⟩ := Option.map_eq_some_iff.mp (Option.mem_toList.mp hnew)
    obtain ⟨rfl, rfl⟩ := Prod.mk.inj heq
    obtain ⟨htool, confirmation, rfl, hstatus⟩ := callTool_confirmed hresult hconfirmed
    exact h.served id confirmation (List.contains_iff_mem.mp hanswer) hstatus request hfound htool
  · exact h.results key object hold hconfirmed

/-- Cancelling an event keeps what it was booked as. -/
theorem eventFor_cancel {call : Call} {key : String} {event : GoogleEvent} (h : config.EventFor call key event) :
    config.EventFor call key event.cancel :=
  h

/-- The broker serves a request. -/
theorem Invariant.serve (h : Invariant config s) {id : Nat} {request : Backend.Request} {run : BrokerRun}
    (hfound : s.backend.requests[id]? = some request) :
    Invariant config { s with
      calendar := (config.serve run request.parameters request.idempotencyKey s.calendar).2
      served := ((config.serve run request.parameters request.idempotencyKey s.calendar).1.result?.map fun object =>
        (id, object)).toList ++ s.served } := by
  obtain ⟨call, hcall, hsent⟩ := h.sent id request hfound
  have hcalendar := serve_calendar config run request.parameters request.idempotencyKey s.calendar
  -- no event is lost
  have hkept : ∀ eventId, (∃ event ∈ s.calendar, event.id = eventId) →
      ∃ event ∈ (config.serve run request.parameters request.idempotencyKey s.calendar).2, event.id = eventId := by
    rintro eventId ⟨event, hevent, hid⟩
    rcases hcalendar with hsame | ⟨payload, start, stop, links, -, -, -, hnew⟩ | ⟨target, -, hcancelled⟩
    · rw [hsame]
      exact ⟨event, hevent, hid⟩
    · rw [hnew]
      exact ⟨event, List.mem_append_left _ hevent, hid⟩
    · rw [hcancelled]
      obtain ⟨event', hevent', hid'⟩ : ∃ event' ∈ updateWhere (fun event => decide (event.id = target))
          GoogleEvent.cancel s.calendar, event'.id = event.id :=
        exists_mem_updateWhere (by intro _; rfl) hevent
      exact ⟨event', hevent', hid'.trans hid⟩
  constructor
  · exact h.aligned
  · exact h.sent
  · exact h.keyed
  · intro event hevent call' key' hkey' hid
    rcases hcalendar with
      hsame | ⟨payload, start, stop, links, hpayload, hstart, hstop, hnew⟩ | ⟨target, htarget, hcancelled⟩
    · exact h.events event (hsame ▸ hevent) call' key' hkey' hid
    · rcases List.mem_append.mp (hnew ▸ hevent) with hold | hbooked
      · exact h.events event hold call' key' hkey' hid
      · -- the new event is under the key of the request, so the two calls are one action
        obtain rfl := List.mem_singleton.mp hbooked
        have hkey : config.providerEventId key' = config.providerEventId request.idempotencyKey := by
          rw [← hid, ← payload_key hpayload]
          rfl
        have haction := h.keyed _ _ _ _ hkey' hsent.key hkey
        have hsame : key' = request.idempotencyKey := by
          rw [haction, hsent.key] at hkey'
          exact (Option.some.inj hkey').symm
        constructor
        · refine ⟨request.parameters, payload, start, stop, links, ?_, ?_, hstart, hstop, rfl⟩
          · exact (accept_of_logicalAction haction).trans hsent.accepted
          · exact hsame ▸ hpayload
        · intro hcancelled
          cases hcancelled
    · obtain ⟨event', hevent', hchanged⟩ := mem_updateWhere (hcancelled ▸ hevent)
      rcases hchanged with ⟨hcondition, rfl⟩ | ⟨-, rfl⟩
      · obtain ⟨hbooked, -⟩ := h.events event' hevent' call' key' hkey' hid
        refine ⟨eventFor_cancel hbooked, fun _ => ?_⟩
        have hnamed : event'.id = target := of_decide_eq_true hcondition
        show event'.id ∈ s.cancelled
        rw [hnamed]
        exact h.cancels id request hfound target htarget
      · exact h.events _ hevent' call' key' hkey' hid
  · intro id' object hserved hconfirmed request' hfound' htool
    rcases List.mem_append.mp hserved with hnew | hold
    · obtain ⟨answer, hanswer, heq⟩ := Option.map_eq_some_iff.mp (Option.mem_toList.mp hnew)
      obtain ⟨rfl, rfl⟩ := Prod.mk.inj heq
      obtain rfl := Option.some.inj (hfound.symm.trans hfound')
      exact serve_confirmed htool hanswer hconfirmed
    · exact hkept _ (h.served id' object hold hconfirmed request' hfound' htool)
  · intro key object hmem hconfirmed
    exact hkept _ (h.results key object hmem hconfirmed)
  · exact h.cancels
  · exact h.waiting
  · intro id' object hserved
    rcases List.mem_append.mp hserved with hnew | hold
    · obtain ⟨answer, -, heq⟩ := Option.map_eq_some_iff.mp (Option.mem_toList.mp hnew)
      obtain ⟨rfl, -⟩ := Prod.mk.inj heq
      exact (List.getElem?_eq_some_iff.mp hfound).1
    · exact h.numbered id' object hold
  · exact h.answers

/-- The awaited booking is returned: a confirmation is backed. -/
theorem Invariant.receive (h : Invariant config s) {id : Nat} {call : Call} {request : Backend.Request}
    {result : JsonObject} (hwaiting : s.waiting = some id) (hcall : s.calls[id]? = some call)
    (hfound : s.backend.requests[id]? = some request) (hresult : (request.idempotencyKey, result) ∈ s.results) :
    Invariant config { s with waiting := none, answers := ⟨call, result, s.calendar⟩ :: s.answers } := by
  obtain ⟨call', hcall', hsent⟩ := h.sent id request hfound
  obtain rfl := Option.some.inj (hcall.symm.trans hcall')
  refine { h with waiting := ?_, answers := ?_ }
  · intro id' request' hnone
    cases hnone
  · intro answer hanswer
    rcases List.mem_cons.mp hanswer with rfl | hold
    · intro htool hconfirmed
      obtain ⟨event, hevent, hid⟩ := h.results _ result hresult hconfirmed
      obtain ⟨hbooked, hasked⟩ := h.events event hevent call _ hsent.key hid
      refine ⟨_, event, hevent, hbooked, ?_⟩
      have htool' : request.toolName = .bookEvent := (accept_toolName hsent.accepted).trans htool
      cases hcancelled : event.cancelled with
      | false => rfl
      | true => exact absurd (hid ▸ hasked hcancelled) (h.waiting id request hwaiting hfound htool')
    · exact h.answers answer hold

/-- A session in which every booking is of an event that nobody was asked to cancel keeps the invariant. -/
theorem Invariant.step (h : Invariant config s) {action : Action} (hbooks : BooksUncancelled config s action)
    (hstep : AgentSession.step config s action = some t) : Invariant config t := by
  cases action with
  | call call fresh reached =>
      unfold AgentSession.step at hstep
      dsimp only at hstep
      split at hstep
      · obtain ⟨⟨key, s'⟩, hkeyed, hsends⟩ := Option.bind_eq_some_iff.mp hstep
        -- the key is held, or it is new
        have hinv : Invariant config s' ∧ s'.keys.get call.logicalAction = some key ∧
            (call.toolName = .bookEvent → config.providerEventId key ∉ s'.cancelled) := by
          unfold State.stableWriteKey at hkeyed
          cases hheld : s.keys.get call.logicalAction with
          | some held =>
              rw [hheld] at hkeyed
              obtain ⟨rfl, rfl⟩ := Prod.mk.inj (Option.some.inj hkeyed)
              exact ⟨h, hheld, fun htool => hbooks htool _ hheld⟩
          | none =>
              rw [hheld] at hkeyed
              dsimp only at hkeyed
              split at hkeyed
              · rename_i hfresh
                obtain ⟨rfl, rfl⟩ := Prod.mk.inj (Option.some.inj hkeyed)
                exact ⟨h.newKey hheld hfresh, OrderedMap.get_set_self, fun _ => (isFresh_iff hfresh).2.2⟩
              · cases hkeyed
        obtain ⟨hinv, hkey, huncancelled⟩ := hinv
        dsimp only at hsends
        split at hsends
        · rename_i parameters haccept
          split at hsends
          · exact hinv.send haccept hkey huncancelled hsends
          · exact Option.some.inj hsends ▸ hinv
        · exact Option.some.inj hsends ▸ hinv
      · cases hstep
  | backend action =>
      unfold AgentSession.step at hstep
      dsimp only at hstep
      cases action with
      | arrive | finishTool => cases hstep
      | acquire | consumeToken | startTool | commit | release | abandon =>
          obtain ⟨backend, hbackend, rfl⟩ := Option.map_eq_some_iff.mp hstep
          exact h.backendStep ⟨_, rfl⟩ hbackend
  | serve id run =>
      obtain ⟨request, hfound, hserves⟩ := Option.bind_eq_some_iff.mp hstep
      dsimp only at hserves
      split at hserves
      · exact Option.some.inj hserves ▸ h.serve hfound
      · cases hserves
  | finish id answer created =>
      obtain ⟨request, hfound, hrest⟩ := Option.bind_eq_some_iff.mp hstep
      obtain ⟨backend, hbackend, hends⟩ := Option.bind_eq_some_iff.mp hrest
      split at hends
      · rename_i hanswer
        have hinv := (h.finish created hfound hanswer).backendStep ⟨id, rfl⟩ hbackend
        exact Option.some.inj hends ▸ hinv
      · cases hends
  | receive result =>
      obtain ⟨id, hwaiting, hrest⟩ := Option.bind_eq_some_iff.mp hstep
      obtain ⟨call, hcall, hrest⟩ := Option.bind_eq_some_iff.mp hrest
      obtain ⟨request, hfound, hreceives⟩ := Option.bind_eq_some_iff.mp hrest
      split at hreceives
      · split at hreceives
        · rename_i hresult
          exact Option.some.inj hreceives ▸ h.receive hwaiting hcall hfound hresult.2
        · cases hreceives
      · cases hreceives
  | leave =>
      obtain ⟨id, -, rfl⟩ := Option.map_eq_some_iff.mp hstep
      refine { h with waiting := ?_ }
      intro id' request' hnone
      cases hnone

end Invariant

/-- In a session that does not repeat a booking after its event was to be cancelled, every booking that is returned as
confirmed has a confirmed event in the calendar at that moment. -/
theorem confirmed_present {config : Config} {table : List Db.IdempotencyRow} {calendar : List GoogleEvent} {s : State}
    (hrun : Reaches (step config) (BooksUncancelled config) (State.initial table calendar) s) :
    ∀ answer ∈ s.answers, config.Backed answer :=
  (hrun.invariant (invariant_initial table calendar) fun _ _ _ hinv hbooks hstep => hinv.step hbooks hstep).answers

/-! ## A booking that is cancelled and made again -/

/-- A company in Mauritius; the id of an event is its key. -/
def sampleConfig : Config where
  companyId := "00000000-0000-0000-0000-000000000001"
  timezone := "Indian/Mauritius"
  context := Backend.sampleContext
  lax := Backend.sampleLax
  dates := Backend.sampleZones
  formatUtc _ _ := some "2026-10-01T06:00:00Z"
  datetime := GoogleCalendar.sampleDatetime
  providerEventId := id
  denotes := id

def sampleBook : Call :=
  .book "Review" "2026-10-01T10:00" 30 [] none none

def sampleCancel : Call :=
  .cancel "key-1" none true (some "token")

/-- Google serves every request. -/
def sampleRun : BrokerRun :=
  ⟨GoogleCalendar.sampleServed, .valid, .served⟩

def sampleConfirmation : JsonObject :=
  .ofPairs [("event_id", .text "key-1"), ("title", .text "Review"), ("start_time", .text "2026-10-01T06:00:00+00:00"),
    ("duration_minutes", .other "30"), ("attendees", .texts []), ("meet_link", .null), ("html_link", .null),
    ("status", .text "confirmed"), ("source", .text "google_calendar_live")]

/-- A booking that is confirmed. -/
def sampleBooking : List Action :=
  [.call sampleBook "key-1" true, .backend (.acquire 0 0 .answered), .backend (.startTool 0), .serve 0 sampleRun,
    .finish 0 (.returned sampleConfirmation) none, .backend (.commit 0 .answered), .receive sampleConfirmation]

/-- The event is cancelled, and the same is booked again. -/
def sampleRebooking : List Action :=
  sampleBooking ++
    [.call sampleCancel "key-2" true, .backend (.acquire 1 1 .answered), .backend (.consumeToken 1 .accepted),
      .backend (.startTool 1), .serve 1 sampleRun, .leave, .call sampleBook "key-3" true,
      .backend (.acquire 2 2 .answered), .receive sampleConfirmation]

def after (actions : List Action) : State :=
  final (step sampleConfig) (State.initial [] []) actions

theorem execute_after {actions : List Action}
    (h : (execute (step sampleConfig) (State.initial [] []) actions).isSome = true) :
    execute (step sampleConfig) (State.initial [] []) actions = some (after actions) :=
  execute_final h

/-- The condition, decided. -/
def booksUncancelled (s : State) : Action → Bool
  | .call call _ _ => (s.keys.get call.logicalAction).all fun key => !s.cancelled.contains (sampleConfig.providerEventId key)
  | _ => true

theorem booksUncancelled_sound {s : State} {action : Action} (h : booksUncancelled s action = true) :
    BooksUncancelled sampleConfig s action := by
  cases action with
  | call call fresh reached =>
      intro _ key hkey
      simpa [booksUncancelled, hkey] using h
  | backend | serve | finish | receive | leave => trivial

theorem confirmed_present_booking :
    ∃ answer ∈ (after sampleBooking).answers, answer.result = sampleConfirmation ∧ sampleConfig.Backed answer := by
  obtain ⟨hchecked, hsome, hanswer⟩ :
      checked (step sampleConfig) booksUncancelled (State.initial [] []) sampleBooking = true ∧
      (execute (step sampleConfig) (State.initial [] []) sampleBooking).isSome = true ∧
      ((after sampleBooking).answers.head?.map Answer.result) = some sampleConfirmation := by
    decide +kernel
  have hrun : Reaches (step sampleConfig) (BooksUncancelled sampleConfig) (State.initial [] []) (after sampleBooking) :=
    .of_checked (fun _ _ _ => booksUncancelled_sound) hchecked (execute_after hsome)
  obtain ⟨answer, hhead, hresult⟩ := Option.map_eq_some_iff.mp hanswer
  have hmem : answer ∈ (after sampleBooking).answers := List.mem_of_head? hhead
  exact ⟨answer, hmem, hresult, confirmed_present hrun answer hmem⟩

/-- The repeated booking is answered from the table: it is confirmed, and its event stays cancelled. -/
theorem confirmed_cancelled :
    ¬ ∀ (config : Config) (table : List Db.IdempotencyRow) (calendar : List GoogleEvent) (s : State),
      Reaches (step config) Always (State.initial table calendar) s →
      ∀ answer ∈ s.answers, config.Backed answer := by
  intro hall
  obtain ⟨hsome, hanswer⟩ :
      (execute (step sampleConfig) (State.initial [] []) sampleRebooking).isSome = true ∧
      ((after sampleRebooking).answers.head?.any fun answer =>
        decide (answer.call.toolName = .bookEvent) && decide (answer.result.status = some "confirmed") &&
          answer.calendar.all GoogleEvent.cancelled) = true := by
    decide +kernel
  have hrun : Reaches (step sampleConfig) Always (State.initial [] []) (after sampleRebooking) :=
    .of_execute (execute_after hsome)
  obtain ⟨answer, hhead, hsays⟩ := (Option.any_eq_true _ _).mp hanswer
  simp only [Bool.and_eq_true, decide_eq_true_eq, List.all_eq_true] at hsays
  obtain ⟨⟨htool, hconfirmed⟩, hcancelled⟩ := hsays
  obtain ⟨key, event, hevent, -, hpresent⟩ := hall _ _ _ _ hrun answer (List.mem_of_head? hhead) htool hconfirmed
  rw [hcancelled event hevent] at hpresent
  cases hpresent

end AgentSession
end VoiceAssistants
