import VoiceAssistants.Db.BookingRequests
import VoiceAssistants.Backend.KeyResolution

/-!
# The calendar tools (`backend/app/tools/calendar.py`) under the dispatcher

What the four tool functions make of an answer of the credential broker, and how the dispatcher classifies their
results: a result whose `status` is `conflict` releases the key, one that asks for a confirmation leaves it, and every
other result is committed.

So the key of a booking or a cancellation is committed exactly when the tool returns something else, whether or not it
reports an effect.  `commit_means_effect_iff` says for which answers of the broker this is what a commit is for.
-/

namespace VoiceAssistants
namespace Backend

open Db Sql Async Collections

/-! ## The tool functions -/

/-- How `broker_post` ends: with a JSON object, with an `HTTPException`, or with another exception. -/
inductive ProviderAnswer
  | returned (result : JsonObject)
  | httpError (statusCode : Nat)
  | raised
  deriving DecidableEq

/-- The body of `/internal/v1/calendar/book`. -/
structure BookPayload where
  companyId : Uuid
  title : String
  startTime : String
  durationMinutes : Nat
  attendees : List String
  description : Option String
  location : Option String
  requestKey : String
  deriving DecidableEq, Repr

/-- The body of `/internal/v1/calendar/availability`. -/
structure AvailabilityPayload where
  companyId : Uuid
  startDate : Option String
  endDate : Option String
  durationMinutes : Nat
  timezone : String
  businessHours : Option (List (String × String))
  deriving DecidableEq, Repr

/-- The arguments of `create_booking_request`. -/
structure NewBookingRequest where
  userId : Uuid
  sessionId : Option String
  idempotencyKey : String
  payload : BookingPayload
  status : BookingStatus
  message : String
  deriving DecidableEq, Repr

/-- What the tools call: the conversion of a start time to UTC, the broker, and the queue of deferred bookings. -/
structure CalendarServices where
  formatUtc : (startTime timezone : String) → Option String
  availability : AvailabilityPayload → ProviderAnswer
  book : BookPayload → ProviderAnswer
  cancel : (companyId : Uuid) → (eventId : String) → ProviderAnswer
  list : (companyId : Uuid) → (startDate endDate : Option String) → (timezone : String) → ProviderAnswer
  createBookingRequest : NewBookingRequest → Option (Uuid × BookingStatus)

/-- What the dispatcher injects: the session, and the business hours of the published profile. -/
structure ToolContext where
  sessionId : Option String
  businessHours : Option (List (String × String))
  deriving DecidableEq, Repr

/-- `result.get("retryable") is True`. -/
def isRetryable (result : JsonObject) : Bool :=
  result.get "retryable" = some (.bool true)

/-- An answer that is returned as it is; every exception is the tool's own. -/
def ProviderAnswer.result? : ProviderAnswer → Option JsonObject
  | returned result => some result
  | httpError _ | raised => none

section Tools

variable (services : CalendarServices) (context : ToolContext)

/-- `get_calendar_availability`; `none` is an exception. -/
def getCalendarAvailability (userId : String) (startDate endDate : Option String) (durationMinutes : Nat)
    (timezone : Option String) : Option JsonObject := do
  let companyId ← Uuid.parse userId
  let zone := orText timezone "Indian/Mauritius"
  let result ← (services.availability
    ⟨companyId, startDate, endDate, durationMinutes, zone, context.businessHours⟩).result?
  match timezone with
  | some named => return if named = "" then result else result.set "timezone" (.text named)
  | none => return result

/-- What `book_event` returns once the broker has answered: a booking that cannot be made now is queued. -/
def bookEventResult (answer : JsonObject) (store : BookingStatus → String → Option (Uuid × BookingStatus)) :
    Option JsonObject :=
  if answer.status = some "temporarily_unavailable" ∨ isRetryable answer = true then do
    let request ← store .pending
      "Calendar is temporarily unavailable. This request is queued and the booking is not confirmed yet."
    return .ofPairs [("status", .text "pending_confirmation"), ("booking_request_id", .text request.1.text),
      ("message", .text ("I received your booking request, but the calendar service is temporarily unavailable. " ++
        "I will retry it and update you when it is confirmed. The booking is not confirmed yet.")),
      ("source", .text "calendar_booking_queue")]
  else if answer.status = some "needs_reconnect" then do
    let request ← store .needsReconnect
      "Reconnect the calendar account to resume this request. The booking is not confirmed yet."
    return (answer.set "booking_request_id" (.text request.1.text)).set "message"
      (.text ("I received your booking request, but the calendar account needs to be reconnected. " ++
        "I will resume it after reconnection and update you when it is confirmed. The booking is not confirmed yet."))
  else if answer.status = some "failed" then
    some (answer.set "message"
      (.text "The calendar could not accept this booking request. The booking is not confirmed."))
  else some answer

/-- The `payload` of `book_event`; `none` is an exception. -/
def bookPayload (userId title startTime : String) (durationMinutes : Nat) (attendees : List String)
    (description location timezone : Option String) (requestKey : String) : Option BookPayload := do
  let companyId ← Uuid.parse userId
  let start ← services.formatUtc startTime (orText timezone "Indian/Mauritius")
  return ⟨companyId, title, start, durationMinutes, attendees, description, location, requestKey⟩

/-- `book_event` once its payload is built. -/
def bookEvent (timezone : Option String) (payload : BookPayload) : Option JsonObject := do
  let answer ← match services.book payload with
    | .returned result => some result
    | .httpError statusCode =>
        if statusCode < 500 then none
        else some (.ofPairs [("status", .text "temporarily_unavailable"), ("retryable", .bool true)])
    | .raised => none
  bookEventResult answer fun status message =>
    services.createBookingRequest ⟨payload.companyId, context.sessionId, payload.requestKey,
      ⟨payload.title, payload.startTime, payload.durationMinutes, payload.attendees, payload.description,
        payload.location, orText timezone "Indian/Mauritius", context.businessHours⟩, status, message⟩

/-- What `cancel_event` returns once the broker has answered. -/
def cancelEventResult (eventId : String) (reason : Option String) (answer : JsonObject) : JsonObject :=
  if answer.status = some "cancelled" then
    .ofPairs [("event_id", .text eventId), ("id", .text eventId), ("status", .text "cancelled"),
      ("reason", match reason with | some text => .text text | none => .null),
      ("source", .text "google_calendar_live")]
  else
    .ofPairs [("status", .text "integration_required"), ("error_code", .text "GOOGLE_CALENDAR_REQUIRED"),
      ("message", .text "The event could not be cancelled through the connected Google Calendar."),
      ("source", .text "google_calendar")]

/-- `cancel_event`, which is executed with `confirm=True`. -/
def cancelEvent (userId eventId : String) (reason : Option String) : Option JsonObject := do
  let companyId ← Uuid.parse userId
  let answer ← (services.cancel companyId eventId).result?
  return cancelEventResult eventId reason answer

/-- `list_events`. -/
def listEvents (userId : String) (startDate endDate timezone : Option String) : Option JsonObject := do
  let companyId ← Uuid.parse userId
  (services.list companyId startDate endDate (orText timezone "Indian/Mauritius")).result?

/-- `tool_func(**call_params)`: a parameter that is `None` is left to its default. -/
def Request.callTool (request : Request) : Option JsonObject :=
  match request.parameters with
  | .getCalendarAvailability startDate endDate durationMinutes timezone =>
      getCalendarAvailability services context request.userId startDate endDate durationMinutes timezone
  | .bookEvent title startTime timezone durationMinutes attendees description location => do
      let payload ← bookPayload services request.userId title startTime durationMinutes attendees description
        (some (location.getD "Google Meet")) timezone request.idempotencyKey
      bookEvent services context timezone payload
  | .cancelEvent eventId reason _ => cancelEvent services request.userId eventId reason
  | .listEvents startDate endDate timezone => listEvents services request.userId startDate endDate timezone

end Tools

/-- How the dispatcher classifies what the tool function has returned. -/
def ToolOutcome.ofResult : Option JsonObject → ToolOutcome
  | none => .raised
  | some result =>
      if result.status = some "conflict" then
        .conflict (result.text? "error") (result.text? "message") result.dumps
      else if result.status = some "confirmation_required" then
        .confirmationRequired (result.text? "message") result.dumps
      else .returned (some (some result.dumps))

/-! ## What a commit is for -/

/-- The result reports that the effect took place or was queued. -/
def reportsEffect (result : JsonObject) : Bool :=
  match result.status with
  | some "confirmed" | some "cancelled" | some "pending_confirmation" => true
  | some "needs_reconnect" => (result.get "booking_request_id").isSome
  | _ => false

/-- The result reports that nothing took place. -/
def reportsNoEffect (result : JsonObject) : Bool :=
  result.status = some "failed" || result.status = some "integration_required"

/-- After the tool function of the request has returned: the key is committed, and the response is a success, only if
the result reports an effect; and if it reports none, the key is about to be released. -/
def CommitMeansEffect (id : Nat) (result : Option JsonObject) (t : State) : Prop :=
  (∀ u, Reaches step Always t u →
    ((∃ lock, Event.committed id lock ∈ u.history) ∨
      ∃ request response, u.requests[id]? = some request ∧ request.phase = .responded response ∧
        response.status = "success") →
    ∃ object, result = some object ∧ reportsEffect object = true) ∧
  ∀ object, result = some object → reportsNoEffect object = true →
    ∃ request, t.requests[id]? = some request ∧ request.phase.isReleasing = true

/-- The statuses of a booking answer that the tool and the dispatcher settle by what they say. -/
def settledStatuses : List String :=
  ["temporarily_unavailable", "needs_reconnect", "confirmed", "conflict", "confirmation_required", "cancelled",
    "pending_confirmation"]

/-- The condition on the broker's answer. -/
def AnswersEffect (services : CalendarServices) (request : Request) : Prop :=
  match request.parameters with
  | .bookEvent title startTime timezone durationMinutes attendees description location =>
      ∀ payload answer, bookPayload services request.userId title startTime durationMinutes attendees description
          (some (location.getD "Google Meet")) timezone request.idempotencyKey = some payload →
        services.book payload = .returned answer →
        isRetryable answer = true ∨ ∃ status ∈ settledStatuses, answer.status = some status
  | .cancelEvent eventId _ _ =>
      ∀ companyId answer, Uuid.parse request.userId = some companyId →
        services.cancel companyId eventId = .returned answer → answer.status = some "cancelled"
  | .getCalendarAvailability .. | .listEvents .. => True

/-! ## Requests that do not commit -/

/-- The request releases its key or has ended, and has neither committed it nor answered with a success. -/
structure Uncommitted (id : Nat) (s : State) : Prop where
  phase : ∃ request, s.requests[id]? = some request ∧
    (request.phase.isReleasing = true ∨ request.phase.unsettled = false ∧ request.phase.outstanding = false) ∧
    ∀ response, request.phase = .responded response → response.status ≠ "success"
  silent : ∀ lock, Event.committed id lock ∉ s.history

section Uncommitted

variable {s t u : State} {action : Action} {id : Nat} {request : Request}

/-- What a release does to its request. -/
theorem release_enters (s : State) (id : Nat) (request : Request) (reason : ReleaseReason) (delivery : Delivery) :
    ∃ phase, (s.release id request reason delivery).requests = (s.enter id request phase).requests ∧
      (phase = .responded reason.response ∨ phase = .afterFailedRelease reason) ∧
      ∀ event ∈ (s.release id request reason delivery).history, event ∈ s.history ∨
        event = .released id request.lock := by
  unfold State.release
  cases releaseIdempotencyLock request.idempotencyKey request.userId s.table with
  | error message => exact ⟨_, rfl, .inr rfl, fun _ hmem => .inl hmem⟩
  | ok result =>
      cases delivery with
      | failed => exact ⟨_, rfl, .inr rfl, fun _ hmem => .inl hmem⟩
      | answered =>
          refine ⟨_, rfl, .inl rfl, fun event hmem => ?_⟩
          rcases List.mem_cons.mp hmem with heq | hold
          · exact .inr heq
          · exact .inl hold
      | lost =>
          refine ⟨_, rfl, .inr rfl, fun event hmem => ?_⟩
          rcases List.mem_cons.mp hmem with heq | hold
          · exact .inr heq
          · exact .inl hold

theorem releaseResponse_ne_success (reason : ReleaseReason) : reason.response.status ≠ "success" := by
  cases reason <;> simp [ReleaseReason.response]

/-- A request that releases its key does not come back to a commit. -/
theorem Uncommitted.step (h : Uncommitted id s) (hstep : Backend.step s action = some t) : Uncommitted id t := by
  obtain ⟨request, hfound, hphase, hresponse⟩ := h.phase
  by_cases haction : action.request? = some id
  · rcases hphase with hreleasing | ⟨hidle, hended⟩
    · have hadvance := advance_of_step hfound haction hstep
      cases hphase : request.phase with
      | releasing reason =>
          rw [hphase] at hadvance
          cases action with
          | release id' delivery =>
              obtain rfl := Option.some.inj haction
              obtain rfl := Option.some.inj hadvance
              obtain ⟨phase, hrequests, hcases, hevents⟩ := release_enters s id' request reason delivery
              constructor
              · refine ⟨{ request with phase := phase }, by rw [hrequests]; exact enter_self hfound, ?_, ?_⟩
                · rcases hcases with rfl | rfl
                  · exact .inr ⟨rfl, rfl⟩
                  · cases reason <;> simp [Phase.afterFailedRelease, Phase.isReleasing, Phase.unsettled,
                      Phase.outstanding]
                · intro response heq
                  rcases hcases with rfl | rfl
                  · obtain rfl : reason.response = response := by simpa using heq
                    exact releaseResponse_ne_success reason
                  · cases reason <;> simp [Phase.afterFailedRelease] at heq
              · intro lock hmem
                rcases hevents _ hmem with hold | heq
                · exact h.silent lock hold
                · cases heq
          | abandon =>
              obtain rfl := Option.some.inj hadvance
              exact ⟨⟨_, enter_self hfound, .inr ⟨rfl, rfl⟩, by simp⟩, h.silent⟩
          | arrive | acquire | consumeToken | startTool | finishTool | commit => cases hadvance
      | received | granted | confirmed | executing | committing | responded | raised | abandoned =>
          simp [hphase, Phase.isReleasing] at hreleasing
    · exact absurd hstep (no_step_of_ended hfound hidle hended haction)
  · obtain ⟨hfound', hevents⟩ := step_other hfound haction hstep
    exact ⟨⟨request, hfound', hphase, hresponse⟩, fun lock hmem => h.silent lock (hevents _ hmem rfl)⟩

theorem Uncommitted.reaches (h : Uncommitted id s) (hrun : Reaches Backend.step Always s t) : Uncommitted id t :=
  hrun.invariant h fun _ _ _ hinv _ hstep => hinv.step hstep

/-- A request that is about to commit a serialised result can do so. -/
theorem commit_possible {result : Payload} (hinv : KeyInvariant s) (hfound : s.requests[id]? = some request)
    (hphase : request.phase = .committing (some result)) :
    ∃ t, step s (.commit id .answered) = some t ∧ Event.committed id request.lock ∈ t.history := by
  obtain ⟨row, -, hparse, -⟩ := hinv.recorded id request hfound (by simp [hphase, Phase.outstanding])
  have hstep : step s (.commit id .answered) = some (s.commit id request (some result) .answered) := by
    simp [step, Action.request?, hfound, hphase, State.advance]
  rw [commit_answered hparse] at hstep
  exact ⟨_, hstep, List.mem_cons_self⟩

end Uncommitted

/-! ## The classification of the results -/

section Classification

/-- The dispatcher commits the result. -/
def isCommitted (result : JsonObject) : Prop :=
  result.status ≠ some "conflict" ∧ result.status ≠ some "confirmation_required"

variable {result answer : JsonObject}

theorem ofResult_of_isCommitted (h : isCommitted result) :
    ToolOutcome.ofResult (some result) = .returned (some (some result.dumps)) := by
  simp [ToolOutcome.ofResult, h.1, h.2]

/-- What is not committed is released, or asks for a confirmation. -/
theorem uncommitted_phase (result? : Option JsonObject) (h : ∀ result, result? = some result → ¬ isCommitted result) :
    let phase := Phase.afterTool (.ofResult result?)
    (phase.isReleasing = true ∨ phase.unsettled = false ∧ phase.outstanding = false) ∧
      ∀ response, phase = .responded response → response.status ≠ "success" := by
  cases result? with
  | none => simp [ToolOutcome.ofResult, Phase.afterTool, Phase.isReleasing]
  | some result =>
      have hnot : ¬ isCommitted result := h result rfl
      unfold isCommitted at hnot
      unfold ToolOutcome.ofResult
      dsimp only
      split
      · simp [Phase.afterTool, Phase.isReleasing]
      · split
        · simp [Phase.afterTool, Phase.isReleasing, Phase.unsettled, Phase.outstanding]
        · rename_i hconflict hconfirmation
          exact absurd ⟨hconflict, hconfirmation⟩ hnot

theorem isCommitted_of_noEffect (h : reportsNoEffect result = true) : isCommitted result := by
  unfold reportsNoEffect at h
  unfold isCommitted
  simp only [Bool.or_eq_true, decide_eq_true_eq] at h
  rcases h with h | h <;> simp [h]

theorem reportsEffect_of_noEffect (h : reportsNoEffect result = true) : reportsEffect result = false := by
  unfold reportsNoEffect at h
  simp only [Bool.or_eq_true, decide_eq_true_eq] at h
  rcases h with h | h <;> simp [reportsEffect, h]

/-- The property of a run comes down to what the result reports. -/
theorem commitMeansEffect_iff_reports {s t : State} {id : Nat} {request : Request} {result? : Option JsonObject}
    (hinv : KeyInvariant s) (hfound : s.requests[id]? = some request)
    (hstep : step s (.finishTool id (.ofResult result?)) = some t) :
    CommitMeansEffect id result? t ↔
      ∀ result, result? = some result → isCommitted result → reportsEffect result = true := by
  have hadvance := advance_of_step hfound rfl hstep
  have hphase : request.phase = .executing := by
    cases hphase : request.phase <;> simp only [hphase, State.advance] at hadvance <;> cases hadvance
    rfl
  rw [hphase] at hadvance
  obtain rfl := Option.some.inj hadvance
  have hnone : Unsettled id s := hinv.unsettled id request hfound (by simp [hphase, Phase.unsettled])
  constructor
  · intro hmeans result hresult hcommitted
    subst hresult
    have hcommitting : ((s.enter id request (.afterTool (.ofResult (some result)))).record
        (.finished id request.lock)).requests[id]? =
        some { request with phase := .committing (some (some result.dumps)) } := by
      rw [ofResult_of_isCommitted hcommitted]
      exact enter_self hfound
    obtain ⟨u, hcommit, hmem⟩ := commit_possible (hinv.step hstep) hcommitting rfl
    obtain ⟨object, hobject, hreports⟩ := hmeans.1 u (.tail .refl trivial hcommit) (.inl ⟨_, hmem⟩)
    obtain rfl := Option.some.inj hobject
    exact hreports
  · intro hreports
    constructor
    · intro u hu hcommitted
      by_cases hany : ∃ result, result? = some result ∧ isCommitted result
      · obtain ⟨result, hresult, hcommitted'⟩ := hany
        exact ⟨result, hresult, hreports result hresult hcommitted'⟩
      · -- the request releases its key or has ended
        exfalso
        obtain ⟨hreleases, hresponse⟩ :=
          uncommitted_phase result? fun result hresult hcommitted' => hany ⟨result, hresult, hcommitted'⟩
        have hstart : Uncommitted id ((s.enter id request (.afterTool (.ofResult result?))).record
            (.finished id request.lock)) := by
          refine ⟨⟨_, enter_self hfound, hreleases, hresponse⟩, fun lock hmem => ?_⟩
          rcases List.mem_cons.mp hmem with heq | hold
          · cases heq
          · exact (hnone lock).1 hold
        have hend := hstart.reaches hu
        rcases hcommitted with ⟨lock, hmem⟩ | ⟨request', response, hfound', hanswered, hsuccess⟩
        · exact hend.silent lock hmem
        · obtain ⟨request'', hfound'', -, hnot⟩ := hend.phase
          obtain rfl := Option.some.inj (hfound''.symm.trans hfound')
          exact hnot response hanswered hsuccess
    · intro object hobject hnothing
      have heffect := hreports object hobject (isCommitted_of_noEffect hnothing)
      rw [reportsEffect_of_noEffect hnothing] at heffect
      cases heffect

theorem status_set {key : String} {member : JsonValue} (h : "status" ≠ key) :
    JsonObject.status (answer.set key member) = answer.status :=
  JsonObject.text?_set_ne h

/-- What `book_event` returns for an answer is settled by what it reports exactly if the answer is retryable or has one
of the settled statuses. -/
theorem bookEventResult_reports {store : BookingStatus → String → Option (Uuid × BookingStatus)} :
    (∀ result, bookEventResult answer store = some result → isCommitted result → reportsEffect result = true) ↔
      isRetryable answer = true ∨ ∃ status ∈ settledStatuses, answer.status = some status := by
  unfold bookEventResult
  split
  · -- the booking is queued
    rename_i hqueued
    constructor
    · intro _
      rcases hqueued with hstatus | hretryable
      · exact .inr ⟨_, by simp [settledStatuses], hstatus⟩
      · exact .inl hretryable
    · intro _ result hresult _
      obtain ⟨request, -, hqueue⟩ := Option.bind_eq_some_iff.mp hresult
      obtain rfl := Option.some.inj hqueue
      rfl
  · rename_i hnot
    have hretryable : ¬ isRetryable answer = true := fun h => hnot (.inr h)
    split
    · -- it is queued until the account is reconnected
      rename_i hstatus
      constructor
      · intro _
        exact .inr ⟨_, by simp [settledStatuses], hstatus⟩
      · intro _ result hresult _
        obtain ⟨request, -, hqueue⟩ := Option.bind_eq_some_iff.mp hresult
        obtain rfl := Option.some.inj hqueue
        unfold reportsEffect
        rw [status_set (by decide), status_set (by decide), hstatus]
        simp [OrderedMap.get_set]
    · split
      · -- it has failed, and the failure is committed
        rename_i hstatus
        constructor
        · intro hreports
          have hfailed := hreports _ rfl (by
            unfold isCommitted
            rw [status_set (by decide), hstatus]
            simp)
          unfold reportsEffect at hfailed
          rw [status_set (by decide), hstatus] at hfailed
          simp at hfailed
        · rintro (h | ⟨status, hmem, heq⟩)
          · exact absurd h hretryable
          · rw [hstatus] at heq
            obtain rfl := Option.some.inj heq
            simp [settledStatuses] at hmem
      · -- the answer is returned as it is
        rename_i hreconnect hfailed
        constructor
        · intro hreports
          by_cases hcommitted : isCommitted answer
          · have heffect := hreports answer rfl hcommitted
            unfold reportsEffect at heffect
            split at heffect
            · rename_i hstatus
              exact .inr ⟨_, by simp [settledStatuses], hstatus⟩
            · rename_i hstatus
              exact .inr ⟨_, by simp [settledStatuses], hstatus⟩
            · rename_i hstatus
              exact .inr ⟨_, by simp [settledStatuses], hstatus⟩
            · rename_i hstatus
              exact absurd hstatus hreconnect
            · cases heffect
          · unfold isCommitted at hcommitted
            rw [not_and_or, not_not, not_not] at hcommitted
            rcases hcommitted with hconflict | hconfirmation
            · exact .inr ⟨_, by simp [settledStatuses], hconflict⟩
            · exact .inr ⟨_, by simp [settledStatuses], hconfirmation⟩
        · rintro (h | ⟨status, hmem, heq⟩) result hresult hcommitted
          · exact absurd h hretryable
          · obtain rfl := Option.some.inj hresult
            unfold isCommitted at hcommitted
            unfold reportsEffect
            rw [heq] at hcommitted hreconnect hnot ⊢
            simp only [settledStatuses, List.mem_cons, List.not_mem_nil, or_false] at hmem
            rcases hmem with rfl | rfl | rfl | rfl | rfl | rfl | rfl <;> simp_all

/-- What `cancel_event` returns is committed in any case, and reports an effect if the broker has cancelled. -/
theorem cancelEventResult_reports {eventId : String} {reason : Option String} :
    isCommitted (cancelEventResult eventId reason answer) ∧
      (reportsEffect (cancelEventResult eventId reason answer) = true ↔ answer.status = some "cancelled") := by
  unfold cancelEventResult
  split
  · rename_i hcancelled
    have hstatus : JsonObject.status (.ofPairs [("event_id", .text eventId), ("id", .text eventId),
        ("status", .text "cancelled"), ("reason", match reason with | some text => .text text | none => .null),
        ("source", .text "google_calendar_live")]) = some "cancelled" := rfl
    simp [isCommitted, reportsEffect, hstatus, hcancelled]
  · rename_i hrefused
    have hstatus : JsonObject.status (.ofPairs [("status", .text "integration_required"),
        ("error_code", .text "GOOGLE_CALENDAR_REQUIRED"),
        ("message", .text "The event could not be cancelled through the connected Google Calendar."),
        ("source", .text "google_calendar")]) = some "integration_required" := rfl
    simp [isCommitted, reportsEffect, hstatus, hrefused]

/-- What the tool function of a write returns is settled by what it reports exactly if the broker's answer is. -/
theorem callTool_reports {services : CalendarServices} {context : ToolContext} {request : Request}
    (hwrite : request.toolName = .bookEvent ∨ request.toolName = .cancelEvent) :
    (∀ result, request.callTool services context = some result → isCommitted result →
      reportsEffect result = true) ↔ AnswersEffect services request := by
  unfold Request.callTool AnswersEffect
  cases hparameters : request.parameters with
  | getCalendarAvailability => simp [Request.toolName, hparameters, ToolParameters.toolName] at hwrite
  | listEvents => simp [Request.toolName, hparameters, ToolParameters.toolName] at hwrite
  | cancelEvent eventId reason token =>
      dsimp only
      unfold cancelEvent
      cases hparse : Uuid.parse request.userId with
      | none => simp
      | some companyId =>
          cases hanswer : services.cancel companyId eventId with
          | returned answer =>
              have hresult : isCommitted (cancelEventResult eventId reason answer) ∧
                  (reportsEffect (cancelEventResult eventId reason answer) = true ↔
                    answer.status = some "cancelled") := cancelEventResult_reports
              obtain ⟨hcommitted, heffect⟩ := hresult
              constructor
              · intro hreports companyId' answer' hparse' hanswer'
                obtain rfl := Option.some.inj hparse'
                obtain rfl := ProviderAnswer.returned.inj (hanswer.symm.trans hanswer')
                exact heffect.mp (hreports _ (by simp [hanswer, ProviderAnswer.result?]) hcommitted)
              · intro hcancelled result hresult _
                obtain rfl : cancelEventResult eventId reason answer = result := by
                  simpa [hanswer, ProviderAnswer.result?] using hresult
                exact heffect.mpr (hcancelled companyId answer rfl hanswer)
          | httpError | raised =>
              constructor
              · intro _ companyId' answer' hparse' hanswer'
                obtain rfl := Option.some.inj hparse'
                rw [hanswer] at hanswer'
                cases hanswer'
              · intro _ result hresult
                simp [hanswer, ProviderAnswer.result?] at hresult
  | bookEvent title startTime timezone durationMinutes attendees description location =>
      dsimp only
      cases hpayload : bookPayload services request.userId title startTime durationMinutes attendees description
          (some (location.getD "Google Meet")) timezone request.idempotencyKey with
      | none => simp
      | some payload =>
          simp only [Option.bind_eq_bind, Option.bind_some, bookEvent]
          cases hanswer : services.book payload with
          | returned answer =>
              show (∀ result, bookEventResult answer _ = some result → _ → _) ↔ _
              rw [bookEventResult_reports]
              constructor
              · intro h payload' answer' hpayload' hanswer'
                obtain rfl := Option.some.inj hpayload'
                obtain rfl := ProviderAnswer.returned.inj (hanswer.symm.trans hanswer')
                exact h
              · exact fun h => h payload answer rfl hanswer
          | httpError statusCode =>
              constructor
              · intro _ payload' answer' hpayload' hanswer'
                obtain rfl := Option.some.inj hpayload'
                rw [hanswer] at hanswer'
                cases hanswer'
              · intro _ result hresult hcommitted
                simp only at hresult
                split at hresult
                · cases hresult
                · exact bookEventResult_reports.mpr (.inl rfl) result hresult hcommitted
          | raised =>
              constructor
              · intro _ payload' answer' hpayload' hanswer'
                obtain rfl := Option.some.inj hpayload'
                rw [hanswer] at hanswer'
                cases hanswer'
              · intro _ result hresult
                cases hresult

end Classification

/-- For a booking or a cancellation, a commit means an effect exactly if the broker's answer is retryable or has a
status that the tool and the dispatcher tell apart, or is a cancellation that succeeded. -/
theorem commit_means_effect_iff {s t : State} {id : Nat} {request : Request} {services : CalendarServices}
    {context : ToolContext} (hrun : Reaches step Always State.initial s) (hfound : s.requests[id]? = some request)
    (hwrite : request.toolName = .bookEvent ∨ request.toolName = .cancelEvent)
    (hstep : step s (.finishTool id (.ofResult (request.callTool services context))) = some t) :
    CommitMeansEffect id (request.callTool services context) t ↔ AnswersEffect services request := by
  rw [commitMeansEffect_iff_reports (keyInvariant_reached hrun) hfound hstep]
  exact callTool_reports hwrite

/-- A broker that gives one answer to every booking. -/
def sampleServices (answer : ProviderAnswer) : CalendarServices where
  formatUtc _ _ := some "2026-10-01T06:00:00Z"
  availability _ := .raised
  book _ := answer
  cancel _ _ := .raised
  list _ _ _ _ := .raised
  createBookingRequest _ := none

def sampleContext : ToolContext where
  sessionId := some "room-1"
  businessHours := none

/-- The answers to a booking that was made and to one that Google has rejected. -/
def sampleConfirmedAnswer : JsonObject :=
  .ofPairs [("event_id", .text "event-1"), ("status", .text "confirmed"), ("source", .text "google_calendar_live")]

def sampleFailedAnswer : JsonObject :=
  .ofPairs [("status", .text "failed"), ("retryable", .bool false)]

theorem commit_means_effect_iff_confirmed :
    ∃ t, step (after sampleExecution) (.finishTool 0 (.ofResult
        (sampleExecuting.callTool (sampleServices (.returned sampleConfirmedAnswer)) sampleContext))) = some t ∧
      CommitMeansEffect 0 (sampleExecuting.callTool (sampleServices (.returned sampleConfirmedAnswer)) sampleContext)
        t := by
  have hfound : (after sampleExecution).requests[0]? = some sampleExecuting := by decide +kernel
  have hrun : Reaches step Always State.initial (after sampleExecution) := .of_execute (execute_after (by decide +kernel))
  refine ⟨_, rfl, (commit_means_effect_iff hrun hfound (.inl rfl) rfl).mpr ?_⟩
  intro payload answer _ hanswer
  obtain rfl := ProviderAnswer.returned.inj hanswer
  exact .inr ⟨"confirmed", by decide, rfl⟩

/-- Google rejects a booking: the tool reports the failure, and the key is committed with it. -/
theorem committed_failure :
    ¬ ∀ (s t : State) (id : Nat) (request : Request) (services : CalendarServices) (context : ToolContext),
      Reaches step Always State.initial s → s.requests[id]? = some request →
      (request.toolName = .bookEvent ∨ request.toolName = .cancelEvent) →
      step s (.finishTool id (.ofResult (request.callTool services context))) = some t →
      CommitMeansEffect id (request.callTool services context) t := by
  intro hall
  have hmeans := hall (after sampleExecution) _ 0 sampleExecuting (sampleServices (.returned sampleFailedAnswer))
    sampleContext (.of_execute (execute_after (by decide +kernel))) (by decide +kernel) (.inl rfl) rfl
  obtain ⟨request, hfound, hreleasing⟩ := hmeans.2 _ rfl (by decide +kernel)
  have hcommitting : request.phase.isReleasing = false := by
    obtain rfl := Option.some.inj hfound
    decide +kernel
  rw [hcommitting] at hreleasing
  cases hreleasing

end Backend
end VoiceAssistants
