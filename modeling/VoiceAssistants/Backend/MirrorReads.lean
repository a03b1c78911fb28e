import VoiceAssistants.Backend.FreeSlots
import VoiceAssistants.Db.CalendarMirror

/-!
# The calendar as it is read through its mirror (`backend/app/services/google_calendar.py`)

`list_google_calendar_events` and `get_google_calendar_availability` answer from the mirror of the calendar if that is
fresh, and from Google if it is not.  The rows of the mirror are the records that `_mirror_event_record` makes of the
events that the synchronisations read.  Google lists the events of a range that are not cancelled, and `freeBusy` reports
those of them that are not transparent.

`Synchronised` says what a mirror holds after a full synchronisation with a calendar and any number of incremental ones.

The read cache, and requests for availability that ask for `fresh` data and so go to Google, are left out.  The keys
`_mirror_start_utc` and `_mirror_end_utc`, which carry the bounds of a row to its readers and which a list takes out
again, are the fields of the row.
-/

namespace VoiceAssistants
namespace MirrorReads

open Sql Collections CalendarMirror GoogleCalendar
open Backend (AvailabilityPayload)

/-! ## Python and Google -/

/-- What `datetime.fromisoformat(text)` reads: an instant, or a local time without an offset from UTC. -/
inductive Moment
  | aware (instant : Int)
  | naive (localTime : Int)
  deriving DecidableEq, Repr

/-- How Google shows the events of a calendar. -/
structure EventsApi where
  /-- `orderBy=startTime`; events that start together come in any order. -/
  byStart : List GoogleEvent → List GoogleEvent
  perm_byStart : ∀ events, (byStart events).Perm events
  sorted_byStart : ∀ events, (byStart events).Pairwise fun first second => first.start ≤ second.start
  /-- The texts of the start and the end of an event, in the `timeZone` of the request if it has one. -/
  texts : Option String → GoogleEvent → Option String × Option String
  /-- The instant of `updated`, if it can be read. -/
  updated : GoogleEvent → Option Int

/-- What is used of Python's dates and of Google. -/
structure Externals where
  datetime : Datetime
  /-- `datetime.fromisoformat(text)`; `none` is the `ValueError`. -/
  moment : String → Option Moment
  dates : Dates
  api : EventsApi

/-- An event as a response shows it. -/
def EventsApi.item (api : EventsApi) (timeZone : Option String) (event : GoogleEvent) : GoogleEvent :=
  { event with startValue := (api.texts timeZone event).1, endValue := (api.texts timeZone event).2 }

@[simp] theorem id_item {api : EventsApi} {timeZone : Option String} {event : GoogleEvent} :
    (api.item timeZone event).id = event.id := rfl

@[simp] theorem cancelled_item {api : EventsApi} {timeZone : Option String} {event : GoogleEvent} :
    (api.item timeZone event).cancelled = event.cancelled := rfl

/-- The event is not cancelled, and overlaps a range. -/
def listed (start stop : Int) (event : GoogleEvent) : Bool :=
  !event.cancelled && event.start < stop && start < event.stop

/-- `GET /calendars/primary/events` with `timeMin`, `timeMax`, `orderBy=startTime`, `maxResults` and `timeZone`. -/
def eventsList (api : EventsApi) (reply : Reply) (start stop : Int) (maxResults : Nat) (timeZone : String)
    (calendar : List GoogleEvent) : Response (List GoogleEvent) :=
  match reply with
  | .served =>
      .ok (((api.byStart (calendar.filter (listed start stop))).take maxResults).map (api.item (some timeZone)))
  | .failed _ status => .ofFailure status

section Reading

variable (externals : Externals)

/-! ## The records of the mirror -/

/-- The start or the end of an event: a date begins in the zone, and a time without an offset is a time of the zone. -/
def instantIn (zone : Zone) (value : String) : Option Int :=
  if value.length = 10 then (externals.dates.dateFromIso value).map fun day => zone.toUtc (day * dayLength)
  else
    match externals.moment (replaceZulu value) with
    | some (.aware instant) => some instant
    | some (.naive localTime) => some (zone.toUtc localTime)
    | none => none

/-- A text that Python takes for true. -/
def nonEmpty (value : Option String) : Option String :=
  value.filter (· ≠ "")

/-- The row of an event that is not cancelled; `none` is one whose times are missing, unreadable or out of order. -/
def mirroredRow (timezone : String) (event : GoogleEvent) : Option (MirrorRow Int JsonObject) := do
  let startValue ← nonEmpty event.startValue
  let endValue ← nonEmpty event.endValue
  let zone ← externals.dates.zoneInfo timezone
  let startTime ← instantIn externals zone startValue
  let endTime ← instantIn externals zone endValue
  if endTime ≤ startTime then none
  else
    some
      { eventId := strip event.id
        startTime
        endTime
        eventPayload := calendarEventPayload externals.datetime event
        providerUpdatedAt := externals.api.updated event }

/-- `_mirror_event_record`; `none` is an event that is not mirrored. -/
def mirrorEventRecord (timezone : String) (event : GoogleEvent) : Option (EventRecord Int JsonObject) :=
  if strip event.id = "" then none
  else if event.cancelled then some (.remove (strip event.id))
  else (mirroredRow externals timezone event).map .put

/-- The records of a synchronisation, whose requests have no `timeZone`. -/
def syncRecords (timezone : String) (items : List GoogleEvent) : List (EventRecord Int JsonObject) :=
  items.filterMap fun event => mirrorEventRecord externals timezone (externals.api.item none event)

/-- `timedelta(days=30)`. -/
def mirrorHistory : Int := 30 * dayLength

/-- The mirror was last synchronised at an instant, with a calendar as it then was. -/
inductive Synchronised : List GoogleEvent → Int → Mirror Int JsonObject → Prop
  /-- Asked at some instant, Google lists the events that end after the thirty days before it. -/
  | full {calendar items : List GoogleEvent} {before : Mirror Int JsonObject} {timezone token : String} {asked now : Int}
      (hread : items.Perm (calendar.filter fun event => asked - mirrorHistory < event.stop)) :
      Synchronised calendar now (before.commit (syncRecords externals timezone items) token true now)
  /-- Asked with a token, Google lists the events that are not as they were then; marks leave the rows as they are. -/
  | incremental {earlier calendar items : List GoogleEvent} {before mirror : Mirror Int JsonObject}
      {timezone token : String} {last now : Int} (hearlier : Synchronised earlier last mirror)
      (hrows : before.rows = mirror.rows) (hread : ∀ event, event ∈ items ↔ event ∈ calendar ∧ event ∉ earlier) :
      Synchronised calendar now (before.commit (syncRecords externals timezone items) token false now)

/-! ## A read -/

/-- What a read finds. -/
structure ReadState where
  now : Int
  token : Token
  reply : Reply
  calendar : List GoogleEvent
  mirrorEnabled : Bool
  mirror : Mirror Int JsonObject
  /-- The mirror after the synchronisation by a read that finds it stale; `none` is one that fails. -/
  synced : Option (Mirror Int JsonObject)
  maxStaleness : Int

variable (s : ReadState) (payload : AvailabilityPayload)

/-- The rows of a range: of the mirror as it is, or as a synchronisation leaves it. -/
def mirroredEvents (start stop : Int) : Option (List (MirrorRow Int JsonObject)) :=
  (s.mirror.freshEvents start stop (s.now - s.maxStaleness)).or
    (s.synced.bind fun mirror => mirror.freshEvents start stop (s.now - s.maxStaleness))

/-- `_fresh_mirror_events`, with the first and the last day.  An outer `none` is an exception, an inner one is `None`. -/
def freshMirrorEvents : Option (Option (List (MirrorRow Int JsonObject) × Int × Int)) := do
  let zone ← externals.dates.zoneInfo payload.timezone
  let (startDay, endDay) ← requestedDays externals.dates zone s.now payload
  some ((mirroredEvents s (localDayRange zone startDay).1 (localDayRange zone endDay).2).map fun rows =>
    (rows, startDay, endDay))

/-- The result of `list_google_calendar_events`. -/
structure EventListing where
  userId : String
  startDate : String
  endDate : String
  timezone : String
  count : Nat
  events : List JsonObject
  truncated : Bool
  source : String
  deriving DecidableEq

/-- `MAX_VOICE_CALENDAR_EVENTS` -/
def maxVoiceCalendarEvents : Nat := 50

def eventListing (startDay endDay : Int) (events : List JsonObject) (source : String) : EventListing where
  userId := payload.companyId.text
  startDate := externals.dates.isoDate startDay
  endDate := externals.dates.isoDate endDay
  timezone := payload.timezone
  count := (events.take maxVoiceCalendarEvents).length
  events := events.take maxVoiceCalendarEvents
  truncated := maxVoiceCalendarEvents < events.length
  source := source

/-- `_list_google_calendar_events_live`, which reads the company, the dates and the zone of a request.  `none` is an
exception, and an inner `none` is `None`. -/
def listLive : Option (Option EventListing) :=
  match s.token with
  | .raised => none
  | .missing => some none
  | .valid =>
      match externals.dates.zoneInfo payload.timezone with
      | none => some none
      | some zone =>
          match requestedDays externals.dates zone s.now payload with
          | none => some none
          | some (startDay, endDay) =>
              match eventsList externals.api s.reply (localDayRange zone startDay).1 (localDayRange zone endDay).2
                  (maxVoiceCalendarEvents + 1) payload.timezone s.calendar with
              | .httpError => none
              | .status _ => some none
              | .ok items =>
                  let events := (items.filter fun event => !event.cancelled).map
                    (calendarEventPayload externals.datetime)
                  some (some (eventListing externals payload startDay endDay events "google_calendar_live"))

/-- `list_google_calendar_events` -/
def listGoogleCalendarEvents : Option (Option EventListing) :=
  if s.mirrorEnabled then
    match freshMirrorEvents externals s payload with
    | none => none
    | some none => listLive externals s payload
    | some (some (rows, startDay, endDay)) =>
        some (some (eventListing externals payload startDay endDay (rows.map MirrorRow.eventPayload)
          "google_calendar_mirror"))
  else listLive externals s payload

/-- `_get_google_calendar_availability_live` -/
def availabilityLive : Option (Option JsonObject) :=
  GoogleCalendar.availabilityLive externals.dates s.now s.token s.reply payload s.calendar

/-- `get_google_calendar_availability` -/
def getGoogleCalendarAvailability : Option (Option JsonObject) :=
  if s.mirrorEnabled then
    match freshMirrorEvents externals s payload, externals.dates.zoneInfo payload.timezone with
    | some (some (rows, startDay, endDay)), some zone =>
        let busy := rows.map fun row => (row.startTime, row.endTime)
        let slots := computeFreeSlots externals.dates zone startDay busy payload.durationMinutes payload.businessHours
        some (some ((availabilityResult externals.dates payload startDay endDay slots).set "source"
          (.text "google_calendar_mirror")))
    | some none, _ => availabilityLive externals s payload
    | _, _ => none
  else availabilityLive externals s payload

end Reading

/-! ## What a synchronised mirror holds -/

section Rows

variable {externals : Externals} {calendar : List GoogleEvent} {mirror : Mirror Int JsonObject} {syncedAt : Int}

/-- A synchronisation leaves the mirror fresh. -/
theorem Synchronised.fresh (h : Synchronised externals calendar syncedAt mirror) {cutoff : Int}
    (hcutoff : cutoff ≤ syncedAt) : mirror.fresh cutoff = true := by
  cases h with
  | full hread => simpa [Mirror.fresh, Mirror.commit] using hcutoff
  | incremental hearlier hrows hread => simpa [Mirror.fresh, Mirror.commit] using hcutoff

/-- No two rows have the same id. -/
theorem Synchronised.keyed (h : Synchronised externals calendar syncedAt mirror) :
    Keyed MirrorRow.eventId mirror.rows := by
  induction h with
  | full hread =>
      apply Change.keyed_fold
      exact List.nodup_nil
  | incremental hearlier hrows hread ih =>
      apply Change.keyed_fold
      simpa [hrows] using ih

/-- The id of a row is the one in its payload, without the blanks around it. -/
def OwnId (row : MirrorRow Int JsonObject) : Prop :=
  ∃ id, row.eventPayload.get "id" = some (.text id) ∧ row.eventId = strip id

theorem id_calendarEventPayload {datetime : Datetime} {event : GoogleEvent} :
    (calendarEventPayload datetime event).get "id" = some (.text event.id) := by
  simp [calendarEventPayload, OrderedMap.ofPairs, OrderedMap.get_set]

/-- Inversion of `mirroredRow`. -/
theorem mirroredRow_eq_some {timezone : String} {event : GoogleEvent} {row : MirrorRow Int JsonObject}
    (h : mirroredRow externals timezone event = some row) :
    row.eventId = strip event.id ∧ row.startTime < row.endTime ∧
      row.eventPayload = calendarEventPayload externals.datetime event := by
  simp only [mirroredRow, Option.bind_eq_bind, Option.bind_eq_some_iff] at h
  obtain ⟨_, _, _, _, _, _, startTime, _, endTime, _, hrow⟩ := h
  by_cases horder : endTime ≤ startTime
  · simp [horder] at hrow
  · simp only [horder, if_false, Option.some_inj] at hrow
    rw [← hrow]
    exact ⟨rfl, lt_of_not_ge horder, by dsimp only⟩

/-- A record that puts a row is that of an event that is not cancelled. -/
theorem mirrorEventRecord_eq_put {timezone : String} {event : GoogleEvent} {row : MirrorRow Int JsonObject} :
    mirrorEventRecord externals timezone event = some (.put row) ↔
      strip event.id ≠ "" ∧ event.cancelled = false ∧ mirroredRow externals timezone event = some row := by
  unfold mirrorEventRecord
  by_cases hid : strip event.id = ""
  · simp [hid]
  · cases hcancelled : event.cancelled with
    | true => simp [hid]
    | false => simp [hid]

/-- A record is about the event's id. -/
theorem subject_mirrorEventRecord {timezone : String} {event : GoogleEvent} {record : EventRecord Int JsonObject}
    (h : mirrorEventRecord externals timezone event = some record) :
    record.subject MirrorRow.eventId = strip event.id := by
  cases record with
  | put row => exact (mirroredRow_eq_some (mirrorEventRecord_eq_put.mp h).2.2).1
  | remove id =>
      unfold mirrorEventRecord at h
      by_cases hid : strip event.id = ""
      · simp [hid] at h
      · cases hcancelled : event.cancelled with
        | true =>
            simp only [hid, hcancelled, if_true, if_false, Option.some_inj] at h
            exact (Change.remove.inj h).symm
        | false => simp [hid, hcancelled] at h

theorem ownId_syncRecords {timezone : String} {items : List GoogleEvent} {row : MirrorRow Int JsonObject}
    (h : .put row ∈ syncRecords externals timezone items) : OwnId row := by
  obtain ⟨event, -, hrecord⟩ := List.mem_filterMap.mp h
  obtain ⟨hid, -, hpayload⟩ := mirroredRow_eq_some (mirrorEventRecord_eq_put.mp hrecord).2.2
  refine ⟨event.id, ?_, hid⟩
  rw [hpayload]
  exact id_calendarEventPayload

/-- Every row has the id of its payload. -/
theorem Synchronised.ownId (h : Synchronised externals calendar syncedAt mirror) : ∀ row ∈ mirror.rows, OwnId row := by
  induction h with
  | full hread =>
      intro row hrow
      rcases Change.mem_of_mem_fold hrow with hrow | hput
      · cases hrow
      · exact ownId_syncRecords hput
  | incremental hearlier hrows hread ih =>
      intro row hrow
      rcases Change.mem_of_mem_fold hrow with hrow | hput
      · exact ih row (hrows ▸ hrow)
      · exact ownId_syncRecords hput

end Rows

end MirrorReads
end VoiceAssistants
