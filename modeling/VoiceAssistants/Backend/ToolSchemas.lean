import VoiceAssistants.Python.Pydantic
import VoiceAssistants.Backend.BusinessHours

/-!
# The schemas of the tools and of the credential broker

`backend/app/schemas/tools.py` says which parameters a calendar tool takes, `credential_broker/main.py` which payloads
the broker takes, and `tools/calendar.py` makes the one from the other.  `payload_valid_iff` says for which parameters
the broker takes the payload: the schemas of the tools bound neither a date's length, nor the number of attendees, nor
the length of the request's key.

The zones and the start time's parsing are parameters; a UTC time is its fields.
-/

namespace VoiceAssistants
namespace Backend

open Python Collections
open GoogleCalendar (Dates weekdays validAvailability validPayload)
open Capabilities (BusinessRules DayHours compileBusinessRules compileBusinessHours compileDay compileHoursValue lower)

/-! ## The parameters of the tools -/

/-- `^\d{4}-\d{2}-\d{2}(?:T.*)?$`, where `\d` is every decimal digit and `.` no line break. -/
def isDate (text : String) : Bool :=
  match text.toList with
  | a :: b :: c :: d :: '-' :: e :: f :: '-' :: g :: h :: rest =>
      [a, b, c, d, e, f, g, h].all Capabilities.isDecimal &&
        (rest == [] || rest.head? == some 'T' && !rest.contains '\n')
  | _ => false

/-- `validate_timezone`: `ZoneInfo(value)` does not raise. -/
def isZone (dates : Dates) (name : String) : Bool :=
  (dates.zoneInfo name).isSome

/-- The validated models `GetCalendarAvailabilityParams`, `BookEventParams`, `CancelEventParams` and
`ListEventsParams`. -/
inductive ToolParams
  | getCalendarAvailability (startDate endDate : Option String) (durationMinutes : Nat) (timezone : Option String)
  | bookEvent (title startTime : String) (timezone : Option String) (durationMinutes : Nat) (attendees : List String)
      (description location : Option String)
  | cancelEvent (eventId : String) (reason : Option String) (confirm : Bool) (confirmationToken : Option String)
  | listEvents (startDate endDate timezone : Option String)

/-- The tool whose model has been validated. -/
def ToolParams.toolName : ToolParams → ToolName
  | .getCalendarAvailability .. => .getCalendarAvailability
  | .bookEvent .. => .bookEvent
  | .cancelEvent .. => .cancelEvent
  | .listEvents .. => .listEvents

section Validation

variable (lax : Lax) (dates : Dates) (raw : Json)

/-- `start_date` and `end_date`. -/
def dateField (name : String) : Option (Option String) :=
  defaulted (nullable (readText isDate)) none raw name

def timezoneField : Option (Option String) :=
  defaulted (nullable (readText (isZone dates))) none raw "timezone"

def durationField : Option Nat :=
  defaulted (readInt lax 5 480) 30 raw "duration_minutes"

/-- `Optional[str]` with `max_length`. -/
def boundedField (limit : Nat) (default : Option String) (name : String) : Option (Option String) :=
  defaulted (nullable (readText (lengthIn 0 limit))) default raw name

def getCalendarAvailabilityParams : Option ToolParams := do
  forbidExtra ["start_date", "end_date", "duration_minutes", "timezone"] raw
  let startDate ← dateField raw "start_date"
  let endDate ← dateField raw "end_date"
  let durationMinutes ← durationField lax raw
  let timezone ← timezoneField dates raw
  return .getCalendarAvailability startDate endDate durationMinutes timezone

def bookEventParams : Option ToolParams := do
  forbidExtra ["title", "start_time", "timezone", "duration_minutes", "attendees", "description", "location"] raw
  let title ← required (readText (lengthIn 1 200)) raw "title"
  let startTime ← required (readText fun _ => true) raw "start_time"
  let timezone ← timezoneField dates raw
  let durationMinutes ← durationField lax raw
  let attendees ← defaulted readTexts [] raw "attendees"
  let description ← boundedField raw 2000 none "description"
  let location ← boundedField raw 255 (some "Google Meet") "location"
  return .bookEvent title startTime timezone durationMinutes attendees description location

def cancelEventParams : Option ToolParams := do
  forbidExtra ["event_id", "reason", "confirm", "confirmation_token"] raw
  let eventId ← required (readText (lengthIn 1 128)) raw "event_id"
  let reason ← boundedField raw 500 none "reason"
  let confirm ← defaulted lax.bool false raw "confirm"
  let confirmationToken ← defaulted (nullable (readText fun _ => true)) none raw "confirmation_token"
  return .cancelEvent eventId reason confirm confirmationToken

def listEventsParams : Option ToolParams := do
  forbidExtra ["start_date", "end_date", "timezone"] raw
  let startDate ← dateField raw "start_date"
  let endDate ← dateField raw "end_date"
  let timezone ← timezoneField dates raw
  return .listEvents startDate endDate timezone

/-- `validate_tool_params`; `none` is the `ValidationError`. -/
def validateToolParams : ToolName → Option ToolParams
  | .getCalendarAvailability => getCalendarAvailabilityParams lax dates raw
  | .bookEvent => bookEventParams lax dates raw
  | .cancelEvent => cancelEventParams lax raw
  | .listEvents => listEventsParams dates raw

end Validation

/-! ## The payloads of the broker -/

/-- The body of `/internal/v1/calendar/list`. -/
structure ListPayload where
  companyId : Uuid
  startDate : Option String
  endDate : Option String
  timezone : String

/-- The body of `/internal/v1/calendar/cancel`. -/
structure CancelPayload where
  companyId : Uuid
  eventId : String

/-- What a calendar tool posts to the broker. -/
inductive BrokerPayload
  | availability (payload : AvailabilityPayload)
  | list (payload : ListPayload)
  | book (payload : BookPayload)
  | cancel (payload : CancelPayload)

/-- `CalendarListPayload` -/
def ListPayload.valid (dates : Dates) (payload : ListPayload) : Bool :=
  payload.startDate.all (lengthIn 0 10) && payload.endDate.all (lengthIn 0 10) && lengthIn 0 64 payload.timezone &&
    isZone dates payload.timezone

/-- `CalendarCancelPayload` -/
def CancelPayload.valid (payload : CancelPayload) : Bool :=
  lengthIn 1 255 payload.eventId

/-- The payload passes the model of its endpoint. -/
def BrokerPayload.valid (dates : Dates) : BrokerPayload → Bool
  | .availability payload => validAvailability dates payload
  | .list payload => payload.valid dates
  | .book payload => validPayload payload
  | .cancel payload => payload.valid

/-! ## From the one to the other -/

/-- A UTC time. -/
structure UtcTime where
  year : Fin 10000
  month : Fin 13
  day : Fin 32
  hour : Fin 24
  minute : Fin 60
  second : Fin 60

/-- `%m`, `%d`, `%H`, `%M` and `%S`. -/
def twoPlaces (value : Nat) : String :=
  String.ofList [Nat.digitChar (value / 10), Nat.digitChar (value % 10)]

/-- `_format_utc_iso`; `%Y` has no leading zeros. -/
def formatUtcIso (time : UtcTime) : String :=
  String.ofList (Nat.toDigits 10 time.year) ++ "-" ++ twoPlaces time.month ++ "-" ++ twoPlaces time.day ++ "T" ++
    twoPlaces time.hour ++ ":" ++ twoPlaces time.minute ++ ":" ++ twoPlaces time.second ++ "Z"

/-- The services of the tools, with `_format_utc_iso(_parse_iso_datetime(...))` for the start time of a booking. -/
def utcServices (parse : (startTime timezone : String) → Option UtcTime) (services : CalendarServices) :
    CalendarServices :=
  { services with formatUtc := fun startTime timezone => (parse startTime timezone).map formatUtcIso }

/-- What the dispatcher has besides the parameters: the signed context, the zone of the company's profile, the request's
key, and the rules of the published profile. -/
structure CallContext where
  companyId : String
  timezone : Option String
  profileTimezone : Option String
  idempotencyKey : Option String
  rules : Option { rules : BusinessRules // ∃ profile, compileBusinessRules profile = .ok rules }

/-- `resolve_company_timezone`; `none` is the `ValueError`. -/
def CallContext.companyTimezone (dates : Dates) (context : CallContext) : Option String :=
  let session := strip (context.timezone.getD "")
  let name := if session = "" then strip (context.profileTimezone.getD "") else session
  if isZone dates name then some name else none

/-- The zone that the tool is called with: the one that the parameters name, or the company's. -/
def CallContext.zone (dates : Dates) (context : CallContext) (timezone : Option String) : Option String :=
  match timezone with
  | some name => if name = "" then context.companyTimezone dates else some name
  | none => context.companyTimezone dates

/-- `dict(business_hours) if business_hours else None` -/
def CallContext.businessHours (context : CallContext) : Option (List (String × String)) :=
  (context.rules.map fun rules => rules.val.hoursTexts).filter (· ≠ [])

/-- What the tool posts for validated parameters; `none` when it posts nothing: the company, the zone or the start time
is not valid, a booking has no key, or a cancellation is not confirmed. -/
def toolPayload (dates : Dates) (services : CalendarServices) (context : CallContext) :
    ToolParams → Option BrokerPayload
  | .getCalendarAvailability startDate endDate durationMinutes timezone => do
      let zone ← context.zone dates timezone
      let companyId ← Uuid.parse context.companyId
      return .availability ⟨companyId, startDate, endDate, durationMinutes, orText (some zone) "Indian/Mauritius",
        context.businessHours⟩
  | .bookEvent title startTime timezone durationMinutes attendees description location => do
      let key ← context.idempotencyKey.filter (· ≠ "")
      let zone ← context.zone dates timezone
      let payload ← bookPayload services context.companyId title startTime durationMinutes attendees description
        (some (location.getD "Google Meet")) (some zone) key
      return .book payload
  | .cancelEvent eventId _ confirm confirmationToken => do
      guard (confirm && confirmationToken.any (· ≠ ""))
      let companyId ← Uuid.parse context.companyId
      return .cancel ⟨companyId, eventId⟩
  | .listEvents startDate endDate timezone => do
      let zone ← context.zone dates timezone
      let companyId ← Uuid.parse context.companyId
      return .list ⟨companyId, startDate, endDate, orText (some zone) "Indian/Mauritius"⟩

/-- The parameters whose payload the broker takes: dates of at most ten characters, that is without a time, a zone with a
name of at most 64, at most a hundred attendees, and a key of at most 128 characters. -/
def brokerTakes (dates : Dates) (context : CallContext) (raw : Json) : ToolName → Bool
  | .getCalendarAvailability | .listEvents =>
      (rawText raw "start_date").all (lengthIn 0 10) && (rawText raw "end_date").all (lengthIn 0 10) &&
        (context.zone dates (rawText raw "timezone")).all (lengthIn 0 64)
  | .bookEvent => rawLength raw "attendees" ≤ 100 && context.idempotencyKey.all (lengthIn 0 128)
  | .cancelEvent => true

/-! ## Validated parameters -/

/-- A tool's parameters are validated as those of the tool. -/
theorem toolName_of_validate {lax : Lax} {dates : Dates} {raw : Json} {toolName : ToolName} {params : ToolParams}
    (h : validateToolParams lax dates raw toolName = some params) : params.toolName = toolName := by
  cases toolName with
  | getCalendarAvailability =>
      simp only [validateToolParams, getCalendarAvailabilityParams, bind, Option.bind_eq_some_iff] at h
      obtain ⟨-, -, startDate, -, endDate, -, durationMinutes, -, timezone, -, hparams⟩ := h
      obtain rfl := Option.some.inj hparams
      rfl
  | bookEvent =>
      simp only [validateToolParams, bookEventParams, bind, Option.bind_eq_some_iff] at h
      obtain ⟨-, -, title, -, startTime, -, timezone, -, durationMinutes, -, attendees, -, description, -, location, -,
        hparams⟩ := h
      obtain rfl := Option.some.inj hparams
      rfl
  | cancelEvent =>
      simp only [validateToolParams, cancelEventParams, bind, Option.bind_eq_some_iff] at h
      obtain ⟨-, -, eventId, -, reason, -, confirm, -, confirmationToken, -, hparams⟩ := h
      obtain rfl := Option.some.inj hparams
      rfl
  | listEvents =>
      simp only [validateToolParams, listEventsParams, bind, Option.bind_eq_some_iff] at h
      obtain ⟨-, -, startDate, -, endDate, -, timezone, -, hparams⟩ := h
      obtain rfl := Option.some.inj hparams
      rfl
/-! ## Lengths -/

theorem length_twoPlaces {value : Nat} : (twoPlaces value).length = 2 :=
  String.length_ofList

/-- The year of a UTC time has one to four digits. -/
theorem length_formatUtcIso (time : UtcTime) : 17 ≤ (formatUtcIso time).length ∧ (formatUtcIso time).length ≤ 20 := by
  have hyear : 1 ≤ (Nat.toDigits 10 time.year).length ∧ (Nat.toDigits 10 time.year).length ≤ 4 := by
    constructor
    · exact Nat.length_toDigits_pos
    · exact (Nat.length_toDigits_le_iff (by decide) (by decide)).mpr time.year.isLt
  have hlength : (formatUtcIso time).length = (Nat.toDigits 10 time.year).length + 16 := by
    unfold formatUtcIso
    simp only [String.length_append, length_twoPlaces, String.length_ofList]
    rfl
  omega

/-! ## The parts of a payload -/

section Parts

variable {dates : Dates} {context : CallContext}

/-- The zone that a tool is called with is valid, and no other is put in its place. -/
theorem zone_valid {timezone : Option String} {name : String} (other : String) (hempty : isZone dates "" = false)
    (hzone : timezone.all (isZone dates) = true) (h : context.zone dates timezone = some name) :
    isZone dates name = true ∧ orText (some name) other = name := by
  have hvalid : isZone dates name = true := by
    have hcompany : context.companyTimezone dates = some name → isZone dates name = true := by
      intro hresolved
      obtain ⟨hnamed, hname⟩ := Option.ite_none_right_eq_some.mp hresolved
      obtain rfl := Option.some.inj hname
      exact hnamed
    unfold CallContext.zone at h
    split at h
    · split at h
      · exact hcompany h
      · obtain rfl := Option.some.inj h
        exact hzone
    · exact hcompany h
  refine ⟨hvalid, if_neg ?_⟩
  rintro rfl
  rw [hempty] at hvalid
  cases hvalid

/-- The hours of a compiled policy pass the broker's check. -/
theorem businessHours_valid (context : CallContext) :
    (context.businessHours.all fun hours => hours.length ≤ 7 && hours.all fun entry =>
      weekdays.contains (String.ofList (entry.1.toList.map Char.toLower)) && entry.2.length ≤ 100) = true := by
  rw [Option.all_eq_true]
  intro hours hhours
  obtain ⟨rules, -, rfl⟩ := Option.map_eq_some_iff.mp (Option.filter_eq_some_iff.mp hhours).1
  obtain ⟨profile, hcompiled⟩ := rules.property
  obtain ⟨hlength, hdays⟩ := Capabilities.entries_of_compile (Capabilities.compileBusinessHours_of_rules hcompiled)
  have hlower : ∀ day ∈ weekdays, weekdays.contains (String.ofList (day.toList.map Char.toLower)) = true := by
    decide +kernel
  rw [Bool.and_eq_true]
  constructor
  · unfold BusinessRules.hoursTexts
    rw [List.length_map]
    exact decide_eq_true hlength
  · apply List.all_eq_true.mpr
    intro entry hentry
    obtain ⟨day, hday, rfl⟩ := List.mem_map.mp hentry
    rw [Bool.and_eq_true]
    constructor
    · exact hlower _ (hdays day hday)
    · have htext := Capabilities.length_text day.2
      exact decide_eq_true (le_trans htext (by decide))

end Parts

/-! ## The refinement -/

section Refinement

variable {lax : Lax} {dates : Dates} {parse : (startTime timezone : String) → Option UtcTime}
  {services : CalendarServices} {context : CallContext} {raw : Json} {params : ToolParams} {payload : BrokerPayload}

theorem availability_valid_iff (hempty : isZone dates "" = false)
    (hparams : getCalendarAvailabilityParams lax dates raw = some params)
    (hpayload : toolPayload dates services context params = some payload) :
    payload.valid dates = true ↔ brokerTakes dates context raw .getCalendarAvailability = true := by
  obtain ⟨-, -, h⟩ := Option.bind_eq_some_iff.mp hparams
  obtain ⟨startDate, hstart, h⟩ := Option.bind_eq_some_iff.mp h
  obtain ⟨endDate, hend, h⟩ := Option.bind_eq_some_iff.mp h
  obtain ⟨durationMinutes, hduration, h⟩ := Option.bind_eq_some_iff.mp h
  obtain ⟨timezone, htimezone, h⟩ := Option.bind_eq_some_iff.mp h
  obtain rfl := Option.some.inj h
  obtain ⟨zone, hzone, hposts⟩ := Option.bind_eq_some_iff.mp hpayload
  obtain ⟨companyId, -, hposts⟩ := Option.bind_eq_some_iff.mp hposts
  obtain rfl := Option.some.inj hposts
  obtain ⟨hrawZone, hnamed⟩ := optional_text htimezone
  obtain ⟨hvalid, hsame⟩ := zone_valid "Indian/Mauritius" hempty hnamed hzone
  have hbounds : 5 ≤ durationMinutes ∧ durationMinutes ≤ 480 := defaulted_int (by decide) hduration
  have hhours := businessHours_valid context
  unfold brokerTakes
  rw [(optional_text hstart).1, (optional_text hend).1, hrawZone, hzone]
  unfold BrokerPayload.valid validAvailability
  dsimp only
  rw [hsame, hhours, lengthIn_zero, lengthIn_zero]
  simp only [Bool.and_eq_true, decide_eq_true_eq, Option.all_some]
  constructor
  · rintro ⟨⟨⟨⟨⟨⟨hstartFits, hendFits⟩, hzoneFits⟩, -⟩, -⟩, -⟩, -⟩
    exact ⟨⟨hstartFits, hendFits⟩, hzoneFits⟩
  · rintro ⟨⟨hstartFits, hendFits⟩, hzoneFits⟩
    exact ⟨⟨⟨⟨⟨⟨hstartFits, hendFits⟩, hzoneFits⟩, hvalid⟩, hbounds.1⟩, by omega⟩, trivial⟩

theorem list_valid_iff (hempty : isZone dates "" = false) (hparams : listEventsParams dates raw = some params)
    (hpayload : toolPayload dates services context params = some payload) :
    payload.valid dates = true ↔ brokerTakes dates context raw .listEvents = true := by
  obtain ⟨-, -, h⟩ := Option.bind_eq_some_iff.mp hparams
  obtain ⟨startDate, hstart, h⟩ := Option.bind_eq_some_iff.mp h
  obtain ⟨endDate, hend, h⟩ := Option.bind_eq_some_iff.mp h
  obtain ⟨timezone, htimezone, h⟩ := Option.bind_eq_some_iff.mp h
  obtain rfl := Option.some.inj h
  obtain ⟨zone, hzone, hposts⟩ := Option.bind_eq_some_iff.mp hpayload
  obtain ⟨companyId, -, hposts⟩ := Option.bind_eq_some_iff.mp hposts
  obtain rfl := Option.some.inj hposts
  obtain ⟨hrawZone, hnamed⟩ := optional_text htimezone
  obtain ⟨hvalid, hsame⟩ := zone_valid "Indian/Mauritius" hempty hnamed hzone
  unfold brokerTakes
  rw [(optional_text hstart).1, (optional_text hend).1, hrawZone, hzone]
  unfold BrokerPayload.valid ListPayload.valid
  dsimp only
  rw [hsame, hvalid, Bool.and_true, Option.all_some]

/-- A text that a field gives is within its bound. -/
theorem bounded_default {limit : Nat} {default text : Option String} {name : String}
    (hdefault : default.all (lengthIn 0 limit) = true) (h : boundedField raw limit default name = some text) :
    text.all (lengthIn 0 limit) = true := by
  unfold boundedField defaulted at h
  cases hvalue : raw.member? name with
  | none =>
      rw [hvalue] at h
      obtain rfl := Option.some.inj h
      exact hdefault
  | some value =>
      have hread : defaulted (nullable (readText (lengthIn 0 limit))) none raw name = some text := by
        unfold defaulted
        rw [hvalue] at h ⊢
        exact h
      exact (optional_text hread).2

theorem book_valid_iff (hparams : bookEventParams lax dates raw = some params)
    (hpayload : toolPayload dates (utcServices parse services) context params = some payload) :
    payload.valid dates = true ↔ brokerTakes dates context raw .bookEvent = true := by
  obtain ⟨-, -, h⟩ := Option.bind_eq_some_iff.mp hparams
  obtain ⟨title, htitle, h⟩ := Option.bind_eq_some_iff.mp h
  obtain ⟨startTime, -, h⟩ := Option.bind_eq_some_iff.mp h
  obtain ⟨timezone, -, h⟩ := Option.bind_eq_some_iff.mp h
  obtain ⟨durationMinutes, hduration, h⟩ := Option.bind_eq_some_iff.mp h
  obtain ⟨attendees, hattendees, h⟩ := Option.bind_eq_some_iff.mp h
  obtain ⟨description, hdescription, h⟩ := Option.bind_eq_some_iff.mp h
  obtain ⟨location, hlocation, h⟩ := Option.bind_eq_some_iff.mp h
  obtain rfl := Option.some.inj h
  obtain ⟨key, hkey, hposts⟩ := Option.bind_eq_some_iff.mp hpayload
  obtain ⟨zone, -, hposts⟩ := Option.bind_eq_some_iff.mp hposts
  obtain ⟨built, hbuilt, hposts⟩ := Option.bind_eq_some_iff.mp hposts
  obtain rfl := Option.some.inj hposts
  obtain ⟨companyId, -, hbuilt⟩ := Option.bind_eq_some_iff.mp hbuilt
  obtain ⟨start, hstart, hbuilt⟩ := Option.bind_eq_some_iff.mp hbuilt
  obtain rfl := Option.some.inj hbuilt
  obtain ⟨time, -, rfl⟩ := Option.map_eq_some_iff.mp hstart
  obtain ⟨hrequest, hnonempty⟩ := Option.filter_eq_some_iff.mp hkey
  have htitleLength : 1 ≤ title.length ∧ title.length ≤ 200 := by
    have hcheck := (required_text htitle).2
    rw [lengthIn, Bool.and_eq_true, decide_eq_true_eq, decide_eq_true_eq] at hcheck
    exact hcheck
  have hkeyLength : 1 ≤ key.length := by
    have hne : key ≠ "" := of_decide_eq_true hnonempty
    rw [← String.length_toList]
    exact List.length_pos_iff.mpr fun hnil => hne (String.toList_eq_nil_iff.mp hnil)
  have htime := length_formatUtcIso time
  have hbounds : 5 ≤ durationMinutes ∧ durationMinutes ≤ 480 := defaulted_int (by decide) hduration
  have hnotes : description.all (fun text => decide (text.length ≤ 8000)) = true := by
    have hbounded := bounded_default rfl hdescription
    rw [lengthIn_zero, Option.all_eq_true] at hbounded
    rw [Option.all_eq_true]
    intro text htext
    have hlength := of_decide_eq_true (hbounded text htext)
    exact decide_eq_true (le_trans hlength (by decide))
  have hplace : (location.getD "Google Meet").length ≤ 255 := by
    have hbounded := bounded_default (by decide +kernel) hlocation
    rw [lengthIn_zero] at hbounded
    cases location with
    | none => decide +kernel
    | some text => exact of_decide_eq_true hbounded
  unfold brokerTakes
  rw [← defaulted_texts hattendees, hrequest]
  unfold BrokerPayload.valid validPayload
  dsimp only
  rw [lengthIn_zero]
  simp only [Bool.and_eq_true, decide_eq_true_eq, Option.all_some, hnotes]
  constructor
  · rintro ⟨⟨⟨⟨⟨⟨⟨⟨⟨⟨-, hkeyFits⟩, -⟩, -⟩, -⟩, -⟩, -⟩, -⟩, hattendeesFit⟩, -⟩, -⟩
    exact ⟨hattendeesFit, hkeyFits⟩
  · rintro ⟨hattendeesFit, hkeyFits⟩
    refine ⟨⟨⟨⟨⟨⟨⟨⟨⟨⟨hkeyLength, hkeyFits⟩, htitleLength.1⟩, ?_⟩, ?_⟩, ?_⟩, hbounds.1⟩, ?_⟩, hattendeesFit⟩, trivial⟩, hplace⟩
    all_goals omega

theorem cancel_valid (hparams : cancelEventParams lax raw = some params)
    (hpayload : toolPayload dates services context params = some payload) : payload.valid dates = true := by
  obtain ⟨-, -, h⟩ := Option.bind_eq_some_iff.mp hparams
  obtain ⟨eventId, heventId, h⟩ := Option.bind_eq_some_iff.mp h
  obtain ⟨reason, -, h⟩ := Option.bind_eq_some_iff.mp h
  obtain ⟨confirm, -, h⟩ := Option.bind_eq_some_iff.mp h
  obtain ⟨confirmationToken, -, h⟩ := Option.bind_eq_some_iff.mp h
  obtain rfl := Option.some.inj h
  obtain ⟨-, -, hposts⟩ := Option.bind_eq_some_iff.mp hpayload
  obtain ⟨companyId, -, hposts⟩ := Option.bind_eq_some_iff.mp hposts
  obtain rfl := Option.some.inj hposts
  have hlength := (required_text heventId).2
  rw [lengthIn, Bool.and_eq_true, decide_eq_true_eq, decide_eq_true_eq] at hlength
  show lengthIn 1 255 eventId = true
  rw [lengthIn, Bool.and_eq_true, decide_eq_true_eq, decide_eq_true_eq]
  omega

/-- The broker takes the payload of an accepted call exactly if its dates have no time, its zone has a name of at most
64 characters, it has at most a hundred attendees, and the key of a booking has at most 128 characters. -/
theorem payload_valid_iff {toolName : ToolName} (hempty : isZone dates "" = false)
    (hparams : validateToolParams lax dates raw toolName = some params)
    (hpayload : toolPayload dates (utcServices parse services) context params = some payload) :
    payload.valid dates = true ↔ brokerTakes dates context raw toolName = true := by
  cases toolName with
  | getCalendarAvailability => exact availability_valid_iff hempty hparams hpayload
  | bookEvent => exact book_valid_iff hparams hpayload
  | cancelEvent => exact iff_of_true (cancel_valid hparams hpayload) rfl
  | listEvents => exact list_valid_iff hempty hparams hpayload

end Refinement

/-! ## Four calls -/

/-- Integers and truth values that are written as such. -/
def sampleLax : Lax where
  int
    | .int number => some number
    | _ => none
  bool
    | .bool value => some value
    | _ => none

/-- The dates of one zone. -/
def sampleZones : Dates :=
  ⟨fun name => if name = "Indian/Mauritius" then some ⟨(· - 14400000000), (· + 14400000000)⟩ else none, fun _ => "",
    fun _ => none, fun _ => none, fun _ => ""⟩

/-- A start time that is six o'clock in UTC. -/
def sampleParse (startTime _timezone : String) : Option UtcTime :=
  if startTime = "2026-10-01T10:00:00" then some ⟨2026, 10, 1, 6, 0, 0⟩ else none

def sampleCallContext : CallContext :=
  ⟨"11111111-1111-4111-8111-111111111111", some "Indian/Mauritius", none, some "booking-1", none⟩

/-- Parameters with a start date. -/
def sampleDated (startDate : String) : Json :=
  .obj [("start_date", .str startDate)]

/-- A booking with so many attendees. -/
def sampleBookingParams (attendees : Nat) : Json :=
  .obj [("title", .str "Review"), ("start_time", .str "2026-10-01T10:00:00"),
    ("attendees", .arr (List.replicate attendees (.str "Ana")))]

/-- The payload of a call, when the call is accepted. -/
def samplePayload (toolName : ToolName) (raw : Json) (context : CallContext) : Option BrokerPayload :=
  (validateToolParams sampleLax sampleZones raw toolName).bind
    (toolPayload sampleZones (utcServices sampleParse (sampleServices .raised)) context)

/-- A date without a time is listed. -/
theorem payload_valid_iff_dated :
    ∃ params payload, validateToolParams sampleLax sampleZones (sampleDated " 2026-10-01") .listEvents = some params ∧
      toolPayload sampleZones (utcServices sampleParse (sampleServices .raised)) sampleCallContext params = some payload ∧
      (payload.valid sampleZones = true ↔
        brokerTakes sampleZones sampleCallContext (sampleDated " 2026-10-01") .listEvents = true) := by
  have haccepted : (samplePayload .listEvents (sampleDated " 2026-10-01") sampleCallContext).isSome = true := by
    decide +kernel
  obtain ⟨payload, hposts⟩ := Option.isSome_iff_exists.mp haccepted
  obtain ⟨params, hparams, hpayload⟩ := Option.bind_eq_some_iff.mp hposts
  exact ⟨params, payload, hparams, hpayload, payload_valid_iff (by decide +kernel) hparams hpayload⟩

/-- The parameters are accepted, and the broker refuses their payload. -/
def refusedAfterAcceptance (toolName : ToolName) (raw : Json) (context : CallContext) : Prop :=
  ∃ params payload, validateToolParams sampleLax sampleZones raw toolName = some params ∧
    toolPayload sampleZones (utcServices sampleParse (sampleServices .raised)) context params = some payload ∧
    payload.valid sampleZones = false

theorem refused_of_samplePayload {toolName : ToolName} {raw : Json} {context : CallContext}
    (h : (samplePayload toolName raw context).any (fun payload => !payload.valid sampleZones) = true) :
    refusedAfterAcceptance toolName raw context := by
  obtain ⟨payload, hposts, hrefused⟩ := (Option.any_eq_true _ _).mp h
  obtain ⟨params, hparams, hpayload⟩ := Option.bind_eq_some_iff.mp hposts
  exact ⟨params, payload, hparams, hpayload, (Bool.not_eq_true' _).mp hrefused⟩

/-- A date with a time, a hundred and one attendees, and a key of 129 characters. -/
theorem accepted_and_refused :
    refusedAfterAcceptance .listEvents (sampleDated "2026-10-01T09:00") sampleCallContext ∧
      refusedAfterAcceptance .getCalendarAvailability (sampleDated "2026-10-01T09:00") sampleCallContext ∧
      refusedAfterAcceptance .bookEvent (sampleBookingParams 101) sampleCallContext ∧
      refusedAfterAcceptance .bookEvent (sampleBookingParams 1)
        { sampleCallContext with idempotencyKey := some (String.ofList (List.replicate 129 'k')) } := by
  constructor
  · exact refused_of_samplePayload (by decide +kernel)
  · constructor
    · exact refused_of_samplePayload (by decide +kernel)
    · constructor
      · exact refused_of_samplePayload (by decide +kernel)
      · exact refused_of_samplePayload (by decide +kernel)

end Backend
end VoiceAssistants
