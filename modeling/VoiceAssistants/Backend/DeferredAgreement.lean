import VoiceAssistants.Backend.BookingWorker
import VoiceAssistants.Backend.BookingRetries
import VoiceAssistants.Backend.FreeSlots

/-!
# The direct and the deferred booking of a slot

Before the write, the direct path asks whether anything opaque overlaps the requested interval.  The worker asks instead
whether the requested start is one of the day's slots.  The two agree on a free interval exactly if the start is on the
grid of the slots (`OnGrid`): a whole number of half hours of local time after the opening, at a local time that exists,
with a slot that ends before closing, as do all slots before it.
-/

namespace VoiceAssistants
namespace BookingWorker

open Db Sql Async Collections
open Backend (ProviderAnswer BookPayload AvailabilityPayload)
open GoogleCalendar (Datetime Dates Zone GoogleEvent dayLength slotStep)

/-- What `broker_post` makes of an endpoint's answer. -/
def brokerAnswer : Except Nat JsonObject → ProviderAnswer
  | .ok result => .returned result
  | .error statusCode => .httpError statusCode

/-- The worker's use of `datetime` and `zoneinfo`. -/
def workerCalendar (datetime : Datetime) (dates : Dates) : Calendar where
  parseDatetime text := (datetime.parse text).toOption
  localDay timezone start := (dates.zoneInfo timezone).map fun zone => dates.isoDate (zone.toLocal start / dayLength)

/-- The worker's recheck of the requested slot while Google serves its request at the time `now`. -/
def recheckSlot (datetime : Datetime) (dates : Dates) (now : Int) (job : Job) (calendar : List GoogleEvent) :
    Except Failure (Option BookingResult) := do
  let (requestedStart, payload) ← job.availabilityPayload (workerCalendar datetime dates)
  let availability ← callResult (brokerAnswer
    (GoogleCalendar.calendarAvailability dates now .valid .served payload.toAvailabilityPayload calendar))
  afterAvailability (workerCalendar datetime dates) requestedStart availability

/-- The worker goes on to the call of `book`. -/
def WorkerProceeds (datetime : Datetime) (dates : Dates) (now : Int) (job : Job) (calendar : List GoogleEvent) : Prop :=
  recheckSlot datetime dates now job calendar = .ok none

/-- The direct path goes on to the provider's book call while Google serves its request. -/
def DirectProceeds (datetime : Datetime) (payload : BookPayload) (calendar : List GoogleEvent) : Prop :=
  GoogleCalendar.validPayload payload = true ∧
    ∃ answer, GoogleCalendar.checkIntervalFree datetime .valid .served payload.startTime payload.durationMinutes
      calendar = some answer ∧ answer.status = some "available"

/-- The busy periods that `freeBusy` reports for a day. -/
def dayBusy (zone : Zone) (day : Int) (calendar : List GoogleEvent) : List (Int × Int) :=
  let range := (GoogleCalendar.localDayRange zone day).1
  let rangeEnd := (GoogleCalendar.localDayRange zone day).2
  (calendar.filter (GoogleEvent.busy range rangeEnd)).map fun event => (event.start, event.stop)

/-- The start is on the grid of its day's slots.  A slot's text has no fraction of a second; a slot that starts within a
second has to be free by itself. -/
def OnGrid (dates : Dates) (zone : Zone) (payload : BookingPayload) (calendar : List GoogleEvent) (start : Int) : Prop :=
  let day := zone.toLocal start / dayLength
  let duration : Int := payload.durationMinutes * 60000000
  ∃ opening closing, GoogleCalendar.openingHours dates day payload.businessHours = some (opening, closing) ∧
    ∃ (turn : Nat) (slot : Int), slot = zone.toUtc (day * dayLength + opening + turn * slotStep) ∧
      start = slot / 1000000 * 1000000 ∧ GoogleCalendar.Exists zone (day * dayLength + opening + turn * slotStep) ∧
      (∀ turn' ≤ turn, GoogleCalendar.GoesOn zone duration (day * dayLength + closing)
        (zone.toUtc (day * dayLength + closing)) (day * dayLength + opening + turn' * slotStep)) ∧
      (slot ≠ start → GoogleCalendar.collides (dayBusy zone day calendar) slot (slot + duration) = false)

/-- The whole requested interval is within the opening hours of its day. -/
def InsideHours (dates : Dates) (zone : Zone) (payload : BookingPayload) (start : Int) : Prop :=
  let day := zone.toLocal start / dayLength
  ∃ opening closing, GoogleCalendar.openingHours dates day payload.businessHours = some (opening, closing) ∧
    day * dayLength + opening ≤ zone.toLocal start ∧
    zone.toLocal start + payload.durationMinutes * 60000000 ≤ day * dayLength + closing

/-- The condition: the zone is known, the broker accepts the payload of the recheck, and the start is on the grid. -/
def Rechecked (datetime : Datetime) (dates : Dates) (job : Job) (calendar : List GoogleEvent) : Prop :=
  ∃ start zone, datetime.parse job.payload.startTime = .ok start ∧ dates.zoneInfo job.payload.timezone = some zone ∧
    GoogleCalendar.validAvailability dates
      (job.freshAvailability (dates.isoDate (zone.toLocal start / dayLength))).toAvailabilityPayload = true ∧
    OnGrid dates zone job.payload calendar start

/-- `date.fromisoformat` reads what `isoformat` has written for the day of a start, and `_parse_datetime` reads the texts
of that day's slots, to the second. -/
structure ReadsBack (datetime : Datetime) (dates : Dates) (zone : Zone) (payload : BookingPayload)
    (calendar : List GoogleEvent) (day : Int) : Prop where
  date : dates.isoDate day ≠ "" ∧ dates.dateFromIso (dates.isoDate day) = some day
  slots : ∀ slot ∈ GoogleCalendar.computeFreeSlots dates zone day (dayBusy zone day calendar) payload.durationMinutes
    payload.businessHours, datetime.parse (dates.slotText slot) = .ok (slot / 1000000 * 1000000)

section Recheck

variable {datetime : Datetime} {dates : Dates} {zone : Zone} {job : Job} {calendar : List GoogleEvent} {now start : Int}

/-- Among texts that can be read, the requested start is looked for. -/
theorem slotOffered_eq_true (start : Int) {worker : Calendar} {slots : List String}
    (hread : ∀ slot ∈ slots, ∃ instant, worker.parseDatetime slot = some instant) :
    slotOffered worker start slots = some true ↔ ∃ slot ∈ slots, worker.parseDatetime slot = some start := by
  induction slots with
  | nil => simp [slotOffered]
  | cons slot slots ih =>
      obtain ⟨instant, hinstant⟩ := hread slot List.mem_cons_self
      have hrest := ih fun other hmem => hread other (List.mem_cons_of_mem _ hmem)
      simp only [slotOffered, hinstant, List.mem_cons, exists_eq_or_imp]
      by_cases hfound : instant = start
      · simp [hfound]
      · rw [if_neg hfound, hrest]
        simp [hfound]

/-- The recheck once its payload is built and the endpoint has answered. -/
theorem recheckSlot_of_ok {payload : FreshAvailabilityPayload} {result : JsonObject}
    (hpayload : job.availabilityPayload (workerCalendar datetime dates) = .ok (start, payload))
    (hanswer : GoogleCalendar.calendarAvailability dates now .valid .served payload.toAvailabilityPayload calendar =
      .ok result) :
    recheckSlot datetime dates now job calendar = afterAvailability (workerCalendar datetime dates) start result := by
  unfold recheckSlot
  rw [hpayload]
  simp only [bind, Except.bind, hanswer, brokerAnswer, callResult]

theorem recheckSlot_of_error {payload : FreshAvailabilityPayload} {statusCode : Nat}
    (hpayload : job.availabilityPayload (workerCalendar datetime dates) = .ok (start, payload))
    (hanswer : GoogleCalendar.calendarAvailability dates now .valid .served payload.toAvailabilityPayload calendar =
      .error statusCode) :
    recheckSlot datetime dates now job calendar = .error (.httpException statusCode) := by
  unfold recheckSlot
  rw [hpayload]
  simp only [bind, Except.bind, hanswer, brokerAnswer, callResult]

/-- What the endpoint answers for the day of a start. -/
theorem calendarAvailability_day {day : Int}
    (hzone : dates.zoneInfo job.payload.timezone = some zone)
    (hvalid : GoogleCalendar.validAvailability dates
      (job.freshAvailability (dates.isoDate day)).toAvailabilityPayload = true)
    (hreads : ReadsBack datetime dates zone job.payload calendar day) :
    GoogleCalendar.calendarAvailability dates now .valid .served
        (job.freshAvailability (dates.isoDate day)).toAvailabilityPayload calendar =
      .ok ((GoogleCalendar.availabilityResult dates (job.freshAvailability (dates.isoDate day)).toAvailabilityPayload day
        day (GoogleCalendar.computeFreeSlots dates zone day (dayBusy zone day calendar) job.payload.durationMinutes
          job.payload.businessHours)).set "timezone" (.text job.payload.timezone)) := by
  have hdays : GoogleCalendar.requestedDays dates zone now
      (job.freshAvailability (dates.isoDate day)).toAvailabilityPayload = some (day, day) := by
    simp [GoogleCalendar.requestedDays, GoogleCalendar.dayOr, Job.freshAvailability, hreads.date.1, hreads.date.2]
  have hlive : GoogleCalendar.availabilityLive dates now .valid .served
      (job.freshAvailability (dates.isoDate day)).toAvailabilityPayload calendar =
      some (some (GoogleCalendar.availabilityResult dates
        (job.freshAvailability (dates.isoDate day)).toAvailabilityPayload day day
        (GoogleCalendar.computeFreeSlots dates zone day (dayBusy zone day calendar) job.payload.durationMinutes
          job.payload.businessHours))) := by
    have hname : (job.freshAvailability (dates.isoDate day)).timezone = job.payload.timezone := rfl
    simp only [GoogleCalendar.availabilityLive, hname, hzone, hdays, GoogleCalendar.freeBusy]
    rfl
  rw [GoogleCalendar.calendarAvailability, if_pos hvalid, hlive]
  rfl

/-- The worker goes on after such an answer exactly if the start is one of the day's slots, to the second. -/
theorem afterAvailability_day {day : Int} (hreads : ReadsBack datetime dates zone job.payload calendar day)
    {payload : AvailabilityPayload} {zoneName : JsonValue} :
    afterAvailability (workerCalendar datetime dates) start ((GoogleCalendar.availabilityResult dates payload day day
        (GoogleCalendar.computeFreeSlots dates zone day (dayBusy zone day calendar) job.payload.durationMinutes
          job.payload.businessHours)).set "timezone" zoneName) = .ok none ↔
      ∃ slot ∈ GoogleCalendar.computeFreeSlots dates zone day (dayBusy zone day calendar) job.payload.durationMinutes
        job.payload.businessHours, start = slot / 1000000 * 1000000 := by
  have hparse : ∀ slot ∈ GoogleCalendar.computeFreeSlots dates zone day (dayBusy zone day calendar)
      job.payload.durationMinutes job.payload.businessHours,
      (workerCalendar datetime dates).parseDatetime (dates.slotText slot) = some (slot / 1000000 * 1000000) := by
    intro slot hslot
    simp [workerCalendar, hreads.slots slot hslot, Except.toOption]
  have hread : ∀ text ∈ (GoogleCalendar.computeFreeSlots dates zone day (dayBusy zone day calendar)
      job.payload.durationMinutes job.payload.businessHours).map dates.slotText,
      ∃ instant, (workerCalendar datetime dates).parseDatetime text = some instant := by
    intro text htext
    obtain ⟨slot, hslot, rfl⟩ := List.mem_map.mp htext
    exact ⟨_, hparse slot hslot⟩
  have hoffered := slotOffered_eq_true start hread
  unfold afterAvailability
  rw [GoogleCalendar.status_availabilityResult]
  simp only [reduceCtorEq, ↓reduceIte, availableSlots, GoogleCalendar.slots_availabilityResult, Option.bind_some]
  constructor
  · intro hgoes
    have htrue : slotOffered (workerCalendar datetime dates) start
        ((GoogleCalendar.computeFreeSlots dates zone day (dayBusy zone day calendar) job.payload.durationMinutes
          job.payload.businessHours).map dates.slotText) = some true := by
      split at hgoes
      · cases hgoes
      · assumption
      · cases hgoes
    obtain ⟨text, htext, hinstant⟩ := hoffered.mp htrue
    obtain ⟨slot, hslot, rfl⟩ := List.mem_map.mp htext
    rw [hparse slot hslot] at hinstant
    exact ⟨slot, hslot, (Option.some.inj hinstant).symm⟩
  · rintro ⟨slot, hslot, rfl⟩
    rw [hoffered.mpr ⟨_, List.mem_map_of_mem hslot, hparse slot hslot⟩]

/-- On a free interval, the slot that starts with the start collides with nothing. -/
theorem collides_of_free {stop : Int} (hparse : datetime.parse job.payload.startTime = .ok start)
    (hends : GoogleCalendar.plusMinutes start job.payload.durationMinutes = .ok stop)
    (hfree : GoogleCalendar.IntervalFree datetime job.bookPayload calendar) {day : Int} :
    GoogleCalendar.collides (dayBusy zone day calendar) start (start + job.payload.durationMinutes * 60000000) = false := by
  have hstop : stop = start + job.payload.durationMinutes * 60000000 := by
    unfold GoogleCalendar.plusMinutes at hends
    split at hends
    · exact (Except.ok.inj hends).symm
    · cases hends
  rw [GoogleCalendar.collides, List.any_eq_false]
  intro period hperiod
  obtain ⟨event, hevent, rfl⟩ := List.mem_map.mp hperiod
  obtain ⟨hmem, hbusy⟩ := List.mem_filter.mp hevent
  have hnot := hfree start stop hparse hends event hmem
  simp only [GoogleEvent.busy, Bool.and_eq_true, Bool.not_eq_true', decide_eq_true_eq] at hbusy
  simp only [GoogleEvent.busy, hbusy.1.1.1, hbusy.1.1.2, Bool.not_false, Bool.true_and, Bool.and_eq_false_iff,
    decide_eq_false_iff_not] at hnot
  simp only [Bool.and_eq_true, decide_eq_true_eq, not_and]
  omega

/-- A start on the grid is that of a slot of the day, to the second, and the other way round. -/
theorem onGrid_iff_slot {stop : Int} (hparse : datetime.parse job.payload.startTime = .ok start)
    (hends : GoogleCalendar.plusMinutes start job.payload.durationMinutes = .ok stop)
    (hfree : GoogleCalendar.IntervalFree datetime job.bookPayload calendar) :
    OnGrid dates zone job.payload calendar start ↔
      ∃ slot ∈ GoogleCalendar.computeFreeSlots dates zone (zone.toLocal start / dayLength)
        (dayBusy zone (zone.toLocal start / dayLength) calendar) job.payload.durationMinutes job.payload.businessHours,
        start = slot / 1000000 * 1000000 := by
  unfold OnGrid
  simp only [GoogleCalendar.mem_computeFreeSlots]
  constructor
  · rintro ⟨opening, closing, hhours, turn, slot, hslot, hstart, hexists, hgoes, hfraction⟩
    refine ⟨slot, ⟨opening, closing, hhours, turn, hgoes, hexists, hslot, ?_⟩, hstart⟩
    by_cases heq : slot = start
    · rw [heq]
      exact collides_of_free hparse hends hfree
    · exact hfraction heq
  · rintro ⟨slot, ⟨opening, closing, hhours, turn, hgoes, hexists, hslot, hcollides⟩, hstart⟩
    exact ⟨opening, closing, hhours, turn, slot, hslot, hstart, hexists, hgoes, fun _ => hcollides⟩

end Recheck

/-- Where the direct path goes on to the provider's book call, and the interval is free when the worker rechecks it, the
worker goes on exactly if the start is on the grid. -/
theorem deferred_agrees {datetime : Datetime} {dates : Dates} {job : Job} {now : Int}
    {calendar calendar' : List GoogleEvent} (hdirect : DirectProceeds datetime job.bookPayload calendar)
    (hfree : GoogleCalendar.IntervalFree datetime job.bookPayload calendar')
    (hreads : ∀ start zone, datetime.parse job.payload.startTime = .ok start →
      dates.zoneInfo job.payload.timezone = some zone →
      ReadsBack datetime dates zone job.payload calendar' (zone.toLocal start / dayLength)) :
    WorkerProceeds datetime dates now job calendar' ↔ Rechecked datetime dates job calendar' := by
  -- the direct path has parsed the times
  obtain ⟨start, stop, hparse, hends⟩ : ∃ start stop, datetime.parse job.payload.startTime = .ok start ∧
      GoogleCalendar.plusMinutes start job.payload.durationMinutes = .ok stop :=
    GoogleCalendar.times_of_available hdirect.2
  have hstart : (workerCalendar datetime dates).parseDatetime job.payload.startTime = some start := by
    simp [workerCalendar, hparse, Except.toOption]
  cases hzone : dates.zoneInfo job.payload.timezone with
  | none =>
      have hpayload : job.availabilityPayload (workerCalendar datetime dates) = .error .exception := by
        have hday : (workerCalendar datetime dates).localDay job.payload.timezone start = none := by
          simp [workerCalendar, hzone]
        simp only [Job.availabilityPayload, hstart, hday]
      constructor
      · intro h
        rw [WorkerProceeds, recheckSlot, hpayload] at h
        cases h
      · rintro ⟨_, _, _, h, _⟩
        rw [hzone] at h
        cases h
  | some zone =>
      have hpayload : job.availabilityPayload (workerCalendar datetime dates) =
          .ok (start, job.freshAvailability (dates.isoDate (zone.toLocal start / dayLength))) := by
        have hday : (workerCalendar datetime dates).localDay job.payload.timezone start =
            some (dates.isoDate (zone.toLocal start / dayLength)) := by
          simp [workerCalendar, hzone]
        simp only [Job.availabilityPayload, hstart, hday]
      have hback := hreads start zone hparse hzone
      by_cases hvalid : GoogleCalendar.validAvailability dates
          (job.freshAvailability (dates.isoDate (zone.toLocal start / dayLength))).toAvailabilityPayload = true
      · rw [WorkerProceeds, recheckSlot_of_ok hpayload (calendarAvailability_day hzone hvalid hback)]
        refine ((afterAvailability_day hback).trans (onGrid_iff_slot hparse hends hfree).symm).trans
          ⟨fun hgrid => ⟨start, zone, hparse, hzone, hvalid, hgrid⟩, ?_⟩
        rintro ⟨start', zone', hparse', hzone', -, hgrid⟩
        obtain rfl := Except.ok.inj (hparse.symm.trans hparse')
        obtain rfl := Option.some.inj (hzone.symm.trans hzone')
        exact hgrid
      · -- the endpoint rejects the payload
        have hrejected : GoogleCalendar.calendarAvailability dates now .valid .served
            (job.freshAvailability (dates.isoDate (zone.toLocal start / dayLength))).toAvailabilityPayload calendar' =
            .error 422 := by
          rw [GoogleCalendar.calendarAvailability, if_neg hvalid]
        constructor
        · intro h
          rw [WorkerProceeds, recheckSlot_of_error hpayload hrejected] at h
          cases h
        · rintro ⟨start', zone', hparse', hzone', hvalid', -⟩
          obtain rfl := Except.ok.inj (hparse.symm.trans hparse')
          obtain rfl := Option.some.inj (hzone.symm.trans hzone')
          exact absurd hvalid' hvalid

/-! ## A start at ten, and one at a quarter past ten -/

/-- The day 2026-10-01, whose number is 20727. -/
def sampleDay : Int := 20727

/-- Two digits. -/
def twoDigits (value : Int) : String :=
  String.ofList [Nat.digitChar (value.toNat / 10), Nat.digitChar (value.toNat % 10)]

/-- The text of an instant of the sample's day, at a whole minute. -/
def sampleSlotText (instant : Int) : String :=
  let minutes := (instant - sampleDay * dayLength) / 60000000
  "2026-10-01T" ++ twoDigits (minutes / 60) ++ ":" ++ twoDigits (minutes % 60) ++ ":00Z"

/-- `datetime` on the quarters of an hour from five to one o'clock of the sample's day. -/
def sampleDatetime : Datetime where
  fromIsoformat text :=
    match ((List.range 33).map fun quarter => sampleDay * dayLength + (20 + quarter) * 900000000).find? fun instant =>
        GoogleCalendar.replaceZulu (sampleSlotText instant) = text with
    | some instant => .ok instant
    | none => .error .valueError
  isoformat instant := GoogleCalendar.replaceZulu (sampleSlotText instant)

/-- Mauritius is four hours ahead of UTC, and the sample's day is the only one that has a text. -/
def sampleDates : Dates where
  zoneInfo name := if name = "Indian/Mauritius" then some ⟨(· - 14400000000), (· + 14400000000)⟩ else none
  isoDate day := if day = sampleDay then "2026-10-01" else "2026-10-02"
  dateFromIso text := if text = "2026-10-01" then some sampleDay else none
  timeFromIso _ := none
  slotText := sampleSlotText

/-- A queued booking with the given start, in the default hours. -/
def sampleJob (startTime : String) : Job where
  id := 1
  userId := 1
  idempotencyKey := "booking-1"
  payload :=
    { title := "Review", startTime, durationMinutes := 30, attendees := [], description := none,
      location := some "Google Meet", timezone := "Indian/Mauritius", businessHours := none }
  attemptCount := 1
  previousStatus := .pending

/-- The zone of the sample. -/
def sampleZone : Zone :=
  ⟨(· - 14400000000), (· + 14400000000)⟩

theorem parse_of_toOption {datetime : Datetime} {text : String} {instant : Int}
    (h : (datetime.parse text).toOption = some instant) : datetime.parse text = .ok instant := by
  cases hparse : datetime.parse text with
  | error error =>
      rw [hparse] at h
      cases h
  | ok other =>
      rw [hparse] at h
      rw [Option.some.inj h]

/-- The texts of the sample's day are read back. -/
theorem readsBack_sample {startTime : String} :
    ReadsBack sampleDatetime sampleDates sampleZone (sampleJob startTime).payload [] sampleDay := by
  constructor
  · decide +kernel
  · have hall : ∀ slot ∈ GoogleCalendar.computeFreeSlots sampleDates sampleZone sampleDay (dayBusy sampleZone sampleDay [])
        30 none, (sampleDatetime.parse (sampleDates.slotText slot)).toOption = some (slot / 1000000 * 1000000) := by
      decide +kernel
    exact fun slot hslot => parse_of_toOption (hall slot hslot)

theorem deferred_agrees_ten :
    WorkerProceeds sampleDatetime sampleDates 0 (sampleJob "2026-10-01T06:00:00Z") [] := by
  have hparse : sampleDatetime.parse "2026-10-01T06:00:00Z" = .ok 1790834400000000 :=
    parse_of_toOption (by decide +kernel)
  have hends : GoogleCalendar.plusMinutes 1790834400000000 30 = .ok 1790836200000000 := by
    simp [GoogleCalendar.plusMinutes, GoogleCalendar.maxInstant]
  have hzone : sampleDates.zoneInfo "Indian/Mauritius" = some sampleZone := rfl
  have hdirect : DirectProceeds sampleDatetime (sampleJob "2026-10-01T06:00:00Z").bookPayload [] :=
    ⟨by decide +kernel, (GoogleCalendar.checkIntervalFree_available hparse hends).mpr ⟨rfl, rfl, by simp⟩⟩
  have hfree : GoogleCalendar.IntervalFree sampleDatetime (sampleJob "2026-10-01T06:00:00Z").bookPayload [] := by
    intro _ _ _ _ event hmem
    cases hmem
  refine (deferred_agrees hdirect hfree ?_).mpr ⟨1790834400000000, sampleZone, hparse, hzone, by decide +kernel, ?_⟩
  · intro start zone hstart hzone'
    obtain rfl := Except.ok.inj (hparse.symm.trans hstart)
    obtain rfl := Option.some.inj (hzone.symm.trans hzone')
    exact readsBack_sample
  · -- two half hours after nine
    refine ⟨9 * 3600000000, 17 * 3600000000, by decide +kernel, 2, 1790834400000000, by decide +kernel, by decide, ?_, ?_,
      fun hne => absurd rfl hne⟩
    · show sampleZone.toLocal (sampleZone.toUtc _) = _
      decide +kernel
    · intro turn hle
      have hturn : turn = 0 ∨ turn = 1 ∨ turn = 2 := by omega
      rcases hturn with rfl | rfl | rfl
      · exact ⟨by decide +kernel, fun _ => by decide +kernel⟩
      · exact ⟨by decide +kernel, fun _ => by decide +kernel⟩
      · exact ⟨by decide +kernel, fun _ => by decide +kernel⟩

/-- The recheck has left nothing to write. -/
def goesOn : Except Failure (Option BookingResult) → Bool
  | .ok none => true
  | .ok (some _) | .error _ => false

/-- A free quarter past ten: the direct path books it, the worker finds it no longer available. -/
theorem quarter_past_ten :
    ¬ ∀ (datetime : Datetime) (dates : Dates) (job : Job) (now : Int) (calendar calendar' : List GoogleEvent),
      DirectProceeds datetime job.bookPayload calendar →
      GoogleCalendar.IntervalFree datetime job.bookPayload calendar' →
      (∀ start zone, datetime.parse job.payload.startTime = .ok start →
        dates.zoneInfo job.payload.timezone = some zone →
        ReadsBack datetime dates zone job.payload calendar' (zone.toLocal start / dayLength) ∧
          InsideHours dates zone job.payload start) →
      WorkerProceeds datetime dates now job calendar' := by
  intro hall
  have hparse : sampleDatetime.parse "2026-10-01T06:15:00Z" = .ok 1790835300000000 :=
    parse_of_toOption (by decide +kernel)
  have hends : GoogleCalendar.plusMinutes 1790835300000000 30 = .ok 1790837100000000 := by
    simp [GoogleCalendar.plusMinutes, GoogleCalendar.maxInstant]
  have hzone : sampleDates.zoneInfo "Indian/Mauritius" = some sampleZone := rfl
  have hdirect : DirectProceeds sampleDatetime (sampleJob "2026-10-01T06:15:00Z").bookPayload [] :=
    ⟨by decide +kernel, (GoogleCalendar.checkIntervalFree_available hparse hends).mpr ⟨rfl, rfl, by simp⟩⟩
  have hfree : GoogleCalendar.IntervalFree sampleDatetime (sampleJob "2026-10-01T06:15:00Z").bookPayload [] := by
    intro _ _ _ _ event hmem
    cases hmem
  have hrejects : goesOn (recheckSlot sampleDatetime sampleDates 0 (sampleJob "2026-10-01T06:15:00Z") []) = false := by
    decide +kernel
  have hproceeds := hall sampleDatetime sampleDates (sampleJob "2026-10-01T06:15:00Z") 0 [] [] hdirect hfree (by
    intro start zone hstart hzone'
    obtain rfl := Except.ok.inj (hparse.symm.trans hstart)
    obtain rfl := Option.some.inj (hzone.symm.trans hzone')
    exact ⟨readsBack_sample, 9 * 3600000000, 17 * 3600000000, by decide +kernel, by decide +kernel, by decide +kernel⟩)
  unfold WorkerProceeds at hproceeds
  rw [hproceeds] at hrejects
  cases hrejects

end BookingWorker
end VoiceAssistants
