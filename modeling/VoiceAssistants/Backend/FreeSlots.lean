import VoiceAssistants.Backend.GoogleCalendar

/-!
# The availability of a day (`_compute_free_slots` and its endpoint)

The slots of a day start every 30 minutes of local time from the opening, as long as a whole slot ends before closing
and nothing in the calendar overlaps it.  `mem_freeSlots` says which instants the loop collects.

A local time is a number of microseconds since the local midnight of 1970-01-01, a day is a number of days.  The zones,
and the texts of dates and times, are parameters; a conversion at an end of the range of `datetime`, which overflows, is
left out.
-/

namespace VoiceAssistants
namespace GoogleCalendar

open Sql Collections
open Backend (AvailabilityPayload)

/-! ## Local time -/

/-- A `ZoneInfo`: the instant of a local time (with `fold=0`), and the local time of an instant. -/
structure Zone where
  toUtc : Int → Int
  toLocal : Int → Int

/-- What is used of `zoneinfo` and of the texts of dates and times. -/
structure Dates where
  /-- `ZoneInfo(name)`; `none` is the exception. -/
  zoneInfo : String → Option Zone
  /-- `date.isoformat()`. -/
  isoDate : Int → String
  /-- `date.fromisoformat(text)`. -/
  dateFromIso : String → Option Int
  /-- `time.fromisoformat(text)`, as the time since midnight. -/
  timeFromIso : String → Option Int
  /-- `strftime("%Y-%m-%dT%H:%M:%SZ")` of an instant in UTC. -/
  slotText : Int → String

/-- The microseconds of a day. -/
def dayLength : Int := 86400000000

/-- `timedelta(minutes=30)`. -/
def slotStep : Int := 1800000000

/-- `local_day.strftime("%A").lower()`; the day 0 is a Thursday. -/
def weekday (day : Int) : String :=
  match (day % 7).toNat with
  | 0 => "thursday"
  | 1 => "friday"
  | 2 => "saturday"
  | 3 => "sunday"
  | 4 => "monday"
  | 5 => "tuesday"
  | _ => "wednesday"

/-- `normalized.split("-")` after the dashes have been made hyphens. -/
def splitHours (hours : String) : List String :=
  let dash (c : Char) : Char := if c.toNat = 0x2013 ∨ c.toNat = 0x2014 then '-' else c
  (((strip hours).toList.map dash).splitOn '-').map String.ofList

/-- The opening and closing times of a day, since midnight; `none` is a day without slots. -/
def openingHours (dates : Dates) (day : Int) (businessHours : Option (List (String × String))) : Option (Int × Int) :=
  let hours := businessHours.getD []
  if hours.isEmpty then some (9 * 3600000000, 17 * 3600000000)
  else
    match hours.find? fun entry => entry.1 = weekday day with
    | none => none
    | some (_, value) =>
        if (strip value).toList.map Char.toLower = "closed".toList then none
        else
          match splitHours value with
          | [first, last] =>
              match dates.timeFromIso (strip first), dates.timeFromIso (strip last) with
              | some opening, some closing => if opening ≥ closing then none else some (opening, closing)
              | _, _ => none
          | _ => none

/-- A busy period overlaps a slot. -/
def collides (busy : List (Int × Int)) (start stop : Int) : Bool :=
  busy.any fun period => start < period.2 && stop > period.1

/-- The loop of `_compute_free_slots`, from a local time on; `fuel` bounds its turns. -/
def freeSlots (zone : Zone) (busy : List (Int × Int)) (duration closing closeUtc : Int) : Nat → Int → List Int
  | 0, _ => []
  | fuel + 1, slotStartLocal =>
      if slotStartLocal < closing then
        let slotStart := zone.toUtc slotStartLocal
        -- skip local times that do not exist
        if zone.toLocal slotStart ≠ slotStartLocal then
          freeSlots zone busy duration closing closeUtc fuel (slotStartLocal + slotStep)
        else if slotStart + duration > closeUtc then []
        else if collides busy slotStart (slotStart + duration) then
          freeSlots zone busy duration closing closeUtc fuel (slotStartLocal + slotStep)
        else slotStart :: freeSlots zone busy duration closing closeUtc fuel (slotStartLocal + slotStep)
      else []

/-- The turns that the loop takes at most. -/
def slotTurns (opening closing : Int) : Nat :=
  ((closing - opening) / slotStep).toNat + 1

/-- `_compute_free_slots`, as instants. -/
def computeFreeSlots (dates : Dates) (zone : Zone) (day : Int) (busy : List (Int × Int)) (durationMinutes : Nat)
    (businessHours : Option (List (String × String))) : List Int :=
  match openingHours dates day businessHours with
  | none => []
  | some (opening, closing) =>
      freeSlots zone busy (durationMinutes * 60000000) (day * dayLength + closing)
        (zone.toUtc (day * dayLength + closing)) (slotTurns opening closing) (day * dayLength + opening)

/-! ## The endpoint -/

/-- `_local_date_range_utc` of one day: where it begins and ends. -/
def localDayRange (zone : Zone) (day : Int) : Int × Int :=
  (zone.toUtc (day * dayLength), zone.toUtc ((day + 1) * dayLength))

/-- `date.fromisoformat(text) if text else otherwise`. -/
def dayOr (dates : Dates) (text : Option String) (otherwise : Int) : Option Int :=
  match text with
  | none => some otherwise
  | some text => if text = "" then some otherwise else dates.dateFromIso text

/-- The first and the last day of a request at the time `now`; `none` is the `ValueError`. -/
def requestedDays (dates : Dates) (zone : Zone) (now : Int) (payload : AvailabilityPayload) : Option (Int × Int) := do
  let startDay ← dayOr dates payload.startDate (zone.toLocal now / dayLength)
  let endDay ← dayOr dates payload.endDate startDay
  if endDay < startDay then none else some (startDay, endDay)

/-- The result of an availability request. -/
def availabilityResult (dates : Dates) (payload : AvailabilityPayload) (startDay endDay : Int) (slots : List Int) :
    JsonObject :=
  .ofPairs [("user_id", .text payload.companyId.text), ("date", .text (dates.isoDate startDay)),
    ("start_date", .text (dates.isoDate startDay)), ("end_date", .text (dates.isoDate endDay)),
    ("available_slots", .texts (slots.map dates.slotText)),
    ("duration_minutes", .other (toString payload.durationMinutes)), ("timezone", .text payload.timezone),
    ("source", .text "google_calendar_live")]

/-- `_get_google_calendar_availability_live`; `none` is an exception, and an inner `none` is `None`. -/
def availabilityLive (dates : Dates) (now : Int) (token : Token) (reply : Reply) (payload : AvailabilityPayload)
    (calendar : List GoogleEvent) : Option (Option JsonObject) :=
  match token with
  | .raised => none
  | .missing => some (some needsReconnect)
  | .valid =>
      match dates.zoneInfo payload.timezone with
      | none => some none
      | some zone =>
          match requestedDays dates zone now payload with
          | none => some none
          | some (startDay, endDay) =>
              match freeBusy reply (localDayRange zone startDay).1 (localDayRange zone endDay).2 calendar with
              | .httpError => some (some temporarilyUnavailable)
              | .status error => some (some (refusal error))
              | .ok busy =>
                  let slots := computeFreeSlots dates zone startDay busy payload.durationMinutes payload.businessHours
                  some (some (availabilityResult dates payload startDay endDay slots))

def weekdays : List String :=
  ["monday", "tuesday", "wednesday", "thursday", "friday", "saturday", "sunday"]

/-- `CalendarAvailabilityPayload`. -/
def validAvailability (dates : Dates) (payload : AvailabilityPayload) : Bool :=
  payload.startDate.all (·.length ≤ 10) && payload.endDate.all (·.length ≤ 10) && payload.timezone.length ≤ 64 &&
    (dates.zoneInfo payload.timezone).isSome && 5 ≤ payload.durationMinutes && payload.durationMinutes ≤ 1440 &&
    payload.businessHours.all fun hours => hours.length ≤ 7 && hours.all fun entry =>
      weekdays.contains (String.ofList (entry.1.toList.map Char.toLower)) && entry.2.length ≤ 100

/-- `POST /internal/v1/calendar/availability` with `fresh`. -/
def calendarAvailability (dates : Dates) (now : Int) (token : Token) (reply : Reply) (payload : AvailabilityPayload)
    (calendar : List GoogleEvent) : Except Nat JsonObject :=
  if validAvailability dates payload then
    match availabilityLive dates now token reply payload calendar with
    | none => .error 500
    | some (some result) => .ok (result.set "timezone" (.text payload.timezone))
    | some none =>
        .ok (.ofPairs [("status", .text "integration_required"), ("error_code", .text "GOOGLE_CALENDAR_REQUIRED")])
  else .error 422

theorem status_availabilityResult {dates : Dates} {payload : AvailabilityPayload} {startDay endDay : Int}
    {slots : List Int} {zoneName : JsonValue} :
    JsonObject.status ((availabilityResult dates payload startDay endDay slots).set "timezone" zoneName) = none := by
  simp [availabilityResult, JsonObject.status, JsonObject.text?, OrderedMap.ofPairs, OrderedMap.get_set]

theorem slots_availabilityResult {dates : Dates} {payload : AvailabilityPayload} {startDay endDay : Int}
    {slots : List Int} {zoneName : JsonValue} :
    ((availabilityResult dates payload startDay endDay slots).set "timezone" zoneName).get "available_slots" =
      some (.texts (slots.map dates.slotText)) := by
  simp [availabilityResult, OrderedMap.ofPairs, OrderedMap.get_set]

/-! ## What the loop collects -/

section Loop

variable {zone : Zone} {busy : List (Int × Int)} {duration closing closeUtc slot : Int}

/-- A local time exists. -/
def Exists (zone : Zone) (slotStartLocal : Int) : Prop :=
  zone.toLocal (zone.toUtc slotStartLocal) = slotStartLocal

/-- The loop does not stop at a local time: it is before closing, and if it exists, its slot ends before closing. -/
def GoesOn (zone : Zone) (duration closing closeUtc slotStartLocal : Int) : Prop :=
  slotStartLocal < closing ∧ (Exists zone slotStartLocal → zone.toUtc slotStartLocal + duration ≤ closeUtc)

/-- The slot of a turn is collected: the loop has not stopped up to there, the turn's local time exists, and nothing
overlaps the slot. -/
def CollectedAt (zone : Zone) (busy : List (Int × Int)) (duration closing closeUtc first slot : Int) (turn : Nat) : Prop :=
  (∀ turn' ≤ turn, GoesOn zone duration closing closeUtc (first + turn' * slotStep)) ∧
    Exists zone (first + turn * slotStep) ∧ slot = zone.toUtc (first + turn * slotStep) ∧
    collides busy slot (slot + duration) = false

/-- The first turn, and the turns of the rest of the loop. -/
theorem collectedAt_first_or_rest {fuel : Nat} {first : Int} :
    (∃ turn < fuel + 1, CollectedAt zone busy duration closing closeUtc first slot turn) ↔
      GoesOn zone duration closing closeUtc first ∧
        (Exists zone first ∧ slot = zone.toUtc first ∧ collides busy slot (slot + duration) = false ∨
          ∃ turn < fuel, CollectedAt zone busy duration closing closeUtc (first + slotStep) slot turn) := by
  have hfirst : first + ((0 : Nat) : Int) * slotStep = first := by simp
  have hshift : ∀ turn : Nat, first + ((turn + 1 : Nat) : Int) * slotStep = first + slotStep + turn * slotStep := by
    intro turn
    unfold slotStep
    omega
  constructor
  · rintro ⟨turn, hturn, hgoes, hrest⟩
    refine ⟨hfirst ▸ hgoes 0 (Nat.zero_le _), ?_⟩
    cases turn with
    | zero => exact .inl (hfirst ▸ hrest)
    | succ turn =>
        right
        refine ⟨turn, by omega, fun turn' hle => ?_, hshift turn ▸ hrest⟩
        exact hshift turn' ▸ hgoes (turn' + 1) (by omega)
  · rintro ⟨hgoes, hstart | ⟨turn, hturn, hlater, hrest⟩⟩
    · refine ⟨0, by omega, fun turn' hle => ?_, hfirst.symm ▸ hstart⟩
      obtain rfl : turn' = 0 := by omega
      exact hfirst.symm ▸ hgoes
    · refine ⟨turn + 1, by omega, fun turn' hle => ?_, (hshift turn).symm ▸ hrest⟩
      cases turn' with
      | zero => exact hfirst.symm ▸ hgoes
      | succ turn' => exact (hshift turn').symm ▸ hlater turn' (by omega)

/-- The loop collects the slots of its turns. -/
theorem mem_freeSlots {fuel : Nat} {first : Int} :
    slot ∈ freeSlots zone busy duration closing closeUtc fuel first ↔
      ∃ turn < fuel, CollectedAt zone busy duration closing closeUtc first slot turn := by
  induction fuel generalizing first with
  | zero => simp [freeSlots]
  | succ fuel ih =>
      rw [collectedAt_first_or_rest, ← ih, freeSlots]
      unfold GoesOn Exists
      by_cases hopen : first < closing
      · by_cases hexists : zone.toLocal (zone.toUtc first) = first
        · by_cases hends : zone.toUtc first + duration ≤ closeUtc
          · have hgoes : ¬ zone.toUtc first + duration > closeUtc := by omega
            cases hcollides : collides busy (zone.toUtc first) (zone.toUtc first + duration) with
            | true =>
                simp only [hopen, hexists, hends, hgoes, hcollides, ↓reduceIte, ne_eq, not_true, implies_true, true_and]
                constructor
                · exact .inr
                · rintro (⟨rfl, hfree⟩ | hrest)
                  · rw [hcollides] at hfree
                    cases hfree
                  · exact hrest
            | false =>
                simp only [hopen, hexists, hends, hgoes, hcollides, ↓reduceIte, ne_eq, not_true, implies_true, true_and,
                  List.mem_cons, Bool.false_eq_true]
                constructor
                · rintro (rfl | hrest)
                  · exact .inl ⟨rfl, hcollides⟩
                  · exact .inr hrest
                · rintro (⟨rfl, -⟩ | hrest)
                  · exact .inl rfl
                  · exact .inr hrest
          · have hstops : zone.toUtc first + duration > closeUtc := by omega
            simp [hopen, hexists, hends, hstops]
        · simp [hopen, hexists]
      · simp [hopen]

/-- The slots of a day are the slots of the loop's turns, however many there are. -/
theorem mem_computeFreeSlots {dates : Dates} {day : Int} {minutes : Nat}
    {businessHours : Option (List (String × String))} :
    slot ∈ computeFreeSlots dates zone day busy minutes businessHours ↔
      ∃ opening closing, openingHours dates day businessHours = some (opening, closing) ∧
        ∃ turn, CollectedAt zone busy (minutes * 60000000) (day * dayLength + closing)
          (zone.toUtc (day * dayLength + closing)) (day * dayLength + opening) slot turn := by
  unfold computeFreeSlots
  cases hhours : openingHours dates day businessHours with
  | none => simp
  | some hours =>
      obtain ⟨opening, closing⟩ := hours
      rw [mem_freeSlots]
      constructor
      · rintro ⟨turn, -, hcollected⟩
        exact ⟨opening, closing, rfl, turn, hcollected⟩
      · rintro ⟨opening', closing', heq, turn, hcollected⟩
        cases heq
        refine ⟨turn, ?_, hcollected⟩
        -- the turn is before closing
        have hopen := (hcollected.1 turn le_rfl).1
        unfold slotTurns
        unfold slotStep at *
        omega

/-- The loop leaves out the slots that something overlaps. -/
theorem freeSlots_eq_filter {fuel : Nat} {first : Int} :
    freeSlots zone busy duration closing closeUtc fuel first =
      (freeSlots zone [] duration closing closeUtc fuel first).filter fun slot => !collides busy slot (slot + duration) := by
  have hnothing : ∀ start stop, collides [] start stop = false := fun _ _ => rfl
  induction fuel generalizing first with
  | zero => rfl
  | succ fuel ih =>
      simp only [freeSlots, hnothing]
      by_cases hopen : first < closing
      · by_cases hexists : zone.toLocal (zone.toUtc first) = first
        · by_cases hends : zone.toUtc first + duration > closeUtc
          · simp [hopen, hexists, hends]
          · cases hcollides : collides busy (zone.toUtc first) (zone.toUtc first + duration) with
            | true => simp [hopen, hexists, hends, hcollides, ih]
            | false => simp [hopen, hexists, hends, hcollides, ih]
        · simp [hopen, hexists, ih]
      · simp [hopen]

/-- The slots of a day are those of an empty calendar that nothing overlaps. -/
theorem computeFreeSlots_eq_filter {dates : Dates} {day : Int} {minutes : Nat}
    {businessHours : Option (List (String × String))} :
    computeFreeSlots dates zone day busy minutes businessHours =
      (computeFreeSlots dates zone day [] minutes businessHours).filter fun slot =>
        !collides busy slot (slot + minutes * 60000000) := by
  unfold computeFreeSlots
  cases openingHours dates day businessHours with
  | none => rfl
  | some hours => exact freeSlots_eq_filter

end Loop

end GoogleCalendar
end VoiceAssistants
