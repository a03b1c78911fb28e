import VoiceAssistants.Backend.MirrorAgreement

/-!
# Which slots an answer has (`_compute_free_slots`, `get_google_calendar_availability`)

* `computeFreeSlots_exact` — for one day the loop is exact: it returns, in order, the starts of the half hours of the
  opening hours that exist, whose slot ends before closing, and that nothing overlaps.
* `availability_covers_iff` — an answer for a range of days has the slots of its first day, through the mirror and from
  Google.  It has those of every day of the range only if no later day has any.
-/

namespace VoiceAssistants
namespace GoogleCalendar

/-! ## The slots of a day -/

/-- Later local times that exist are later instants. -/
def Zone.Increasing (zone : Zone) : Prop :=
  ∀ first second, Exists zone first → Exists zone second → first < second → zone.toUtc first < zone.toUtc second

/-- The slot of a turn is offered. -/
structure Offers (zone : Zone) (busy : List (Int × Int)) (duration opening closing slot : Int) (turn : Nat) : Prop where
  before : opening + turn * slotStep < closing
  localTime : Exists zone (opening + turn * slotStep)
  start : slot = zone.toUtc (opening + turn * slotStep)
  ends : slot + duration ≤ zone.toUtc closing
  free : ∀ period ∈ busy, ¬ (slot < period.2 ∧ slot + duration > period.1)

section Exact

variable {zone : Zone} {busy : List (Int × Int)} {duration opening closing slot : Int} {turn : Nat}

theorem collides_eq_false : collides busy slot (slot + duration) = false ↔
    ∀ period ∈ busy, ¬ (slot < period.2 ∧ slot + duration > period.1) := by
  simp [collides]

/-- In an increasing zone the loop has not stopped before a turn whose slot ends in time. -/
theorem collectedAt_iff (hzone : zone.Increasing) :
    CollectedAt zone busy duration closing (zone.toUtc closing) opening slot turn ↔
      Offers zone busy duration opening closing slot turn := by
  constructor
  · rintro ⟨hgoes, hexists, hslot, hfree⟩
    obtain ⟨hopen, hends⟩ := hgoes turn le_rfl
    constructor
    case before => exact hopen
    case localTime => exact hexists
    case start => exact hslot
    case ends =>
      rw [hslot]
      exact hends hexists
    case free => exact collides_eq_false.mp hfree
  · rintro ⟨hopen, hexists, hslot, hends, hfree⟩
    refine ⟨fun earlier hle => ?_, hexists, hslot, collides_eq_false.mpr hfree⟩
    have hlocal : opening + earlier * slotStep ≤ opening + turn * slotStep := by
      unfold slotStep
      omega
    constructor
    · exact lt_of_le_of_lt hlocal hopen
    · intro hexists'
      -- the earlier slot ends no later
      have hutc : zone.toUtc (opening + earlier * slotStep) ≤ slot := by
        rcases lt_or_eq_of_le hlocal with hlt | heq
        · rw [hslot]
          exact le_of_lt (hzone _ _ hexists' hexists hlt)
        · rw [heq, hslot]
      omega

/-- The loop collects the slots in their order. -/
theorem pairwise_freeSlots (hzone : zone.Increasing) {closeUtc : Int} (fuel : Nat) (first : Int) :
    (freeSlots zone busy duration closing closeUtc fuel first).Pairwise (· < ·) := by
  induction fuel generalizing first with
  | zero => exact .nil
  | succ fuel ih =>
      have hrest := ih (first + slotStep)
      have hlater : Exists zone first →
          ∀ slot ∈ freeSlots zone busy duration closing closeUtc fuel (first + slotStep), zone.toUtc first < slot := by
        intro hexists slot hslot
        obtain ⟨turn, -, -, hexists', rfl, -⟩ := mem_freeSlots.mp hslot
        apply hzone _ _ hexists hexists'
        unfold slotStep
        omega
      unfold freeSlots
      by_cases hopen : first < closing
      · by_cases hexists : zone.toLocal (zone.toUtc first) = first
        · by_cases hends : zone.toUtc first + duration > closeUtc
          · simp [hopen, hexists, hends]
          · cases hcollides : collides busy (zone.toUtc first) (zone.toUtc first + duration) with
            | true => simpa [hopen, hexists, hends, hcollides] using hrest
            | false => simpa [hopen, hexists, hends, hcollides] using ⟨hlater hexists, hrest⟩
        · simpa [hopen, hexists] using hrest
      · simp [hopen]

theorem increasing_sampleZone : BookingWorker.sampleZone.Increasing := by
  intro first second _ _ hlt
  show first - 14400000000 < second - 14400000000
  omega

end Exact

end GoogleCalendar

namespace MirrorReads

open GoogleCalendar
open Backend (AvailabilityPayload)

/-! ## The days of a range -/

/-- The days from one to another. -/
def daysFrom (startDay endDay : Int) : List Int :=
  (List.range (endDay - startDay + 1).toNat).map fun (offset : Nat) => startDay + (offset : Int)

theorem mem_daysFrom {startDay endDay day : Int} : day ∈ daysFrom startDay endDay ↔ startDay ≤ day ∧ day ≤ endDay := by
  constructor
  · intro h
    obtain ⟨offset, hoffset, rfl⟩ := List.mem_map.mp h
    have hbound := List.mem_range.mp hoffset
    omega
  · rintro ⟨hstart, hend⟩
    refine List.mem_map.mpr ⟨(day - startDay).toNat, List.mem_range.mpr (by omega), by omega⟩

/-- The first day, and those after it. -/
theorem daysFrom_eq_cons {startDay endDay : Int} (h : startDay ≤ endDay) :
    daysFrom startDay endDay = startDay :: daysFrom (startDay + 1) endDay := by
  obtain ⟨length, hlength⟩ : ∃ length : Nat, endDay - startDay = length := ⟨(endDay - startDay).toNat, by omega⟩
  have hall : (endDay - startDay + 1).toNat = length + 1 := by omega
  have hlater : (endDay - (startDay + 1) + 1).toNat = length := by omega
  unfold daysFrom
  rw [hall, hlater, List.range_succ_eq_map, List.map_cons, List.map_map]
  congr 1
  · omega
  · apply List.map_congr_left
    intro offset _
    show startDay + ((offset + 1 : Nat) : Int) = startDay + 1 + offset
    omega

section Coverage

variable (externals : Externals) (s : ReadState) (payload : AvailabilityPayload) (range : Range)

/-- The busy periods that an answer is made from: the mirror's rows, or what Google reports. -/
def reportedBusy : Option (List (Int × Int)) :=
  match if s.mirrorEnabled then mirroredEvents s range.start range.stop else none with
  | some rows => some (rows.map fun row => (row.startTime, row.endTime))
  | none =>
      if s.token = .valid then
        match freeBusy s.reply range.start range.stop s.calendar with
        | .ok busy => some busy
        | .status _ | .httpError => none
      else none

/-- The free slots of a day. -/
def daySlots (busy : List (Int × Int)) (day : Int) : List Int :=
  computeFreeSlots externals.dates range.zone day busy payload.durationMinutes payload.businessHours

/-- The answer has the slots of every day of the range. -/
def CoversRange (busy : List (Int × Int)) : Prop :=
  offered (getGoogleCalendarAvailability externals s payload) =
    some (.texts (((daysFrom range.startDay range.endDay).flatMap (daySlots externals payload range busy)).map
      externals.dates.slotText))

end Coverage

section Covers

variable {externals : Externals} {s : ReadState} {payload : AvailabilityPayload} {range : Range}
  {busy : List (Int × Int)}

theorem startDay_le (haccepts : Accepts externals s payload range) : range.startDay ≤ range.endDay := by
  have hdays := haccepts.days
  simp only [requestedDays, Option.bind_eq_bind, Option.bind_eq_some_iff] at hdays
  obtain ⟨startDay, -, endDay, -, hdays⟩ := hdays
  by_cases horder : endDay < startDay
  · simp [horder] at hdays
  · rw [if_neg horder] at hdays
    obtain ⟨rfl, rfl⟩ := Prod.mk.inj (Option.some.inj hdays)
    omega

/-- An answer from Google has the slots of the first day. -/
theorem offered_availabilityLive (haccepts : Accepts externals s payload range) (htoken : s.token = .valid)
    (hbusy : freeBusy s.reply range.start range.stop s.calendar = .ok busy) :
    offered (availabilityLive externals s payload) =
      some (.texts ((daySlots externals payload range busy range.startDay).map externals.dates.slotText)) := by
  unfold Range.start Range.stop at hbusy
  simp [availabilityLive, GoogleCalendar.availabilityLive, htoken, haccepts.zone, haccepts.days, hbusy, offered,
    availabilityResult, Collections.OrderedMap.ofPairs, Collections.OrderedMap.get_set, daySlots]

/-- An answer has the slots of the first day. -/
theorem offered_eq (haccepts : Accepts externals s payload range) (hbusy : reportedBusy s range = some busy) :
    offered (getGoogleCalendarAvailability externals s payload) =
      some (.texts ((daySlots externals payload range busy range.startDay).map externals.dates.slotText)) := by
  have hfresh : freshMirrorEvents externals s payload =
      some ((mirroredEvents s range.start range.stop).map fun rows => (rows, range.startDay, range.endDay)) := by
    simp [freshMirrorEvents, haccepts.zone, haccepts.days, Range.start, Range.stop]
  -- Google's answer, when the mirror has none
  have hlive : (if s.token = .valid then
      match freeBusy s.reply range.start range.stop s.calendar with
      | .ok busy => some busy
      | .status _ | .httpError => none
      else none) = some busy →
      offered (availabilityLive externals s payload) =
        some (.texts ((daySlots externals payload range busy range.startDay).map externals.dates.slotText)) := by
    intro hreported
    by_cases htoken : s.token = .valid
    · rw [if_pos htoken] at hreported
      cases hreply : freeBusy s.reply range.start range.stop s.calendar with
      | ok found =>
          rw [hreply] at hreported
          obtain rfl := Option.some.inj hreported
          exact offered_availabilityLive haccepts htoken hreply
      | status error =>
          rw [hreply] at hreported
          cases hreported
      | httpError =>
          rw [hreply] at hreported
          cases hreported
    · rw [if_neg htoken] at hreported
      cases hreported
  unfold reportedBusy at hbusy
  unfold getGoogleCalendarAvailability
  cases henabled : s.mirrorEnabled with
  | false =>
      rw [henabled] at hbusy
      exact hlive hbusy
  | true =>
      rw [hfresh, haccepts.zone]
      rw [henabled] at hbusy
      cases hrows : mirroredEvents s range.start range.stop with
      | none =>
          rw [hrows] at hbusy
          exact hlive hbusy
      | some rows =>
          rw [hrows] at hbusy
          obtain rfl := Option.some.inj hbusy
          simp [offered, availabilityResult, Collections.OrderedMap.ofPairs, Collections.OrderedMap.get_set, daySlots]

/-- The slots of a range are covered exactly if they are all on its first day. -/
theorem availability_covers_iff (haccepts : Accepts externals s payload range) (hbusy : reportedBusy s range = some busy) :
    CoversRange externals s payload range busy ↔
      ∀ day, range.startDay < day → day ≤ range.endDay → daySlots externals payload range busy day = [] := by
  unfold CoversRange
  rw [offered_eq haccepts hbusy, daysFrom_eq_cons (startDay_le haccepts), List.flatMap_cons, List.map_append,
    Option.some_inj, JsonValue.texts.injEq, List.self_eq_append_right, List.map_eq_nil_iff, List.flatMap_eq_nil_iff]
  constructor
  · intro hnone day hafter hbefore
    exact hnone day (mem_daysFrom.mpr ⟨hafter, hbefore⟩)
  · intro hnone day hday
    obtain ⟨hafter, hbefore⟩ := mem_daysFrom.mp hday
    exact hnone day hafter hbefore

/-- A request for one day. -/
theorem availability_covers_iff_day : CoversRange sampleExternals (sampleState true) samplePayload sampleRange
    (mirrorBusy (sampleState true) sampleRange) :=
  (availability_covers_iff accepts_sample rfl).mpr fun _ hafter hbefore => absurd hafter (not_lt_of_ge hbefore)

end Covers

/-! ## A request for two days -/

/-- Both days have a text. -/
def twoDates : Dates :=
  { BookingWorker.sampleDates with
    dateFromIso := fun text =>
      if text = "2026-10-02" then some (BookingWorker.sampleDay + 1) else BookingWorker.sampleDates.dateFromIso text
    slotText := fun instant =>
      if instant < (BookingWorker.sampleDay + 1) * dayLength then BookingWorker.sampleSlotText instant
      else "2026-10-02" ++ String.ofList ((BookingWorker.sampleSlotText (instant - dayLength)).toList.drop 10) }

def twoDayExternals : Externals :=
  { sampleExternals with dates := twoDates }

def twoDayPayload : AvailabilityPayload :=
  { samplePayload with endDate := some "2026-10-02" }

def twoDayRange : Range :=
  { sampleRange with endDay := BookingWorker.sampleDay + 1 }

/-- Without a mirror, and with an empty calendar. -/
def emptyState : ReadState :=
  { sampleState false with calendar := [], mirrorEnabled := false }

/-- Both days are free, and the answer has the slots of the first. -/
theorem later_days_missing :
    ¬ ∀ (externals : Externals) (s : ReadState) (payload : AvailabilityPayload) (range : Range)
        (busy : List (Int × Int)), Accepts externals s payload range → reportedBusy s range = some busy →
        CoversRange externals s payload range busy := by
  intro hall
  have hdays : requestedDays twoDates BookingWorker.sampleZone 1790812860000000 twoDayPayload =
      some (BookingWorker.sampleDay, BookingWorker.sampleDay + 1) := by
    decide +kernel
  have hcovers := hall twoDayExternals emptyState twoDayPayload twoDayRange [] ⟨rfl, hdays⟩ rfl
  have hdiffers : ¬ CoversRange twoDayExternals emptyState twoDayPayload twoDayRange [] := by
    unfold CoversRange
    decide +kernel
  exact hdiffers hcovers

end MirrorReads
end VoiceAssistants
