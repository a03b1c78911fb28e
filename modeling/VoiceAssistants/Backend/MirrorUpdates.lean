import VoiceAssistants.Backend.MirrorAgreement

/-!
# What a synchronisation leaves of the events it has read (`_mirror_event_record`, `commit_calendar_sync`)

Of each event the items of a synchronisation have any number of versions, the last of which counts.  A version that
cannot be represented has no record, so that the commit does not see it: an older version stays.

`no_outdated_iff` says when the rows are those of the last versions.
-/

namespace VoiceAssistants
namespace MirrorReads

open Sql Collections CalendarMirror GoogleCalendar

section Updates

variable (externals : Externals) (timezone : String) (items : List GoogleEvent) (before : Mirror Int JsonObject)

/-- The row that a version of an event should have; `none` is a version that is cancelled or cannot be represented. -/
def normalised (event : GoogleEvent) : Option (MirrorRow Int JsonObject) :=
  if event.cancelled then none else mirroredRow externals timezone (externals.api.item none event)

/-- The last version of an event. -/
def lastVersion (id : String) : Option GoogleEvent :=
  items.reverse.find? fun event => strip event.id = id

/-- The commit sees a version: it is cancelled, or can be represented. -/
def recorded (event : GoogleEvent) : Bool :=
  (mirrorEventRecord externals timezone (externals.api.item none event)).isSome

/-- The last version that the commit sees. -/
def lastRecorded (id : String) : Option GoogleEvent :=
  items.reverse.find? fun event => strip event.id = id && recorded externals timezone event

/-- The rows of the items' events are those of their last versions. -/
def NoOutdated (after : Mirror Int JsonObject) : Prop :=
  ∀ event ∈ items, strip event.id ≠ "" → ∀ last, lastVersion items (strip event.id) = some last →
    selectKey MirrorRow.eventId (strip event.id) after.rows = normalised externals timezone last

/-- No older version is left of an event whose last version the commit does not see: the last one that it sees is
cancelled, or it sees none, and the mirror had no row. -/
def NothingLeft (id : String) : Prop :=
  match lastRecorded externals timezone items id with
  | some seen => seen.cancelled = true
  | none => selectKey MirrorRow.eventId id before.rows = none

end Updates

section Commit

variable {externals : Externals} {timezone : String} {items : List GoogleEvent} {before : Mirror Int JsonObject}
  {event : GoogleEvent} {id : String}

/-- What a record makes of its event's row. -/
theorem result_mirrorEventRecord {record : EventRecord Int JsonObject}
    (h : mirrorEventRecord externals timezone (externals.api.item none event) = some record) :
    record.result = normalised externals timezone event := by
  cases record with
  | put row =>
      obtain ⟨-, hcancelled, hrow⟩ := mirrorEventRecord_eq_put.mp h
      rw [cancelled_item] at hcancelled
      simp [normalised, hcancelled, hrow, Change.result]
  | remove id =>
      unfold mirrorEventRecord at h
      rw [id_item, cancelled_item] at h
      cases hcancelled : event.cancelled with
      | true => simp [normalised, hcancelled, Change.result]
      | false =>
          rw [hcancelled] at h
          by_cases hblank : strip event.id = ""
          · simp [hblank] at h
          · simp [hblank] at h

/-- A version that the commit does not see is not cancelled, and cannot be represented. -/
theorem not_recorded_iff (hid : strip event.id ≠ "") :
    recorded externals timezone event = false ↔
      event.cancelled = false ∧ mirroredRow externals timezone (externals.api.item none event) = none := by
  unfold recorded mirrorEventRecord
  rw [id_item, cancelled_item]
  cases hcancelled : event.cancelled with
  | true => simp [hid]
  | false => simp [hid]

/-- The row of an event after a synchronisation is that of the last version that the commit has seen. -/
theorem selectKey_commit {token : String} {now : Int} :
    selectKey MirrorRow.eventId id (before.commit (syncRecords externals timezone items) token false now).rows =
      match lastRecorded externals timezone items id with
      | some seen => normalised externals timezone seen
      | none => selectKey MirrorRow.eventId id before.rows := by
  show selectKey MirrorRow.eventId id (Change.fold MirrorRow.eventId (syncRecords externals timezone items) before.rows) = _
  have hsees : ∀ event : GoogleEvent, (mirrorEventRecord externals timezone (externals.api.item none event)).any
      (fun record => record.subject MirrorRow.eventId = id) =
        (decide (strip event.id = id) && recorded externals timezone event) := by
    intro event
    unfold recorded
    cases hrecord : mirrorEventRecord externals timezone (externals.api.item none event) with
    | none => simp
    | some record =>
        have hsubject := subject_mirrorEventRecord hrecord
        rw [id_item] at hsubject
        simp [hsubject]
  rw [Change.selectKey_fold, syncRecords, ← List.filterMap_reverse, List.find?_filterMap]
  simp only [hsees]
  unfold lastRecorded
  cases hlast : items.reverse.find? fun event => strip event.id = id && recorded externals timezone event with
  | none => rfl
  | some seen =>
      have hseen := List.find?_some hlast
      simp only [recorded, Bool.and_eq_true, Option.isSome_iff_exists] at hseen
      obtain ⟨-, record, hrecord⟩ := hseen
      show ((mirrorEventRecord externals timezone (externals.api.item none seen)).elim _ Change.result) = _
      rw [hrecord]
      exact result_mirrorEventRecord hrecord

/-- The last version, if the commit sees it. -/
theorem lastRecorded_of_recorded (hlast : lastVersion items id = some event)
    (hrecorded : recorded externals timezone event = true) : lastRecorded externals timezone items id = some event := by
  unfold lastVersion at hlast
  unfold lastRecorded
  obtain ⟨hid, earlier, later, hitems, hlater⟩ := List.find?_eq_some_iff_append.mp hlast
  refine List.find?_eq_some_iff_append.mpr ⟨?_, earlier, later, hitems, ?_⟩
  · simpa [hrecorded] using hid
  · intro other hother
    have hne := hlater other hother
    simp only [Bool.not_eq_true'] at hne
    simp [hne]

/-- A synchronisation leaves no outdated version exactly if nothing is left of the events whose last version it does not
see. -/
theorem no_outdated_iff {token : String} {now : Int} :
    NoOutdated externals timezone items (before.commit (syncRecords externals timezone items) token false now) ↔
      ∀ event ∈ items, strip event.id ≠ "" → ∀ last, lastVersion items (strip event.id) = some last →
        last.cancelled = false → mirroredRow externals timezone (externals.api.item none last) = none →
          NothingLeft externals timezone items before (strip event.id) := by
  unfold NoOutdated NothingLeft
  constructor
  · intro hrows event hevent hid last hlast hcancelled hrow
    have hselected := hrows event hevent hid last hlast
    rw [selectKey_commit, normalised, hcancelled, if_neg Bool.false_ne_true, hrow] at hselected
    cases hseen : lastRecorded externals timezone items (strip event.id) with
    | none =>
        rw [hseen] at hselected
        exact hselected
    | some seen =>
        rw [hseen] at hselected
        -- the version that the commit sees has a row, unless it is cancelled
        have hrecorded := List.find?_some hseen
        simp only [Bool.and_eq_true, decide_eq_true_eq] at hrecorded
        obtain ⟨hsame, hrecorded⟩ := hrecorded
        cases hgone : seen.cancelled with
        | true => exact hgone
        | false =>
            have hnone : mirroredRow externals timezone (externals.api.item none seen) = none := by
              simpa [normalised, hgone] using hselected
            rw [(not_recorded_iff (hsame.symm ▸ hid)).mpr ⟨hgone, hnone⟩] at hrecorded
            cases hrecorded
  · intro hleft event hevent hid last hlast
    rw [selectKey_commit]
    have hsame : strip last.id = strip event.id := by simpa using List.find?_some hlast
    cases hrecorded : recorded externals timezone last with
    | true =>
        rw [lastRecorded_of_recorded hlast hrecorded]
    | false =>
        obtain ⟨hcancelled, hrow⟩ := (not_recorded_iff (hsame.symm ▸ hid)).mp hrecorded
        have hnothing := hleft event hevent hid last hlast hcancelled hrow
        have hnone : normalised externals timezone last = none := by simp [normalised, hcancelled, hrow]
        rw [hnone]
        cases hseen : lastRecorded externals timezone items (strip event.id) with
        | none =>
            rw [hseen] at hnothing
            exact hnothing
        | some seen =>
            rw [hseen] at hnothing
            simp [normalised, hnothing]

end Commit

/-! ## An event that is edited to have no length -/

/-- A meeting of an hour. -/
def meeting : GoogleEvent :=
  sampleEvent false

/-- The same meeting, ending when it begins. -/
def shortenedMeeting : GoogleEvent :=
  { meeting with endValue := meeting.startValue, stop := meeting.start }

def beforeShortening : Mirror Int JsonObject :=
  Mirror.empty.commit (syncRecords sampleExternals "Indian/Mauritius" [meeting]) "token-1" true 1790812800000000

/-- The row of the hour stays. -/
theorem shortened_meeting_stays :
    ¬ ∀ (externals : Externals) (timezone : String) (items : List GoogleEvent) (before : Mirror Int JsonObject)
        (token : String) (now : Int),
      NoOutdated externals timezone items (before.commit (syncRecords externals timezone items) token false now) := by
  intro hall
  have hrow := hall sampleExternals "Indian/Mauritius" [shortenedMeeting] beforeShortening "token-2" 1790812860000000
    shortenedMeeting (List.mem_singleton.mpr rfl) (by decide +kernel) shortenedMeeting (by decide +kernel)
  have hstays : selectKey MirrorRow.eventId (strip shortenedMeeting.id)
      (beforeShortening.commit (syncRecords sampleExternals "Indian/Mauritius" [shortenedMeeting]) "token-2" false
        1790812860000000).rows ≠ normalised sampleExternals "Indian/Mauritius" shortenedMeeting := by
    decide +kernel
  exact hstays hrow

end MirrorReads
end VoiceAssistants
