import VoiceAssistants.Sql.Changes
import Mathlib.Data.List.Sort

/-!
# The mirror of a calendar (`db/calendar_mirror.py`, migration 024)

The rows of `calendar_event_mirror` and the row of `calendar_sync_states` for one tenant's primary calendar, with the
transactions on them.  Only `commit_calendar_sync` touches the events, and only it makes the mirror ready.

Instants are of any ordered type `K`, and the payload of an event, a JSON document, of any type `P`.  Every row of the
events has the status `confirmed`, which the reader's condition on it therefore leaves out.
-/

namespace VoiceAssistants
namespace CalendarMirror

open Sql

/-- The values of `calendar_sync_states.sync_status`. -/
inductive SyncStatus
  | pending
  | syncing
  | ready
  | needsFullSync
  | failed
  deriving DecidableEq, Repr

/-- A row of `calendar_sync_states`. -/
structure SyncState (K : Type) where
  syncToken : Option String
  lastSyncedAt : Option K
  syncStatus : SyncStatus
  lastErrorCode : Option String
  deriving DecidableEq

/-- A row of `calendar_event_mirror`. -/
structure MirrorRow (K P : Type) where
  eventId : String
  startTime : K
  endTime : K
  eventPayload : P
  providerUpdatedAt : Option K
  deriving DecidableEq

/-- A record of `_mirror_event_record`: a cancelled event, which is removed, or a confirmed one. -/
abbrev EventRecord (K P : Type) := Change (MirrorRow K P) String

/-- What is stored for a tenant. -/
structure Mirror (K P : Type) where
  state : Option (SyncState K)
  rows : List (MirrorRow K P)

variable {K P : Type}

def Mirror.empty : Mirror K P :=
  ⟨none, []⟩

def Mirror.syncToken (mirror : Mirror K P) : Option String :=
  mirror.state.bind SyncState.syncToken

/-- `mark_calendar_sync_started` -/
def Mirror.markStarted (mirror : Mirror K P) : Mirror K P :=
  { mirror with state := match mirror.state with
      | none => some ⟨none, none, .syncing, none⟩
      | some state => some { state with syncStatus := .syncing, lastErrorCode := none } }

/-- `mark_calendar_sync_failed` -/
def Mirror.markFailed (mirror : Mirror K P) (errorCode : String) (needsFullSync : Bool) : Mirror K P :=
  let status := if needsFullSync then .needsFullSync else .failed
  let error := some (String.ofList (errorCode.toList.take 64))
  { mirror with state := match mirror.state with
      | none => some ⟨none, none, status, error⟩
      | some state =>
          some { state with
            syncStatus := status
            lastErrorCode := error
            syncToken := if needsFullSync then none else state.syncToken } }

/-- `mark_calendar_sync_stale`, an `UPDATE` of the row that may not be there. -/
def Mirror.markStale (mirror : Mirror K P) : Mirror K P :=
  { mirror with state := mirror.state.map fun state =>
      { state with syncStatus := .pending, lastSyncedAt := none, lastErrorCode := none } }

/-- `commit_calendar_sync` at the time `now`. -/
def Mirror.commit (mirror : Mirror K P) (events : List (EventRecord K P)) (syncToken : String) (fullSync : Bool) (now : K) :
    Mirror K P where
  state := some ⟨some syncToken, some now, .ready, none⟩
  rows := Change.fold MirrorRow.eventId events (if fullSync then [] else mirror.rows)

section Reading

variable [LinearOrder K]

/-- The mirror was synchronised at the cutoff or later, and nothing has marked it since. -/
def Mirror.fresh (mirror : Mirror K P) (cutoff : K) : Bool :=
  mirror.state.any fun state => state.syncStatus = .ready && state.lastSyncedAt.any (cutoff ≤ ·)

/-- The events that overlap a range, in the order of their starts. -/
def Mirror.overlapping (mirror : Mirror K P) (startTime endTime : K) : List (MirrorRow K P) :=
  (mirror.rows.filter fun row => row.startTime < endTime && startTime < row.endTime).insertionSort
    fun first second => first.startTime ≤ second.startTime

/-- `get_fresh_mirrored_events` -/
def Mirror.freshEvents (mirror : Mirror K P) (startTime endTime cutoff : K) : Option (List (MirrorRow K P)) :=
  if mirror.fresh cutoff then some (mirror.overlapping startTime endTime) else none

end Reading

/-! ## What the transactions change -/

variable {mirror : Mirror K P}

@[simp] theorem rows_markStarted : mirror.markStarted.rows = mirror.rows := rfl

@[simp] theorem rows_markFailed {errorCode : String} {needsFullSync : Bool} :
    (mirror.markFailed errorCode needsFullSync).rows = mirror.rows := rfl

@[simp] theorem rows_markStale : mirror.markStale.rows = mirror.rows := rfl

@[simp] theorem syncToken_markStarted : mirror.markStarted.syncToken = mirror.syncToken := by
  unfold Mirror.markStarted Mirror.syncToken
  cases mirror.state with
  | none => rfl
  | some state => rfl

/-- Only a failure that asks for a full synchronisation clears the token. -/
theorem syncToken_markFailed {errorCode : String} {needsFullSync : Bool} :
    (mirror.markFailed errorCode needsFullSync).syncToken = if needsFullSync then none else mirror.syncToken := by
  unfold Mirror.markFailed Mirror.syncToken
  cases mirror.state with
  | none => simp
  | some state => rfl

@[simp] theorem syncToken_markStale : mirror.markStale.syncToken = mirror.syncToken := by
  unfold Mirror.markStale Mirror.syncToken
  cases mirror.state with
  | none => rfl
  | some state => rfl

@[simp] theorem syncToken_commit {events : List (EventRecord K P)} {syncToken : String} {fullSync : Bool} {now : K} :
    (mirror.commit events syncToken fullSync now).syncToken = some syncToken := rfl

section Fresh

variable [LinearOrder K] {cutoff : K}

/-- A mark makes the mirror unreadable. -/
theorem not_fresh_markStarted : mirror.markStarted.fresh cutoff = false := by
  unfold Mirror.markStarted Mirror.fresh
  cases mirror.state with
  | none => rfl
  | some state => rfl

theorem not_fresh_markFailed {errorCode : String} {needsFullSync : Bool} :
    (mirror.markFailed errorCode needsFullSync).fresh cutoff = false := by
  unfold Mirror.markFailed Mirror.fresh
  cases mirror.state with
  | none => cases needsFullSync <;> rfl
  | some state => cases needsFullSync <;> rfl

theorem not_fresh_markStale : mirror.markStale.fresh cutoff = false := by
  unfold Mirror.markStale Mirror.fresh
  cases mirror.state with
  | none => rfl
  | some state => rfl

theorem freshEvents_eq_none {startTime endTime : K} (h : mirror.fresh cutoff = false) :
    mirror.freshEvents startTime endTime cutoff = none := by
  rw [Mirror.freshEvents, h]
  rfl

theorem fresh_of_freshEvents {startTime endTime : K} (h : mirror.freshEvents startTime endTime cutoff ≠ none) :
    mirror.fresh cutoff = true := by
  cases hfresh : mirror.fresh cutoff with
  | false => exact absurd (freshEvents_eq_none hfresh) h
  | true => rfl

theorem mem_overlapping {row : MirrorRow K P} {startTime endTime : K} :
    row ∈ mirror.overlapping startTime endTime ↔ row ∈ mirror.rows ∧ row.startTime < endTime ∧ startTime < row.endTime := by
  rw [Mirror.overlapping, List.mem_insertionSort, List.mem_filter, Bool.and_eq_true, decide_eq_true_eq, decide_eq_true_eq]

end Fresh

end CalendarMirror
end VoiceAssistants
