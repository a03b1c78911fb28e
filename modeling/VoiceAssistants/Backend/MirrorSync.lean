import VoiceAssistants.Async.Run
import VoiceAssistants.Db.CalendarMirror
import VoiceAssistants.Backend.ToolExecution
import Mathlib.Algebra.Order.Ring.Int

/-!
# Synchronising the mirror (`sync_google_calendar_mirror`)

A synchronisation reads the sync state, marks the mirror as syncing, asks Google for one page of changes after the other,
and commits them together with the next sync token, or records why it failed.  It holds a lock of its process, and no
lock of the database.  After a booking or a cancellation the mirror is marked as stale.

The steps of any number of synchronisations, writes and marks of one tenant come in any order; each transaction may fail,
or take effect while its caller sees an exception, and a synchronisation may end with an exception at every `await`.

* `write_never_hidden` — a mark is not undone by a synchronisation that has read the calendar before the write, if none
  of these commits after the mark.  In the code one can (`write_hidden`).
* `mirror_is_fold` — in one process the mirror is what the committed changes make of it since the last full
  synchronisation, a synchronisation that does not commit leaves it, and the commit after a recorded 410 is a full one.
  A 410 that could not be recorded is forgotten (`incremental_after_gone`).

What Google answers is arbitrary, and so is `record`, the `_mirror_event_record` of an item.  Each synchronisation has
with it when its first read of the calendar began, which the code does not keep.
-/

namespace VoiceAssistants
namespace MirrorSync

open Async Sql CalendarMirror
open Backend (Delivery)

/-! ## A synchronisation -/

/-- Python's truth of a token. -/
def given (token : Option String) : Option String :=
  token.filter (· ≠ "")

/-- What a synchronisation has collected.  `firstRead` is the moment at which its first request was sent. -/
structure Progress (K P : Type) where
  syncToken : Option String
  events : List (EventRecord K P)
  nextSyncToken : Option String
  pages : Nat
  firstRead : Option Nat

/-- What a synchronisation does next. -/
inductive Phase (K P : Type)
  | reading (forceFull : Bool)
  | authorizing (syncToken : Option String)
  | starting (syncToken : Option String)
  | requesting (progress : Progress K P)
  | receiving (progress : Progress K P)
  | failing (errorCode : String) (needsFullSync : Bool)
  | committing (progress : Progress K P) (nextSyncToken : String)

/-- When the first request was sent. -/
def Phase.firstRead {K P : Type} : Phase K P → Option Nat
  | .requesting progress | .receiving progress | .committing progress _ => progress.firstRead
  | .reading _ | .authorizing _ | .starting _ | .failing .. => none

/-- The token to ask with. -/
def Phase.base {K P : Type} : Phase K P → Option String
  | .authorizing syncToken | .starting syncToken => syncToken
  | .requesting progress | .receiving progress | .committing progress _ => progress.syncToken
  | .reading _ | .failing .. => none

structure Sync (K P : Type) where
  process : Nat
  phase : Phase K P

/-- The answer to a request for a page. -/
inductive PageResponse (Item : Type)
  | httpError
  | status (code : Nat) (unsuccessful : code ≠ 200)
  | page (items : List Item) (nextPageToken nextSyncToken : Option String)

/-- The answer 410: the token has expired. -/
def PageResponse.gone {Item : Type} : PageResponse Item → Bool
  | .status code _ => code = 410
  | .httpError | .page .. => false

/-- A committed synchronisation: when, its first read, the token that it asked with, and whether a 410 was received, or
recorded, since the one before. -/
structure Commit (K P : Type) where
  moment : Nat
  firstRead : Option Nat
  base : Option String
  events : List (EventRecord K P)
  syncToken : String
  gone : Bool
  goneRecorded : Bool

/-- A stale mark, and the write that it is for. -/
structure Mark where
  write : Nat
  moment : Nat
  deriving DecidableEq, Repr

structure State (K P : Type) where
  clock : K
  /-- The number of steps so far. -/
  moment : Nat
  mirror : Mirror K P
  syncs : List (Sync K P)
  /-- The writes to the calendar that are not marked yet. -/
  unmarked : List Nat
  marks : List Mark
  /-- Newest first. -/
  commits : List (Commit K P)
  /-- A 410 was received since the last commit. -/
  gone : Bool
  goneRecorded : Bool

inductive Action (Item K : Type)
  | pass (time : K)
  | begin (process : Nat) (forceFull : Bool)
  | read (index : Nat)
  | authorize (index : Nat) (connected : Bool)
  | start (index : Nat) (delivery : Delivery)
  | request (index : Nat)
  | receive (index : Nat) (response : PageResponse Item)
  | fail (index : Nat) (delivery : Delivery)
  | commit (index : Nat) (delivery : Delivery)
  /-- An exception or a cancellation. -/
  | abort (index : Nat)
  /-- A booking or a cancellation takes effect in the calendar. -/
  | write
  | mark (index : Nat) (delivery : Delivery)

section Machine

variable {Item K P : Type}

/-- Full unless it asks with a token: `full_sync=not bool(sync_token)`. -/
def Commit.full (commit : Commit K P) : Bool :=
  (given commit.base).isNone

/-- The changes since the last full synchronisation. -/
def deltas : List (Commit K P) → List (EventRecord K P)
  | [] => []
  | commit :: older => if commit.full then commit.events else deltas older ++ commit.events

def initial (time : K) : State K P :=
  ⟨time, 0, .empty, [], [], [], [], false, false⟩

/-- The token to ask with. -/
def chooseToken (forceFull : Bool) (state : Option (SyncState K)) : Option String :=
  if forceFull || state.any (·.syncStatus = .needsFullSync) then none else state.bind SyncState.syncToken

/-- What a synchronisation does with an answer. -/
def Progress.receive (record : Item → Option (EventRecord K P)) (progress : Progress K P) :
    PageResponse Item → Phase K P
  | .httpError => .failing "GOOGLE_CALENDAR_UNAVAILABLE" false
  | .status code _ =>
      if code = 410 then .failing "GOOGLE_SYNC_TOKEN_GONE" true
      else if code = 401 ∨ code = 403 then .failing "GOOGLE_CALENDAR_REAUTH_REQUIRED" false
      else .failing "GOOGLE_CALENDAR_UNAVAILABLE" false
  | .page items nextPageToken nextSyncToken =>
      let received : Progress K P :=
        { progress with
          events := progress.events ++ items.filterMap record
          nextSyncToken := (given nextSyncToken).or progress.nextSyncToken
          pages := progress.pages + 1 }
      match given nextPageToken, received.nextSyncToken with
      | some _, _ =>
          if received.pages < 100 then .requesting received else .failing "GOOGLE_SYNC_INCOMPLETE" false
      | none, none => .failing "GOOGLE_SYNC_INCOMPLETE" false
      | none, some token => .committing received token

/-- A synchronisation ends. -/
def State.finish (s : State K P) (index : Nat) : State K P :=
  { s with syncs := s.syncs.eraseIdx index }

def State.advance (s : State K P) (index : Nat) (process : Nat) (phase : Phase K P) : State K P :=
  { s with syncs := s.syncs.set index ⟨process, phase⟩ }

/-- The transaction that marks the mirror as syncing, and what follows. -/
def State.start (s : State K P) (index process : Nat) (syncToken : Option String) : Delivery → State K P
  | .failed => s.finish index
  | .lost => { s.finish index with mirror := s.mirror.markStarted }
  | .answered =>
      { s.advance index process (.requesting ⟨syncToken, [], none, 0, none⟩) with mirror := s.mirror.markStarted }

/-- The transaction that records a failure. -/
def State.fail (s : State K P) (index : Nat) (errorCode : String) (needsFullSync : Bool) : Delivery → State K P
  | .failed => s.finish index
  | .lost | .answered =>
      { s.finish index with
        mirror := s.mirror.markFailed errorCode needsFullSync
        goneRecorded := s.goneRecorded || needsFullSync }

/-- The commit of a synchronisation in the state `s`. -/
def State.commitOf (s : State K P) (progress : Progress K P) (nextSyncToken : String) : Commit K P :=
  ⟨s.moment, progress.firstRead, progress.syncToken, progress.events, nextSyncToken, s.gone, s.goneRecorded⟩

/-- The transaction that applies the changes. -/
def State.commit (s : State K P) (index : Nat) (progress : Progress K P) (nextSyncToken : String) : Delivery → State K P
  | .failed => s.finish index
  | .lost | .answered =>
      { s.finish index with
        mirror := s.mirror.commit progress.events nextSyncToken (given progress.syncToken).isNone s.clock
        commits := s.commitOf progress nextSyncToken :: s.commits
        gone := false
        goneRecorded := false }

/-- The transaction that marks the mirror as stale after a write; an exception is swallowed. -/
def State.mark (s : State K P) (index write : Nat) : Delivery → State K P
  | .failed => { s with unmarked := s.unmarked.eraseIdx index }
  | .lost | .answered =>
      { s with
        unmarked := s.unmarked.eraseIdx index
        mirror := s.mirror.markStale
        marks := ⟨write, s.moment⟩ :: s.marks }

/-- A request is sent. -/
def Progress.request (progress : Progress K P) (moment : Nat) : Progress K P :=
  { progress with firstRead := progress.firstRead.or (some moment) }

/-- The settings, and `_mirror_event_record` in the zone of the tenant. -/
structure Config (Item K P : Type) where
  maxStaleness : K
  record : Item → Option (EventRecord K P)

variable [Sub K] [LinearOrder K]

def move (config : Config Item K P) (s : State K P) : Action Item K → Option (State K P)
  | .pass time => if s.clock ≤ time then some { s with clock := time } else none
  | .begin process forceFull =>
      if s.syncs.all (·.process ≠ process) then some { s with syncs := s.syncs ++ [⟨process, .reading forceFull⟩] }
      else none
  | .read index =>
      match s.syncs[index]? with
      | some ⟨process, .reading forceFull⟩ =>
          if s.mirror.fresh (s.clock - config.maxStaleness) && !forceFull then some (s.finish index)
          else some (s.advance index process (.authorizing (chooseToken forceFull s.mirror.state)))
      | _ => none
  | .authorize index connected =>
      match s.syncs[index]? with
      | some ⟨process, .authorizing syncToken⟩ =>
          some (s.advance index process
            (if connected then .starting syncToken else .failing "GOOGLE_CALENDAR_REAUTH_REQUIRED" false))
      | _ => none
  | .start index delivery =>
      match s.syncs[index]? with
      | some ⟨process, .starting syncToken⟩ => some (s.start index process syncToken delivery)
      | _ => none
  | .request index =>
      match s.syncs[index]? with
      | some ⟨process, .requesting progress⟩ =>
          some (s.advance index process (.receiving (progress.request s.moment)))
      | _ => none
  | .receive index response =>
      match s.syncs[index]? with
      | some ⟨process, .receiving progress⟩ =>
          some { s.advance index process (progress.receive config.record response) with gone := s.gone || response.gone }
      | _ => none
  | .fail index delivery =>
      match s.syncs[index]? with
      | some ⟨_, .failing errorCode needsFullSync⟩ => some (s.fail index errorCode needsFullSync delivery)
      | _ => none
  | .commit index delivery =>
      match s.syncs[index]? with
      | some ⟨_, .committing progress nextSyncToken⟩ => some (s.commit index progress nextSyncToken delivery)
      | _ => none
  | .abort index => some (s.finish index)
  | .write => some { s with unmarked := s.unmarked ++ [s.moment] }
  | .mark index delivery =>
      match s.unmarked[index]? with
      | some write => some (s.mark index write delivery)
      | none => none

def step (config : Config Item K P) (s : State K P) (action : Action Item K) : Option (State K P) :=
  (move config s action).map fun t => { t with moment := s.moment + 1 }

/-! ## What is promised, and when it holds -/

/-- After the mark of a write, the mirror is not read until a synchronisation has committed whose reads of the calendar
all began after the write. -/
def NeverHidden (s : State K P) : Prop :=
  ∀ mark ∈ s.marks, ∀ startTime endTime cutoff, s.mirror.freshEvents startTime endTime cutoff ≠ none →
    ∃ commit ∈ s.commits, mark.moment < commit.moment ∧ ∃ firstRead ∈ commit.firstRead, mark.write < firstRead

/-- What is committed was read after every write that is marked. -/
def CommitsCurrent (s : State K P) : Action Item K → Prop
  | .commit index _ => ∀ sync ∈ s.syncs[index]?, ∀ firstRead ∈ sync.phase.firstRead, ∀ mark ∈ s.marks, mark.write < firstRead
  | .pass _ | .begin .. | .read _ | .authorize .. | .start .. | .request _ | .receive .. | .fail .. | .abort _ | .write
  | .mark .. => True

/-- All synchronisations are in one process. -/
def SingleProcess (_ : State K P) : Action Item K → Prop
  | .begin process _ => process = 0
  | .pass _ | .read _ | .authorize .. | .start .. | .request _ | .receive .. | .fail .. | .commit .. | .abort _ | .write
  | .mark .. => True

/-- Every incremental synchronisation has asked with the token of the one before it. -/
def Chained : List (Commit K P) → Prop
  | [] => True
  | commit :: older => (commit.full = false → older.head?.map Commit.syncToken = commit.base) ∧ Chained older

/-- The mirror is the fold of the committed changes. -/
structure MirrorIsFold (s : State K P) : Prop where
  /-- The rows are the fold, in order, of the changes since the last full synchronisation. -/
  rows : s.mirror.rows = Change.fold MirrorRow.eventId (deltas s.commits) []
  /-- The token is the last committed one, unless a 410 has been recorded since. -/
  syncToken : s.mirror.syncToken = if s.goneRecorded then none else s.commits.head?.map Commit.syncToken
  chained : Chained s.commits
  /-- After a recorded 410 the next commit is a full one. -/
  fullAfterGone : ∀ commit ∈ s.commits, commit.goneRecorded = true → commit.full = true

/-- A step that commits nothing changes neither rows nor token, except that a 410 clears the token. -/
def KeepsMirror (s t : State K P) : Prop :=
  t.commits = s.commits → t.mirror.rows = s.mirror.rows ∧
    (t.mirror.syncToken = s.mirror.syncToken ∨ s.gone = true ∧ t.mirror.syncToken = none)

/-! ## Every step -/

section Steps

variable {config : Config Item K P} {s t : State K P} {action : Action Item K}

/-- What a step does, the number of the steps apart. -/
inductive Moved (config : Config Item K P) (s : State K P) : Action Item K → State K P → Prop
  | passed (time : K) : Moved config s (.pass time) { s with clock := time }
  | began (process : Nat) (forceFull : Bool) (free : ∀ sync ∈ s.syncs, sync.process ≠ process) :
      Moved config s (.begin process forceFull) { s with syncs := s.syncs ++ [⟨process, .reading forceFull⟩] }
  | current (index : Nat) : Moved config s (.read index) (s.finish index)
  | chosen (index process : Nat) (forceFull : Bool) (found : s.syncs[index]? = some ⟨process, .reading forceFull⟩) :
      Moved config s (.read index) (s.advance index process (.authorizing (chooseToken forceFull s.mirror.state)))
  | authorized (index process : Nat) (syncToken : Option String)
      (found : s.syncs[index]? = some ⟨process, .authorizing syncToken⟩) :
      Moved config s (.authorize index true) (s.advance index process (.starting syncToken))
  | disconnected (index process : Nat) (syncToken : Option String)
      (found : s.syncs[index]? = some ⟨process, .authorizing syncToken⟩) :
      Moved config s (.authorize index false)
        (s.advance index process (.failing "GOOGLE_CALENDAR_REAUTH_REQUIRED" false))
  | started (index process : Nat) (delivery : Delivery) (syncToken : Option String)
      (found : s.syncs[index]? = some ⟨process, .starting syncToken⟩) :
      Moved config s (.start index delivery) (s.start index process syncToken delivery)
  | requested (index process : Nat) (progress : Progress K P)
      (found : s.syncs[index]? = some ⟨process, .requesting progress⟩) :
      Moved config s (.request index) (s.advance index process (.receiving (progress.request s.moment)))
  | received (index process : Nat) (response : PageResponse Item) (progress : Progress K P)
      (found : s.syncs[index]? = some ⟨process, .receiving progress⟩) :
      Moved config s (.receive index response)
        { s.advance index process (progress.receive config.record response) with gone := s.gone || response.gone }
  | failed (index process : Nat) (delivery : Delivery) (errorCode : String) (needsFullSync : Bool)
      (found : s.syncs[index]? = some ⟨process, .failing errorCode needsFullSync⟩) :
      Moved config s (.fail index delivery) (s.fail index errorCode needsFullSync delivery)
  | committed (index process : Nat) (delivery : Delivery) (progress : Progress K P) (nextSyncToken : String)
      (found : s.syncs[index]? = some ⟨process, .committing progress nextSyncToken⟩) :
      Moved config s (.commit index delivery) (s.commit index progress nextSyncToken delivery)
  | aborted (index : Nat) : Moved config s (.abort index) (s.finish index)
  | written : Moved config s .write { s with unmarked := s.unmarked ++ [s.moment] }
  | marked (index write : Nat) (delivery : Delivery) (found : s.unmarked[index]? = some write) :
      Moved config s (.mark index delivery) (s.mark index write delivery)

theorem move_cases (h : move config s action = some t) : Moved config s action t := by
  cases action with
  | pass time =>
      simp only [move] at h
      split at h
      · obtain rfl := Option.some.inj h
        exact .passed time
      · cases h
  | begin process forceFull =>
      simp only [move] at h
      split at h
      · rename_i hfree
        obtain rfl := Option.some.inj h
        exact .began process forceFull fun sync hsync => of_decide_eq_true (List.all_eq_true.mp hfree sync hsync)
      · cases h
  | read index =>
      simp only [move] at h
      split at h
      · rename_i process forceFull hfound
        split at h
        · obtain rfl := Option.some.inj h
          exact .current index
        · obtain rfl := Option.some.inj h
          exact .chosen index process forceFull hfound
      · cases h
  | authorize index connected =>
      simp only [move] at h
      split at h
      · rename_i process syncToken hfound
        obtain rfl := Option.some.inj h
        cases connected with
        | true => exact .authorized index process syncToken hfound
        | false => exact .disconnected index process syncToken hfound
      · cases h
  | start index delivery =>
      simp only [move] at h
      split at h
      · rename_i process syncToken hfound
        obtain rfl := Option.some.inj h
        exact .started index process delivery syncToken hfound
      · cases h
  | request index =>
      simp only [move] at h
      split at h
      · rename_i process progress hfound
        obtain rfl := Option.some.inj h
        exact .requested index process progress hfound
      · cases h
  | receive index response =>
      simp only [move] at h
      split at h
      · rename_i process progress hfound
        obtain rfl := Option.some.inj h
        exact .received index process response progress hfound
      · cases h
  | fail index delivery =>
      simp only [move] at h
      split at h
      · rename_i process errorCode needsFullSync hfound
        obtain rfl := Option.some.inj h
        exact .failed index process delivery errorCode needsFullSync hfound
      · cases h
  | commit index delivery =>
      simp only [move] at h
      split at h
      · rename_i process progress nextSyncToken hfound
        obtain rfl := Option.some.inj h
        exact .committed index process delivery progress nextSyncToken hfound
      · cases h
  | abort index =>
      obtain rfl := Option.some.inj h
      exact .aborted index
  | write =>
      obtain rfl := Option.some.inj h
      exact .written
  | mark index delivery =>
      simp only [move] at h
      split at h
      · rename_i write hfound
        obtain rfl := Option.some.inj h
        exact .marked index write delivery hfound
      · cases h

end Steps

/-! ## Writes and reads -/

section Reads

variable {config : Config Item K P} {s t : State K P} {action : Action Item K} {bound : Nat}

omit [Sub K]

/-- A synchronisation that has something to commit has read the calendar, and while the mirror can be read a
synchronisation has committed after every mark that began to read after the write.  All moments are before `bound`. -/
structure ReadInvariant (bound : Nat) (s : State K P) : Prop where
  past : ∀ mark ∈ s.marks, mark.moment < bound
  reads : ∀ sync ∈ s.syncs, ∀ progress nextSyncToken,
    sync.phase = .receiving progress ∨ sync.phase = .committing progress nextSyncToken → progress.firstRead.isSome = true
  synced : ∀ mark ∈ s.marks, ∀ cutoff, s.mirror.fresh cutoff = true →
    ∃ commit ∈ s.commits, mark.moment < commit.moment ∧ ∃ firstRead ∈ commit.firstRead, mark.write < firstRead

theorem readInvariant_initial (time : K) : ReadInvariant 0 (initial time : State K P) where
  past := by simp [initial]
  reads := by simp [initial]
  synced := by simp [initial]

theorem ReadInvariant.mono (h : ReadInvariant bound s) : ReadInvariant (bound + 1) s :=
  { h with past := fun mark hmark => Nat.lt_succ_of_lt (h.past mark hmark) }

theorem ReadInvariant.finish (h : ReadInvariant bound s) (index : Nat) : ReadInvariant bound (s.finish index) :=
  { h with reads := fun sync hsync => h.reads sync (List.mem_of_mem_eraseIdx hsync) }

theorem ReadInvariant.advance (h : ReadInvariant bound s) {index process : Nat} {phase : Phase K P}
    (hphase : ∀ progress nextSyncToken, phase = .receiving progress ∨ phase = .committing progress nextSyncToken →
      progress.firstRead.isSome = true) : ReadInvariant bound (s.advance index process phase) := by
  refine { h with reads := ?_ }
  intro sync hsync
  rcases List.mem_or_eq_of_mem_set hsync with hold | rfl
  · exact h.reads sync hold
  · exact hphase

/-- A mirror that cannot be read hides nothing. -/
theorem ReadInvariant.unreadable (h : ReadInvariant bound s) {mirror : Mirror K P}
    (hmirror : ∀ cutoff, mirror.fresh cutoff = false) : ReadInvariant bound { s with mirror := mirror } := by
  refine { h with synced := ?_ }
  intro mark _ cutoff hfresh
  rw [hmirror cutoff] at hfresh
  cases hfresh

omit [LinearOrder K] in
/-- What is received does not change when the first read began. -/
theorem firstRead_receive {record : Item → Option (EventRecord K P)} {progress : Progress K P}
    {response : PageResponse Item} (hread : progress.firstRead.isSome = true) : ∀ received nextSyncToken,
      progress.receive record response = .receiving received ∨
        progress.receive record response = .committing received nextSyncToken → received.firstRead.isSome = true := by
  intro received nextSyncToken hreceived
  cases response with
  | httpError => rcases hreceived with hphase | hphase <;> cases hphase
  | status code unsuccessful =>
      simp only [Progress.receive] at hreceived
      split at hreceived
      · rcases hreceived with hphase | hphase <;> cases hphase
      · split at hreceived
        · rcases hreceived with hphase | hphase <;> cases hphase
        · rcases hreceived with hphase | hphase <;> cases hphase
  | page items nextPageToken nextToken =>
      simp only [Progress.receive] at hreceived
      split at hreceived
      · split at hreceived
        · rcases hreceived with hphase | hphase <;> cases hphase
        · rcases hreceived with hphase | hphase <;> cases hphase
      · rcases hreceived with hphase | hphase <;> cases hphase
      · rcases hreceived with hphase | hphase
        · cases hphase
        · cases hphase
          exact hread

theorem ReadInvariant.start (h : ReadInvariant bound s) {index process : Nat} {syncToken : Option String}
    (delivery : Delivery) : ReadInvariant bound (s.start index process syncToken delivery) := by
  have hmarked : ∀ cutoff, s.mirror.markStarted.fresh cutoff = false := fun _ => not_fresh_markStarted
  cases delivery with
  | failed => exact h.finish index
  | lost => exact (h.finish index).unreadable hmarked
  | answered =>
      apply ReadInvariant.unreadable ?_ hmarked
      apply h.advance
      intro progress nextSyncToken hphase
      rcases hphase with hphase | hphase <;> cases hphase

theorem ReadInvariant.fail (h : ReadInvariant bound s) {index : Nat} {errorCode : String} {needsFullSync : Bool}
    (delivery : Delivery) : ReadInvariant bound (s.fail index errorCode needsFullSync delivery) := by
  have hmarked : ReadInvariant bound { s.finish index with mirror := s.mirror.markFailed errorCode needsFullSync } :=
    (h.finish index).unreadable fun _ => not_fresh_markFailed
  cases delivery with
  | failed => exact h.finish index
  | lost => exact { hmarked with }
  | answered => exact { hmarked with }

/-- A commit that was read after every marked write. -/
theorem ReadInvariant.commit (h : ReadInvariant s.moment s) {index : Nat} {progress : Progress K P}
    {nextSyncToken : String} (delivery : Delivery) (hread : progress.firstRead.isSome = true)
    (hcurrent : ∀ firstRead ∈ progress.firstRead, ∀ mark ∈ s.marks, mark.write < firstRead) :
    ReadInvariant s.moment (s.commit index progress nextSyncToken delivery) := by
  obtain ⟨firstRead, hfirst⟩ := Option.isSome_iff_exists.mp hread
  have hsynced : ∀ mark ∈ s.marks, ∃ commit ∈ s.commitOf progress nextSyncToken :: s.commits,
      mark.moment < commit.moment ∧ ∃ firstRead ∈ commit.firstRead, mark.write < firstRead := by
    intro mark hmark
    exact ⟨s.commitOf progress nextSyncToken, List.mem_cons_self, h.past mark hmark, firstRead, hfirst,
      hcurrent firstRead hfirst mark hmark⟩
  have hfinished := h.finish index
  cases delivery with
  | failed => exact hfinished
  | lost => exact { hfinished with synced := fun mark hmark _ _ => hsynced mark hmark }
  | answered => exact { hfinished with synced := fun mark hmark _ _ => hsynced mark hmark }

theorem ReadInvariant.mark (h : ReadInvariant s.moment s) {index write : Nat} (delivery : Delivery) :
    ReadInvariant (s.moment + 1) (s.mark index write delivery) := by
  have hmarked : ReadInvariant (s.moment + 1) { s with mirror := s.mirror.markStale } :=
    h.mono.unreadable fun _ => not_fresh_markStale
  have hpast : ∀ mark ∈ (⟨write, s.moment⟩ :: s.marks : List Mark), mark.moment < s.moment + 1 := by
    intro mark hmark
    rcases List.mem_cons.mp hmark with rfl | hold
    · exact Nat.lt_succ_self _
    · exact h.mono.past mark hold
  have hsynced : ∀ mark ∈ (⟨write, s.moment⟩ :: s.marks : List Mark), ∀ cutoff,
      s.mirror.markStale.fresh cutoff = true → ∃ commit ∈ s.commits, mark.moment < commit.moment ∧
        ∃ firstRead ∈ commit.firstRead, mark.write < firstRead := by
    intro mark _ cutoff hfresh
    rw [not_fresh_markStale] at hfresh
    cases hfresh
  cases delivery with
  | failed => exact { h.mono with }
  | lost => exact { hmarked with past := hpast, synced := hsynced }
  | answered => exact { hmarked with past := hpast, synced := hsynced }

end Reads

section Steps

variable {config : Config Item K P} {s t : State K P} {action : Action Item K}

theorem ReadInvariant.move (h : ReadInvariant s.moment s) (hallowed : CommitsCurrent s action)
    (hmove : move config s action = some t) : ReadInvariant (s.moment + 1) t := by
  have hmono := h.mono
  have hnot : ∀ {phase : Phase K P}, (∀ progress, phase ≠ .receiving progress) →
      (∀ progress nextSyncToken, phase ≠ .committing progress nextSyncToken) → ∀ progress nextSyncToken,
        phase = .receiving progress ∨ phase = .committing progress nextSyncToken → progress.firstRead.isSome = true := by
    intro phase hreceiving hcommitting progress nextSyncToken hphase
    rcases hphase with hphase | hphase
    · exact absurd hphase (hreceiving progress)
    · exact absurd hphase (hcommitting progress nextSyncToken)
  cases move_cases hmove with
  | passed time => exact { hmono with }
  | began process forceFull hfree =>
      refine { hmono with reads := ?_ }
      intro sync hsync
      rcases List.mem_append.mp hsync with hold | hnew
      · exact hmono.reads sync hold
      · obtain rfl := List.mem_singleton.mp hnew
        exact hnot (fun _ => nofun) fun _ _ => nofun
  | current index => exact hmono.finish index
  | chosen index process forceFull hfound => exact hmono.advance (hnot (fun _ => nofun) fun _ _ => nofun)
  | authorized index process syncToken hfound => exact hmono.advance (hnot (fun _ => nofun) fun _ _ => nofun)
  | disconnected index process syncToken hfound => exact hmono.advance (hnot (fun _ => nofun) fun _ _ => nofun)
  | started index process delivery syncToken hfound => exact hmono.start delivery
  | requested index process progress hfound =>
      apply hmono.advance
      intro requested nextSyncToken hphase
      rcases hphase with hphase | hphase
      · cases hphase
        unfold Progress.request
        cases progress.firstRead <;> rfl
      · cases hphase
  | received index process response progress hfound =>
      have hread := h.reads _ (List.mem_of_getElem? hfound) progress "" (.inl rfl)
      have hadvanced : ReadInvariant (s.moment + 1) (s.advance index process (progress.receive config.record response)) :=
        hmono.advance (firstRead_receive hread)
      exact { hadvanced with }
  | failed index process delivery errorCode needsFullSync hfound => exact hmono.fail delivery
  | committed index process delivery progress nextSyncToken hfound =>
      have hread := h.reads _ (List.mem_of_getElem? hfound) progress nextSyncToken (.inr rfl)
      exact (h.commit delivery hread (hallowed _ hfound)).mono
  | aborted index => exact hmono.finish index
  | written => exact { hmono with }
  | marked index write delivery hfound => exact h.mark delivery

/-- If every synchronisation that commits has read the calendar after every marked write, no write is hidden. -/
theorem write_never_hidden {time : K} (h : Reaches (step config) CommitsCurrent (initial time) s) : NeverHidden s := by
  have hinv : ReadInvariant s.moment s := by
    apply h.invariant (I := fun s => ReadInvariant s.moment s) (readInvariant_initial time)
    intro t action u hinv hallowed hstep
    obtain ⟨moved, hmove, rfl⟩ := Option.map_eq_some_iff.mp hstep
    exact { hinv.move hallowed hmove with }
  intro mark hmark startTime endTime cutoff hread
  exact hinv.synced mark hmark cutoff (fresh_of_freshEvents hread)

end Steps

/-! ## The fold -/

section Fold

variable {config : Config Item K P} {s t : State K P} {action : Action Item K}

omit [Sub K] [LinearOrder K]

/-- The mirror is the fold of the commits; there is one synchronisation at most, it asks with the stored token, and it
records a 410 only if one was received. -/
structure FoldInvariant (s : State K P) : Prop where
  fold : MirrorIsFold s
  alone : s.syncs.length ≤ 1
  process : ∀ sync ∈ s.syncs, sync.process = 0
  based : ∀ sync ∈ s.syncs, ∀ token ∈ sync.phase.base, s.mirror.syncToken = some token
  gone : ∀ sync ∈ s.syncs, ∀ errorCode, sync.phase = .failing errorCode true → s.gone = true

theorem foldInvariant_initial (time : K) : FoldInvariant (initial time : State K P) where
  fold := ⟨rfl, rfl, trivial, by simp [initial]⟩
  alone := by simp [initial]
  process := by simp [initial]
  based := by simp [initial]
  gone := by simp [initial]

theorem not_mem_eraseIdx {α : Type} {list : List α} {index : Nat} {item : α} (hlength : list.length ≤ 1)
    (hfound : list[index]? = some item) (other : α) : other ∉ list.eraseIdx index := by
  have hindex : index < list.length := (List.getElem?_eq_some_iff.mp hfound).1
  have herased : (list.eraseIdx index).length = list.length - 1 := List.length_eraseIdx_of_lt hindex
  have hempty : list.eraseIdx index = [] := List.length_eq_zero_iff.mp (by omega)
  rw [hempty]
  exact List.not_mem_nil

theorem FoldInvariant.finish (h : FoldInvariant s) (index : Nat) : FoldInvariant (s.finish index) where
  fold := { h.fold with }
  alone := (List.length_eraseIdx_le s.syncs index).trans h.alone
  process := fun sync hsync => h.process sync (List.mem_of_mem_eraseIdx hsync)
  based := fun sync hsync => h.based sync (List.mem_of_mem_eraseIdx hsync)
  gone := fun sync hsync => h.gone sync (List.mem_of_mem_eraseIdx hsync)

theorem FoldInvariant.advance (h : FoldInvariant s) {index process : Nat} {phase phase' : Phase K P}
    (hfound : s.syncs[index]? = some ⟨process, phase⟩)
    (hbased : ∀ token ∈ phase'.base, s.mirror.syncToken = some token)
    (hgone : ∀ errorCode, phase' = .failing errorCode true → s.gone = true) :
    FoldInvariant (s.advance index process phase') where
  fold := { h.fold with }
  alone := by
    show (s.syncs.set index _).length ≤ 1
    rw [List.length_set]
    exact h.alone
  process := fun sync hsync => by
    rcases List.mem_or_eq_of_mem_set hsync with hold | rfl
    · exact h.process sync hold
    · have hprocess : process = 0 := h.process _ (List.mem_of_getElem? hfound)
      exact hprocess
  based := fun sync hsync => by
    rcases List.mem_or_eq_of_mem_set hsync with hold | rfl
    · exact h.based sync hold
    · exact hbased
  gone := fun sync hsync => by
    rcases List.mem_or_eq_of_mem_set hsync with hold | rfl
    · exact h.gone sync hold
    · exact hgone

/-- A transaction that changes neither rows nor token. -/
theorem FoldInvariant.remark (h : FoldInvariant s) {mirror : Mirror K P} (hrows : mirror.rows = s.mirror.rows)
    (htoken : mirror.syncToken = s.mirror.syncToken) : FoldInvariant { s with mirror := mirror } where
  fold := { h.fold with rows := hrows.trans h.fold.rows, syncToken := htoken.trans h.fold.syncToken }
  alone := h.alone
  process := h.process
  based := fun sync hsync token hbase => htoken.trans (h.based sync hsync token hbase)
  gone := h.gone

theorem FoldInvariant.start (h : FoldInvariant s) {index process : Nat} {syncToken : Option String}
    (delivery : Delivery) (hfound : s.syncs[index]? = some ⟨process, .starting syncToken⟩) :
    FoldInvariant (s.start index process syncToken delivery) := by
  cases delivery with
  | failed => exact h.finish index
  | lost => exact (h.finish index).remark rfl syncToken_markStarted
  | answered =>
      have hbased := h.based _ (List.mem_of_getElem? hfound)
      have hadvanced : FoldInvariant (s.advance index process (.requesting ⟨syncToken, [], none, 0, none⟩)) :=
        h.advance hfound hbased nofun
      exact hadvanced.remark rfl syncToken_markStarted

/-- The transaction that records a failure ends the only synchronisation. -/
theorem FoldInvariant.recordFailure (h : FoldInvariant s) {index process : Nat} {errorCode : String}
    {needsFullSync : Bool} (hfound : s.syncs[index]? = some ⟨process, .failing errorCode needsFullSync⟩) :
    FoldInvariant { s.finish index with
      mirror := s.mirror.markFailed errorCode needsFullSync, goneRecorded := s.goneRecorded || needsFullSync } := by
  have hnone : ∀ sync, sync ∉ s.syncs.eraseIdx index := not_mem_eraseIdx h.alone hfound
  have hfinished := h.finish index
  refine { hfinished with fold := { h.fold with syncToken := ?_ }, based := ?_ }
  · show (s.mirror.markFailed errorCode needsFullSync).syncToken = _
    rw [syncToken_markFailed, h.fold.syncToken]
    cases needsFullSync with
    | true => simp
    | false => simp [State.finish]
  · intro sync hsync
    exact absurd hsync (hnone sync)

theorem FoldInvariant.fail (h : FoldInvariant s) {index process : Nat} {errorCode : String} {needsFullSync : Bool}
    (delivery : Delivery) (hfound : s.syncs[index]? = some ⟨process, .failing errorCode needsFullSync⟩) :
    FoldInvariant (s.fail index errorCode needsFullSync delivery) := by
  cases delivery with
  | failed => exact h.finish index
  | lost => exact h.recordFailure hfound
  | answered => exact h.recordFailure hfound

/-- The rows after a commit. -/
theorem rows_commit (hrows : s.mirror.rows = Change.fold MirrorRow.eventId (deltas s.commits) [])
    (progress : Progress K P) (nextSyncToken : String) :
    (s.mirror.commit progress.events nextSyncToken (given progress.syncToken).isNone s.clock).rows =
      Change.fold MirrorRow.eventId (deltas (s.commitOf progress nextSyncToken :: s.commits)) [] := by
  have hfull : (s.commitOf progress nextSyncToken).full = (given progress.syncToken).isNone := rfl
  have hevents : (s.commitOf progress nextSyncToken).events = progress.events := rfl
  rw [deltas, hfull, hevents, Mirror.commit]
  cases (given progress.syncToken).isNone with
  | true => rfl
  | false => simp [hrows, Change.fold_append]

/-- A commit of the only synchronisation. -/
theorem FoldInvariant.applyChanges (h : FoldInvariant s) {index process : Nat} {progress : Progress K P}
    {nextSyncToken : String} (hfound : s.syncs[index]? = some ⟨process, .committing progress nextSyncToken⟩) :
    FoldInvariant { s.finish index with
      mirror := s.mirror.commit progress.events nextSyncToken (given progress.syncToken).isNone s.clock
      commits := s.commitOf progress nextSyncToken :: s.commits
      gone := false
      goneRecorded := false } := by
  have hnone : ∀ sync, sync ∉ s.syncs.eraseIdx index := not_mem_eraseIdx h.alone hfound
  have hbased := h.based _ (List.mem_of_getElem? hfound)
  -- an incremental synchronisation has asked with the stored token
  have hstored : (s.commitOf progress nextSyncToken).full = false → s.mirror.syncToken = progress.syncToken := by
    intro hfull
    cases htoken : progress.syncToken with
    | none =>
        rw [Commit.full, State.commitOf, htoken] at hfull
        cases hfull
    | some token => exact hbased token htoken
  have hpresent : (s.commitOf progress nextSyncToken).full = false → s.goneRecorded = false := by
    intro hfull
    cases hrecorded : s.goneRecorded with
    | false => rfl
    | true =>
        have hcleared := h.fold.syncToken
        rw [hrecorded, hstored hfull, if_pos rfl] at hcleared
        rw [Commit.full, State.commitOf, hcleared] at hfull
        cases hfull
  have hfinished := h.finish index
  refine ⟨⟨rows_commit h.fold.rows progress nextSyncToken, rfl, ⟨fun hfull => ?_, h.fold.chained⟩, ?_⟩,
    hfinished.alone, hfinished.process, fun sync hsync => ?_, fun sync hsync => ?_⟩
  · have hlast := h.fold.syncToken
    rw [hpresent hfull, hstored hfull] at hlast
    exact hlast.symm
  · intro commit hcommit hafter
    rcases List.mem_cons.mp hcommit with rfl | hold
    · cases hfull : (s.commitOf progress nextSyncToken).full with
      | true => rfl
      | false =>
          have hrecorded : s.goneRecorded = true := hafter
          rw [hpresent hfull] at hrecorded
          cases hrecorded
    · exact h.fold.fullAfterGone commit hold hafter
  · exact absurd hsync (hnone sync)
  · exact absurd hsync (hnone sync)

theorem FoldInvariant.commit (h : FoldInvariant s) {index process : Nat} {progress : Progress K P}
    {nextSyncToken : String} (delivery : Delivery)
    (hfound : s.syncs[index]? = some ⟨process, .committing progress nextSyncToken⟩) :
    FoldInvariant (s.commit index progress nextSyncToken delivery) := by
  cases delivery with
  | failed => exact h.finish index
  | lost => exact h.applyChanges hfound
  | answered => exact h.applyChanges hfound

theorem FoldInvariant.mark (h : FoldInvariant s) (index write : Nat) (delivery : Delivery) :
    FoldInvariant (s.mark index write delivery) := by
  have hmarked : FoldInvariant { s with mirror := s.mirror.markStale } := h.remark rfl syncToken_markStale
  cases delivery with
  | failed => exact ⟨{ h.fold with }, h.alone, h.process, h.based, h.gone⟩
  | lost => exact ⟨{ hmarked.fold with }, hmarked.alone, hmarked.process, hmarked.based, hmarked.gone⟩
  | answered => exact ⟨{ hmarked.fold with }, hmarked.alone, hmarked.process, hmarked.based, hmarked.gone⟩

/-- A page does not change the token that is asked with. -/
theorem base_receive {record : Item → Option (EventRecord K P)} {progress : Progress K P}
    {response : PageResponse Item} : ∀ token ∈ (progress.receive record response).base,
      progress.syncToken = some token := by
  intro token hbase
  cases response with
  | httpError => cases hbase
  | status code unsuccessful =>
      simp only [Progress.receive] at hbase
      split at hbase
      · cases hbase
      · split at hbase <;> cases hbase
  | page items nextPageToken nextToken =>
      simp only [Progress.receive] at hbase
      split at hbase
      · split at hbase
        · exact hbase
        · cases hbase
      · cases hbase
      · exact hbase

/-- Only a 410 asks for a full synchronisation. -/
theorem gone_of_receive {record : Item → Option (EventRecord K P)} {progress : Progress K P}
    {response : PageResponse Item} {errorCode : String}
    (h : progress.receive record response = .failing errorCode true) : response.gone = true := by
  cases response with
  | httpError => cases h
  | status code unsuccessful =>
      simp only [Progress.receive] at h
      split at h
      · rename_i hgone
        exact decide_eq_true hgone
      · split at h <;> cases h
  | page items nextPageToken nextToken =>
      simp only [Progress.receive] at h
      split at h
      · split at h <;> cases h
      · cases h
      · cases h

end Fold

section Steps

variable {config : Config Item K P} {s t : State K P} {action : Action Item K}

theorem FoldInvariant.move (h : FoldInvariant s) (hallowed : SingleProcess s action)
    (hmove : move config s action = some t) : FoldInvariant t := by
  cases move_cases hmove with
  | passed time => exact ⟨{ h.fold with }, h.alone, h.process, h.based, h.gone⟩
  | began process forceFull hfree =>
      -- the process is the only one, so that no synchronisation is running
      have hempty : s.syncs = [] := by
        apply List.eq_nil_iff_forall_not_mem.mpr
        intro sync hsync
        exact hfree sync hsync ((h.process sync hsync).trans hallowed.symm)
      have hprocess : process = 0 := hallowed
      refine ⟨{ h.fold with }, ?_, fun sync hsync => ?_, fun sync hsync => ?_, fun sync hsync => ?_⟩
      · rw [hempty]
        exact Nat.le_refl 1
      all_goals
        rw [hempty] at hsync
        obtain rfl := List.mem_singleton.mp hsync
      · exact hprocess
      · exact nofun
      · exact nofun
  | current index => exact h.finish index
  | chosen index process forceFull hfound =>
      apply h.advance hfound
      · intro token hbase
        have hchosen : chooseToken forceFull s.mirror.state = some token := hbase
        unfold chooseToken at hchosen
        split at hchosen
        · cases hchosen
        · exact hchosen
      · exact nofun
  | authorized index process syncToken hfound =>
      exact h.advance hfound (h.based _ (List.mem_of_getElem? hfound)) nofun
  | disconnected index process syncToken hfound =>
      apply h.advance hfound
      · exact nofun
      · intro errorCode hfailing
        exact absurd (Phase.failing.inj hfailing).2 Bool.false_ne_true
  | started index process delivery syncToken hfound => exact h.start delivery hfound
  | requested index process progress hfound =>
      exact h.advance hfound (h.based _ (List.mem_of_getElem? hfound)) nofun
  | received index process response progress hfound =>
      have hbased := h.based _ (List.mem_of_getElem? hfound)
      have hgoing : FoldInvariant { s with gone := s.gone || response.gone } :=
        ⟨{ h.fold with }, h.alone, h.process, h.based, fun sync hsync errorCode hfailing => by
          rw [h.gone sync hsync errorCode hfailing]
          rfl⟩
      apply hgoing.advance hfound
      · intro token hbase
        exact hbased token (base_receive token hbase)
      · intro errorCode hfailing
        show (s.gone || response.gone) = true
        rw [gone_of_receive hfailing]
        exact Bool.or_true _
  | failed index process delivery errorCode needsFullSync hfound => exact h.fail delivery hfound
  | committed index process delivery progress nextSyncToken hfound => exact h.commit delivery hfound
  | aborted index => exact h.finish index
  | written => exact ⟨{ h.fold with }, h.alone, h.process, h.based, h.gone⟩
  | marked index write delivery hfound => exact h.mark index write delivery

theorem FoldInvariant.step (h : FoldInvariant s) (hallowed : SingleProcess s action)
    (hstep : step config s action = some t) : FoldInvariant t := by
  obtain ⟨moved, hmove, rfl⟩ := Option.map_eq_some_iff.mp hstep
  have hmoved := h.move hallowed hmove
  exact ⟨{ hmoved.fold with }, hmoved.alone, hmoved.process, hmoved.based, hmoved.gone⟩

omit [Sub K] [LinearOrder K] in
theorem keepsMirror_fail (h : FoldInvariant s) {index process : Nat} {errorCode : String} {needsFullSync : Bool}
    (delivery : Delivery) (hfound : s.syncs[index]? = some ⟨process, .failing errorCode needsFullSync⟩) :
    KeepsMirror s (s.fail index errorCode needsFullSync delivery) := by
  have hrecorded : (s.mirror.markFailed errorCode needsFullSync).syncToken = s.mirror.syncToken ∨
      s.gone = true ∧ (s.mirror.markFailed errorCode needsFullSync).syncToken = none := by
    rw [syncToken_markFailed]
    cases needsFullSync with
    | true => exact .inr ⟨h.gone _ (List.mem_of_getElem? hfound) errorCode rfl, rfl⟩
    | false => exact .inl rfl
  intro _
  cases delivery with
  | failed => exact ⟨rfl, .inl rfl⟩
  | lost => exact ⟨rfl, hrecorded⟩
  | answered => exact ⟨rfl, hrecorded⟩

theorem keepsMirror_step (h : FoldInvariant s) (hstep : step config s action = some t) : KeepsMirror s t := by
  obtain ⟨moved, hmove, rfl⟩ := Option.map_eq_some_iff.mp hstep
  suffices hkeeps : KeepsMirror s moved from hkeeps
  cases move_cases hmove with
  | started index process delivery syncToken hfound =>
      intro _
      cases delivery with
      | failed => exact ⟨rfl, .inl rfl⟩
      | lost => exact ⟨rfl, .inl syncToken_markStarted⟩
      | answered => exact ⟨rfl, .inl syncToken_markStarted⟩
  | failed index process delivery errorCode needsFullSync hfound => exact keepsMirror_fail h delivery hfound
  | committed index process delivery progress nextSyncToken hfound =>
      intro hcommits
      cases delivery with
      | failed => exact ⟨rfl, .inl rfl⟩
      | lost => exact absurd hcommits (List.cons_ne_self _ _)
      | answered => exact absurd hcommits (List.cons_ne_self _ _)
  | marked index write delivery hfound =>
      intro _
      cases delivery with
      | failed => exact ⟨rfl, .inl rfl⟩
      | lost => exact ⟨rfl, .inl syncToken_markStale⟩
      | answered => exact ⟨rfl, .inl syncToken_markStale⟩
  | _ => exact fun _ => ⟨rfl, .inl rfl⟩

/-- The mirror of one process is the fold of the committed changes, and what does not commit leaves it. -/
theorem mirror_is_fold {time : K} (h : Reaches (step config) SingleProcess (initial time) s) :
    MirrorIsFold s ∧ ∀ action t, step config s action = some t → KeepsMirror s t := by
  have hinv : FoldInvariant s :=
    h.invariant (foldInvariant_initial time) fun _ _ _ hinv hallowed hstep => hinv.step hallowed hstep
  exact ⟨hinv.fold, fun action t hstep => keepsMirror_step hinv hstep⟩

omit [Sub K] [LinearOrder K] in
/-- Of every event, the row is what its last change since the last full synchronisation has made of it. -/
theorem selectKey_rows (h : MirrorIsFold s) (eventId : String) : selectKey MirrorRow.eventId eventId s.mirror.rows =
    ((deltas s.commits).reverse.find? fun change => change.subject MirrorRow.eventId = eventId).elim none Change.result := by
  rw [h.rows, Change.selectKey_fold]
  rfl

end Steps

instance (s : State K P) (action : Action Item K) : Decidable (CommitsCurrent s action) :=
  match action with
  | .commit index _ => inferInstanceAs (Decidable (∀ sync ∈ s.syncs[index]?, ∀ firstRead ∈ sync.phase.firstRead, _))
  | .pass _ | .begin .. | .read _ | .authorize .. | .start .. | .request _ | .receive .. | .fail .. | .abort _ | .write
  | .mark .. => .isTrue trivial

instance (s : State K P) (action : Action Item K) : Decidable (SingleProcess s action) :=
  match action with
  | .begin process _ => inferInstanceAs (Decidable (process = 0))
  | .pass _ | .read _ | .authorize .. | .start .. | .request _ | .receive .. | .fail .. | .commit .. | .abort _ | .write
  | .mark .. => .isTrue trivial

end Machine

/-! ## Sample runs -/

section Samples

abbrev SampleAction := Action (EventRecord Int Unit) Int

/-- The items are their own records. -/
def sampleConfig : Config (EventRecord Int Unit) Int Unit :=
  ⟨60, some⟩

def sampleEvent (eventId : String) : EventRecord Int Unit :=
  .put ⟨eventId, 0, 1, (), none⟩

/-- A synchronisation up to its first request. -/
def requestPage : List SampleAction :=
  [.begin 0 false, .read 0, .authorize 0 true, .start 0 .answered, .request 0]

/-- Its only page comes, and is committed. -/
def commitPage (items : List (EventRecord Int Unit)) (nextSyncToken : String) : List SampleAction :=
  [.receive 0 (.page items none (some nextSyncToken)), .commit 0 .answered]

def bookEvent : List SampleAction :=
  [.write, .mark 0 .answered]

/-- The answer 410, and what becomes of its record. -/
def expireToken (delivery : Delivery) : List SampleAction :=
  [.receive 0 (.status 410 (by decide)), .fail 0 delivery]

def sampleRun (actions : List SampleAction) : State Int Unit :=
  final (step sampleConfig) (initial 0) actions

/-- A full synchronisation, a booking, an incremental one, another booking, a 410, and a full one. -/
def settledActions : List SampleAction :=
  requestPage ++ commitPage [sampleEvent "first"] "one" ++ bookEvent ++ requestPage ++
    commitPage [sampleEvent "second"] "two" ++ bookEvent ++ requestPage ++ expireToken .answered ++ requestPage ++
    commitPage [sampleEvent "second"] "three"

/-- An event is booked while the only page is on its way. -/
def hiddenActions : List SampleAction :=
  requestPage ++ bookEvent ++ commitPage [] "one"

/-- A 410 is not recorded, and Google takes the token again. -/
def forgottenActions : List SampleAction :=
  requestPage ++ commitPage [sampleEvent "first"] "one" ++ bookEvent ++ requestPage ++ expireToken .failed ++ requestPage ++
    commitPage [sampleEvent "second"] "two"

theorem write_never_hidden_settledActions : NeverHidden (sampleRun settledActions) := by
  have hchecked : checked (step sampleConfig) (fun s action => decide (CommitsCurrent s action)) (initial 0)
      settledActions = true := by decide +kernel
  have hruns : execute (step sampleConfig) (initial 0) settledActions = some (sampleRun settledActions) :=
    execute_final (by decide +kernel)
  exact write_never_hidden (.of_checked (fun _ _ _ hok => of_decide_eq_true hok) hchecked hruns)

/-- The booking is marked, and hidden by the older synchronisation. -/
theorem write_hidden : ¬ ∀ s : State Int Unit, Reaches (step sampleConfig) Always (initial 0) s → NeverHidden s := by
  intro hnever
  have hreaches : Reaches (step sampleConfig) Always (initial 0) (sampleRun hiddenActions) :=
    .of_execute (execute_final (by decide +kernel))
  have hmarked : (sampleRun hiddenActions).marks = [⟨5, 6⟩] ∧
      (sampleRun hiddenActions).commits.map Commit.firstRead = [some 4] := by decide +kernel
  have hread : (sampleRun hiddenActions).mirror.freshEvents 0 1 0 ≠ none := by decide +kernel
  obtain ⟨commit, hcommit, -, firstRead, hfirst, hlater⟩ :=
    hnever _ hreaches ⟨5, 6⟩ (hmarked.1 ▸ List.mem_singleton_self _) 0 1 0 hread
  have hmem : commit.firstRead ∈ (sampleRun hiddenActions).commits.map Commit.firstRead := List.mem_map_of_mem hcommit
  rw [hmarked.2, List.mem_singleton] at hmem
  obtain rfl : firstRead = 4 := Option.some.inj (hfirst.symm.trans hmem)
  exact absurd hlater (by decide)

theorem mirror_is_fold_settledActions : MirrorIsFold (sampleRun settledActions) ∧
    ∀ action t, step sampleConfig (sampleRun settledActions) action = some t →
      KeepsMirror (sampleRun settledActions) t := by
  have hchecked : checked (step sampleConfig) (fun s action => decide (SingleProcess s action)) (initial 0)
      settledActions = true := by decide +kernel
  have hruns : execute (step sampleConfig) (initial 0) settledActions = some (sampleRun settledActions) :=
    execute_final (by decide +kernel)
  exact mirror_is_fold (.of_checked (fun _ _ _ hok => of_decide_eq_true hok) hchecked hruns)

/-- After a 410 that was not recorded, the next commit is incremental. -/
theorem incremental_after_gone :
    ¬ ∀ s : State Int Unit, Reaches (step sampleConfig) SingleProcess (initial 0) s →
      ∀ commit ∈ s.commits, commit.gone = true → commit.full = true := by
  intro hfull
  have hchecked : checked (step sampleConfig) (fun s action => decide (SingleProcess s action)) (initial 0)
      forgottenActions = true := by decide +kernel
  have hruns : execute (step sampleConfig) (initial 0) forgottenActions = some (sampleRun forgottenActions) :=
    execute_final (by decide +kernel)
  have hreaches : Reaches (step sampleConfig) SingleProcess (initial 0) (sampleRun forgottenActions) :=
    .of_checked (fun _ _ _ hok => of_decide_eq_true hok) hchecked hruns
  have hincremental : ((sampleRun forgottenActions).commits.any fun commit => commit.gone && !commit.full) = true := by
    decide +kernel
  obtain ⟨commit, hcommit, hboth⟩ := List.any_eq_true.mp hincremental
  rw [Bool.and_eq_true, Bool.not_eq_true'] at hboth
  have hcontra := hfull _ hreaches commit hcommit hboth.1
  rw [hboth.2] at hcontra
  cases hcontra

end Samples

end MirrorSync
end VoiceAssistants
