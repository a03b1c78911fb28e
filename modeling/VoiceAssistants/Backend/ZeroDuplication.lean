import VoiceAssistants.Collections.Slots
import VoiceAssistants.Backend.ToolExecution

/-!
# The zero-duplication guarantee (ADR-004)

`Effect` says once what a step does to the table, to one request and to the history.  `LockInvariant` is what
the lock is for: whoever is between its grant and its end is the lock's current holder, and a committed lock
has a committed record and nobody at work.

The lock carries no owner token and expires after 60 s, so the guarantee holds of the runs in which the code
stays clear of both: `Timely` forbids that a record is taken over while an earlier request of its lock is
still outstanding, and that a request refunds a record after its own commit has taken effect.  Without either
half the guarantee fails.
-/

namespace VoiceAssistants
namespace Backend

open Db Sql Async
open Collections (getElem?_concat_cases)

/-- The request that was granted the lock last; the history is newest first. -/
def holder (lock : Lock) : List Event → Option Nat
  | [] => none
  | .granted id lock' :: older => if lock' = lock then some id else holder lock older
  | _ :: older => holder lock older

/-- What an event may be after the older ones.  A commit is final: nothing is granted, started or released
after it.  Executions do not overlap: every execution that was started has finished before the next one is.
Only the current holder starts, commits and releases. -/
def Event.Lawful (older : List Event) : Event → Prop
  | .granted _ lock => ∀ id', Event.committed id' lock ∉ older
  | .started id lock =>
      holder lock older = some id ∧ (∀ id', Event.committed id' lock ∉ older) ∧
        ∀ id', Event.started id' lock ∈ older → Event.finished id' lock ∈ older
  | .finished id lock => Event.started id lock ∈ older
  | .committed id lock => holder lock older = some id ∧ ∀ id', Event.committed id' lock ∉ older
  | .released id lock => holder lock older = some id ∧ ∀ id', Event.committed id' lock ∉ older

/-- Every event was lawful when it happened. -/
def LawfulHistory : List Event → Prop
  | [] => True
  | event :: older => event.Lawful older ∧ LawfulHistory older

/-- The zero-duplication guarantee in one state: the history is lawful, requests that are executing the tool
function hold different locks, and the record of a committed lock is still committed. -/
structure ZeroDuplication (s : State) : Prop where
  lawful : LawfulHistory s.history
  exclusive : ∀ (id id' : Nat) (request request' : Request), s.requests[id]? = some request →
    s.requests[id']? = some request' →
    request.phase = .executing → request'.phase = .executing → request.lock = request'.lock → id = id'
  absorbing : ∀ id lock, Event.committed id lock ∈ s.history →
    ∀ row ∈ s.table, Records lock row → row.status = .committed

instance (lock : Lock) (row : IdempotencyRow) : Decidable (Records lock row) :=
  inferInstanceAs (Decidable (_ ∧ _))

/-- The condition on the steps. -/
def Timely (s : State) : Action → Prop
  | .acquire id now delivery =>
      delivery ≠ .failed → ∀ request, s.requests[id]? = some request →
        -- an existing record that is refunded, or acquired and expired, is taken over
        (∃ row ∈ s.table, Records request.lock row ∧
          (row.status = .refunded ∨ row.status = .acquired ∧ row.expiresAt ≤ now)) →
        ∀ other ∈ s.requests, other.lock = request.lock → other.phase.outstanding = false
  | .release id delivery => delivery ≠ .failed → ∀ lock, Event.committed id lock ∉ s.history
  | _ => True

section Holder

variable {lock lock' : Lock} {id : Nat} {history : List Event}

@[simp] theorem holder_granted_self : holder lock (.granted id lock :: history) = some id := by
  simp [holder]

theorem holder_granted_ne (h : lock' ≠ lock) : holder lock (.granted id lock' :: history) = holder lock history := by
  simp [holder, h]

@[simp] theorem holder_started : holder lock (.started id lock' :: history) = holder lock history := rfl

@[simp] theorem holder_finished : holder lock (.finished id lock' :: history) = holder lock history := rfl

@[simp] theorem holder_committed : holder lock (.committed id lock' :: history) = holder lock history := rfl

@[simp] theorem holder_released : holder lock (.released id lock' :: history) = holder lock history := rfl

/-- A holder has been granted its lock. -/
theorem granted_of_holder (h : holder lock history = some id) : Event.granted id lock ∈ history := by
  induction history with
  | nil => cases h
  | cons event older ih =>
      cases event with
      | granted id' lock' =>
          by_cases hlock : lock' = lock
          · subst hlock
            obtain rfl : id' = id := by simpa using h
            exact List.mem_cons_self
          · rw [holder_granted_ne hlock] at h
            exact List.mem_cons_of_mem _ (ih h)
      | started | finished | committed | released => exact List.mem_cons_of_mem _ (ih h)

end Holder

/-! ## What a step does -/

/-- What one step does: the arrival of a request, a request that passes an await without touching the table, a
grant, the start and the end of an execution, or a commit or release that takes effect. -/
inductive Effect (s : State) (action : Action) : State → Prop
  | arrived (request : Request) (fresh : request.phase = .received) :
      Effect s action { s with requests := s.requests ++ [request] }
  | moved (id : Nat) (request : Request) (phase : Phase) (asked : action.request? = some id)
      (found : s.requests[id]? = some request) (before : request.phase ≠ .executing) (after : phase ≠ .executing)
      (outstanding : phase.outstanding = true → request.phase.outstanding = true)
      (releasing : request.phase.isReleasing = true → phase.outstanding = true → phase.isReleasing = true)
      (unsettled : phase.unsettled = true → request.phase.unsettled = true)
      (starting : phase.starting = true → request.phase.starting = true)
      (confirmed : phase = .confirmed → action = .consumeToken id .accepted) :
      Effect s action (s.enter id request phase)
  | granted (id : Nat) (request : Request) (phase : Phase) (now : Int) (user : Uuid)
      (table : List IdempotencyRow) (delivery : Delivery) (found : s.requests[id]? = some request)
      (before : request.phase = .received) (after : phase ≠ .executing) (unconfirmed : phase ≠ .confirmed)
      (asked : action = .acquire id now delivery) (effective : delivery ≠ .failed)
      (parsed : Uuid.parse request.userId = some user)
      (grant : Grant now user request.idempotencyKey s.table table) :
      Effect s action (({ s with table := table }.enter id request phase).record (.granted id request.lock))
  | started (id : Nat) (request : Request) (asked : action = .startTool id)
      (found : s.requests[id]? = some request) (before : request.phase = .granted ∨ request.phase = .confirmed) :
      Effect s action ((s.enter id request .executing).record (.started id request.lock))
  | finished (id : Nat) (request : Request) (phase : Phase) (asked : action.request? = some id)
      (found : s.requests[id]? = some request) (before : request.phase = .executing) (after : phase ≠ .executing)
      (ended : phase.starting = false) :
      Effect s action ((s.enter id request phase).record (.finished id request.lock))
  | committed (id : Nat) (request : Request) (phase : Phase) (result : Payload) (delivery : Delivery) (user : Uuid)
      (found : s.requests[id]? = some request) (before : request.phase = .committing (some result))
      (after : phase.outstanding = true → phase.isReleasing = true) (idle : phase.unsettled = false)
      (asked : action = .commit id delivery) (effective : delivery ≠ .failed)
      (parsed : Uuid.parse request.userId = some user) :
      Effect s action
        (({ s with
            table := updateWhere (IdempotencyRow.visible user request.idempotencyKey)
              (fun row => { row with status := .committed, responsePayload := some result }) s.table }.enter
          id request phase).record (.committed id request.lock))
  | released (id : Nat) (request : Request) (phase : Phase) (delivery : Delivery) (user : Uuid)
      (found : s.requests[id]? = some request) (before : request.phase.isReleasing = true)
      (after : phase.outstanding = true → phase.isReleasing = true) (idle : phase.unsettled = false)
      (asked : action = .release id delivery) (effective : delivery ≠ .failed)
      (parsed : Uuid.parse request.userId = some user) :
      Effect s action
        (({ s with
            table := updateWhere (IdempotencyRow.visible user request.idempotencyKey)
              (fun row => { row with status := .refunded }) s.table }.enter
          id request phase).record (.released id request.lock))

section Step

variable {s t : State} {action : Action} {id : Nat} {request : Request}

@[simp] theorem afterAcquisition_ne_executing (acquisition : Acquisition) :
    Phase.afterAcquisition acquisition ≠ .executing := by
  unfold Phase.afterAcquisition
  split
  · simp
  · split <;> simp

@[simp] theorem afterAcquisition_ne_confirmed (acquisition : Acquisition) :
    Phase.afterAcquisition acquisition ≠ .confirmed := by
  unfold Phase.afterAcquisition
  split
  · simp
  · split <;> simp

@[simp] theorem afterTool_ne_executing (outcome : ToolOutcome) : Phase.afterTool outcome ≠ .executing := by
  cases outcome <;> simp [Phase.afterTool]

@[simp] theorem afterTool_starting (outcome : ToolOutcome) : (Phase.afterTool outcome).starting = false := by
  cases outcome <;> rfl

@[simp] theorem afterFailedRelease_ne_executing (reason : ReleaseReason) :
    Phase.afterFailedRelease reason ≠ .executing := by
  cases reason <;> simp [Phase.afterFailedRelease]

@[simp] theorem afterFailedRelease_idle (reason : ReleaseReason) :
    (Phase.afterFailedRelease reason).unsettled = false := by
  cases reason <;> rfl

theorem outstanding_of_isReleasing {phase : Phase} (h : phase.isReleasing = true) : phase.outstanding = true := by
  cases phase <;> simp_all [Phase.isReleasing, Phase.outstanding]

@[simp] theorem afterFailedRelease_starting (reason : ReleaseReason) :
    (Phase.afterFailedRelease reason).starting = false := by
  cases reason <;> rfl

@[simp] theorem afterFailedRelease_ne_confirmed (reason : ReleaseReason) :
    Phase.afterFailedRelease reason ≠ .confirmed := by
  cases reason <;> simp [Phase.afterFailedRelease]

/-- Who is not at work is not executing. -/
theorem ne_executing {phase : Phase} (h : phase.unsettled = false) : phase ≠ .executing := by
  rintro rfl
  cases h

theorem afterFailedRelease_isReleasing (reason : ReleaseReason)
    (h : (Phase.afterFailedRelease reason).outstanding = true) :
    (Phase.afterFailedRelease reason).isReleasing = true := by
  cases reason <;> simp_all [Phase.afterFailedRelease, Phase.isReleasing, Phase.outstanding]

/-- An acquisition is granted or leaves the table as it is. -/
theorem acquire_effect {now : Int} {delivery : Delivery} (hfound : s.requests[id]? = some request)
    (hphase : request.phase = .received) :
    Effect s (.acquire id now delivery) (s.acquire id request now delivery) := by
  have hraised : Effect s (.acquire id now delivery) (s.enter id request .raised) :=
    .moved id request .raised rfl hfound (by simp [hphase]) (by simp) (by simp [Phase.outstanding])
      (by simp [Phase.outstanding]) (by simp [Phase.unsettled]) (by simp [Phase.starting]) (by simp)
  unfold State.acquire
  split
  · exact hraised
  · rename_i acquisition table hacquire
    rcases acquireIdempotencyLock_cases hacquire with ⟨hold, rfl⟩ | ⟨hnew, user, hparse, hgrant⟩
    · cases delivery with
      | failed => exact hraised
      | lost => simpa [hold] using hraised
      | answered =>
          simp only [hold, Bool.false_eq_true, if_false]
          apply Effect.moved id request _ rfl hfound (by simp [hphase]) (by simp)
          · unfold Phase.afterAcquisition
            simp only [hold, Bool.false_eq_true, if_false]
            split <;> simp [Phase.outstanding]
          · simp [hphase, Phase.isReleasing]
          · simp [hphase, Phase.unsettled]
          · simp [hphase, Phase.starting]
          · simp
    · cases delivery with
      | failed => exact hraised
      | lost =>
          simp only [hnew, if_true]
          exact .granted id request _ now user table .lost hfound hphase (by simp) (by simp) rfl (by simp) hparse
            hgrant
      | answered =>
          simp only [hnew, if_true]
          exact .granted id request _ now user table .answered hfound hphase (by simp) (by simp) rfl (by simp) hparse
            hgrant

theorem commit_effect {delivery : Delivery} {json : Option Payload} (hfound : s.requests[id]? = some request)
    (hphase : request.phase = .committing json) :
    Effect s (.commit id delivery) (s.commit id request json delivery) := by
  have hraised : Effect s (.commit id delivery) (s.enter id request (.releasing .executionError)) :=
    .moved id request _ rfl hfound (by simp [hphase]) (by simp) (by simp [hphase, Phase.outstanding])
      (by simp [Phase.isReleasing]) (by simp [Phase.unsettled]) (by simp [Phase.starting]) (by simp)
  unfold State.commit
  cases json with
  | none => exact hraised
  | some result =>
      dsimp only
      split
      · exact hraised
      · rename_i table hcommit
        obtain ⟨user, hparse, rfl⟩ := updateLock_eq_ok hcommit
        cases delivery with
        | failed => exact hraised
        | lost =>
            exact .committed id request _ result .lost user hfound hphase (by simp [Phase.isReleasing]) rfl rfl (by simp)
              hparse
        | answered =>
            exact .committed id request _ result .answered user hfound hphase (by simp [Phase.outstanding]) rfl rfl
              (by simp) hparse

theorem release_effect {delivery : Delivery} {reason : ReleaseReason} (hfound : s.requests[id]? = some request)
    (hphase : request.phase = .releasing reason) :
    Effect s (.release id delivery) (s.release id request reason delivery) := by
  have hreleasing : request.phase.isReleasing = true := by simp [hphase, Phase.isReleasing]
  have hraised : Effect s (.release id delivery) (s.enter id request (.afterFailedRelease reason)) :=
    .moved id request _ rfl hfound (by simp [hphase]) (by simp) (by simp [hphase, Phase.outstanding])
      (fun _ => afterFailedRelease_isReleasing reason) (by simp) (by simp) (by simp)
  unfold State.release
  split
  · exact hraised
  · rename_i table hrelease
    obtain ⟨user, hparse, rfl⟩ := updateLock_eq_ok hrelease
    cases delivery with
    | failed => exact hraised
    | lost =>
        exact .released id request _ .lost user hfound hreleasing (afterFailedRelease_isReleasing reason)
          (by simp) rfl (by simp) hparse
    | answered =>
        exact .released id request _ .answered user hfound hreleasing (by simp [Phase.outstanding]) rfl
          rfl (by simp) hparse

/-- What the step of one request does, whatever its phase. -/
theorem advance_effect (hfound : s.requests[id]? = some request) (haction : action.request? = some id)
    (h : s.advance id request request.phase action = some t) : Effect s action t := by
  -- a request that passes an await outside the tool function
  have hmoved (phase : Phase) (hbefore : request.phase ≠ .executing) (hafter : phase ≠ .executing)
      (hout : phase.outstanding = true → request.phase.outstanding = true)
      (hrel : request.phase.isReleasing = true → phase.outstanding = true → phase.isReleasing = true)
      (hunsettled : phase.unsettled = true → request.phase.unsettled = true)
      (hstarting : phase.starting = true → request.phase.starting = true)
      (hconfirmed : phase = .confirmed → action = .consumeToken id .accepted) :
      Effect s action (s.enter id request phase) :=
    .moved id request phase haction hfound hbefore hafter hout hrel hunsettled hstarting hconfirmed
  cases action with
  | arrive => cases haction
  | acquire id' now delivery =>
      obtain rfl := Option.some.inj haction
      cases hphase : request.phase <;> simp only [hphase, State.advance] at h <;> cases h
      exact acquire_effect hfound hphase
  | consumeToken id' result =>
      obtain rfl := Option.some.inj haction
      cases hphase : request.phase <;> simp only [hphase, State.advance] at h <;> try cases h
      split at h
      · cases result <;> cases h <;> apply hmoved <;>
          simp [hphase, Phase.outstanding, Phase.isReleasing, Phase.unsettled, Phase.starting]
      · cases h
  | startTool id' =>
      obtain rfl := Option.some.inj haction
      cases hphase : request.phase <;> simp only [hphase, State.advance] at h
      case granted =>
        split at h
        · cases h
        · cases h
          exact .started _ request rfl hfound (.inl hphase)
      case confirmed =>
        cases h
        exact .started _ request rfl hfound (.inr hphase)
      all_goals cases h
  | finishTool id' outcome =>
      cases hphase : request.phase <;> simp only [hphase, State.advance] at h <;> cases h
      exact .finished id request _ haction hfound hphase (by simp) (afterTool_starting outcome)
  | commit id' delivery =>
      obtain rfl := Option.some.inj haction
      cases hphase : request.phase <;> simp only [hphase, State.advance] at h <;> cases h
      exact commit_effect hfound hphase
  | release id' delivery =>
      obtain rfl := Option.some.inj haction
      cases hphase : request.phase <;> simp only [hphase, State.advance] at h <;> cases h
      exact release_effect hfound hphase
  | abandon id' =>
      cases hphase : request.phase <;> simp only [hphase, State.advance] at h
      case executing =>
        cases h
        exact .finished id request _ haction hfound hphase (by simp) rfl
      all_goals cases h
      all_goals
        apply hmoved <;> simp [hphase, Phase.outstanding, Phase.isReleasing, Phase.unsettled, Phase.starting]

/-- Every step has one of the effects. -/
theorem step_effect (h : step s action = some t) : Effect s action t := by
  have hrequest (hstep : (do
      let id ← action.request?
      let request ← s.requests[id]?
      s.advance id request request.phase action) = some t) : Effect s action t := by
    obtain ⟨id, haction, hrest⟩ := Option.bind_eq_some_iff.mp hstep
    obtain ⟨request, hfound, hadvance⟩ := Option.bind_eq_some_iff.mp hrest
    exact advance_effect hfound haction hadvance
  cases action with
  | arrive userId idempotencyKey parameters =>
      simp only [step] at h
      split at h
      · cases h
      · cases h
        exact .arrived _ rfl
  | acquire | consumeToken | startTool | finishTool | commit | release | abandon => exact hrequest h

end Step

/-! ## The invariant -/

/-- What the lock guarantees in every state of a timely run. -/
structure LockInvariant (s : State) : Prop where
  stored : ∀ row ∈ s.table, varchar 128 row.key = some row.key
  /-- a lock that was granted has a record, under the key as it is stored -/
  granted : ∀ id lock, Event.granted id lock ∈ s.history →
    ∃ row ∈ s.table, some row.userId = lock.1 ∧ varchar 128 lock.2 = some row.key
  /-- an outstanding request is the current holder -/
  holds : ∀ (id : Nat) (request : Request), s.requests[id]? = some request →
    request.phase.outstanding = true → holder request.lock s.history = some id
  /-- a committed lock was granted, its record is committed, and nobody works under it; only the request that
  has committed may still be about to release it -/
  committed : ∀ id lock, Event.committed id lock ∈ s.history →
    (∃ id', Event.granted id' lock ∈ s.history) ∧
    (∀ row ∈ s.table, Records lock row → row.status = .committed) ∧
    ∀ (id' : Nat) (request : Request), s.requests[id']? = some request → request.lock = lock →
      request.phase.outstanding = true → id' = id ∧ request.phase.isReleasing = true
  /-- an execution that has not finished is the one of an executing request -/
  running : ∀ id lock, Event.started id lock ∈ s.history → Event.finished id lock ∈ s.history ∨
    ∃ request, s.requests[id]? = some request ∧ request.lock = lock ∧ request.phase = .executing
  started : ∀ (id : Nat) (request : Request), s.requests[id]? = some request → request.phase = .executing →
    Event.started id request.lock ∈ s.history
  lawful : LawfulHistory s.history

section Invariant

variable {s : State} {action : Action} {id : Nat} {request : Request} {phase : Phase}

/-- The requests after one of them has entered a phase. -/
theorem enter_found (hfound : s.requests[id]? = some request) {id' : Nat} {request' : Request}
    (h : (s.enter id request phase).requests[id']? = some request') :
    (id' = id ∧ request' = { request with phase := phase }) ∨ (id' ≠ id ∧ s.requests[id']? = some request') := by
  have hlt : id < s.requests.length := (List.getElem?_eq_some_iff.mp hfound).1
  simp only [State.enter] at h
  by_cases hid : id' = id
  · subst hid
    rw [List.getElem?_set_self hlt] at h
    exact .inl ⟨rfl, (Option.some.inj h).symm⟩
  · rw [List.getElem?_set_ne (fun heq => hid heq.symm)] at h
    exact .inr ⟨hid, h⟩

theorem enter_self (hfound : s.requests[id]? = some request) :
    (s.enter id request phase).requests[id]? = some { request with phase := phase } := by
  have hlt : id < s.requests.length := (List.getElem?_eq_some_iff.mp hfound).1
  simp [State.enter, hlt]

theorem enter_ne {id' : Nat} (h : id' ≠ id) :
    (s.enter id request phase).requests[id']? = s.requests[id']? := by
  simp only [State.enter]
  exact List.getElem?_set_ne fun heq => h heq.symm

/-- A holder is unique: another outstanding request has another lock. -/
theorem LockInvariant.holder_unique (hinv : LockInvariant s) {id' : Nat} {request' : Request}
    (hfound : s.requests[id]? = some request) (hout : request.phase.outstanding = true)
    (hfound' : s.requests[id']? = some request') (hout' : request'.phase.outstanding = true)
    (hlock : request.lock = request'.lock) : id = id' := by
  have hholder := hinv.holds id request hfound hout
  rw [hlock, hinv.holds id' request' hfound' hout'] at hholder
  exact (Option.some.inj hholder).symm

/-- Nobody who works under a lock finds it committed. -/
theorem LockInvariant.uncommitted (hinv : LockInvariant s) (hfound : s.requests[id]? = some request)
    (hout : request.phase.outstanding = true) (hnot : request.phase.isReleasing = false) (id' : Nat) :
    Event.committed id' request.lock ∉ s.history := by
  intro hmem
  obtain ⟨-, -, hnone⟩ := hinv.committed id' request.lock hmem
  have hreleasing := (hnone id request hfound rfl hout).2
  rw [hnot] at hreleasing
  cases hreleasing

/-- While a request is executing, its lock has no other unfinished execution. -/
theorem LockInvariant.only_running (hinv : LockInvariant s) (hfound : s.requests[id]? = some request)
    (hout : request.phase.outstanding = true) (hphase : request.phase ≠ .executing) {id' : Nat}
    (hstarted : Event.started id' request.lock ∈ s.history) : Event.finished id' request.lock ∈ s.history := by
  rcases hinv.running id' request.lock hstarted with hfinished | ⟨request', hfound', hlock', hphase'⟩
  · exact hfinished
  · have hid : id = id' :=
      hinv.holder_unique hfound hout hfound' (by simp [hphase', Phase.outstanding]) hlock'.symm
    subst hid
    rw [hfound] at hfound'
    obtain rfl := Option.some.inj hfound'
    exact absurd hphase' hphase

theorem lockInvariant_initial : LockInvariant State.initial where
  stored := by simp [State.initial]
  granted := by simp [State.initial]
  holds := by simp [State.initial]
  committed := by simp [State.initial]
  running := by simp [State.initial]
  started := by simp [State.initial]
  lawful := trivial

/-- A new request holds nothing. -/
theorem LockInvariant.arrived (hinv : LockInvariant s) (hfresh : request.phase = .received) :
    LockInvariant { s with requests := s.requests ++ [request] } := by
  have hold {id' : Nat} {request' : Request} (h : (s.requests ++ [request])[id']? = some request') :
      s.requests[id']? = some request' ∨ request'.phase = .received := by
    rcases getElem?_concat_cases h with hfound | ⟨-, rfl⟩
    · exact .inl hfound
    · exact .inr hfresh
  constructor
  · exact hinv.stored
  · exact hinv.granted
  · intro id' request' hfound hout
    rcases hold hfound with hfound | hreceived
    · exact hinv.holds id' request' hfound hout
    · simp [hreceived, Phase.outstanding] at hout
  · intro id' lock hmem
    obtain ⟨hgranted, hrecord, hnone⟩ := hinv.committed id' lock hmem
    constructor
    · exact hgranted
    constructor
    · exact hrecord
    · intro other request' hfound hlock hout
      rcases hold hfound with hfound | hreceived
      · exact hnone other request' hfound hlock hout
      · simp [hreceived, Phase.outstanding] at hout
  · intro id' lock hmem
    rcases hinv.running id' lock hmem with hfinished | ⟨request', hfound, hlock, hphase⟩
    · exact .inl hfinished
    · have hlt : id' < s.requests.length := (List.getElem?_eq_some_iff.mp hfound).1
      apply Or.inr
      exact ⟨request', by rw [List.getElem?_append_left hlt]; exact hfound, hlock, hphase⟩
  · intro id' request' hfound hphase
    rcases hold hfound with hfound | hreceived
    · exact hinv.started id' request' hfound hphase
    · rw [hreceived] at hphase
      cases hphase
  · exact hinv.lawful

/-- A request passes an await outside the tool function, and the table stays as it is. -/
theorem LockInvariant.moved (hinv : LockInvariant s) (hfound : s.requests[id]? = some request)
    (hbefore : request.phase ≠ .executing) (hafter : phase ≠ .executing)
    (hout : phase.outstanding = true → request.phase.outstanding = true)
    (hrel : request.phase.isReleasing = true → phase.outstanding = true → phase.isReleasing = true) :
    LockInvariant (s.enter id request phase) := by
  constructor
  · exact hinv.stored
  · exact hinv.granted
  · intro id' request' hfound' hout'
    rcases enter_found hfound hfound' with ⟨rfl, rfl⟩ | ⟨-, hfound'⟩
    · exact hinv.holds id' request hfound (hout hout')
    · exact hinv.holds id' request' hfound' hout'
  · intro id' lock hmem
    obtain ⟨hgranted, hrecord, hnone⟩ := hinv.committed id' lock hmem
    constructor
    · exact hgranted
    constructor
    · exact hrecord
    · intro other request' hfound' hlock hout'
      rcases enter_found hfound hfound' with ⟨rfl, rfl⟩ | ⟨-, hfound'⟩
      · have hreleasing := hnone other request hfound hlock (hout hout')
        exact ⟨hreleasing.1, hrel hreleasing.2 hout'⟩
      · exact hnone other request' hfound' hlock hout'
  · intro id' lock hmem
    rcases hinv.running id' lock hmem with hfinished | ⟨request', hfound', hlock, hphase⟩
    · exact .inl hfinished
    · have hne : id' ≠ id := by
        rintro rfl
        rw [hfound] at hfound'
        obtain rfl := Option.some.inj hfound'
        exact hbefore hphase
      exact .inr ⟨request', by rw [enter_ne hne]; exact hfound', hlock, hphase⟩
  · intro id' request' hfound' hphase
    rcases enter_found hfound hfound' with ⟨rfl, rfl⟩ | ⟨-, hfound'⟩
    · exact absurd hphase hafter
    · exact hinv.started id' request' hfound' hphase
  · exact hinv.lawful

/-- The lock of a grant is free: it has never been committed, and no request works under it. -/
theorem LockInvariant.free (hinv : LockInvariant s) {now : Int} {user : Uuid} {delivery : Delivery}
    {table : List IdempotencyRow} (hfound : s.requests[id]? = some request)
    (htimely : Timely s (.acquire id now delivery)) (heffective : delivery ≠ .failed)
    (hparse : Uuid.parse request.userId = some user)
    (hgrant : Grant now user request.idempotencyKey s.table table) :
    (∀ id', Event.committed id' request.lock ∉ s.history) ∧
    ∀ (id' : Nat) (request' : Request), s.requests[id']? = some request' → request'.lock = request.lock →
      request'.phase.outstanding = false := by
  have hlock : request.lock = (some user, request.idempotencyKey) := by rw [Request.lock, hparse]
  cases hgrant with
  | takeover row expiresAt hmem hvisible huncommitted hexpired =>
      obtain ⟨hkey, huser⟩ := IdempotencyRow.visible_iff.mp hvisible
      have hrecords : Records request.lock row := by rw [hlock]; exact ⟨by rw [huser], hkey⟩
      constructor
      · intro id' hcommitted
        exact huncommitted ((hinv.committed id' request.lock hcommitted).2.1 row hmem hrecords)
      · intro id' request' hfound' hlock'
        apply htimely heffective request hfound ⟨row, hmem, hrecords, ?_⟩ request' (List.mem_of_getElem? hfound')
          hlock'
        cases hstatus : row.status with
        | acquired => exact .inr ⟨rfl, hexpired hstatus⟩
        | committed => exact absurd hstatus huncommitted
        | refunded => exact .inl rfl
  | insert storedKey storedName expiresAt hstored habsent =>
      -- a lock that was granted before has a record under the stored key
      have hnever (id' : Nat) : Event.granted id' request.lock ∉ s.history := by
        intro hgranted
        obtain ⟨row, hmem, -, hkey⟩ := hinv.granted id' request.lock hgranted
        rw [hlock, hstored] at hkey
        exact habsent row hmem (Option.some.inj hkey).symm
      constructor
      · intro id' hcommitted
        obtain ⟨id'', hgranted⟩ := (hinv.committed id' request.lock hcommitted).1
        exact hnever id'' hgranted
      · intro id' request' hfound' hlock'
        cases hout : request'.phase.outstanding with
        | false => rfl
        | true =>
            have hholder := hinv.holds id' request' hfound' hout
            rw [hlock'] at hholder
            exact absurd (granted_of_holder hholder) (hnever id')

/-- A grant does not touch the record of a committed lock. -/
theorem LockInvariant.granted_committed (hinv : LockInvariant s) {now : Int} {user : Uuid} {key : String}
    {table : List IdempotencyRow} (hfree : ∀ id', Event.committed id' (some user, key) ∉ s.history)
    (hgrant : Grant now user key s.table table) {id' : Nat} {lock : Lock}
    (hcommitted : Event.committed id' lock ∈ s.history) :
    ∀ row ∈ table, Records lock row → row.status = .committed := by
  intro row hrow hrecords
  obtain ⟨⟨id'', hgranted⟩, hold, -⟩ := hinv.committed id' lock hcommitted
  cases hgrant with
  | takeover =>
      obtain ⟨old, hmem, ⟨hvisible, rfl⟩ | ⟨-, rfl⟩⟩ := mem_updateWhere hrow
      · -- the row taken over is the record of the granted lock
        obtain ⟨hkey, huser⟩ := IdempotencyRow.visible_iff.mp hvisible
        have hlock : lock = (some user, key) := by
          ext1
          · rw [← hrecords.1, ← huser]; rfl
          · rw [← hrecords.2, ← hkey]; rfl
        exact absurd (hlock ▸ hcommitted) (hfree id')
      · exact hold _ hmem hrecords
  | insert storedKey storedName expiresAt hstored habsent =>
      rcases List.mem_append.mp hrow with hmem | hnew
      · exact hold row hmem hrecords
      · -- the inserted key was free, but a committed lock's key is taken
        obtain rfl := List.mem_singleton.mp hnew
        obtain ⟨old, hmem, -, hkey⟩ := hinv.granted id'' lock hgranted
        have hkeyStored : varchar 128 lock.2 = some storedKey := by
          rw [← hrecords.2]
          exact varchar_varchar hstored
        rw [hkeyStored] at hkey
        exact absurd (Option.some.inj hkey).symm (habsent old hmem)

/-- A grant on a free lock. -/
theorem LockInvariant.grant (hinv : LockInvariant s) {now : Int} {user : Uuid} {table : List IdempotencyRow}
    (hfound : s.requests[id]? = some request) (hbefore : request.phase = .received)
    (hafter : phase ≠ .executing) (hparse : Uuid.parse request.userId = some user)
    (hgrant : Grant now user request.idempotencyKey s.table table)
    (hfree : ∀ id', Event.committed id' request.lock ∉ s.history)
    (hidle : ∀ (id' : Nat) (request' : Request), s.requests[id']? = some request' →
      request'.lock = request.lock → request'.phase.outstanding = false) :
    LockInvariant (({ s with table := table }.enter id request phase).record (.granted id request.lock)) := by
  have hlock : request.lock = (some user, request.idempotencyKey) := by rw [Request.lock, hparse]
  constructor
  · exact hgrant.stored hinv.stored
  · intro id' lock hmem
    rcases List.mem_cons.mp hmem with heq | hmem
    · cases heq
      obtain ⟨row, hrow, huser, hkey⟩ := hgrant.record hinv.stored
      exact ⟨row, hrow, by rw [hlock, huser], by rw [hlock]; exact hkey⟩
    · obtain ⟨row, hrow, huser, hkey⟩ := hinv.granted id' lock hmem
      obtain ⟨row', hrow', hcolumns⟩ := hgrant.keeps hrow
      obtain ⟨huser', hkey'⟩ := Prod.mk.inj hcolumns
      exact ⟨row', hrow', by rw [huser', huser], by rw [hkey', hkey]⟩
  · intro id' request' hfound' hout
    show holder request'.lock (.granted id request.lock :: s.history) = some id'
    rcases enter_found hfound hfound' with ⟨rfl, rfl⟩ | ⟨-, hfound'⟩
    · exact holder_granted_self
    · have hne : request.lock ≠ request'.lock := by
        intro heq
        rw [hidle id' request' hfound' heq.symm] at hout
        cases hout
      rw [holder_granted_ne hne]
      exact hinv.holds id' request' hfound' hout
  · intro id' lock hmem
    have hcommitted : Event.committed id' lock ∈ s.history := by simpa [State.record, State.enter] using hmem
    obtain ⟨⟨id'', hgranted⟩, -, hnone⟩ := hinv.committed id' lock hcommitted
    constructor
    · exact ⟨id'', List.mem_cons_of_mem _ hgranted⟩
    constructor
    · exact hinv.granted_committed (hlock ▸ hfree) hgrant hcommitted
    · intro other request' hfound' hlock' hout
      rcases enter_found hfound hfound' with ⟨rfl, rfl⟩ | ⟨-, hfound'⟩
      · have heq : request.lock = lock := hlock'
        exact absurd (heq ▸ hcommitted) (hfree id')
      · exact hnone other request' hfound' hlock' hout
  · intro id' lock hmem
    have hstarted : Event.started id' lock ∈ s.history := by simpa [State.record, State.enter] using hmem
    rcases hinv.running id' lock hstarted with hfinished | ⟨request', hfound', hlock', hphase⟩
    · exact .inl (List.mem_cons_of_mem _ hfinished)
    · have hne : id' ≠ id := by
        rintro rfl
        rw [hfound] at hfound'
        obtain rfl := Option.some.inj hfound'
        rw [hbefore] at hphase
        cases hphase
      exact .inr ⟨request', (enter_ne hne).trans hfound', hlock', hphase⟩
  · intro id' request' hfound' hphase
    rcases enter_found hfound hfound' with ⟨rfl, rfl⟩ | ⟨-, hfound'⟩
    · exact absurd hphase hafter
    · exact List.mem_cons_of_mem _ (hinv.started id' request' hfound' hphase)
  · exact ⟨hfree, hinv.lawful⟩

/-- The holder starts the tool function. -/
theorem LockInvariant.start (hinv : LockInvariant s) (hfound : s.requests[id]? = some request)
    (hbefore : request.phase = .granted ∨ request.phase = .confirmed) :
    LockInvariant ((s.enter id request .executing).record (.started id request.lock)) := by
  have hout : request.phase.outstanding = true := by
    rcases hbefore with h | h <;> simp [h, Phase.outstanding]
  have hnotReleasing : request.phase.isReleasing = false := by
    rcases hbefore with h | h <;> simp [h, Phase.isReleasing]
  have hnotExecuting : request.phase ≠ .executing := by
    rcases hbefore with h | h <;> simp [h]
  constructor
  · exact hinv.stored
  · intro id' lock hmem
    exact hinv.granted id' lock (by simpa [State.record, State.enter] using hmem)
  · intro id' request' hfound' hout'
    show holder request'.lock (.started id request.lock :: s.history) = some id'
    rw [holder_started]
    rcases enter_found hfound hfound' with ⟨rfl, rfl⟩ | ⟨-, hfound'⟩
    · exact hinv.holds id' request hfound hout
    · exact hinv.holds id' request' hfound' hout'
  · intro id' lock hmem
    have hcommitted : Event.committed id' lock ∈ s.history := by simpa [State.record, State.enter] using hmem
    obtain ⟨⟨id'', hgranted⟩, hrecord, hnone⟩ := hinv.committed id' lock hcommitted
    constructor
    · exact ⟨id'', List.mem_cons_of_mem _ hgranted⟩
    constructor
    · exact hrecord
    · intro other request' hfound' hlock' hout'
      rcases enter_found hfound hfound' with ⟨rfl, rfl⟩ | ⟨-, hfound'⟩
      · have heq : request.lock = lock := hlock'
        exact absurd (heq ▸ hcommitted) (hinv.uncommitted hfound hout hnotReleasing id')
      · exact hnone other request' hfound' hlock' hout'
  · intro id' lock hmem
    rcases List.mem_cons.mp hmem with heq | hstarted
    · cases heq
      exact .inr ⟨_, enter_self hfound, rfl, rfl⟩
    · rcases hinv.running id' lock hstarted with hfinished | ⟨request', hfound', hlock', hphase⟩
      · exact .inl (List.mem_cons_of_mem _ hfinished)
      · have hne : id' ≠ id := by
          rintro rfl
          rw [hfound] at hfound'
          obtain rfl := Option.some.inj hfound'
          exact hnotExecuting hphase
        exact .inr ⟨request', (enter_ne hne).trans hfound', hlock', hphase⟩
  · intro id' request' hfound' hphase
    rcases enter_found hfound hfound' with ⟨rfl, rfl⟩ | ⟨-, hfound'⟩
    · exact List.mem_cons_self
    · exact List.mem_cons_of_mem _ (hinv.started id' request' hfound' hphase)
  · refine ⟨⟨hinv.holds id request hfound hout, hinv.uncommitted hfound hout hnotReleasing, ?_⟩, hinv.lawful⟩
    intro id' hstarted
    exact hinv.only_running hfound hout hnotExecuting hstarted

/-- The tool function ends. -/
theorem LockInvariant.finish (hinv : LockInvariant s) (hfound : s.requests[id]? = some request)
    (hbefore : request.phase = .executing) (hafter : phase ≠ .executing) :
    LockInvariant ((s.enter id request phase).record (.finished id request.lock)) := by
  have hout : request.phase.outstanding = true := by simp [hbefore, Phase.outstanding]
  have hnotReleasing : request.phase.isReleasing = false := by simp [hbefore, Phase.isReleasing]
  constructor
  · exact hinv.stored
  · intro id' lock hmem
    exact hinv.granted id' lock (by simpa [State.record, State.enter] using hmem)
  · intro id' request' hfound' hout'
    show holder request'.lock (.finished id request.lock :: s.history) = some id'
    rw [holder_finished]
    rcases enter_found hfound hfound' with ⟨rfl, rfl⟩ | ⟨-, hfound'⟩
    · exact hinv.holds id' request hfound hout
    · exact hinv.holds id' request' hfound' hout'
  · intro id' lock hmem
    have hcommitted : Event.committed id' lock ∈ s.history := by simpa [State.record, State.enter] using hmem
    obtain ⟨⟨id'', hgranted⟩, hrecord, hnone⟩ := hinv.committed id' lock hcommitted
    constructor
    · exact ⟨id'', List.mem_cons_of_mem _ hgranted⟩
    constructor
    · exact hrecord
    · intro other request' hfound' hlock' hout'
      rcases enter_found hfound hfound' with ⟨rfl, rfl⟩ | ⟨-, hfound'⟩
      · have heq : request.lock = lock := hlock'
        exact absurd (heq ▸ hcommitted) (hinv.uncommitted hfound hout hnotReleasing id')
      · exact hnone other request' hfound' hlock' hout'
  · intro id' lock hmem
    have hstarted : Event.started id' lock ∈ s.history := by simpa [State.record, State.enter] using hmem
    rcases hinv.running id' lock hstarted with hfinished | ⟨request', hfound', hlock', hphase⟩
    · exact .inl (List.mem_cons_of_mem _ hfinished)
    · by_cases hid : id' = id
      · subst hid
        rw [hfound] at hfound'
        obtain rfl := Option.some.inj hfound'
        obtain rfl := hlock'
        exact .inl List.mem_cons_self
      · exact .inr ⟨request', (enter_ne hid).trans hfound', hlock', hphase⟩
  · intro id' request' hfound' hphase
    rcases enter_found hfound hfound' with ⟨rfl, rfl⟩ | ⟨-, hfound'⟩
    · exact absurd hphase hafter
    · exact List.mem_cons_of_mem _ (hinv.started id' request' hfound' hphase)
  · exact ⟨hinv.started id request hfound hbefore, hinv.lawful⟩

/-- A commit or a release takes effect on an uncommitted lock. -/
theorem LockInvariant.settle (hinv : LockInvariant s) {user : Uuid} {status : IdempotencyStatus} {event : Event}
    {change : IdempotencyRow → IdempotencyRow} (hfound : s.requests[id]? = some request)
    (hout : request.phase.outstanding = true) (hbefore : request.phase ≠ .executing)
    (hreleasing : phase.outstanding = true → phase.isReleasing = true) (hafter : phase ≠ .executing)
    (hparse : Uuid.parse request.userId = some user)
    (hcolumns : ∀ row, ((change row).userId, (change row).key) = (row.userId, row.key))
    (hstatus : ∀ row, (change row).status = status)
    (hevent : event = .committed id request.lock ∧ status = .committed ∨
      event = .released id request.lock ∧ status = .refunded)
    (huncommitted : ∀ id', Event.committed id' request.lock ∉ s.history) :
    LockInvariant (({ s with
        table := updateWhere (IdempotencyRow.visible user request.idempotencyKey) change s.table }.enter
      id request phase).record event) := by
  have hlock : request.lock = (some user, request.idempotencyKey) := by rw [Request.lock, hparse]
  have hholder (lock : Lock) : holder lock (event :: s.history) = holder lock s.history := by
    rcases hevent with ⟨rfl, -⟩ | ⟨rfl, -⟩
    · exact holder_committed
    · exact holder_released
  -- a row after the update: the lock's record with the new status, or an old row of another lock
  have hrows {row : IdempotencyRow}
      (hrow : row ∈ updateWhere (IdempotencyRow.visible user request.idempotencyKey) change s.table) :
      (Records request.lock row ∧ row.status = status) ∨ (row ∈ s.table ∧ ¬ Records request.lock row) := by
    obtain ⟨old, hmem, ⟨hvisible, rfl⟩ | ⟨hhidden, rfl⟩⟩ := mem_updateWhere hrow
    · obtain ⟨hkey, huser⟩ := IdempotencyRow.visible_iff.mp hvisible
      obtain ⟨huser', hkey'⟩ := Prod.mk.inj (hcolumns old)
      apply Or.inl
      rw [hlock]
      exact ⟨⟨by rw [huser', huser], by rw [hkey', hkey]⟩, hstatus old⟩
    · apply Or.inr
      refine ⟨hmem, ?_⟩
      rintro ⟨huser, hkey⟩
      rw [hlock] at huser hkey
      have hvisible : row.visible user request.idempotencyKey = true :=
        IdempotencyRow.visible_iff.mpr ⟨hkey, Option.some.inj huser⟩
      rw [hvisible] at hhidden
      cases hhidden
  constructor
  · intro row hrow
    obtain ⟨old, hmem, ⟨-, rfl⟩ | ⟨-, rfl⟩⟩ := mem_updateWhere hrow
    · rw [(Prod.mk.inj (hcolumns old)).2]
      exact hinv.stored old hmem
    · exact hinv.stored _ hmem
  · intro id' lock hmem
    have hgranted : Event.granted id' lock ∈ s.history := by
      rcases List.mem_cons.mp hmem with heq | hmem
      · rcases hevent with ⟨rfl, -⟩ | ⟨rfl, -⟩ <;> cases heq
      · exact hmem
    obtain ⟨row, hrow, huser, hkey⟩ := hinv.granted id' lock hgranted
    have hkept : ∃ row' ∈ updateWhere (IdempotencyRow.visible user request.idempotencyKey) change s.table,
        (row'.userId, row'.key) = (row.userId, row.key) := exists_mem_updateWhere hcolumns hrow
    obtain ⟨row', hrow', hsame⟩ := hkept
    obtain ⟨huser', hkey'⟩ := Prod.mk.inj hsame
    exact ⟨row', hrow', by rw [huser', huser], by rw [hkey', hkey]⟩
  · intro id' request' hfound' hout'
    show holder request'.lock (event :: s.history) = some id'
    rw [hholder]
    rcases enter_found hfound hfound' with ⟨rfl, rfl⟩ | ⟨-, hfound'⟩
    · exact hinv.holds id' request hfound hout
    · exact hinv.holds id' request' hfound' hout'
  · intro id' lock hmem
    rcases List.mem_cons.mp hmem with heq | hcommitted
    · -- the commit that takes effect now
      rcases hevent with ⟨rfl, rfl⟩ | ⟨rfl, -⟩
      · cases heq
        constructor
        · exact ⟨id, List.mem_cons_of_mem _ (granted_of_holder (hinv.holds id request hfound hout))⟩
        constructor
        · intro row hrow hrecords
          rcases hrows hrow with ⟨-, hcommitted⟩ | ⟨-, hother⟩
          · exact hcommitted
          · exact absurd hrecords hother
        · intro other request' hfound' hlock' hout'
          rcases enter_found hfound hfound' with ⟨rfl, rfl⟩ | ⟨hne, hfound'⟩
          · exact ⟨rfl, hreleasing hout'⟩
          · exact absurd (hinv.holder_unique hfound' hout' hfound hout hlock') hne
      · cases heq
    · obtain ⟨⟨id'', hgranted⟩, hrecord, hnone⟩ := hinv.committed id' lock hcommitted
      have hne : request.lock ≠ lock := fun heq => huncommitted id' (heq ▸ hcommitted)
      constructor
      · exact ⟨id'', List.mem_cons_of_mem _ hgranted⟩
      constructor
      · intro row hrow hrecords
        rcases hrows hrow with ⟨hown, -⟩ | ⟨hmem, -⟩
        · have heq : request.lock = lock := by
            ext1
            · rw [← hown.1, ← hrecords.1]
            · rw [← hown.2, ← hrecords.2]
          exact absurd heq hne
        · exact hrecord row hmem hrecords
      · intro other request' hfound' hlock' hout'
        rcases enter_found hfound hfound' with ⟨rfl, rfl⟩ | ⟨-, hfound'⟩
        · exact absurd hlock' hne
        · exact hnone other request' hfound' hlock' hout'
  · intro id' lock hmem
    have hstarted : Event.started id' lock ∈ s.history := by
      rcases List.mem_cons.mp hmem with heq | hmem
      · rcases hevent with ⟨rfl, -⟩ | ⟨rfl, -⟩ <;> cases heq
      · exact hmem
    rcases hinv.running id' lock hstarted with hfinished | ⟨request', hfound', hlock', hphase⟩
    · exact .inl (List.mem_cons_of_mem _ hfinished)
    · have hne : id' ≠ id := by
        rintro rfl
        rw [hfound] at hfound'
        obtain rfl := Option.some.inj hfound'
        exact hbefore hphase
      exact .inr ⟨request', (enter_ne hne).trans hfound', hlock', hphase⟩
  · intro id' request' hfound' hphase
    rcases enter_found hfound hfound' with ⟨rfl, rfl⟩ | ⟨-, hfound'⟩
    · exact absurd hphase hafter
    · exact List.mem_cons_of_mem _ (hinv.started id' request' hfound' hphase)
  · refine ⟨?_, hinv.lawful⟩
    rcases hevent with ⟨rfl, -⟩ | ⟨rfl, -⟩
    · exact ⟨hinv.holds id request hfound hout, huncommitted⟩
    · exact ⟨hinv.holds id request hfound hout, huncommitted⟩

/-- Every timely step keeps the invariant. -/
theorem LockInvariant.step (hinv : LockInvariant s) (htimely : Timely s action) {t : State}
    (h : step s action = some t) : LockInvariant t := by
  cases step_effect h with
  | arrived request fresh => exact hinv.arrived fresh
  | moved id request phase asked found before after outstanding releasing =>
      exact hinv.moved found before after outstanding releasing
  | granted id request phase now user table delivery found before after unconfirmed asked effective parsed grant =>
      subst asked
      obtain ⟨hfree, hidle⟩ := hinv.free found htimely effective parsed grant
      exact hinv.grant found before after parsed grant hfree hidle
  | started id request asked found before => exact hinv.start found before
  | finished id request phase asked found before after => exact hinv.finish found before after
  | committed id request phase result delivery user found before after idle asked effective parsed =>
      have hout : request.phase.outstanding = true := by simp [before, Phase.outstanding]
      have hnot : request.phase.isReleasing = false := by simp [before, Phase.isReleasing]
      exact hinv.settle found hout (by simp [before]) after (ne_executing idle) parsed (fun _ => rfl) (fun _ => rfl)
        (.inl ⟨rfl, rfl⟩) (hinv.uncommitted found hout hnot)
  | released id request phase delivery user found before after idle asked effective parsed =>
      subst asked
      have hout : request.phase.outstanding = true := outstanding_of_isReleasing before
      have hnotExecuting : request.phase ≠ .executing := by
        intro hphase
        simp [hphase, Phase.isReleasing] at before
      have huncommitted (id' : Nat) : Event.committed id' request.lock ∉ s.history := by
        intro hcommitted
        obtain ⟨rfl, -⟩ := (hinv.committed id' request.lock hcommitted).2.2 id request found rfl hout
        exact htimely effective request.lock hcommitted
      exact hinv.settle found hout hnotExecuting after (ne_executing idle) parsed (fun _ => rfl) (fun _ => rfl)
        (.inr ⟨rfl, rfl⟩) huncommitted

theorem LockInvariant.zeroDuplication (hinv : LockInvariant s) : ZeroDuplication s where
  lawful := hinv.lawful
  exclusive := by
    intro id id' request request' hfound hfound' hphase hphase' hlock
    exact hinv.holder_unique hfound (by simp [hphase, Phase.outstanding]) hfound'
      (by simp [hphase', Phase.outstanding]) hlock
  absorbing := by
    intro id lock hcommitted
    exact (hinv.committed id lock hcommitted).2.1

theorem lockInvariant_reached (h : Reaches Backend.step Timely State.initial s) : LockInvariant s :=
  h.invariant lockInvariant_initial fun _ _ _ hinv htimely hstep => hinv.step htimely hstep

end Invariant

/-- In every run in which no record is taken over from an outstanding request, and no request releases a lock
that it has committed, the tool is executed under a key without overlap and never after the key was
committed. -/
theorem zeroDuplication_timely {s : State} (h : Reaches step Timely State.initial s) : ZeroDuplication s :=
  (lockInvariant_reached h).zeroDuplication

/-! ## Runs -/

/-- The event is a commit of the given request. -/
def Event.commits (id : Nat) : Event → Bool
  | committed id' _ => id' = id
  | _ => false

/-- An executable form of `Timely` (it also holds the failed transactions to it). -/
def timelyCheck (s : State) : Action → Bool
  | .acquire id now _ =>
      match s.requests[id]? with
      | none => true
      | some request =>
          s.requests.all (fun other => other.lock ≠ request.lock || !other.phase.outstanding) ||
            s.table.all fun row =>
              !decide (Records request.lock row) ||
                (row.status ≠ .refunded && (row.status ≠ .acquired || now < row.expiresAt))
  | .release id _ => !s.history.any (Event.commits id)
  | _ => true

theorem timely_of_check {s : State} {action : Action} (h : timelyCheck s action = true) : Timely s action := by
  cases action with
  | acquire id now delivery =>
      intro _ request hfound hrecord other hother hlock
      obtain ⟨row, hrow, hrecords, hstatus⟩ := hrecord
      simp only [timelyCheck, hfound, Bool.or_eq_true, List.all_eq_true] at h
      rcases h with hidle | hfresh
      · simpa [hlock] using hidle other hother
      · -- the check says that the record is not one that can be taken over
        exfalso
        have hrow' := hfresh row hrow
        rcases hstatus with hrefunded | ⟨hacquired, hexpired⟩
        · simp [hrecords, hrefunded] at hrow'
        · have hlt : now < row.expiresAt := by simpa [hrecords, hacquired] using hrow'
          omega
  | release id delivery =>
      intro _ lock hcommitted
      have hnone : s.history.any (Event.commits id) = false := by simpa [timelyCheck] using h
      have hevent := List.any_eq_false.mp hnone _ hcommitted
      simp [Event.commits] at hevent
  | arrive | consumeToken | startTool | finishTool | commit | abandon => trivial

/-- The state after a list of actions. -/
def after (actions : List Action) : State :=
  (execute step State.initial actions).getD State.initial

theorem execute_after {actions : List Action} (h : (execute step State.initial actions).isSome = true) :
    execute step State.initial actions = some (after actions) := by
  obtain ⟨s, hs⟩ := Option.isSome_iff_exists.mp h
  rw [after, hs, Option.getD_some]

def sampleBooking : ToolParameters :=
  .bookEvent "Review" "2026-10-01T10:00:00" none 30 [] none (some "Google Meet")

/-- A booking that is retried while it runs and after it has been committed. -/
def sampleRetries : List Action :=
  let company := "11111111-1111-4111-8111-111111111111"
  [.arrive company "booking-1" sampleBooking, .arrive company "booking-1" sampleBooking,
    .arrive company "booking-1" sampleBooking, .acquire 0 0 .answered, .startTool 0,
    .acquire 1 5000000 .answered, .finishTool 0 (.returned (some (some "booked"))), .commit 0 .answered,
    .acquire 2 90000000 .answered]

/-- A booking that runs for longer than the lock lasts, and its retry. -/
def sampleExpiry : List Action :=
  let company := "11111111-1111-4111-8111-111111111111"
  [.arrive company "booking-1" sampleBooking, .arrive company "booking-1" sampleBooking, .acquire 0 0 .answered,
    .startTool 0, .acquire 1 60000000 .answered, .startTool 1]

/-- The first request of `sampleExpiry`, and its retry, while they execute the tool. -/
def sampleExecuting : Request :=
  ⟨"11111111-1111-4111-8111-111111111111", "booking-1", sampleBooking, .executing⟩

/-- The guarantee holds along `sampleRetries`: the second request finds the lock taken, the third one the
committed response. -/
theorem zeroDuplication_timely_retries : ZeroDuplication (after sampleRetries) :=
  zeroDuplication_timely
    (.of_checked (fun _ _ _ hcheck => timely_of_check hcheck) (by decide +kernel : checked step timelyCheck
      State.initial sampleRetries = true) (execute_after (by decide +kernel)))

/-- The lock expires under a running execution, and the retry executes the tool beside it. -/
theorem zeroDuplication_expired : ¬ ∀ s, Reaches step Always State.initial s → ZeroDuplication s := by
  intro hall
  have hrun : Reaches step Always State.initial (after sampleExpiry) :=
    .of_execute (execute_after (by decide +kernel))
  have hsame : 0 = 1 :=
    (hall _ hrun).exclusive 0 1 sampleExecuting sampleExecuting (by decide +kernel) (by decide +kernel)
      (by decide) (by decide) (by decide)
  omega

/-- The other half of the condition: the answer to a commit is lost, the request refunds the committed record,
and a retry executes the tool again. -/
example :
    let company := "11111111-1111-4111-8111-111111111111"
    let s := after [.arrive company "booking-1" sampleBooking, .arrive company "booking-1" sampleBooking,
      .acquire 0 0 .answered, .startTool 0, .finishTool 0 (.returned (some (some "booked"))), .commit 0 .lost,
      .release 0 .answered, .acquire 1 5000000 .answered, .startTool 1]
    s.requests[1]? = some sampleExecuting ∧ s.history.any (Event.commits 0) = true := by
  decide +kernel

end Backend
end VoiceAssistants
