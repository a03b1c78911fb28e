import VoiceAssistants.Text
import Mathlib.Algebra.Order.Ring.Rat
import Mathlib.Tactic.Linarith

/-!
# The participant of a dispatched agent (`livekit-dispatch-verifier.mjs`)

`resolveDispatchedAgentIdentity` asks LiveKit for the dispatch again and again until the one job of the dispatch runs, or
its time is over.  What LiveKit answers and what the clock shows are free: the snapshot of the `n`-th poll and the `n`-th
reading of `now()`.  A poll reads the clock before the sleep, in the sleep's argument and after the sleep, so that the
poll `k` has the readings `3 k + 1`, `3 k + 2` and `3 k + 3`; the reading `0` sets the deadline.

The loop need not end while the clock stands still.  It is run with a number of polls, and `none` says that they were not
enough.
-/

namespace VoiceAssistants
namespace DispatchVerifier

/-! ## Arguments and snapshots -/

/-- A JavaScript value as the checks see it. -/
inductive Value where
  | text (value : String)
  | other (truthy : Bool)
  deriving DecidableEq, Repr

namespace Value

def truthy : Value → Bool
  | text value => value ≠ ""
  | other truthy => truthy

def text? : Value → Option String
  | text value => some value
  | other _ => none

end Value

/-- The text, when `nonEmpty(value, maxLength)` is true. -/
def nonEmpty (value : Value) (maxLength : Nat) : Option String :=
  boundedString value.text? maxLength

theorem nonEmpty_eq_some {value : Value} {maxLength : Nat} {text : String} (h : nonEmpty value maxLength = some text) :
    value = .text text ∧ text ≠ "" := by
  obtain ⟨htext, hlength⟩ := Option.filter_eq_some_iff.mp h
  constructor
  · cases value with
    | text value => exact congrArg Value.text (Option.some.inj htext)
    | other truthy => cases htext
  · rintro rfl
    simp [jsLength] at hlength

/-- `JobStatus` of `@livekit/protocol`. -/
inductive JobStatus where
  | JS_PENDING | JS_RUNNING | JS_SUCCESS | JS_FAILED
  deriving DecidableEq, Repr

/-- A job.  `status` is `none` where it is no `JobStatus`. -/
structure Job where
  dispatchId : Value
  agentName : Value
  status : Option JobStatus
  participantIdentity : Value
  deriving DecidableEq, Repr

/-- A dispatch.  `jobs` is `none` where `dispatch.state?.jobs` is no array; a falsy entry of it is `none`. -/
structure Dispatch where
  id : Value
  room : Value
  agentName : Value
  jobs : Option (List (Option Job))
  deriving DecidableEq, Repr

/-- The arguments.  A duration is `none` where it is no integer. -/
structure Arguments where
  dispatchId : Value
  roomName : Value
  expectedAgentName : Value := .text "calendar-assistant"
  timeoutMs : Option Int := some 10000
  pollIntervalMs : Option Int := some 250

/-- Arguments that passed the checks. -/
structure Request where
  dispatchId : String
  roomName : String
  expectedAgentName : String
  timeoutMs : Nat
  pollIntervalMs : Nat
  positive : 1 ≤ pollIntervalMs
  within : pollIntervalMs ≤ timeoutMs

/-- The checks of the arguments. -/
def check (arguments : Arguments) : Except String Request :=
  match nonEmpty arguments.dispatchId 255, nonEmpty arguments.roomName 255, nonEmpty arguments.expectedAgentName 128 with
  | some dispatchId, some roomName, some expectedAgentName =>
      match arguments.timeoutMs with
      | none => .error "timeoutMs must be between 1 and 60000"
      | some timeoutMs =>
          if timeoutMs < 1 ∨ timeoutMs > 60000 then .error "timeoutMs must be between 1 and 60000"
          else
            match arguments.pollIntervalMs with
            | none => .error "pollIntervalMs must be positive and no greater than timeoutMs"
            | some pollIntervalMs =>
                if h : pollIntervalMs < 1 ∨ pollIntervalMs > timeoutMs then
                  .error "pollIntervalMs must be positive and no greater than timeoutMs"
                else
                  .ok
                    { dispatchId
                      roomName
                      expectedAgentName
                      timeoutMs := timeoutMs.toNat
                      pollIntervalMs := pollIntervalMs.toNat
                      positive := by omega
                      within := by omega }
  | _, _, _ => .error "A dispatch ID, room, and expected agent name are required"

/-- What the checks take from the arguments. -/
structure Requested (arguments : Arguments) (request : Request) : Prop where
  dispatchId : arguments.dispatchId = .text request.dispatchId
  roomName : arguments.roomName = .text request.roomName
  expectedAgentName : arguments.expectedAgentName = .text request.expectedAgentName
  timeoutMs : arguments.timeoutMs = some (request.timeoutMs : Int)
  pollIntervalMs : arguments.pollIntervalMs = some (request.pollIntervalMs : Int)

theorem check_eq_ok {arguments : Arguments} {request : Request} (h : check arguments = .ok request) :
    Requested arguments request := by
  unfold check at h
  split at h
  case h_2 => cases h
  rename_i dispatchId roomName expectedAgentName hdispatch hroom hagent
  split at h
  · cases h
  rename_i timeoutMs htimeout
  split at h
  · cases h
  split at h
  · cases h
  rename_i pollIntervalMs hinterval
  split at h
  · cases h
  cases h
  constructor
  case dispatchId => exact (nonEmpty_eq_some hdispatch).1
  case roomName => exact (nonEmpty_eq_some hroom).1
  case expectedAgentName => exact (nonEmpty_eq_some hagent).1
  case timeoutMs =>
    show _ = some (timeoutMs.toNat : Int)
    rw [htimeout, Int.toNat_of_nonneg (by omega)]
  case pollIntervalMs =>
    show _ = some (pollIntervalMs.toNat : Int)
    rw [hinterval, Int.toNat_of_nonneg (by omega)]

/-! ## One snapshot -/

/-- What the loop does with a job: an error, the identity that it returns, or `none` to go on. -/
def inspectJob (request : Request) (job : Job) : Except String (Option String) :=
  if job.dispatchId.truthy = true ∧ job.dispatchId ≠ .text request.dispatchId then
    .error "livekit_dispatch_job_mismatch"
  else if job.agentName.truthy = true ∧ job.agentName ≠ .text request.expectedAgentName then
    .error "livekit_dispatch_agent_mismatch"
  else if job.status = some .JS_FAILED ∨ job.status = some .JS_SUCCESS then .error "livekit_dispatch_job_not_running"
  else if job.status = some .JS_RUNNING then .ok (nonEmpty job.participantIdentity 255)
  else .ok none

/-- What the loop does with a dispatch. -/
def inspectDispatch (request : Request) (dispatch : Dispatch) : Except String (Option String) :=
  if dispatch.id ≠ .text request.dispatchId ∨ dispatch.room ≠ .text request.roomName ∨
      dispatch.agentName ≠ .text request.expectedAgentName then
    .error "livekit_dispatch_binding_mismatch"
  else
    match dispatch.jobs with
    | some (_ :: _ :: _) => .error "livekit_dispatch_job_ambiguous"
    | some [some job] => inspectJob request job
    | some [none] | some [] | none => .ok none

/-- What the loop does with a snapshot; `none` is a falsy one. -/
def inspect (request : Request) : Option Dispatch → Except String (Option String)
  | none => .ok none
  | some dispatch => inspectDispatch request dispatch

/-- The dispatch that was asked for, with one job. -/
structure Bound (request : Request) (dispatch : Dispatch) (job : Job) : Prop where
  id : dispatch.id = .text request.dispatchId
  room : dispatch.room = .text request.roomName
  agentName : dispatch.agentName = .text request.expectedAgentName
  jobs : dispatch.jobs = some [some job]
  jobDispatch : job.dispatchId.truthy = true → job.dispatchId = .text request.dispatchId
  jobAgent : job.agentName.truthy = true → job.agentName = .text request.expectedAgentName

/-- A snapshot after which no identity may be returned: of another dispatch, with more than one job, or with a job that
belongs elsewhere, has failed or is over. -/
inductive Refused (request : Request) (dispatch : Dispatch) : Prop where
  | id (h : dispatch.id ≠ .text request.dispatchId)
  | room (h : dispatch.room ≠ .text request.roomName)
  | agentName (h : dispatch.agentName ≠ .text request.expectedAgentName)
  | ambiguous (jobs : List (Option Job)) (h : dispatch.jobs = some jobs) (hmany : 1 < jobs.length)
  | jobDispatch (job : Job) (h : dispatch.jobs = some [some job]) (htruthy : job.dispatchId.truthy = true)
      (hother : job.dispatchId ≠ .text request.dispatchId)
  | jobAgent (job : Job) (h : dispatch.jobs = some [some job]) (htruthy : job.agentName.truthy = true)
      (hother : job.agentName ≠ .text request.expectedAgentName)
  | failed (job : Job) (h : dispatch.jobs = some [some job]) (hstatus : job.status = some .JS_FAILED)
  | finished (job : Job) (h : dispatch.jobs = some [some job]) (hstatus : job.status = some .JS_SUCCESS)

variable {request : Request} {snapshot : Option Dispatch} {dispatch : Dispatch}

/-- A job with which the loop goes on or returns. -/
theorem inspectJob_ok {job : Job} {answer : Option String} (h : inspectJob request job = .ok answer) :
    (job.dispatchId.truthy = true → job.dispatchId = .text request.dispatchId) ∧
      (job.agentName.truthy = true → job.agentName = .text request.expectedAgentName) ∧
      job.status ≠ some .JS_FAILED ∧ job.status ≠ some .JS_SUCCESS ∧
      ∀ identity, answer = some identity →
        job.status = some .JS_RUNNING ∧ job.participantIdentity = .text identity ∧ identity ≠ "" := by
  unfold inspectJob at h
  split at h
  · cases h
  rename_i hdispatch
  split at h
  · cases h
  rename_i hagent
  split at h
  · cases h
  rename_i hstatus
  constructor
  · intro htruthy
    by_contra hother
    exact hdispatch ⟨htruthy, hother⟩
  constructor
  · intro htruthy
    by_contra hother
    exact hagent ⟨htruthy, hother⟩
  constructor
  · exact fun hfailed => hstatus (Or.inl hfailed)
  constructor
  · exact fun hfinished => hstatus (Or.inr hfinished)
  · intro identity hanswer
    subst hanswer
    split at h
    case isTrue hrunning => exact ⟨hrunning, nonEmpty_eq_some (Except.ok.inj h)⟩
    case isFalse => cases h

/-- A snapshot with which the loop goes on or returns is of the dispatch that was asked for. -/
theorem inspect_ok {answer : Option String} (h : inspectDispatch request dispatch = .ok answer) :
    dispatch.id = .text request.dispatchId ∧ dispatch.room = .text request.roomName ∧
      dispatch.agentName = .text request.expectedAgentName := by
  unfold inspectDispatch at h
  split at h
  · cases h
  rename_i hbinding
  simpa only [not_or, not_not] using hbinding

/-- A dispatch with one job is judged by it. -/
theorem inspect_of_job {job : Job} {answer : Option String} (hjobs : dispatch.jobs = some [some job])
    (h : inspectDispatch request dispatch = .ok answer) : inspectJob request job = .ok answer := by
  unfold inspectDispatch at h
  split at h
  · cases h
  rw [hjobs] at h
  exact h

/-- The loop neither goes on nor returns after a snapshot that is refused. -/
theorem not_refused {answer : Option String} (h : inspectDispatch request dispatch = .ok answer) :
    ¬ Refused request dispatch := by
  obtain ⟨hid, hroom, hagent⟩ := inspect_ok h
  intro hrefused
  cases hrefused with
  | id hother => exact hother hid
  | room hother => exact hother hroom
  | agentName hother => exact hother hagent
  | ambiguous jobs hjobs hmany =>
      unfold inspectDispatch at h
      split at h
      · cases h
      rw [hjobs] at h
      match jobs, hmany with
      | _ :: _ :: _, _ => cases h
  | jobDispatch job hjobs htruthy hother => exact hother ((inspectJob_ok (inspect_of_job hjobs h)).1 htruthy)
  | jobAgent job hjobs htruthy hother => exact hother ((inspectJob_ok (inspect_of_job hjobs h)).2.1 htruthy)
  | failed job hjobs hstatus => exact (inspectJob_ok (inspect_of_job hjobs h)).2.2.1 hstatus
  | finished job hjobs hstatus => exact (inspectJob_ok (inspect_of_job hjobs h)).2.2.2.1 hstatus

/-- The snapshot of an identity that is returned. -/
theorem inspect_identity {identity : String} (h : inspect request snapshot = .ok (some identity)) :
    ∃ dispatch job, snapshot = some dispatch ∧ Bound request dispatch job ∧ job.status = some .JS_RUNNING ∧
      job.participantIdentity = .text identity ∧ identity ≠ "" := by
  cases snapshot with
  | none => cases h
  | some dispatch =>
      change inspectDispatch request dispatch = .ok (some identity) at h
      obtain ⟨hid, hroom, hagent⟩ := inspect_ok h
      have hone : ∃ job, dispatch.jobs = some [some job] := by
        unfold inspectDispatch at h
        split at h
        · cases h
        split at h
        case h_2 job hjobs => exact ⟨job, hjobs⟩
        all_goals cases h
      obtain ⟨job, hjobs⟩ := hone
      obtain ⟨hdispatch, hname, -, -, hanswer⟩ := inspectJob_ok (inspect_of_job hjobs h)
      exact ⟨dispatch, job, rfl, ⟨hid, hroom, hagent, hjobs, hdispatch, hname⟩, hanswer identity rfl⟩

/-! ## The loop -/

section Clock

variable {K : Type} [CommRing K] [LinearOrder K]

/-- What the call ended with, and how often it polled. -/
structure Outcome where
  result : Except String String
  polls : Nat

/-- What LiveKit answers and the clock shows.  `getDispatch` is `none` for a client that is none; an answer is `none`
for a rejection. -/
structure Environment (K : Type) where
  getDispatch : Option (Nat → Option (Option Dispatch))
  now : Nat → K

/-- `deadline`. -/
def deadline (request : Request) (now : Nat → K) : K :=
  now 0 + request.timeoutMs

/-- The argument of the sleep after the poll `k`. -/
def requestedSleep (request : Request) (now : Nat → K) (k : Nat) : K :=
  min (request.pollIntervalMs : K) (max 1 (deadline request now - now (3 * k + 2)))

/-- The loop from the poll `k`. -/
def pollLoop (request : Request) (getDispatch : Nat → Option (Option Dispatch)) (now : Nat → K) :
    Nat → Nat → Option Outcome
  | 0, _ => none
  | fuel + 1, k =>
      match getDispatch k with
      | none => some ⟨.error "livekit_dispatch_verification_unavailable", k + 1⟩
      | some snapshot =>
          match inspect request snapshot with
          | .error error => some ⟨.error error, k + 1⟩
          | .ok (some identity) => some ⟨.ok identity, k + 1⟩
          | .ok none =>
              if now (3 * k + 1) ≥ deadline request now then some ⟨.error "livekit_dispatch_agent_not_ready", k + 1⟩
              -- the sleep is here
              else if now (3 * k + 3) ≤ deadline request now then pollLoop request getDispatch now fuel (k + 1)
              else some ⟨.error "livekit_dispatch_agent_not_ready", k + 1⟩

/-- `resolveDispatchedAgentIdentity`, with at most `fuel` polls. -/
def resolveDispatchedAgentIdentity (arguments : Arguments) (environment : Environment K) (fuel : Nat) :
    Option Outcome :=
  match environment.getDispatch with
  | none => some ⟨.error "A LiveKit agent-dispatch client is required", 0⟩
  | some getDispatch =>
      match check arguments with
      | .error error => some ⟨.error error, 0⟩
      | .ok request => pollLoop request getDispatch environment.now fuel 0

/-! ## What a run polls -/

/-- The loop goes on after the poll `k`. -/
def Continues (request : Request) (getDispatch : Nat → Option (Option Dispatch)) (now : Nat → K) (k : Nat) : Prop :=
  (∃ snapshot, getDispatch k = some snapshot ∧ inspect request snapshot = .ok none) ∧
    now (3 * k + 1) < deadline request now ∧ now (3 * k + 3) ≤ deadline request now

/-- The poll `k` takes place. -/
def Reached (request : Request) (getDispatch : Nat → Option (Option Dispatch)) (now : Nat → K) (k : Nat) : Prop :=
  ∀ j < k, Continues request getDispatch now j

/-- The sleep after the poll `k` takes place. -/
def Sleeps (request : Request) (getDispatch : Nat → Option (Option Dispatch)) (now : Nat → K) (k : Nat) : Prop :=
  Reached request getDispatch now k ∧
    (∃ snapshot, getDispatch k = some snapshot ∧ inspect request snapshot = .ok none) ∧
    now (3 * k + 1) < deadline request now

/-- Every sleep advances the clock by at least what it was asked for: what is read after it is that much later than
what was read before it. -/
def SleepsAdvance (request : Request) (getDispatch : Nat → Option (Option Dispatch)) (now : Nat → K) : Prop :=
  ∀ k, Sleeps request getDispatch now k → ∀ before ≤ 3 * k + 2, ∀ after ≥ 3 * k + 3,
    now before + requestedSleep request now k ≤ now after

variable {getDispatch : Nat → Option (Option Dispatch)} {now : Nat → K} {k fuel : Nat} {outcome : Outcome}

/-- The loop ends with the poll `k`, and with an identity only if the poll found it. -/
structure Ends (request : Request) (getDispatch : Nat → Option (Option Dispatch)) (now : Nat → K) (k : Nat)
    (result : Except String String) : Prop where
  loop : ∀ fuel, pollLoop request getDispatch now (fuel + 1) k = some ⟨result, k + 1⟩
  found : ∀ identity, result = .ok identity →
    ∃ snapshot, getDispatch k = some snapshot ∧ inspect request snapshot = .ok (some identity)

theorem Ends.error {error : String}
    (hloop : ∀ fuel, pollLoop request getDispatch now (fuel + 1) k = some ⟨.error error, k + 1⟩) :
    Ends request getDispatch now k (.error error) :=
  ⟨hloop, fun identity hidentity => by cases hidentity⟩

/-- After a poll the loop goes on or ends. -/
theorem poll_cases (request : Request) (getDispatch : Nat → Option (Option Dispatch)) (now : Nat → K) (k : Nat) :
    (Continues request getDispatch now k ∧
      ∀ fuel, pollLoop request getDispatch now (fuel + 1) k = pollLoop request getDispatch now fuel (k + 1)) ∨
    ∃ result, Ends request getDispatch now k result := by
  cases hsnapshot : getDispatch k with
  | none =>
      right
      exact ⟨_, Ends.error fun fuel => by simp only [pollLoop, hsnapshot]; rfl⟩
  | some snapshot =>
      cases hinspect : inspect request snapshot with
      | error error =>
          right
          exact ⟨.error error, Ends.error fun fuel => by simp only [pollLoop, hsnapshot, hinspect]⟩
      | ok answer =>
          cases answer with
          | some identity =>
              right
              use .ok identity
              constructor
              case loop => exact fun fuel => by simp only [pollLoop, hsnapshot, hinspect]
              case found =>
                intro identity' hidentity
                cases hidentity
                exact ⟨snapshot, hsnapshot, hinspect⟩
          | none =>
              by_cases hover : now (3 * k + 1) ≥ deadline request now
              · right
                exact ⟨_, Ends.error fun fuel => by simp only [pollLoop, hsnapshot, hinspect, if_pos hover]; rfl⟩
              by_cases hmore : now (3 * k + 3) ≤ deadline request now
              · left
                constructor
                · exact ⟨⟨snapshot, hsnapshot, hinspect⟩, lt_of_not_ge hover, hmore⟩
                · exact fun fuel => by simp only [pollLoop, hsnapshot, hinspect, if_neg hover, if_pos hmore]
              · right
                exact ⟨_, Ends.error fun fuel => by
                  simp only [pollLoop, hsnapshot, hinspect, if_neg hover, if_neg hmore]; rfl⟩

/-- Every poll of a run but the last one goes on, and the last one found the identity. -/
theorem pollLoop_sound (h : pollLoop request getDispatch now fuel k = some outcome) :
    ∃ last, k ≤ last ∧ outcome.polls = last + 1 ∧ (∀ j, k ≤ j → j < last → Continues request getDispatch now j) ∧
      ∀ identity, outcome.result = .ok identity →
        ∃ snapshot, getDispatch last = some snapshot ∧ inspect request snapshot = .ok (some identity) := by
  induction fuel generalizing k with
  | zero => cases h
  | succ fuel ih =>
      cases poll_cases request getDispatch now k with
      | inl hmore =>
          rw [hmore.2 fuel] at h
          obtain ⟨last, hle, hpolls, hbetween, hfound⟩ := ih h
          use last
          constructor
          · exact Nat.le_of_succ_le hle
          constructor
          · exact hpolls
          constructor
          · intro j hj hlast
            cases Nat.eq_or_lt_of_le hj with
            | inl hfirst =>
                subst hfirst
                exact hmore.1
            | inr hlater => exact hbetween j hlater hlast
          · exact hfound
      | inr hends =>
          obtain ⟨result, hends⟩ := hends
          rw [hends.loop fuel] at h
          cases h
          exact ⟨k, Nat.le_refl k, rfl, fun j hj hlast => absurd hj (Nat.not_le_of_lt hlast), hends.found⟩

/-- A poll that does not take place bounds the run. -/
theorem pollLoop_of_not_reached (hreached : Reached request getDispatch now k)
    (hnot : ¬ Reached request getDispatch now (k + fuel)) :
    ∃ outcome, (∀ more ≥ fuel, pollLoop request getDispatch now more k = some outcome) ∧ outcome.polls ≤ k + fuel := by
  induction fuel generalizing k with
  | zero => exact absurd hreached hnot
  | succ fuel ih =>
      cases poll_cases request getDispatch now k with
      | inl hmore =>
          have hnext : Reached request getDispatch now (k + 1) := by
            intro j hj
            cases Nat.eq_or_lt_of_le (Nat.le_of_lt_succ hj) with
            | inl hlast => exact hlast ▸ hmore.1
            | inr hearlier => exact hreached j hearlier
          have hnot' : ¬ Reached request getDispatch now (k + 1 + fuel) := by
            rwa [Nat.add_right_comm]
          obtain ⟨outcome, hloop, hpolls⟩ := ih hnext hnot'
          use outcome
          constructor
          · intro more hfuel
            cases more with
            | zero => omega
            | succ more =>
                rw [hmore.2 more]
                exact hloop more (Nat.le_of_succ_le_succ hfuel)
          · omega
      | inr hends =>
          obtain ⟨result, hends⟩ := hends
          use ⟨result, k + 1⟩
          constructor
          · intro more hfuel
            cases more with
            | zero => omega
            | succ more => exact hends.loop more
          · show k + 1 ≤ k + (fuel + 1)
            omega

/-! ## The bound -/

section Bound

variable [IsStrictOrderedRing K]

/-- Full sleeps carry the clock forward; after a shortened one the deadline has come. -/
theorem clock_of_reached (hadvance : SleepsAdvance request getDispatch now) (hreached : Reached request getDispatch now k) :
    now 0 + k * request.pollIntervalMs ≤ now (3 * k) ∨ ∀ j ≥ 3 * k, deadline request now ≤ now j := by
  induction k with
  | zero =>
      left
      simp
  | succ k ih =>
      have hcontinues : Continues request getDispatch now k := hreached k (Nat.lt_succ_self k)
      have hbefore : Reached request getDispatch now k := fun j hj => hreached j (Nat.lt_succ_of_lt hj)
      have hsleeps : Sleeps request getDispatch now k := ⟨hbefore, hcontinues.1, hcontinues.2.1⟩
      cases ih hbefore with
      | inr hover => exact absurd hcontinues.2.1 (not_lt_of_ge (hover (3 * k + 1) (by omega)))
      | inl hclock =>
          cases le_total (request.pollIntervalMs : K) (max 1 (deadline request now - now (3 * k + 2))) with
          | inl hfull =>
              left
              have hsleep : now (3 * k) + request.pollIntervalMs ≤ now (3 * k + 3) := by
                have hstep := hadvance k hsleeps (3 * k) (by omega) (3 * k + 3) (Nat.le_refl _)
                rwa [requestedSleep, min_eq_left hfull] at hstep
              have hindex : 3 * (k + 1) = 3 * k + 3 := by omega
              rw [hindex]
              push_cast
              linarith
          | inr hshort =>
              right
              intro j hj
              have hstep := hadvance k hsleeps (3 * k + 2) (Nat.le_refl _) j (by omega)
              rw [requestedSleep, min_eq_right hshort] at hstep
              have hrest : deadline request now - now (3 * k + 2) ≤ max 1 (deadline request now - now (3 * k + 2)) :=
                le_max_right _ _
              linarith

/-- The poll that would exceed the bound does not take place. -/
theorem not_reached (hadvance : SleepsAdvance request getDispatch now) :
    ¬ Reached request getDispatch now (request.timeoutMs / request.pollIntervalMs + 2) := by
  intro hreached
  obtain ⟨k, hk⟩ : ∃ k, k = request.timeoutMs / request.pollIntervalMs + 1 := ⟨_, rfl⟩
  have hpos : 0 < k := hk ▸ Nat.succ_pos _
  have hcontinues : Continues request getDispatch now k := hreached k (by omega)
  have hlast : Continues request getDispatch now (k - 1) := hreached (k - 1) (by omega)
  have hindex : 3 * (k - 1) + 3 = 3 * k := by omega
  have hbefore : Reached request getDispatch now k := by
    intro j hj
    apply hreached
    omega
  cases clock_of_reached hadvance hbefore with
  | inr hover => exact absurd hcontinues.2.1 (not_lt_of_ge (hover (3 * k + 1) (by omega)))
  | inl hclock =>
      have hwithin : now (3 * k) ≤ deadline request now := hindex ▸ hlast.2.2
      have hsleeps : (k : K) * request.pollIntervalMs ≤ request.timeoutMs := by
        rw [deadline] at hwithin
        linarith
      have hcount : k * request.pollIntervalMs ≤ request.timeoutMs := by exact_mod_cast hsleeps
      have hbound : k ≤ request.timeoutMs / request.pollIntervalMs :=
        (Nat.le_div_iff_mul_le request.positive).mpr hcount
      omega

/-- A clock that does not go back, and shows at least the requested time more after a sleep than in its argument. -/
theorem sleepsAdvance_of_monotone (hclock : ∀ i j, i ≤ j → now i ≤ now j)
    (hsleep : ∀ k, now (3 * k + 2) + requestedSleep request now k ≤ now (3 * k + 3)) :
    SleepsAdvance request getDispatch now := by
  intro k _ before hbefore after hafter
  calc now before + requestedSleep request now k
      ≤ now (3 * k + 2) + requestedSleep request now k := by linarith [hclock before (3 * k + 2) hbefore]
    _ ≤ now (3 * k + 3) := hsleep k
    _ ≤ now after := hclock _ _ hafter

/-- An identity is that of the one running job of the dispatch that was asked for, as the last snapshot shows it.  No
identity is returned once a snapshot was refused.  With a clock that every sleep advances, the polls are bounded. -/
theorem dispatched_identity_sound_and_bounded (arguments : Arguments) (environment : Environment K) :
    (∀ fuel outcome, resolveDispatchedAgentIdentity arguments environment fuel = some outcome →
      (∀ identity, outcome.result = .ok identity →
        ∃ request getDispatch dispatch job, check arguments = .ok request ∧ Requested arguments request ∧
          environment.getDispatch = some getDispatch ∧ 0 < outcome.polls ∧
          getDispatch (outcome.polls - 1) = some (some dispatch) ∧ Bound request dispatch job ∧
          job.status = some .JS_RUNNING ∧ job.participantIdentity = .text identity ∧ identity ≠ "") ∧
      ∀ request getDispatch, check arguments = .ok request → environment.getDispatch = some getDispatch →
        ∀ k < outcome.polls, ∀ dispatch, getDispatch k = some (some dispatch) → Refused request dispatch →
          ∃ error, outcome.result = .error error) ∧
    ∀ request getDispatch, check arguments = .ok request → environment.getDispatch = some getDispatch →
      SleepsAdvance request getDispatch environment.now →
      ∃ outcome, (∀ fuel ≥ request.timeoutMs / request.pollIntervalMs + 2,
          resolveDispatchedAgentIdentity arguments environment fuel = some outcome) ∧
        outcome.polls ≤ request.timeoutMs / request.pollIntervalMs + 2 := by
  constructor
  · intro fuel outcome houtcome
    unfold resolveDispatchedAgentIdentity at houtcome
    cases hclient : environment.getDispatch with
    | none =>
        rw [hclient] at houtcome
        cases houtcome
        exact ⟨fun identity hidentity => (by cases hidentity), fun request getDispatch _ hsome => (by cases hsome)⟩
    | some getDispatch =>
        rw [hclient] at houtcome
        simp only at houtcome
        cases hcheck : check arguments with
        | error error =>
            rw [hcheck] at houtcome
            cases houtcome
            exact ⟨fun identity hidentity => (by cases hidentity), fun request getDispatch hok => (by cases hok)⟩
        | ok request =>
            rw [hcheck] at houtcome
            obtain ⟨last, -, hpolls, hbetween, hfound⟩ := pollLoop_sound houtcome
            constructor
            · intro identity hidentity
              obtain ⟨snapshot, hsnapshot, hinspect⟩ := hfound identity hidentity
              obtain ⟨dispatch, job, rfl, hbound, hrunning⟩ := inspect_identity hinspect
              exact ⟨request, getDispatch, dispatch, job, rfl, check_eq_ok hcheck, rfl, hpolls ▸ Nat.succ_pos last,
                hpolls ▸ hsnapshot, hbound, hrunning⟩
            · intro request' getDispatch' hok hsome k hk dispatch hdispatch hrefused
              cases hok
              cases hsome
              cases hresult : outcome.result with
              | error error => exact ⟨error, rfl⟩
              | ok identity =>
                  -- a refused snapshot neither went on nor gave the identity
                  rw [hpolls] at hk
                  cases Nat.eq_or_lt_of_le (Nat.le_of_lt_succ hk) with
                  | inl hlast =>
                      obtain ⟨snapshot, hsnapshot, hinspect⟩ := hfound identity hresult
                      rw [← hlast, hdispatch] at hsnapshot
                      cases hsnapshot
                      exact absurd hrefused (not_refused hinspect)
                  | inr hearlier =>
                      obtain ⟨⟨snapshot, hsnapshot, hinspect⟩, -⟩ := hbetween k (Nat.zero_le k) hearlier
                      rw [hdispatch] at hsnapshot
                      cases hsnapshot
                      exact absurd hrefused (not_refused hinspect)
  · intro request getDispatch hcheck hclient hadvance
    have hstart : Reached request getDispatch environment.now 0 := fun j hj => absurd hj (Nat.not_lt_zero j)
    have hnot : ¬ Reached request getDispatch environment.now
        (0 + (request.timeoutMs / request.pollIntervalMs + 2)) := by
      rw [Nat.zero_add]
      exact not_reached hadvance
    obtain ⟨outcome, hloop, hpolls⟩ := pollLoop_of_not_reached hstart hnot
    rw [Nat.zero_add] at hpolls
    use outcome
    constructor
    · intro fuel hfuel
      unfold resolveDispatchedAgentIdentity
      rw [hclient, hcheck]
      exact hloop fuel hfuel
    · exact hpolls

end Bound

end Clock

/-- The third snapshot shows the running job. -/
def sampleDispatch (jobs : List (Option Job)) : Dispatch :=
  ⟨.text "dispatch-opaque", .text "threecx-room", .text "calendar-assistant", some jobs⟩

def sampleGetDispatch : Nat → Option (Option Dispatch)
  | 0 => some none
  | 1 => some (some (sampleDispatch []))
  | _ => some (some (sampleDispatch
      [some ⟨.text "dispatch-opaque", .text "calendar-assistant", some .JS_RUNNING, .text "agent-job-opaque"⟩]))

def sampleArguments : Arguments :=
  { dispatchId := .text "dispatch-opaque", roomName := .text "threecx-room", timeoutMs := some 100,
    pollIntervalMs := some 10 }

/-- Every sleep takes as long as it was asked for, and nothing else takes time. -/
def sampleEnvironment : Environment Int :=
  ⟨some sampleGetDispatch, fun reading => 1000 + 10 * (reading / 3 : Nat)⟩

def sampleRequest : Request :=
  ⟨"dispatch-opaque", "threecx-room", "calendar-assistant", 100, 10, by decide, by decide⟩

theorem dispatched_identity_sound_and_bounded_sample :
    resolveDispatchedAgentIdentity sampleArguments sampleEnvironment 12 = some ⟨.ok "agent-job-opaque", 3⟩ ∧
      (∃ dispatch job, sampleGetDispatch 2 = some (some dispatch) ∧ Bound sampleRequest dispatch job ∧
        job.status = some .JS_RUNNING) ∧
      ∃ outcome, (∀ fuel ≥ 12, resolveDispatchedAgentIdentity sampleArguments sampleEnvironment fuel = some outcome) ∧
        outcome.polls ≤ 12 := by
  have hrun : resolveDispatchedAgentIdentity sampleArguments sampleEnvironment 12 =
      some ⟨.ok "agent-job-opaque", 3⟩ := by rfl
  have hcheck : check sampleArguments = .ok sampleRequest := by rfl
  have hadvance : SleepsAdvance sampleRequest sampleGetDispatch sampleEnvironment.now := by
    intro k _ before hbefore after hafter
    have hsleep : requestedSleep sampleRequest sampleEnvironment.now k ≤ 10 := min_le_left _ _
    show (1000 : Int) + 10 * (before / 3 : Nat) + requestedSleep sampleRequest sampleEnvironment.now k ≤
      1000 + 10 * (after / 3 : Nat)
    omega
  obtain ⟨hsound, hbounded⟩ := dispatched_identity_sound_and_bounded sampleArguments sampleEnvironment
  constructor
  · exact hrun
  constructor
  · obtain ⟨request, getDispatch, dispatch, job, hrequest, -, hclient, -, hlast, hbound, hrunning, -⟩ :=
      (hsound 12 _ hrun).1 _ rfl
    cases hclient
    cases hcheck.symm.trans hrequest
    exact ⟨dispatch, job, hlast, hbound, hrunning⟩
  · exact hbounded sampleRequest sampleGetDispatch hcheck rfl hadvance

end DispatchVerifier
end VoiceAssistants
