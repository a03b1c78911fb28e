import VoiceAssistants.Backend.BookingLease

/-!
# The attempts of a deferred booking

`attempt_count` is incremented by each claim and compared with `maxAttempts` by the `except` clauses only.  A row whose
worker has crashed comes back through the end of its lease, which passes no handler, and a worker whose lease is over
may write `pending` with the count of its own, older claim.  `Bounded` excludes the two for one row, and then the row is
claimed at most `maxAttempts` times.
-/

namespace VoiceAssistants
namespace BookingWorker

open Db Sql Async
open Backend (Delivery ProviderAnswer)

/-- How often a row has been claimed. -/
def claims (row : Uuid) : List Event → Nat
  | [] => 0
  | .claimed _ row' :: older => if row' = row then claims row older + 1 else claims row older
  | _ :: older => claims row older

/-- A row that was not created in `needs_reconnect` and has never been put there. -/
def NeverNeedsReconnect (row : Uuid) (history : List Event) : Prop :=
  Event.found row .needsReconnect ∉ history ∧ ∀ worker, Event.written worker row .needsReconnect ∉ history

/-- What a worker writes after the last attempt is final. -/
def LastWriteFinal (row : Uuid) : List Event → Prop
  | [] => True
  | .written _ row' status :: older =>
      (row' = row → claims row older = maxAttempts → status.terminal = true) ∧ LastWriteFinal row older
  | _ :: older => LastWriteFinal row older

/-- The bound on the attempts of a row. -/
structure AttemptBound (row : Uuid) (s : State) : Prop where
  claimed : claims row s.history ≤ maxAttempts
  written : LastWriteFinal row s.history
  settled : claims row s.history = maxAttempts → ∀ other ∈ s.table, other.id = row →
    other.status = .running ∨ other.status.terminal = true

/-- The row has attempts left. -/
def AttemptsLeft (row : Uuid) (s : State) : Prop :=
  ∀ other ∈ s.table, other.id = row → other.attemptCount < maxAttempts

/-- The condition on the steps: while it is running, the row is claimed only if it has attempts left, and `pending` is
written to it only if it has attempts left. -/
def Bounded (row : Uuid) (s : State) : Action → Prop
  | .claim _ _ _ pick delivery => delivery ≠ .failed → pick = row →
      (∃ other ∈ s.table, other.id = row ∧ other.status = .running) → AttemptsLeft row s
  | .write id _ delivery _ => delivery ≠ .failed → ∀ worker job result guarded, s.workers[id]? = some worker →
      worker.phase = .writing job result guarded → job.id = row → result.status = .pending → AttemptsLeft row s
  | _ => True

/-! ## The invariant -/

/-- A row that has never been in `needs_reconnect` counts its claims, and has attempts left while it is pending. -/
structure Counted (row : Uuid) (s : State) : Prop where
  counts : ∀ other ∈ s.table, other.id = row →
    claims row s.history = other.attemptCount ∧ other.attemptCount ≤ maxAttempts ∧ other.status ≠ .needsReconnect ∧
      (other.status = .pending → other.attemptCount < maxAttempts)
  absent : (∀ other ∈ s.table, other.id ≠ row) → claims row s.history = 0
  final : LastWriteFinal row s.history

structure AttemptInvariant (row : Uuid) (s : State) : Prop where
  keyed : Keyed BookingRow.id s.table
  counted : NeverNeedsReconnect row s.history → Counted row s

theorem attemptInvariant_initial {row : Uuid} : AttemptInvariant row State.initial where
  keyed := List.nodup_nil
  counted _ := by
    constructor
    · simp [State.initial]
    · simp [State.initial, claims]
    · trivial

variable {row : Uuid} {s t : State} {action : Action} {event : Event} {history : List Event}

theorem NeverNeedsReconnect.older (h : NeverNeedsReconnect row (event :: history)) : NeverNeedsReconnect row history :=
  ⟨fun hmem => h.1 (List.mem_cons_of_mem _ hmem), fun worker hmem => h.2 worker (List.mem_cons_of_mem _ hmem)⟩

/-- An update that leaves the row alone. -/
theorem Counted.updateWhere {condition : BookingRow → Bool} {change : BookingRow → BookingRow} (h : Counted row s)
    (htable : t.table = Sql.updateWhere condition change s.table)
    (hclaims : claims row t.history = claims row s.history) (hfinal : LastWriteFinal row t.history)
    (hid : ∀ other, (change other).id = other.id)
    (hchange : ∀ other ∈ s.table, other.id = row → condition other = true →
      (change other).attemptCount = other.attemptCount ∧ (change other).status ≠ .needsReconnect ∧
        ((change other).status = .pending → other.attemptCount < maxAttempts)) :
    Counted row t := by
  constructor
  · intro other hmem hrow
    rw [htable] at hmem
    obtain ⟨before, hbefore, ⟨hcondition, rfl⟩ | ⟨-, rfl⟩⟩ := mem_updateWhere hmem
    · rw [hid] at hrow
      obtain ⟨hcount, hle, -, -⟩ := h.counts before hbefore hrow
      obtain ⟨hattempt, hstatus, hpending⟩ := hchange before hbefore hrow hcondition
      rw [hattempt, hclaims]
      exact ⟨hcount, hle, hstatus, hpending⟩
    · rw [hclaims]
      exact h.counts other hbefore hrow
  · intro habsent
    rw [hclaims]
    apply h.absent
    intro before hbefore hrow
    obtain ⟨other, hmem, heq⟩ : ∃ other ∈ Sql.updateWhere condition change s.table, other.id = before.id :=
      exists_mem_updateWhere hid hbefore
    exact habsent other (htable ▸ hmem) (heq.trans hrow)
  · exact hfinal

/-- A step that leaves the table and the claims of the row as they are. -/
theorem Counted.of_table (h : Counted row s) (htable : t.table = s.table)
    (hclaims : claims row t.history = claims row s.history) (hfinal : LastWriteFinal row t.history) :
    Counted row t := by
  constructor
  · rw [htable, hclaims]
    exact h.counts
  · rw [htable, hclaims]
    exact h.absent
  · exact hfinal

/-- A claim of the row while it has attempts left. -/
theorem Counted.claimed {other : BookingRow} {now : Int} {worker : Nat} (h : Counted row s) (hmem : other ∈ s.table)
    (hrow : other.id = row) (hdue : claimable now other = true)
    (hleft : other.status = .running → other.attemptCount < maxAttempts)
    (htable : t.table = Sql.updateWhere (fun before => before.id = other.id) (BookingWorker.claimed now) s.table)
    (hkeyed : Keyed BookingRow.id s.table) (hhistory : t.history = .claimed worker other.id :: s.history) :
    Counted row t := by
  obtain ⟨hcount, hle, hreconnect, hpending⟩ := h.counts other hmem hrow
  have hclaims : claims row t.history = claims row s.history + 1 := by
    rw [hhistory]
    simp [claims, hrow]
  have hattempts : other.attemptCount < maxAttempts := by
    cases hstatus : other.status with
    | pending => exact hpending hstatus
    | running => exact hleft hstatus
    | needsReconnect => exact absurd hstatus hreconnect
    | completed | failed | cancelled => simp [claimable, hstatus] at hdue
  constructor
  · intro after hafter hid
    rw [htable] at hafter
    obtain ⟨before, hbefore, ⟨-, rfl⟩ | ⟨hother, rfl⟩⟩ := mem_updateWhere hafter
    · obtain rfl : before = other := hkeyed.eq_of_key hbefore hmem (hid.trans hrow.symm)
      have hincremented : (BookingWorker.claimed now before).attemptCount = before.attemptCount + 1 := by
        simp [BookingWorker.claimed, hreconnect]
      refine ⟨?_, ?_, by simp [BookingWorker.claimed], by simp [BookingWorker.claimed]⟩
      · omega
      · omega
    · rw [← hrow] at hid
      simp [hid] at hother
  · intro habsent
    exfalso
    obtain ⟨after, hafter, heq⟩ : ∃ after ∈ Sql.updateWhere (fun before => before.id = other.id)
        (BookingWorker.claimed now) s.table, after.id = other.id :=
      exists_mem_updateWhere (by intro _; rfl) hmem
    exact habsent after (htable ▸ hafter) (heq.trans hrow)
  · rw [hhistory]
    exact h.final

/-- One step that meets the condition. -/
theorem AttemptInvariant.step {calendar : Calendar} (hinv : AttemptInvariant row s) (hbounded : Bounded row s action)
    (hstep : BookingWorker.step calendar s action = some t) : AttemptInvariant row t := by
  cases effect_of_step hstep with
  | created now found table _ hinserted =>
      rcases hinserted with rfl | ⟨other, hfresh, hstatus, hzero, -, rfl, rfl⟩
      · exact ⟨hinv.keyed, fun hnever =>
          (hinv.counted hnever.older).of_table rfl rfl (hinv.counted hnever.older).final⟩
      · constructor
        · exact keyed_append hinv.keyed hfresh
        · intro hnever
          have hcounted := hinv.counted hnever.older
          constructor
          · intro after hafter hid
            rcases List.mem_append.mp hafter with hold | hnew
            · exact hcounted.counts after hold hid
            · -- the new row has not been claimed
              obtain rfl := List.mem_singleton.mp hnew
              have hclaims : claims row s.history = 0 :=
                hcounted.absent fun before hbefore hrow => hfresh before hbefore (hrow.trans hid.symm)
              have hreconnect : after.status ≠ .needsReconnect := by
                intro heq
                apply hnever.1
                rw [heq, hid]
                exact List.mem_cons_self
              refine ⟨hclaims.trans hzero.symm, ?_, hreconnect, fun _ => ?_⟩
              · omega
              · rw [hzero]
                decide
          · intro habsent
            exact hcounted.absent fun before hbefore => habsent before (List.mem_append_left _ hbefore)
          · exact hcounted.final
  | cancelled id user =>
      constructor
      · exact keyed_updateWhere (fun _ => rfl) hinv.keyed
      · intro hnever
        apply (hinv.counted hnever).updateWhere
        · rfl
        · rfl
        · exact (hinv.counted hnever).final
        · exact fun _ => rfl
        · exact fun _ _ _ _ => ⟨rfl, by simp [cancelledRow], by simp [cancelledRow]⟩
  | resumed now user =>
      constructor
      · exact keyed_updateWhere (fun _ => rfl) hinv.keyed
      · intro hnever
        apply (hinv.counted hnever).updateWhere
        · rfl
        · rfl
        · exact (hinv.counted hnever).final
        · exact fun _ => rfl
        · -- the row is not in `needs_reconnect`
          intro other hmem hrow hcondition
          simp only [Bool.and_eq_true, decide_eq_true_eq] at hcondition
          exact absurd hcondition.2 ((hinv.counted hnever).counts other hmem hrow).2.2.1
  | started | moved =>
      exact ⟨hinv.keyed, fun hnever => (hinv.counted hnever).of_table rfl rfl (hinv.counted hnever).final⟩
  | claimed id now locked delivery worker other phase _ hasked heffective _ _ hmem hdue _ =>
      rw [hasked] at hbounded
      constructor
      · exact keyed_updateWhere (fun _ => rfl) hinv.keyed
      · intro hnever
        have hcounted := hinv.counted hnever.older
        by_cases hrow : other.id = row
        · apply hcounted.claimed hmem hrow hdue
          · exact fun hrunning => hbounded heffective hrow ⟨other, hmem, hrow, hrunning⟩ other hmem hrow
          · rfl
          · exact hinv.keyed
          · rfl
        · apply hcounted.updateWhere
          · rfl
          · simp [claims, hrow]
          · exact hcounted.final
          · exact fun _ => rfl
          · intro before _ hid hcondition
            exact absurd ((of_decide_eq_true hcondition).symm.trans hid) hrow
  | written id now delivery sample worker job result guarded phase _ hasked heffective hfound hphase _ =>
      rw [hasked] at hbounded
      constructor
      · exact keyed_updateWhere (fun _ => rfl) hinv.keyed
      · intro hnever
        have hcounted := hinv.counted hnever.older
        have hstatus : job.id = row → result.status.value ≠ .needsReconnect := by
          intro hrow heq
          apply hnever.2 id
          rw [heq, hrow]
          exact List.mem_cons_self
        have hleft : job.id = row → result.status.value = .pending → AttemptsLeft row s := by
          intro hrow hpending
          apply hbounded heffective worker job result guarded hfound hphase hrow
          cases hresult : result.status <;> simp [hresult, ResultStatus.value] at hpending
          rfl
        apply hcounted.updateWhere
        · rfl
        · rfl
        · refine ⟨fun hrow hclaims => ?_, hcounted.final⟩
          -- after the last attempt, `pending` is not written
          have hpending : result.status.value ≠ .pending := by
            intro heq
            by_cases hexists : ∃ other ∈ s.table, other.id = row
            · obtain ⟨other, hmem, hid⟩ := hexists
              have hcount := (hcounted.counts other hmem hid).1
              have hlt := hleft hrow heq other hmem hid
              omega
            · have hzero : claims row s.history = 0 :=
                hcounted.absent fun other hmem hid => hexists ⟨other, hmem, hid⟩
              rw [hzero] at hclaims
              exact absurd hclaims (by decide)
          have hreconnect := hstatus hrow
          cases hresult : result.status <;> simp_all [ResultStatus.value, BookingStatus.terminal]
        · exact fun _ => rfl
        · intro other hmem hid hcondition
          have hrow : job.id = row := (of_decide_eq_true hcondition).symm.trans hid
          exact ⟨rfl, hstatus hrow, fun hpending => hleft hrow hpending other hmem hid⟩

/-- A check for `Bounded`. -/
def boundedCheck (row : Uuid) (s : State) : Action → Bool
  | .claim .. => s.table.all fun other => other.id = row → other.attemptCount < maxAttempts
  | .write id .. => s.workers[id]?.all fun worker =>
      match worker.phase with
      | .writing _ result _ => result.status ≠ .pending || s.table.all fun other =>
          other.id = row → other.attemptCount < maxAttempts
      | _ => true
  | _ => true

theorem bounded_of_check (h : boundedCheck row s action = true) : Bounded row s action := by
  have hleft (hall : (s.table.all fun other => other.id = row → other.attemptCount < maxAttempts) = true) :
      AttemptsLeft row s := by
    intro other hmem hid
    simpa [hid] using List.all_eq_true.mp hall other hmem
  cases action with
  | claim id now locked pick delivery => exact fun _ _ _ => hleft h
  | write id now delivery sample =>
      intro _ worker job result guarded hfound hphase _ hpending
      simp only [boundedCheck, hfound, Option.all_some, hphase, hpending, ne_eq, not_true, decide_false,
        Bool.false_or] at h
      exact hleft h
  | create | cancel | resume | start | answer | crash => trivial

/-- A check for `NeverNeedsReconnect`. -/
def neverNeedsReconnectCheck (row : Uuid) (history : List Event) : Bool :=
  history.all fun
    | .found row' status | .written _ row' status => row' ≠ row || status ≠ .needsReconnect
    | .claimed _ _ => true

theorem neverNeedsReconnect_of_check (h : neverNeedsReconnectCheck row history = true) :
    NeverNeedsReconnect row history := by
  have hall := List.all_eq_true.mp h
  constructor
  · intro hmem
    simpa using hall _ hmem
  · intro worker hmem
    simpa using hall _ hmem

/-- A request that is queued, and one process. -/
def sampleQueued : List Action :=
  [.create 0 1 sampleCompany none "booking-1" samplePayload .pending none, .start]

/-- Attempts that all find the broker unavailable, each after the longest delay. -/
def sampleUnavailable : Nat → List Action
  | 0 => sampleQueued
  | attempt + 1 =>
      let now : Int := (attempt + 1) * 4000000000
      sampleUnavailable attempt ++
        [.claim 0 now [] 1 .answered, .answer 0 (.httpError 503) 0, .write 0 (now + 1000000) .answered 0]

/-- Workers that claim the row and crash, each after the lease of the one before is over. -/
def sampleCrashes : Nat → List Action
  | 0 => [.create 0 1 sampleCompany none "booking-1" samplePayload .pending none]
  | crashes + 1 => sampleCrashes crashes ++
      [.start, .claim crashes ((crashes + 1) * 121000000) [] 1 .answered, .crash crashes]

end BookingWorker
end VoiceAssistants
