import VoiceAssistants.Collections.Slots
import VoiceAssistants.Backend.BookingWorker

/-!
# The lease of a deferred booking

A lease is meant to keep a row for one worker: only the most recent claimant writes a result, and a row that is
completed, failed or cancelled stays so.  `_write_result` finds its row by the id alone, so this depends on the time of
the writes.  `Timely` is the condition: a result is written by the end of its worker's lease, or later while the row is
still running under that lease, and no write inside the `try` takes effect and raises.

`LeaseInvariant` carries it: the row of a worker that processes a job is running under the worker's lease and has been
claimed by nobody since, or the lease is over and the row is not under it any more.
-/

namespace VoiceAssistants
namespace BookingWorker

open Db Sql Async
open Collections (getElem?_concat_cases)
open Backend (Delivery ProviderAnswer)

/-- The worker that has claimed a row last; the history is newest first. -/
def lastClaimant (row : Uuid) : List Event → Option Nat
  | [] => none
  | .claimed worker row' :: older => if row' = row then some worker else lastClaimant row older
  | _ :: older => lastClaimant row older

/-- Every result was written by the worker that had claimed its row last. -/
def LawfulHistory : List Event → Prop
  | [] => True
  | .written worker row _ :: older => lastClaimant row older = some worker ∧ LawfulHistory older
  | _ :: older => LawfulHistory older

/-- The rows that have come to an end are left as they are. -/
def Absorbed (s t : State) : Prop :=
  ∀ row ∈ s.table, row.status.terminal = true → ∃ row' ∈ t.table, row'.id = row.id ∧ row'.status = row.status

/-- The row of a job is still running under a lease. -/
def UnderLease (s : State) (job : Job) (lease : Int) : Prop :=
  ∃ row ∈ s.table, row.id = job.id ∧ row.status = .running ∧ row.leaseUntil = some lease

/-- The condition on the steps. -/
def Timely (s : State) : Action → Prop
  | .write id now delivery _ => ∀ worker job result guarded,
      s.workers[id]? = some worker → worker.phase = .writing job result guarded → delivery ≠ .failed →
        (now ≤ worker.lease ∨ UnderLease s job worker.lease) ∧ (guarded = true → delivery ≠ .lost)
  | _ => True

/-! ## The invariant -/

/-- What a worker knows of the row of its job. -/
def Holds (s : State) (id : Nat) (worker : Worker) (job : Job) : Prop :=
  (UnderLease s job worker.lease ∧ lastClaimant job.id s.history = some id) ∨
    (worker.lease < s.clock ∧ ∀ row ∈ s.table, row.id = job.id → row.leaseUntil ≠ some worker.lease)

structure LeaseInvariant (s : State) : Prop where
  keyed : Keyed BookingRow.id s.table
  holds : ∀ (id : Nat) (worker : Worker) (job : Job),
    s.workers[id]? = some worker → worker.phase.job? = some job → Holds s id worker job
  lawful : LawfulHistory s.history

theorem leaseInvariant_initial : LeaseInvariant State.initial where
  keyed := List.nodup_nil
  holds := by simp [State.initial]
  lawful := trivial

section Table

variable {s t : State} {row row' : BookingRow}

/-- An update of rows that have not come to an end. -/
theorem absorbed_updateWhere {condition : BookingRow → Bool} {change : BookingRow → BookingRow} {table : List BookingRow}
    (hkept : ∀ row ∈ table, condition row = true → row.status.terminal = false) :
    ∀ row ∈ table, row.status.terminal = true →
      ∃ row' ∈ updateWhere condition change table, row'.id = row.id ∧ row'.status = row.status := by
  intro row hmem hterminal
  have hcondition : condition row = false := by
    cases hc : condition row with
    | false => rfl
    | true => simp [hkept row hmem hc] at hterminal
  have hmem' : (if condition row then change row else row) ∈ updateWhere condition change table :=
    List.mem_map_of_mem hmem
  simp only [hcondition] at hmem'
  exact ⟨row, hmem', rfl, rfl⟩

/-- A row that is due has not come to its end. -/
theorem terminal_of_claimable {now : Int} (h : claimable now row = true) : row.status.terminal = false := by
  unfold claimable at h
  cases hstatus : row.status <;> simp_all [BookingStatus.terminal]

/-- A row under a lease is not due before the lease is over. -/
theorem lease_lt_of_claimable {now lease : Int} (hdue : claimable now row = true) (hstatus : row.status = .running)
    (hlease : row.leaseUntil = some lease) : lease < now := by
  simpa [claimable, hstatus, hlease] using hdue

end Table

section Frame

variable {s t : State} {id : Nat} {worker : Worker} {job : Job}

/-- A worker's knowledge outlasts an update of the table that neither touches a row under its lease nor puts a row under
it. -/
theorem Holds.updateWhere {condition : BookingRow → Bool} {change : BookingRow → BookingRow}
    (h : Holds s id worker job) (hclock : s.clock ≤ t.clock)
    (htable : t.table = Sql.updateWhere condition change s.table)
    (hclaimant : lastClaimant job.id t.history = lastClaimant job.id s.history)
    (huntouched : lastClaimant job.id s.history = some id →
      ∀ row ∈ s.table, row.id = job.id → row.status = .running → condition row = false)
    (hlease : ∀ row, (change row).leaseUntil = none) : Holds t id worker job := by
  rcases h with ⟨⟨row, hmem, hrow, hrunning, hunder⟩, hlast⟩ | ⟨hover, hfree⟩
  · have hsame := huntouched hlast row hmem hrow hrunning
    have hmem' : (if condition row then change row else row) ∈ Sql.updateWhere condition change s.table :=
      List.mem_map_of_mem hmem
    simp only [hsame] at hmem'
    exact .inl ⟨⟨row, htable ▸ hmem', hrow, hrunning, hunder⟩, hclaimant.trans hlast⟩
  · right
    constructor
    · omega
    · intro row' hmem' hrow'
      rw [htable] at hmem'
      obtain ⟨row, hmem, ⟨-, rfl⟩ | ⟨-, rfl⟩⟩ := mem_updateWhere hmem'
      · rw [hlease]
        simp
      · exact hfree row' hmem hrow'

theorem Holds.of_table {s t : State} (h : Holds s id worker job) (hclock : s.clock ≤ t.clock) (htable : t.table = s.table)
    (hclaimant : lastClaimant job.id t.history = lastClaimant job.id s.history) : Holds t id worker job := by
  unfold Holds UnderLease at *
  rw [htable, hclaimant]
  exact h.imp_right fun ⟨hover, hfree⟩ => ⟨by omega, hfree⟩

/-- A new row is not under a lease. -/
theorem Holds.append {row : BookingRow} (h : Holds s id worker job) (hclock : s.clock ≤ t.clock)
    (htable : t.table = s.table ++ [row]) (hnone : row.leaseUntil = none)
    (hclaimant : lastClaimant job.id t.history = lastClaimant job.id s.history) : Holds t id worker job := by
  rcases h with ⟨⟨row', hmem, hrow⟩, hlast⟩ | ⟨hover, hfree⟩
  · exact .inl ⟨⟨row', htable ▸ List.mem_append_left _ hmem, hrow⟩, hclaimant.trans hlast⟩
  · right
    constructor
    · omega
    · intro row' hmem' hrow'
      rw [htable] at hmem'
      rcases List.mem_append.mp hmem' with hmem | hnew
      · exact hfree row' hmem hrow'
      · obtain rfl := List.mem_singleton.mp hnew
        simp [hnone]

/-- A claim of the row ends what another worker has of it, since it comes after the end of its lease. -/
theorem Holds.claimed {now : Int} {row : BookingRow} {claimant : Nat} (h : Holds s id worker job)
    (hkeyed : Keyed BookingRow.id s.table) (hclock : s.clock ≤ now) (hmem : row ∈ s.table)
    (hdue : claimable now row = true)
    (htable : t.table = Sql.updateWhere (fun other => other.id = row.id) (claimed now) s.table)
    (htime : t.clock = now) (hhistory : t.history = .claimed claimant row.id :: s.history) : Holds t id worker job := by
  by_cases hrow : row.id = job.id
  · -- the lease is over, and the new one ends later
    have hover : worker.lease < now := by
      rcases h with ⟨⟨row', hmem', hid, hrunning, hunder⟩, -⟩ | ⟨hover, -⟩
      · obtain rfl := hkeyed.eq_of_key hmem hmem' (hrow.trans hid.symm)
        exact lease_lt_of_claimable hdue hrunning hunder
      · omega
    right
    constructor
    · omega
    · intro row' hmem' hid
      rw [htable] at hmem'
      obtain ⟨row'', -, ⟨-, rfl⟩ | ⟨hother, rfl⟩⟩ := mem_updateWhere hmem'
      · show some (now + leaseSeconds * 1000000) ≠ some worker.lease
        rw [ne_eq, Option.some.injEq]
        have hpositive : (0 : Int) < leaseSeconds * 1000000 := by decide
        omega
      · simp only [decide_eq_false_iff_not] at hother
        exact absurd (hid.trans hrow.symm) hother
  · -- another row is claimed
    have hclaimant : lastClaimant job.id t.history = lastClaimant job.id s.history := by
      rw [hhistory]
      simp [lastClaimant, hrow]
    have hsame : ∀ row' ∈ s.table, row'.id = job.id → decide (row'.id = row.id) = false := by
      intro row' _ hid
      simpa using fun heq => hrow (heq.symm.trans hid)
    rcases h with ⟨⟨row', hmem', hid, hrunning, hunder⟩, hlast⟩ | ⟨hover, hfree⟩
    · have hkept : (if decide (row'.id = row.id) then BookingWorker.claimed now row' else row') ∈
          Sql.updateWhere (fun other => other.id = row.id) (BookingWorker.claimed now) s.table :=
        List.mem_map_of_mem hmem'
      rw [hsame row' hmem' hid] at hkept
      exact .inl ⟨⟨row', htable ▸ hkept, hid, hrunning, hunder⟩, hclaimant.trans hlast⟩
    · right
      constructor
      · omega
      · intro row' hmem' hid
        rw [htable] at hmem'
        obtain ⟨row'', hmem'', ⟨hother, rfl⟩ | ⟨-, rfl⟩⟩ := mem_updateWhere hmem'
        · rw [hsame row'' hmem'' hid] at hother
          cases hother
        · exact hfree row' hmem'' hid

end Frame

/-- The workers after one of them has moved. -/
theorem worker_set {workers : List Worker} {id id' : Nat} {worker worker' : Worker}
    (h : (workers.set id worker)[id']? = some worker') :
    (id' = id ∧ worker' = worker) ∨ (id' ≠ id ∧ workers[id']? = some worker') := by
  by_cases heq : id' = id
  · subst heq
    rw [List.getElem?_set_self'] at h
    obtain ⟨_, -, rfl⟩ := Option.map_eq_some_iff.mp h
    exact .inl ⟨rfl, rfl⟩
  · rw [List.getElem?_set_ne (Ne.symm heq)] at h
    exact .inr ⟨heq, h⟩

/-- In time, a worker writes to a row that is under its lease and that nobody has claimed since. -/
theorem LeaseInvariant.underLease {s : State} {id : Nat} {now : Int} {delivery : Delivery} {sample : Rat}
    {worker : Worker} {job : Job} {result : BookingResult} {guarded : Bool} (hinv : LeaseInvariant s)
    (htimely : Timely s (.write id now delivery sample)) (hclock : s.clock ≤ now)
    (hfound : s.workers[id]? = some worker) (hphase : worker.phase = .writing job result guarded)
    (heffective : delivery ≠ .failed) :
    UnderLease s job worker.lease ∧ lastClaimant job.id s.history = some id := by
  obtain ⟨hintime, -⟩ := htimely worker job result guarded hfound hphase heffective
  rcases hinv.holds id worker job hfound (by rw [hphase]; rfl) with hheld | ⟨hover, hfree⟩
  · exact hheld
  · -- its lease would be over
    exfalso
    rcases hintime with hbefore | ⟨row, hmem, hrow, -, hunder⟩
    · omega
    · exact hfree row hmem hrow hunder

/-- One step that meets the condition. -/
theorem LeaseInvariant.step {calendar : Calendar} {s t : State} {action : Action} (hinv : LeaseInvariant s)
    (htimely : Timely s action) (hstep : BookingWorker.step calendar s action = some t) :
    LeaseInvariant t ∧ Absorbed s t := by
  cases effect_of_step hstep with
  | created now found table hclock hinserted =>
      rcases hinserted with rfl | ⟨row, hfresh, -, -, hnone, -, rfl⟩
      · constructor
        · exact ⟨hinv.keyed, fun id worker job hfound hjob =>
            (hinv.holds id worker job hfound hjob).of_table hclock rfl rfl, hinv.lawful⟩
        · exact fun row hmem _ => ⟨row, hmem, rfl, rfl⟩
      · constructor
        · exact ⟨keyed_append hinv.keyed hfresh, fun id worker job hfound hjob =>
            (hinv.holds id worker job hfound hjob).append hclock rfl hnone rfl, hinv.lawful⟩
        · exact fun row hmem _ => ⟨row, List.mem_append_left _ hmem, rfl, rfl⟩
  | cancelled id user =>
      -- a running row is not cancelled
      have huntouched : ∀ row : BookingRow, row.status = .running → row.cancellable id user = false := by
        intro row hrunning
        simp [BookingRow.cancellable, hrunning]
      constructor
      · constructor
        · exact keyed_updateWhere (fun _ => rfl) hinv.keyed
        · intro id' worker job hfound hjob
          apply (hinv.holds id' worker job hfound hjob).updateWhere
          · exact le_refl s.clock
          · rfl
          · rfl
          · exact fun _ row _ _ hrunning => huntouched row hrunning
          · exact fun _ => rfl
        · exact hinv.lawful
      · apply absorbed_updateWhere
        intro row _ hcondition
        simp only [BookingRow.cancellable, Bool.and_eq_true, Bool.or_eq_true, decide_eq_true_eq] at hcondition
        rcases hcondition.2 with hstatus | hstatus <;> simp [hstatus, BookingStatus.terminal]
  | resumed now user hclock =>
      -- neither is a running row resumed
      constructor
      · constructor
        · exact keyed_updateWhere (fun _ => rfl) hinv.keyed
        · intro id' worker job hfound hjob
          apply (hinv.holds id' worker job hfound hjob).updateWhere
          · exact hclock
          · rfl
          · rfl
          · intro _ row _ _ hrunning
            simp [hrunning]
          · exact fun _ => rfl
        · exact hinv.lawful
      · apply absorbed_updateWhere
        intro row _ hcondition
        simp only [Bool.and_eq_true, decide_eq_true_eq] at hcondition
        simp [hcondition.2, BookingStatus.terminal]
  | started =>
      constructor
      · refine ⟨hinv.keyed, fun id worker job hfound hjob => ?_, hinv.lawful⟩
        -- the new process is idle
        have hold : s.workers[id]? = some worker := by
          rcases getElem?_concat_cases hfound with hold | ⟨-, rfl⟩
          · exact hold
          · cases hjob
        exact (hinv.holds id worker job hold hjob).of_table le_rfl rfl rfl
      · exact fun row hmem _ => ⟨row, hmem, rfl, rfl⟩
  | claimed id now locked delivery worker row phase hclock _ _ hfound hidle hmem hdue hnext =>
      constructor
      · constructor
        · exact keyed_updateWhere (fun _ => rfl) hinv.keyed
        · intro id' worker' job hfound' hjob
          rcases worker_set hfound' with ⟨rfl, rfl⟩ | ⟨hne, hother⟩
          · -- the claimant
            rcases hnext with hnone | hclaimed
            · rw [hnone] at hjob
              cases hjob
            · obtain rfl := Option.some.inj (hclaimed.symm.trans hjob)
              left
              constructor
              · exact ⟨claimed now row, change_mem_updateWhere hmem (by simp), rfl, rfl, rfl⟩
              · simp [lastClaimant, claimedJob]
          · exact (hinv.holds id' worker' job hother hjob).claimed hinv.keyed hclock hmem hdue rfl rfl rfl
        · exact hinv.lawful
      · apply absorbed_updateWhere
        intro row' hmem' hcondition
        obtain rfl := hinv.keyed.eq_of_key hmem' hmem (by simpa using hcondition)
        exact terminal_of_claimable hdue
  | moved id now worker phase hclock hfound hnext =>
      constructor
      · refine ⟨hinv.keyed, fun id' worker' job hfound' hjob => ?_, hinv.lawful⟩
        rcases worker_set hfound' with ⟨rfl, rfl⟩ | ⟨-, hother⟩
        · rcases hnext with hnone | hsame
          · rw [hnone] at hjob
            cases hjob
          · exact (hinv.holds id' worker job hfound (hsame.symm.trans hjob)).of_table hclock rfl rfl
        · exact (hinv.holds id' worker' job hother hjob).of_table hclock rfl rfl
      · exact fun row hmem _ => ⟨row, hmem, rfl, rfl⟩
  | written id now delivery sample worker job result guarded phase hclock hasked heffective hfound hphase hnext =>
      rw [hasked] at htimely
      have hjob : worker.phase.job? = some job := by rw [hphase]; rfl
      obtain ⟨hunder, hlast⟩ := hinv.underLease htimely hclock hfound hphase heffective
      have hidle : phase.job? = none := by
        rcases hnext with hnone | ⟨hguarded, hlost⟩
        · exact hnone
        · exact absurd hlost ((htimely worker job result guarded hfound hphase heffective).2 hguarded)
      constructor
      · constructor
        · exact keyed_updateWhere (fun _ => rfl) hinv.keyed
        · intro id' worker' job' hfound' hjob'
          rcases worker_set hfound' with ⟨rfl, rfl⟩ | ⟨hne, hother⟩
          · rw [hidle] at hjob'
            cases hjob'
          · apply (hinv.holds id' worker' job' hother hjob').updateWhere
            · exact hclock
            · rfl
            · rfl
            · -- the other worker has not claimed the same row last
              intro hlast' row _ hrow _
              simp only [decide_eq_false_iff_not]
              intro heq
              rw [← hrow, heq] at hlast'
              exact hne (Option.some.inj (hlast'.symm.trans hlast))
            · exact fun _ => rfl
        · exact ⟨hlast, hinv.lawful⟩
      · apply absorbed_updateWhere
        intro row hmem hcondition
        obtain ⟨row', hmem', hrow', hrunning, -⟩ := hunder
        have hrow : row.id = job.id := by simpa using hcondition
        obtain rfl := hinv.keyed.eq_of_key hmem hmem' (hrow.trans hrow'.symm)
        simp [hrunning, BookingStatus.terminal]

theorem leaseInvariant_reached {calendar : Calendar} {s : State}
    (hrun : Reaches (step calendar) Timely State.initial s) : LeaseInvariant s :=
  hrun.invariant leaseInvariant_initial fun _ _ _ hinv htimely hstep => (hinv.step htimely hstep).1

/-- What has come to an end in a run in time stays so. -/
theorem absorbed_reaches {calendar : Calendar} {s t : State} (hinv : LeaseInvariant s)
    (hlater : Reaches (step calendar) Timely s t) : Absorbed s t := by
  have hboth : LeaseInvariant t ∧ Absorbed s t := by
    apply hlater.invariant (I := fun u => LeaseInvariant u ∧ Absorbed s u)
    · exact ⟨hinv, fun row hmem _ => ⟨row, hmem, rfl, rfl⟩⟩
    · intro u action v ⟨hu, hkept⟩ htimely hstep
      obtain ⟨hv, hstays⟩ := hu.step htimely hstep
      refine ⟨hv, fun row hmem hterminal => ?_⟩
      obtain ⟨row', hmem', hid, hstatus⟩ := hkept row hmem hterminal
      obtain ⟨row'', hmem'', hid', hstatus'⟩ := hstays row' hmem' (hstatus ▸ hterminal)
      exact ⟨row'', hmem'', hid'.trans hid, hstatus'.trans hstatus⟩
  exact hboth.2

/-- In a run whose writes are in time, a result is written only by the most recent claimant of its row, and a row that
is completed, failed or cancelled stays so. -/
theorem worker_leases {calendar : Calendar} {s t : State} (hrun : Reaches (step calendar) Timely State.initial s)
    (hlater : Reaches (step calendar) Timely s t) : LawfulHistory t.history ∧ Absorbed s t :=
  ⟨(leaseInvariant_reached (hrun.trans hlater)).lawful, absorbed_reaches (leaseInvariant_reached hrun) hlater⟩

/-! ## A booking in time, and one that outlives its lease -/

/-- A calendar that knows one start time and one zone. -/
def sampleCalendar : Calendar where
  parseDatetime text := if text = "2026-10-01T06:00:00+00:00" then some 1790834400000000 else none
  localDay timezone start :=
    if timezone = "Indian/Mauritius" ∧ start = 1790834400000000 then some "2026-10-01" else none

def sampleCompany : String := "11111111-1111-4111-8111-111111111111"

def samplePayload : BookingPayload where
  title := "Review"
  startTime := "2026-10-01T06:00:00+00:00"
  durationMinutes := 30
  attendees := []
  description := none
  location := some "Google Meet"
  timezone := "Indian/Mauritius"
  businessHours := none

/-- The answers of the broker to `book-status`, `availability` and `book`. -/
def sampleNotFound : JsonObject := .ofPairs [("status", .text "not_found")]

def sampleAvailability : JsonObject := .ofPairs [("available_slots", .texts [samplePayload.startTime])]

def sampleConfirmed : JsonObject := .ofPairs [("event_id", .text "event-1"), ("status", .text "confirmed")]

/-- A request is queued, and the first worker claims it. -/
def sampleClaim : List Action :=
  [.create 0 1 sampleCompany none "booking-1" samplePayload .pending none, .start, .start, .claim 0 0 [] 1 .answered]

/-- A worker books. -/
def sampleBooks (worker : Nat) (now : Int) : List Action :=
  [.answer worker (.returned sampleNotFound) 0, .answer worker (.returned sampleAvailability) 0,
    .answer worker (.returned sampleConfirmed) 0, .write worker now .answered 0]

/-- Where a list of actions ends with the sample calendar. -/
def after (actions : List Action) : State :=
  final (step sampleCalendar) State.initial actions

theorem execute_after {actions : List Action}
    (h : (execute (step sampleCalendar) State.initial actions).isSome = true) :
    execute (step sampleCalendar) State.initial actions = some (after actions) :=
  execute_final h

/-- A check for `Timely`: the lease is not over, and nothing is lost. -/
def timelyCheck (s : State) : Action → Bool
  | .write id now delivery _ => s.workers[id]?.all (fun worker => now ≤ worker.lease) && decide (delivery ≠ .lost)
  | _ => true

theorem timely_of_check {s : State} {action : Action} (h : timelyCheck s action = true) : Timely s action := by
  cases action with
  | write id now delivery sample =>
      intro worker job result guarded hfound _ _
      simp only [timelyCheck, hfound, Option.all_some, Bool.and_eq_true, decide_eq_true_eq] at h
      exact ⟨.inl h.1, fun _ => h.2⟩
  | create | cancel | resume | start | claim | answer | crash => trivial

theorem worker_leases_books : LawfulHistory (after (sampleClaim ++ sampleBooks 0 60000000)).history ∧
    Absorbed (after (sampleClaim ++ sampleBooks 0 60000000)) (after (sampleClaim ++ sampleBooks 0 60000000)) := by
  have hrun : Reaches (step sampleCalendar) Timely State.initial (after (sampleClaim ++ sampleBooks 0 60000000)) := by
    apply Reaches.of_checked (fun _ _ _ hcheck => timely_of_check hcheck)
    · show checked (step sampleCalendar) timelyCheck State.initial (sampleClaim ++ sampleBooks 0 60000000) = true
      decide +kernel
    · exact execute_after (by decide +kernel)
  exact worker_leases hrun .refl

/-- The first worker's calls outlast its lease.  The second one claims the row and books; then the first one, whose
last call has failed, puts the row back to `pending`. -/
def sampleOutlived : List Action :=
  sampleClaim ++ [.answer 0 (.returned sampleNotFound) 0, .claim 1 121000000 [] 1 .answered] ++
    sampleBooks 1 130000000

theorem outlived_lease :
    ¬ ∀ (calendar : Calendar) (s t : State), Reaches (step calendar) Always State.initial s →
      Reaches (step calendar) Always s t → LawfulHistory t.history ∧ Absorbed s t := by
  intro hall
  have hrun : Reaches (step sampleCalendar) Always State.initial (after sampleOutlived) :=
    .of_execute (execute_after (by decide +kernel))
  have hlater : Reaches (step sampleCalendar) Always (after sampleOutlived)
      (final (step sampleCalendar) (after sampleOutlived)
        [.answer 0 (.httpError 503) 0, .write 0 140000000 .answered 0]) :=
    .of_execute (execute_final (by decide +kernel))
  have hrows : ∃ row ∈ (after sampleOutlived).table, row.id = 1 ∧ row.status = .completed := by decide +kernel
  have hpending : ∀ row ∈ (final (step sampleCalendar) (after sampleOutlived)
      [.answer 0 (.httpError 503) 0, .write 0 140000000 .answered 0]).table, row.id = 1 → row.status = .pending := by
    decide +kernel
  obtain ⟨row, hmem, hid, hcompleted⟩ := hrows
  obtain ⟨row', hmem', hid', hstatus⟩ := (hall _ _ _ hrun hlater).2 row hmem (by rw [hcompleted]; rfl)
  have hcontra := hpending row' hmem' (hid'.trans hid)
  rw [hstatus, hcompleted] at hcontra
  cases hcontra

end BookingWorker
end VoiceAssistants
