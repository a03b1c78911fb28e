import VoiceAssistants.Connector.AdapterSteps

/-!
# The intake gate of the event adapter

`accepting` is set only while the listeners are registered and the PBX link is up and reconciled, and a participant
event reaches the controller only then, in the runs in which

* no `connected` event arrives while the gate is open,
* a connection task that opens the gate finds the listeners registered and, after a reconciliation, no newer
  connection event, and
* a resolved join and the end of a mapped participant are handed on only as long as no connection event has arrived
  since the gate was opened.

`#reconcileAfterReconnect` does not look at the epoch after its first `await` (`accepting_disconnected`).
-/

namespace VoiceAssistants
namespace Connector

open Async Collections

/-- The epoch of a reconciliation that has not opened the gate yet. -/
def AdapterTask.reconciling : AdapterTask → Option Nat
  | .fetching epoch => some epoch
  | .sweeping _ _ _ _ epoch => some epoch
  | .returning _ | .resolving .. | .joining .. | .ending .. => none

namespace EventAdapter

/-- The action lets a connection task open the gate. -/
def opens (config : AdapterConfig) (a : EventAdapter) : AdapterAction → Bool
  | .begin =>
      match a.waiting with
      | .connection epoch true :: _ => epoch == a.connectionEpoch
      | _ => false
  | .fetched (.ok (some current)) =>
      a.participantByCallId.entries.all fun call => isCurrent config current call.1 call.2
  | .eventAnswered (.ok reason) =>
      match a.running with
      | some (.sweeping _ _ rest current _) =>
          endsCall reason && rest.all fun call => isCurrent config current call.1 call.2
      | _ => false
  | _ => false

/-- The action hands a participant event on to the controller. -/
def routes (a : EventAdapter) : AdapterAction → Bool
  | .begin =>
      match a.waiting with
      | .participantDisconnected (some participantId) :: _ => (a.callIdByParticipantId.get participantId).isSome
      | _ => false
  | .resolved (.ok (some resolution)) =>
      (boundedString resolution.did 64).isSome && resolution.direction == some "inbound"
  | _ => false

/-- No connection event, and no `stop()`, has come between. -/
structure Undisturbed (config : AdapterConfig) (a : EventAdapter) (action : AdapterAction) : Prop where
  closed : action = .connected → a.accepting = false
  opening : a.opens config action = true →
    a.started = true ∧ ∀ epoch, a.running.bind AdapterTask.reconciling = some epoch → epoch = a.connectionEpoch
  routing : a.routes action = true → a.opened = some a.connectionEpoch

/-- What holds of an adapter in the undisturbed runs. -/
structure GateInvariant (a : EventAdapter) : Prop where
  ever : a.everConnected = decide (0 < a.connections)
  queued : ∀ (epoch : Nat) (isFirst : Bool), .connection epoch isFirst ∈ a.waiting →
    epoch ≤ a.connectionEpoch ∧ (epoch = a.connectionEpoch → a.linkUp = true ∧ (isFirst = true → a.connections = 1))
  reconciling : ∀ epoch, a.running.bind AdapterTask.reconciling = some epoch →
    epoch ≤ a.connectionEpoch ∧ (epoch = a.connectionEpoch → a.linkUp = true)
  opened : ∀ epoch, a.opened = some epoch →
    epoch ≤ a.connectionEpoch ∧ (epoch = a.connectionEpoch → a.ready = true)
  accepting : a.accepting = true → a.started = true ∧ a.opened = some a.connectionEpoch
  routed : ∀ event ∈ a.routed, event.swept = false → event.ready = true

section Invariant

variable {config : AdapterConfig} {a a' : EventAdapter} {action : AdapterAction}

theorem gateInvariant_initial : GateInvariant initial where
  ever := rfl
  queued := by simp [initial]
  reconciling := by simp [initial]
  opened := by simp [initial]
  accepting := by simp [initial]
  routed := by simp [initial]

/-- A turn that leaves the flags and the epochs alone. -/
theorem GateInvariant.moves (h : a.GateInvariant) {participantByCallId : OrderedMap String Int}
    {callIdByParticipantId : OrderedMap Int String} {waiting : List AdapterOp} {running : Option AdapterTask}
    {signals : List String} {routed : List Routed}
    (hwaiting : ∀ epoch isFirst, .connection epoch isFirst ∈ waiting → .connection epoch isFirst ∈ a.waiting)
    (hrunning : ∀ epoch, running.bind AdapterTask.reconciling = some epoch →
      a.running.bind AdapterTask.reconciling = some epoch)
    (hrouted : ∀ event ∈ routed, event.swept = false → event.ready = true) :
    GateInvariant { a with
      participantByCallId := participantByCallId, callIdByParticipantId := callIdByParticipantId
      waiting := waiting, running := running, signals := signals, routed := routed } where
  ever := h.ever
  queued := fun epoch isFirst hmem => h.queued epoch isFirst (hwaiting epoch isFirst hmem)
  reconciling := fun epoch hepoch => h.reconciling epoch (hrunning epoch hepoch)
  opened := h.opened
  accepting := h.accepting
  routed := hrouted

/-- One more event for the controller. -/
theorem GateInvariant.routed_append (h : a.GateInvariant) {last : Routed} (hlast : last.swept = false → last.ready = true) :
    ∀ event ∈ a.routed ++ [last], event.swept = false → event.ready = true := by
  intro event hmem
  rcases List.mem_append.mp hmem with hold | hnew
  · exact h.routed event hold
  · rw [List.mem_singleton.mp hnew]
    exact hlast

/-- The operation in progress settles. -/
theorem GateInvariant.finish (h : a.GateInvariant) (reason : String) : (a.finish reason).GateInvariant := by
  apply h.moves
  · exact fun _ _ => id
  · intro epoch hepoch
    cases hepoch
  · exact h.routed

/-- `#onParticipantConnected` returns. -/
theorem GateInvariant.leave (h : a.GateInvariant) (reason : String) (rest : Option (List (String × SnapshotRow))) :
    ((a.signal reason).leave rest).GateInvariant := by
  apply h.moves
  · exact fun _ _ => id
  · intro epoch hepoch
    cases rest <;> cases hepoch
  · exact h.routed

theorem GateInvariant.forget (h : a.GateInvariant) (callId : String) (participantId : Int) :
    (a.forget callId participantId).GateInvariant := by
  apply h.moves
  · exact fun _ _ => id
  · exact fun _ => id
  · exact h.routed

/-- The operation at the head of the queue begins. -/
theorem GateInvariant.dequeue (h : a.GateInvariant) {op : AdapterOp} {rest : List AdapterOp}
    (hhead : a.waiting = op :: rest) : GateInvariant { a with waiting := rest } := by
  apply h.moves
  · intro epoch isFirst hmem
    rw [hhead]
    exact List.mem_cons_of_mem _ hmem
  · exact fun _ => id
  · exact h.routed

theorem GateInvariant.admitted (h : a.GateInvariant) (hadmitted : Admitted a a') : a'.GateInvariant := by
  cases hadmitted with
  | left signals rest =>
      apply h.moves
      · exact fun _ _ => id
      · intro epoch hepoch
        cases rest <;> cases hepoch
      · exact h.routed
  | resolving signals request join rest _ _ =>
      apply h.moves
      · exact fun _ _ => id
      · intro epoch hepoch
        cases hepoch
      · exact h.routed

/-- The loop over the tracked calls: it opens the gate if no connection event has come between. -/
theorem GateInvariant.sweepEnds (h : a.GateInvariant) {current : Snapshot} {epoch : Nat} {tracked : List (String × Int)}
    (hepoch : epoch ≤ a.connectionEpoch ∧ (epoch = a.connectionEpoch → a.linkUp = true))
    (hopens : tracked.all (fun call => isCurrent config current call.1 call.2) = true →
      a.started = true ∧ epoch = a.connectionEpoch)
    (hends : SweepEnds config a current epoch tracked a') : a'.GateInvariant := by
  cases hends with
  | opened _ hall hadmitted =>
      obtain ⟨hstarted, rfl⟩ := hopens hall
      have hopened : (a.openGate a.connectionEpoch).GateInvariant := by
        constructor
        · exact h.ever
        · exact h.queued
        · exact h.reconciling
        · intro epoch heq
          obtain rfl : a.connectionEpoch = epoch := Option.some.inj heq
          refine ⟨le_refl _, fun _ => ?_⟩
          simp [ready, openGate, hepoch.2 rfl]
        · exact fun _ => ⟨hstarted, rfl⟩
        · exact h.routed
      exact hopened.admitted hadmitted
  | ended before rest callId participantId _ _ =>
      have hrunning : GateInvariant { a with running := some (.sweeping callId participantId rest current epoch) } := by
        constructor
        · exact h.ever
        · exact h.queued
        · intro epoch' heq
          obtain rfl : epoch = epoch' := Option.some.inj heq
          exact hepoch
        · exact h.opened
        · exact h.accepting
        · exact h.routed
      apply hrunning.moves
      · exact fun _ _ => id
      · exact fun _ => id
      · exact hrunning.routed_append fun hswept => Bool.noConfusion hswept

theorem GateInvariant.handleConnected (h : a.GateInvariant) (hclosed : a.accepting = false) :
    a.handleConnected.GateInvariant := by
  constructor
  · simp [EventAdapter.handleConnected, enqueue]
  · intro epoch isFirst hmem
    rcases List.mem_append.mp hmem with hold | hnew
    · have hle := (h.queued epoch isFirst hold).1
      constructor
      · show epoch ≤ a.connectionEpoch + 1
        omega
      · intro heq
        have heq' : epoch = a.connectionEpoch + 1 := heq
        omega
    · obtain ⟨rfl, rfl⟩ := AdapterOp.connection.inj (List.mem_singleton.mp hnew)
      refine ⟨le_refl _, fun _ => ⟨rfl, fun hfirst => ?_⟩⟩
      -- nothing was connected before
      have hzero : a.connections = 0 := by
        have hever := h.ever
        simp only [Bool.not_eq_true'] at hfirst
        rw [hfirst] at hever
        simpa using hever
      show a.connections + 1 = 1
      omega
  · intro epoch hepoch
    have hle := (h.reconciling epoch hepoch).1
    constructor
    · show epoch ≤ a.connectionEpoch + 1
      omega
    · exact fun _ => rfl
  · intro epoch hepoch
    have hle := (h.opened epoch hepoch).1
    constructor
    · show epoch ≤ a.connectionEpoch + 1
      omega
    · intro heq
      have heq' : epoch = a.connectionEpoch + 1 := heq
      omega
  · intro haccepting
    exact absurd (hclosed.symm.trans haccepting) Bool.false_ne_true
  · exact h.routed

theorem GateInvariant.handleClientDisconnected (h : a.GateInvariant) :
    a.handleClientDisconnected.GateInvariant := by
  -- every epoch that is recorded is older than the new one
  have hnewer {epoch : Nat} {P : Prop} (hle : epoch ≤ a.connectionEpoch) :
      epoch ≤ a.connectionEpoch + 1 ∧ (epoch = a.connectionEpoch + 1 → P) := by
    constructor
    · omega
    · intro heq
      omega
  constructor
  · exact h.ever
  · exact fun epoch isFirst hmem => hnewer (h.queued epoch isFirst hmem).1
  · exact fun epoch hepoch => hnewer (h.reconciling epoch hepoch).1
  · exact fun epoch hepoch => hnewer (h.opened epoch hepoch).1
  · exact fun haccepting => Bool.noConfusion haccepting
  · exact h.routed

theorem GateInvariant.step (h : a.GateInvariant) (hundisturbed : a.Undisturbed config action)
    (hstep : a.step config action = some a') : a'.GateInvariant := by
  have hopening := hundisturbed.opening
  have hrouting := hundisturbed.routing
  have hready (hopened : a.opened = some a.connectionEpoch) : a.ready = true := (h.opened _ hopened).2 rfl
  cases effect_of_step hstep with
  | start =>
      constructor
      · exact h.ever
      · exact h.queued
      · exact h.reconciling
      · exact h.opened
      · exact fun haccepting => ⟨rfl, (h.accepting haccepting).2⟩
      · exact h.routed
  | stop =>
      unfold EventAdapter.stop
      split_ifs
      · constructor
        · exact h.ever
        · exact h.queued
        · exact h.reconciling
        · exact h.opened
        · exact fun haccepting => Bool.noConfusion haccepting
        · exact h.routed
      · exact h
  | connected listening => exact h.handleConnected (hundisturbed.closed rfl)
  | disconnected listening => exact h.handleClientDisconnected
  | signalled action reason ignored =>
      apply h.moves
      · exact fun _ _ => id
      · exact fun _ => id
      · exact h.routed
  | joinQueued participant =>
      apply h.moves
      · intro epoch isFirst hmem
        simpa [enqueue] using hmem
      · exact fun _ => id
      · exact h.routed
  | endQueued participantId =>
      apply h.moves
      · intro epoch isFirst hmem
        simpa [enqueue] using hmem
      · exact fun _ => id
      · exact h.routed
  | stale epoch isFirst rest idle head => exact h.dequeue head
  | firstConnection rest idle head =>
      obtain ⟨hstarted, -⟩ := hopening (by simp [opens, head])
      obtain ⟨hup, hfirst⟩ := (h.queued a.connectionEpoch true (by simp [head])).2 rfl
      constructor
      · exact h.ever
      · exact (h.dequeue head).queued
      · exact h.reconciling
      · intro epoch hepoch
        obtain rfl : a.connectionEpoch = epoch := Option.some.inj hepoch
        refine ⟨le_refl _, fun _ => ?_⟩
        show (a.linkUp && (a.connections == 1 || a.reconciled == some a.connectionEpoch)) = true
        simp [hup, hfirst rfl]
      · exact fun _ => ⟨hstarted, rfl⟩
      · exact h.routed
  | reconnected rest idle head =>
      have hup := h.queued a.connectionEpoch false (by simp [head])
      constructor
      · exact h.ever
      · exact (h.dequeue head).queued
      · intro epoch hepoch
        obtain rfl : a.connectionEpoch = epoch := Option.some.inj hepoch
        exact ⟨le_refl _, fun _ => (hup.2 rfl).1⟩
      · exact h.opened
      · exact fun haccepting => Bool.noConfusion haccepting
      · exact h.routed
  | joinBegins participant rest idle head _ admitted => exact (h.dequeue head).admitted admitted
  | endUntracked participantId rest idle head => exact (h.dequeue head).finish _
  | endBegins participantId callId rest idle head mapped =>
      apply (h.dequeue head).moves
      · exact fun _ _ => id
      · intro epoch hepoch
        cases hepoch
      · apply h.routed_append
        exact fun _ => hready (hrouting (by simp [routes, head, mapped]))
  | fetched epoch current running _ ends =>
      apply h.sweepEnds _ _ ends
      · exact h.reconciling epoch (by rw [running]; rfl)
      · intro hall
        obtain ⟨hstarted, hepoch⟩ := hopening hall
        exact ⟨hstarted, hepoch epoch (by rw [running]; rfl)⟩
  | fetchFailed outcome epoch running => exact h.finish _
  | swept callId participantId rest current epoch reason running gone _ ends =>
      apply (h.forget callId participantId).sweepEnds _ _ ends
      · exact h.reconciling epoch (by rw [running]; rfl)
      · intro hall
        obtain ⟨hstarted, hepoch⟩ := hopening (by simp [opens, running, gone, hall])
        exact ⟨hstarted, hepoch epoch (by rw [running]; rfl)⟩
  | sweepFailed outcome callId participantId rest current epoch running => exact h.finish _
  | unresolved outcome request join rest running => exact h.leave _ rest
  | resolved resolution did request join rest running hdid inbound =>
      apply h.moves
      · exact fun _ _ => id
      · intro epoch hepoch
        cases hepoch
      · apply h.routed_append
        exact fun _ => hready (hrouting (by simp [routes, hdid, inbound]))
  | joinFailed error join rest running => exact h.finish _
  | joined join rest running => exact h.leave _ rest
  | joinRejected reason join rest running rejected => exact (h.forget _ _).leave _ rest
  | endFailed error participantId callId running => exact h.finish _
  | ended reason participantId callId running gone => exact (h.forget _ _).finish _
  | endRefused reason participantId callId running gone => exact h.finish _
  | resumed rest running _ admitted => exact h.admitted admitted

theorem gateInvariant_reached (h : Reaches (step config) (Undisturbed config) initial a) : a.GateInvariant :=
  h.invariant gateInvariant_initial fun _ _ _ hinv hundisturbed hstep => hinv.step hundisturbed hstep

end Invariant

/-- The intake gate is open only while the listeners are registered and the PBX link is up and reconciled, and
participant events reach the controller only then. -/
structure IntakeGate (a : EventAdapter) : Prop where
  accepting : a.accepting = true → a.started = true ∧ a.ready = true
  routed : ∀ event ∈ a.routed, event.swept = false → event.ready = true

/-- The intake gate is safe in the undisturbed runs. -/
theorem intake_gate {config : AdapterConfig} {a : EventAdapter} (h : Reaches (step config) (Undisturbed config) initial a) :
    a.IntakeGate := by
  have hinv := gateInvariant_reached h
  constructor
  · intro haccepting
    obtain ⟨hstarted, hopened⟩ := hinv.accepting haccepting
    exact ⟨hstarted, (hinv.opened _ hopened).2 rfl⟩
  · exact hinv.routed

/-! ## Runs -/

/-- The state after a list of actions. -/
def after (actions : List AdapterAction) : EventAdapter :=
  (execute (step sampleConfig) initial actions).getD initial

theorem execute_after {actions : List AdapterAction}
    (h : (execute (step sampleConfig) initial actions).isSome = true) :
    execute (step sampleConfig) initial actions = some (after actions) := by
  obtain ⟨a, ha⟩ := Option.isSome_iff_exists.mp h
  rw [after, ha, Option.getD_some]

/-- An executable form of `Undisturbed`. -/
def undisturbedCheck (config : AdapterConfig) (a : EventAdapter) (action : AdapterAction) : Bool :=
  (match action with
    | .connected => !a.accepting
    | _ => true) &&
  (!a.opens config action ||
    (a.started && (a.running.bind AdapterTask.reconciling).all fun epoch => epoch == a.connectionEpoch)) &&
  (!a.routes action || a.opened == some a.connectionEpoch)

theorem undisturbed_of_check {config : AdapterConfig} {a : EventAdapter} {action : AdapterAction}
    (h : undisturbedCheck config a action = true) : a.Undisturbed config action := by
  simp only [undisturbedCheck, Bool.and_eq_true] at h
  obtain ⟨⟨hclosed, hopening⟩, hrouting⟩ := h
  constructor
  · rintro rfl
    simpa using hclosed
  · intro hopens
    rw [hopens] at hopening
    simp only [Bool.not_true, Bool.false_or, Bool.and_eq_true] at hopening
    refine ⟨hopening.1, fun epoch hepoch => ?_⟩
    rw [hepoch] at hopening
    simpa using hopening.2
  · intro hroutes
    rw [hroutes] at hrouting
    simpa using hrouting

/-- The snapshot of a route point with that caller. -/
def sampleSnapshot : Snapshot :=
  .ofPairs [("53", ⟨some 53, sampleInfo⟩)]

/-- The first connection, and a call. -/
def sampleCall : List AdapterAction :=
  [.start, .connected, .begin, .participantConnected (some sampleParticipant), .begin,
    .resolved (.ok (some ⟨some "+15550100", some "inbound"⟩)), .eventAnswered (.ok (some "call_active"))]

/-- The link is lost and comes back, and the caller is still there. -/
def sampleReconnect : List AdapterAction :=
  sampleCall ++ [.disconnected, .connected, .begin, .fetched (.ok (some sampleSnapshot)), .resume,
    .participantDisconnected (some 53), .begin, .eventAnswered (.ok (some "call_ended"))]

/-- The link is lost while the snapshot is on its way. -/
def sampleDisturbed : List AdapterAction :=
  sampleCall ++ [.disconnected, .connected, .begin, .disconnected, .fetched (.ok (some sampleSnapshot))]

theorem intake_gate_reconnect : (after sampleReconnect).IntakeGate ∧ (after sampleReconnect).accepting = true := by
  have hreaches : Reaches (step sampleConfig) (Undisturbed sampleConfig) initial (after sampleReconnect) :=
    .of_checked (fun _ _ _ hcheck => undisturbed_of_check hcheck)
      (by decide +kernel :
        checked (step sampleConfig) (undisturbedCheck sampleConfig) initial sampleReconnect = true)
      (execute_after (by decide +kernel))
  exact ⟨intake_gate hreaches, by decide +kernel⟩

/-- A reconciliation opens the gate of a link that has been lost while its snapshot was on the way. -/
theorem accepting_disconnected : ¬ ∀ a, Reaches (step sampleConfig) Always initial a → a.IntakeGate := by
  intro hall
  have hrun : (execute (step sampleConfig) initial sampleDisturbed).isSome = true := by decide +kernel
  have hgate := hall _ (.of_execute (execute_after hrun))
  have hready := (hgate.accepting (by decide +kernel)).2
  exact absurd hready (by decide +kernel)

end EventAdapter

end Connector
end VoiceAssistants
