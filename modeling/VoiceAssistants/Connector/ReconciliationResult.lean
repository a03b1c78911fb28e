import VoiceAssistants.Connector.Reconciliation

/-!
# The result of a reconciliation

Every turn of an adapter that reconciles leads from a stage to a stage: there is one lemma for each answer it waits for.
`reconciliation_exact` reads off the last stage what the events of the operation were.
-/

namespace VoiceAssistants
namespace Connector

open Async Collections

namespace EventAdapter

namespace Reconciliation

/-! ## Every turn -/

section Turns

variable {config : AdapterConfig} {start : EventAdapter} {current : Snapshot}
  {resolution : PendingJoin → Except String (Option Resolution)} {reply : Except String (Option Snapshot)}
  {r r' : Reconciliation} {action : AdapterAction} {a a' : EventAdapter} {v : View}
  {gate : OrderedMap String Int} {done rest : List (String × SnapshotRow)}

/-- The reference of a call. -/
theorem rowJoin_eq_some {row : SnapshotRow} {join : PendingJoin} (h : rowJoin config row = some join) :
    ∃ reference, row.info.participantUid = some reference ∧ join.opaqueKey = config.sha256Hex reference := by
  unfold rowJoin at h
  split at h
  · split at h
    · rename_i participantId reference _ hreference
      split at h
      · cases h
      · obtain rfl := Option.some.inj h
        exact ⟨reference, boundedString_eq_some hreference, rfl⟩
    · cases h
  · cases h

/-- The participants of a snapshot are different calls. -/
theorem Distinct.nodup (h : Distinct config current) :
    ((current.entries.filterMap fun entry => rowJoin config entry.2).map PendingJoin.callId).Nodup := by
  have hkeys := List.pairwise_map.mp current.nodup
  rw [List.Nodup, List.pairwise_map, List.pairwise_filterMap]
  apply hkeys.imp_of_mem
  intro entry entry' hentry hentry' hne join hjoin join' hjoin' hsame
  obtain ⟨reference, huid, hdigest⟩ := rowJoin_eq_some hjoin
  obtain ⟨reference', huid', hdigest'⟩ := rowJoin_eq_some hjoin'
  have hget := OrderedMap.mem_entries.mp hentry
  have hget' := OrderedMap.mem_entries.mp hentry'
  have hkey : join.opaqueKey = join'.opaqueKey := (String.append_right_inj "pbx-").mp hsame
  have hreference : reference = reference' :=
    h.digests _ _ _ _ _ _ hget hget' huid huid' (by rw [← hdigest, ← hdigest', hkey])
  apply hne
  exact h.references _ _ _ _ hget hget' (by rw [huid]; rfl) (by rw [huid, huid', hreference])

/-- A participant that remains is none of the calls that have joined. -/
theorem joined_ne (hdistinct : Distinct config current) (hsplit : current.entries = done ++ rest)
    {entry : String × SnapshotRow} (hentry : entry ∈ rest) {join : PendingJoin}
    (hjoin : rowJoin config entry.2 = some join) :
    ∀ call ∈ joinedCalls config resolution gate done, call.1.callId ≠ join.callId := by
  intro call hcall hsame
  obtain ⟨⟨other, hother, hjoin'⟩, -, -⟩ := mem_joinedCalls.mp hcall
  have hnodup := hdistinct.nodup
  rw [hsplit, List.filterMap_append, List.map_append] at hnodup
  apply (List.nodup_append.mp hnodup).2.2 call.1.callId _ join.callId _ hsame
  · exact List.mem_map_of_mem (List.mem_filterMap.mpr ⟨other, hother, hjoin'⟩)
  · exact List.mem_map_of_mem (List.mem_filterMap.mpr ⟨entry, hentry, hjoin⟩)

/-- The loop has come past participants that do not join. -/
theorem Past.extend {more : List (String × SnapshotRow)} (h : Past config start current resolution gate done v)
    (hmore : joinedCalls config resolution gate more = []) :
    Past config start current resolution gate (done ++ more) v := by
  constructor
  case accepting => exact h.accepting
  case opened => exact h.opened
  case swept => exact h.swept
  case calls =>
    rw [joinedCalls_append, hmore, List.append_nil]
    exact h.calls
  case events =>
    rw [h.events, joinEvents_append]
    simp [joinEvents, hmore]
  case answered => exact h.answered

/-- The loop waits, or has ended. -/
theorem Past.moved (h : Past config start current resolution gate done v) (running : Option AdapterTask)
    (settled : Option String) :
    Past config start current resolution gate done { v with running := running, settled := settled } where
  accepting := h.accepting
  opened := h.opened
  swept := h.swept
  calls := h.calls
  events := h.events
  answered := h.answered

@[simp] theorem getLast?_finish (reason : String) : (a.finish reason).signals.getLast? = some reason := by
  simp [finish, signal]

/-- A participant that remains is tracked exactly if it was when the gate opened. -/
theorem Past.get_eq (h : Past config start current resolution gate done v) (hdistinct : Distinct config current)
    (hsplit : current.entries = done ++ rest) {entry : String × SnapshotRow} (hentry : entry ∈ rest)
    {join : PendingJoin} (hjoin : rowJoin config entry.2 = some join) :
    v.calls.get join.callId = gate.get join.callId :=
  h.calls _ (joined_ne hdistinct hsplit hentry hjoin)

/-- The loop over the snapshot, up to its next `await`. -/
theorem Stage.of_visit (hreply : reply = .ok (some current)) (hdistinct : Distinct config current)
    (hsplit : current.entries = done ++ rest) (hpast : Past config start current resolution gate done v)
    (hcalls : v.calls = a.participantByCallId) (hvisit : Visit config a rest a') :
    Stage config start resolution reply
      { v with running := a'.running, settled := if a'.running.isNone then a'.signals.getLast? else none } := by
  cases hvisit with
  | finished hnone =>
      have hend := hpast.extend (joinedCalls_of_none hnone)
      rw [← hsplit] at hend
      exact .reconciled current hreply gate rfl (hend.moved _ _) (getLast?_finish _)
  | left reason before rest' entry hrest hskipped why =>
      have hbefore : joinedCalls config resolution gate before = [] := joinedCalls_of_none hskipped
      have hentry : joinedCalls config resolution gate [entry] = [] := by
        cases hjoin : rowJoin config entry.2 with
        | none => exact joinedCalls_of_none (by simpa using hjoin)
        | some join =>
            apply joinedCalls_tracked hjoin
            rw [← hpast.get_eq hdistinct hsplit (by simp [hrest]) hjoin, hcalls]
            exact why join hjoin
      have hend := (hpast.extend hbefore).extend hentry
      have hrows : current.entries = done ++ before ++ [entry] ++ rest' := by simp [hsplit, hrest]
      exact .admitting current hreply gate _ rest' _ rfl hrows .returning (hend.moved _ _) rfl
  | resolving request join before rest' entry hrest hskipped hjoin hunmapped =>
      have hbefore : joinedCalls config resolution gate before = [] := joinedCalls_of_none hskipped
      have hend := hpast.extend hbefore
      have hrows : current.entries = done ++ before ++ entry :: rest' := by simp [hsplit, hrest]
      rw [← hcalls] at hunmapped
      exact .admitting current hreply gate _ (entry :: rest') _ rfl hrows
        (.resolving request join entry rest' rfl hjoin hunmapped) (hend.moved _ _) rfl

/-- The loop over the tracked calls, up to its next `await`. -/
theorem Stage.of_sweep {epoch : Nat} {before tracked : List (String × Int)} (hreply : reply = .ok (some current))
    (hdistinct : Distinct config current) (hsplit : start.participantByCallId.entries = before ++ tracked)
    (hswept : Swept config start current before v) (hevents : v.events = endEvents config current before)
    (hcalls : v.calls = a.participantByCallId) (hclosed : a.accepting = false)
    (hsweep : Sweep config a current epoch tracked a') :
    Stage config start resolution reply
      { running := a'.running
        accepting := a'.accepting
        calls := a'.participantByCallId
        events := v.events ++ (a'.routed.drop a.routed.length).map Routed.event
        answered := v.answered
        gate := if a'.accepting then some a'.participantByCallId else v.gate
        settled := if a'.running.isNone then a'.signals.getLast? else none } := by
  cases hsweep with
  | opened _ hall hvisit =>
      -- nothing that remains is gone
      have hnone := goneCalls_of_current hall
      have hsame : goneCalls config current start.participantByCallId.entries = goneCalls config current before := by
        rw [hsplit, goneCalls_append, hnone, List.append_nil]
      have hpast : Past config start current resolution v.calls []
          { v with accepting := true, gate := some v.calls } := by
        constructor
        case accepting => rfl
        case opened => rfl
        case swept =>
          unfold CallsWithout
          rw [hsame]
          exact hswept.calls
        case calls => exact fun _ _ => rfl
        case events =>
          show v.events = _
          rw [hevents, endEvents, endEvents, hsame]
          exact (List.append_nil _).symm
        case answered =>
          have hanswered := hswept.answered
          constructor
          · rw [hanswered.ends, endEvents, endEvents, hsame]
          · exact hanswered.reasons
      have hstage := Stage.of_visit (a := a.openGate epoch) hreply hdistinct (List.nil_append _).symm hpast hcalls hvisit
      have hkept : a'.accepting = true ∧ a'.participantByCallId = v.calls ∧ a'.routed = a.routed := by
        rw [hcalls]
        cases hvisit with
        | finished _ => exact ⟨rfl, rfl, rfl⟩
        | left _ _ _ _ _ _ _ => exact ⟨rfl, rfl, rfl⟩
        | resolving _ _ _ _ _ _ _ _ _ => exact ⟨rfl, rfl, rfl⟩
      obtain ⟨haccepting, hmap, hrouted⟩ := hkept
      rw [haccepting, hmap, hrouted, List.drop_length, if_pos rfl]
      simpa using hstage
  | ending before' rest' callId participantId htracked hkept hgone =>
      have hnone := goneCalls_of_current hkept
      have hsame : goneCalls config current (before ++ before') = goneCalls config current before := by
        rw [goneCalls_append, hnone, List.append_nil]
      apply Stage.sweeping current hreply callId participantId (before ++ before') rest' epoch rfl _ hgone
      case swept =>
        constructor
        case accepting => exact hclosed
        case calls =>
          unfold CallsWithout
          rw [hsame]
          show ∀ callId, a.participantByCallId.get callId = _
          rw [← hcalls]
          exact hswept.calls
        case answered =>
          constructor
          · rw [hswept.answered.ends, endEvents, endEvents, hsame]
          · exact hswept.answered.reasons
        case settled => rfl
      case events =>
        rw [endEvents, hsame]
        show v.events ++ ((a.routed ++ [_]).drop a.routed.length).map Routed.event = _
        rw [hevents, List.drop_left]
        rfl
      · rw [hsplit, htracked, List.append_assoc]

/-- A turn that is none of the operation's. -/
theorem view_observe_quiet (hrunning : a.running = r.adapter.running) (haccepting : a.accepting = r.adapter.accepting)
    (hcalls : a.participantByCallId = r.adapter.participantByCallId) (hrouted : a.routed = r.adapter.routed)
    (hanswers : r.answers action = []) : (r.observe action a).view = r.view := by
  unfold view observe
  rw [hrunning, haccepting, hcalls, hrouted, hanswers, List.drop_length]
  cases r.adapter.accepting <;> cases r.adapter.running <;> simp

/-- A turn of the operation while the gate is closed. -/
theorem view_observe_closed {task : AdapterTask} (hrunning : r.adapter.running = some task)
    (hclosed : r.adapter.accepting = false) (hsettled : r.settled = none) :
    (r.observe action a).view =
      { running := a.running
        accepting := a.accepting
        calls := a.participantByCallId
        events := r.events ++ (a.routed.drop r.adapter.routed.length).map Routed.event
        answered := r.answered ++ r.answers action
        gate := if a.accepting then some a.participantByCallId else r.gate
        settled := if a.running.isNone then a.signals.getLast? else none } := by
  simp [view, observe, hrunning, hclosed, hsettled]

/-- A turn of the operation while the gate is open. -/
theorem view_observe_open {task : AdapterTask} (hrunning : r.adapter.running = some task)
    (hopen : r.adapter.accepting = true) (hsettled : r.settled = none) :
    (r.observe action a).view =
      { running := a.running
        accepting := a.accepting
        calls := a.participantByCallId
        events := r.events ++ (a.routed.drop r.adapter.routed.length).map Routed.event
        answered := r.answered ++ r.answers action
        gate := r.gate
        settled := if a.running.isNone then a.signals.getLast? else none } := by
  simp [view, observe, hrunning, hopen, hsettled]

/-- The operation gives up before the gate is open. -/
theorem Stage.giveUp {task : AdapterTask} (hrunning : r.adapter.running = some task)
    (hclosed : r.adapter.accepting = false) (hjoins : ∀ event ∈ r.events, event.type ≠ some ROUTE_POINT_JOIN) :
    Stage config start resolution reply (r.observe action (r.adapter.finish "pbx_reconciliation_failed")).view := by
  apply Stage.failed rfl
  case settled => simp [view, observe, hrunning, finish, signal]
  case refused =>
    intro _
    constructor
    · exact hclosed
    · simpa [view, observe, finish, signal] using hjoins

theorem type_endEvents {tracked : List (String × Int)} :
    ∀ event ∈ endEvents config current tracked, event.type = some ROUTE_POINT_END := by
  intro event hevent
  obtain ⟨call, -, rfl⟩ := List.mem_map.mp hevent
  rfl

theorem type_ne_join {event : CallEvent} (h : event.type = some ROUTE_POINT_END) :
    event.type ≠ some ROUTE_POINT_JOIN := by
  rw [h]
  decide

/-- The snapshot has come. -/
theorem Stage.fetched {outcome : Except String (Option Snapshot)} {epoch : Nat}
    (hdistinct : ∀ current, reply = .ok (some current) → Distinct config current)
    (h : Stage config start resolution reply r.view) (houtcome : outcome = reply)
    (hrunning : r.view.running = some (.fetching epoch)) :
    Stage config start resolution reply
      (r.observe (.fetched outcome) (r.adapter.snapshotFetched config epoch outcome)).view := by
  cases h with
  | fetching epoch' running accepting calls events answered settled =>
      have hfailed : Stage config start resolution reply
          (r.observe (.fetched outcome) (r.adapter.finish "pbx_reconciliation_failed")).view := by
        apply Stage.giveUp hrunning accepting
        rw [show r.events = [] from events]
        simp
      unfold snapshotFetched
      cases outcome with
      | error _ => exact hfailed
      | ok snapshot =>
          cases snapshot with
          | none => exact hfailed
          | some current =>
              have hswept : Swept config start current [] r.view := by
                constructor
                case accepting => exact accepting
                case calls =>
                  intro callId
                  rw [calls]
                  rfl
                case answered =>
                  rw [answered]
                  exact ⟨rfl, by simp⟩
                case settled => exact settled
              have hentries : start.participantByCallId.entries = [] ++ r.adapter.participantByCallId.entries := by
                rw [← calls]
                rfl
              have hnone : r.answered ++ r.answers (.fetched (.ok (some current))) = r.view.answered := List.append_nil _
              rw [view_observe_closed hrunning accepting settled, hnone]
              exact .of_sweep houtcome.symm (hdistinct current houtcome.symm) hentries hswept events rfl accepting
                (sweepCalls_sweep r.adapter.participantByCallId.entries)
  | sweeping _ _ _ _ _ _ _ running => cases hrunning.symm.trans running
  | admitting _ _ _ _ _ task running _ waits =>
      obtain rfl := Option.some.inj (hrunning.symm.trans running)
      cases waits
  | reconciled _ _ _ running => cases hrunning.symm.trans running
  | failed running => cases hrunning.symm.trans running

/-- The controller has answered for a call that is gone. -/
theorem Stage.swept {outcome : Except String (Option String)} {callId : String} {participantId : Int}
    {remaining : List (String × Int)} {epoch : Nat}
    (hdistinct : ∀ current, reply = .ok (some current) → Distinct config current)
    (h : Stage config start resolution reply r.view)
    (hrunning : r.view.running = some (.sweeping callId participantId remaining current epoch)) :
    Stage config start resolution reply
      (r.observe (.eventAnswered outcome)
        (r.adapter.callSwept config callId participantId remaining current epoch outcome)).view := by
  cases h with
  | fetching _ running => cases hrunning.symm.trans running
  | sweeping current' fetched callId' participantId' before rest' epoch' running split gone swept events =>
      obtain ⟨rfl, rfl, rfl, rfl, rfl⟩ := AdapterTask.sweeping.inj (Option.some.inj (hrunning.symm.trans running))
      have hfailed : Stage config start resolution reply
          (r.observe (.eventAnswered outcome) (r.adapter.finish "pbx_reconciliation_failed")).view := by
        apply Stage.giveUp hrunning swept.accepting
        rw [show r.events = _ from events]
        intro event hevent
        rcases List.mem_append.mp hevent with hevent | hevent
        · exact type_ne_join (type_endEvents event hevent)
        · rw [List.mem_singleton.mp hevent]
          exact type_ne_join rfl
      unfold callSwept
      cases outcome with
      | error _ => exact hfailed
      | ok reason =>
          dsimp only
          split
          · rename_i hends
            have hgone : goneCalls config current [(callId, participantId)] = [(callId, participantId)] :=
              goneCalls_cons_gone gone
            have hbefore : goneCalls config current (before ++ [(callId, participantId)]) =
                goneCalls config current before ++ [(callId, participantId)] := by
              rw [goneCalls_append, hgone]
            have hlast : r.answers (.eventAnswered (.ok reason)) = [(endEvent config callId, reason)] := by
              have hevents : r.events = endEvents config current before ++ [endEvent config callId] := events
              simp [answers, hevents]
            have hswept : Swept config start current (before ++ [(callId, participantId)])
                { r.view with
                  calls := r.view.calls.delete callId
                  answered := r.answered ++ [(endEvent config callId, reason)] } := by
              constructor
              case accepting => exact swept.accepting
              case calls =>
                intro other
                show (r.view.calls.delete callId).get other = _
                rw [OrderedMap.get_delete, hbefore]
                by_cases hother : other = callId
                · simp [hother]
                · have hmem : other ∈ (goneCalls config current before ++ [(callId, participantId)]).map Prod.fst ↔
                      other ∈ (goneCalls config current before).map Prod.fst := by
                    rw [List.map_append, List.mem_append]
                    exact or_iff_left fun h => hother (List.mem_singleton.mp h)
                  rw [if_neg hother, swept.calls other, if_congr hmem rfl rfl]
              case answered =>
                have hanswered : Answers config current r.answered before := swept.answered
                constructor
                · rw [List.filter_append, List.map_append, hanswered.ends, endEvents, endEvents, hbefore]
                  simp [isEnd, endEvent]
                · intro answer hanswer hend
                  rcases List.mem_append.mp hanswer with hold | hnew
                  · exact hanswered.reasons answer hold hend
                  · rw [List.mem_singleton.mp hnew]
                    exact hends
              case settled => exact swept.settled
            have hevents : r.events = endEvents config current (before ++ [(callId, participantId)]) := by
              rw [endEvents, hbefore, List.map_append]
              exact events
            have hentries : start.participantByCallId.entries = before ++ [(callId, participantId)] ++ remaining := by
              rw [split, List.append_assoc]
              rfl
            rw [view_observe_closed hrunning swept.accepting swept.settled, hlast]
            exact .of_sweep (a := r.adapter.forget callId participantId) fetched (hdistinct _ fetched) hentries hswept
              hevents rfl swept.accepting (sweepCalls_sweep remaining)
          · exact hfailed
  | admitting _ _ _ _ _ task running _ waits =>
      obtain rfl := Option.some.inj (hrunning.symm.trans running)
      cases waits
  | reconciled _ _ _ running => cases hrunning.symm.trans running
  | failed running => cases hrunning.symm.trans running

/-- What a stage says of an operation that admits participants. -/
theorem Stage.admitting_of_task {task : AdapterTask} (h : Stage config start resolution reply r.view)
    (hrunning : r.view.running = some task) (hfetching : ∀ epoch, task ≠ .fetching epoch)
    (hsweeping : ∀ callId participantId rest current epoch, task ≠ .sweeping callId participantId rest current epoch) :
    ∃ (current : Snapshot) (gate : OrderedMap String Int) (done rest : List (String × SnapshotRow)),
      reply = .ok (some current) ∧ current.entries = done ++ rest ∧
        Waits config resolution gate r.view.calls done rest task ∧
          Past config start current resolution gate done r.view ∧ r.view.settled = none := by
  cases h with
  | fetching epoch running => exact absurd (Option.some.inj (hrunning.symm.trans running)) (hfetching epoch)
  | sweeping _ _ _ _ _ _ _ running => exact absurd (Option.some.inj (hrunning.symm.trans running)) (hsweeping _ _ _ _ _)
  | admitting current fetched gate done rest task' running split waits past settled =>
      obtain rfl := Option.some.inj (hrunning.symm.trans running)
      exact ⟨current, gate, done, rest, fetched, split, waits, past, settled⟩
  | reconciled _ _ _ running => cases hrunning.symm.trans running
  | failed running => cases hrunning.symm.trans running

/-- The loop over the snapshot goes on. -/
theorem Stage.resumed {remaining : List (String × SnapshotRow)}
    (hdistinct : ∀ current, reply = .ok (some current) → Distinct config current)
    (h : Stage config start resolution reply r.view) (hrunning : r.view.running = some (.returning remaining)) :
    Stage config start resolution reply (r.observe .resume (r.adapter.admitSnapshot config remaining)).view := by
  obtain ⟨current, gate, done, rest, hreply, hsplit, hwaits, hpast, hsettled⟩ :=
    h.admitting_of_task hrunning (by simp) (by simp)
  cases hwaits
  have hvisit : Visit config r.adapter remaining (r.adapter.admitSnapshot config remaining) :=
    admitSnapshot_visit hpast.accepting remaining
  generalize r.adapter.admitSnapshot config remaining = a at hvisit ⊢
  have hkept : a.accepting = r.view.accepting ∧ a.participantByCallId = r.view.calls ∧
      a.routed = r.adapter.routed := by
    cases hvisit with
    | finished _ => exact ⟨rfl, rfl, rfl⟩
    | left _ _ _ _ _ _ _ => exact ⟨rfl, rfl, rfl⟩
    | resolving _ _ _ _ _ _ _ _ _ => exact ⟨rfl, rfl, rfl⟩
  obtain ⟨haccepting, hcalls, hrouted⟩ := hkept
  have hstage := Stage.of_visit hreply (hdistinct current hreply) hsplit hpast rfl hvisit
  rw [view_observe_open hrunning hpast.accepting hsettled, haccepting, hcalls, hrouted, List.drop_length,
    List.map_nil, List.append_nil]
  have hnone : r.answered ++ r.answers .resume = r.view.answered := List.append_nil _
  rw [hnone]
  exact hstage

/-- The resolver has answered for a participant of the snapshot. -/
theorem Stage.resolved {request : ResolveRequest} {join : PendingJoin} {remaining : Option (List (String × SnapshotRow))}
    (hdistinct : ∀ current, reply = .ok (some current) → Distinct config current)
    (h : Stage config start resolution reply r.view)
    (hrunning : r.view.running = some (.resolving request join remaining)) :
    Stage config start resolution reply (r.observe (.resolved (resolution join))
      (r.adapter.participantResolved config join remaining (resolution join))).view := by
  obtain ⟨current, gate, done, rest, hreply, hsplit, hwaits, hpast, hsettled⟩ :=
    h.admitting_of_task hrunning (by simp) (by simp)
  cases hwaits with
  | resolving _ _ entry rest' hrest hjoin hunmapped =>
      subst hrest
      have hgate : gate.get join.callId = none := by
        rw [← hpast.get_eq (hdistinct current hreply) hsplit List.mem_cons_self hjoin]
        exact hunmapped
      have hrows : current.entries = done ++ [entry] ++ rest' := by simp [hsplit]
      have hsingle : joinedCalls config resolution gate [entry] =
          ((inboundDid (resolution join)).map fun did => (join, did)).toList := joinedCalls_single hjoin hgate
      have hnone : r.answered ++ r.answers (.resolved (resolution join)) = r.view.answered := List.append_nil _
      rw [view_observe_open hrunning hpast.accepting hsettled, hnone]
      cases hdid : inboundDid (resolution join) with
      | none =>
          rw [hdid] at hsingle
          have hend := hpast.extend hsingle
          rw [participantResolved_none hdid]
          apply Stage.admitting current hreply gate _ rest' _ rfl hrows .returning
          case past =>
            show Past config start current resolution gate (done ++ [entry])
              { r.view with
                running := some (.returning rest')
                events := r.events ++ (r.adapter.routed.drop r.adapter.routed.length).map Routed.event
                settled := none }
            rw [List.drop_length, List.map_nil, List.append_nil]
            exact hend.moved _ _
          case settled => rfl
      | some did =>
          rw [hdid] at hsingle
          rw [participantResolved_some hdid]
          have hjoined : joinedCalls config resolution gate (done ++ [entry]) =
              joinedCalls config resolution gate done ++ [(join, did)] := by
            rw [joinedCalls_append, hsingle]
            rfl
          apply Stage.admitting current hreply gate _ rest' _ rfl hrows (.joining join did _ hjoined)
          case past =>
            constructor
            case accepting => exact hpast.accepting
            case opened => exact hpast.opened
            case swept => exact hpast.swept
            case calls =>
              intro callId hother
              rw [hjoined] at hother
              have hne : callId ≠ join.callId := by
                rintro rfl
                exact hother (join, did) (by simp) rfl
              show (r.adapter.participantByCallId.set join.callId join.participantId).get callId = _
              rw [OrderedMap.get_set_ne hne]
              exact hpast.calls callId fun call hcall => hother call (List.mem_append_left _ hcall)
            case events =>
              have hevents : r.events = endEvents config current start.participantByCallId.entries ++
                joinEvents config resolution gate done := hpast.events
              show r.events ++ ((r.adapter.routed ++ [_]).drop r.adapter.routed.length).map Routed.event = _
              rw [List.drop_left, hevents, joinEvents, joinEvents, hjoined, List.map_append, List.append_assoc]
              rfl
            case answered => exact hpast.answered
          case settled => rfl

/-- The controller has answered for a join. -/
theorem Stage.joined {outcome : Except String (Option String)} {join : PendingJoin}
    {remaining : Option (List (String × SnapshotRow))} (h : Stage config start resolution reply r.view)
    (hrunning : r.view.running = some (.joining join remaining)) :
    Stage config start resolution reply
      (r.observe (.eventAnswered outcome) (r.adapter.participantJoined join remaining outcome)).view := by
  obtain ⟨current, gate, done, rest, hreply, hsplit, hwaits, hpast, hsettled⟩ :=
    h.admitting_of_task hrunning (by simp) (by simp)
  cases hwaits with
  | joining _ did earlier hlast =>
      have hevents : r.events = endEvents config current start.participantByCallId.entries ++
        joinEvents config resolution gate done := hpast.events
      unfold participantJoined
      cases outcome with
      | error _ =>
          apply Stage.failed rfl
          case settled => simp [view, observe, show r.adapter.running = _ from hrunning, finish, signal]
          case refused => simp [view, observe, show r.adapter.running = _ from hrunning, finish, signal]
      | ok reason =>
          -- the answer is to the join
          have hanswers : r.answers (.eventAnswered (.ok reason)) = [(joinEvent config join did, reason)] := by
            rw [answers, hevents, joinEvents, hlast]
            simp
          have hjoin : isEnd (joinEvent config join did, reason) = false := rfl
          have hanswered : Answers config current (r.answered ++ [(joinEvent config join did, reason)])
              start.participantByCallId.entries := by
            have hold : Answers config current r.answered start.participantByCallId.entries := hpast.answered
            constructor
            · rw [List.filter_append, List.filter_singleton, hjoin]
              simpa using hold.ends
            · intro answer hanswer hend
              rcases List.mem_append.mp hanswer with hmem | hmem
              · exact hold.reasons answer hmem hend
              · rw [List.mem_singleton.mp hmem, hjoin] at hend
                cases hend
          have hcalls : ∀ kept : EventAdapter, (kept = r.adapter ∨ kept = r.adapter.forget join.callId join.participantId) →
              ∀ callId, (∀ call ∈ joinedCalls config resolution gate done, call.1.callId ≠ callId) →
                kept.participantByCallId.get callId = gate.get callId := by
            rintro kept (rfl | rfl) callId hother
            · exact hpast.calls callId hother
            · have hne : callId ≠ join.callId := by
                rintro rfl
                exact hother (join, did) (by simp [hlast]) rfl
              show (r.adapter.participantByCallId.delete join.callId).get callId = _
              rw [OrderedMap.get_delete_ne hne]
              exact hpast.calls callId hother
          have hgoes : ∀ (kept : EventAdapter) (signal : String),
              (kept = r.adapter ∨ kept = r.adapter.forget join.callId join.participantId) →
              Stage config start resolution reply
                (r.observe (.eventAnswered (.ok reason)) ((kept.signal signal).leave (some rest))).view := by
            intro kept signal hkept
            have hsame : kept.accepting = true ∧ kept.routed = r.adapter.routed := by
              rcases hkept with rfl | rfl
              · exact ⟨hpast.accepting, rfl⟩
              · exact ⟨hpast.accepting, rfl⟩
            rw [view_observe_open hrunning hpast.accepting hsettled, hanswers]
            apply Stage.admitting current hreply gate done rest _ rfl hsplit .returning
            case past =>
              constructor
              case accepting => exact hsame.1
              case opened => exact hpast.opened
              case swept => exact hpast.swept
              case calls => exact hcalls kept hkept
              case events =>
                show r.events ++ (kept.routed.drop r.adapter.routed.length).map Routed.event = _
                rw [hsame.2, List.drop_length, List.map_nil, List.append_nil]
                exact hevents
              case answered => exact hanswered
            case settled => rfl
          dsimp only
          split
          · exact hgoes _ _ (.inl rfl)
          · exact hgoes _ _ (.inr rfl)

/-- Every turn leads from a stage to a stage. -/
theorem Stage.step (hdistinct : ∀ current, reply = .ok (some current) → Distinct config current)
    (h : Stage config start resolution reply r.view) (huninterrupted : r.Uninterrupted reply resolution action)
    (hstep : r.step config action = some r') : Stage config start resolution reply r'.view := by
  obtain ⟨a, ha, rfl⟩ := Option.map_eq_some_iff.mp hstep
  obtain ⟨hlinked, hstop⟩ := huninterrupted
  -- an event that is delivered or queued
  have hquiet (hrunning : a.running = r.adapter.running) (haccepting : a.accepting = r.adapter.accepting)
      (hcalls : a.participantByCallId = r.adapter.participantByCallId) (hrouted : a.routed = r.adapter.routed)
      (hanswers : r.answers action = []) : Stage config start resolution reply (r.observe action a).view := by
    rw [view_observe_quiet hrunning haccepting hcalls hrouted hanswers]
    exact h
  cases action with
  | start =>
      obtain rfl := Option.some.inj ha
      exact hquiet rfl rfl rfl rfl rfl
  | stop => exact absurd rfl hstop
  | connected =>
      obtain ⟨-, rfl⟩ := deliver_eq_some ha
      exact hquiet rfl rfl rfl rfl rfl
  | disconnected => exact hlinked.elim
  | clientError =>
      obtain ⟨-, rfl⟩ := deliver_eq_some ha
      exact hquiet rfl rfl rfl rfl rfl
  | extensionParticipantConnected =>
      obtain ⟨-, rfl⟩ := deliver_eq_some ha
      exact hquiet rfl rfl rfl rfl rfl
  | participantConnected participant =>
      obtain ⟨-, rfl⟩ := deliver_eq_some ha
      exact hquiet rfl rfl rfl rfl rfl
  | participantDisconnected participantId =>
      obtain ⟨-, rfl⟩ := deliver_eq_some ha
      exact hquiet rfl rfl rfl rfl rfl
  | begin => exact hlinked.elim
  | fetched outcome =>
      simp only [EventAdapter.step] at ha
      split at ha
      · rename_i epoch hrunning
        obtain rfl := Option.some.inj ha
        exact h.fetched hdistinct hlinked hrunning
      · cases ha
  | resolved outcome =>
      simp only [EventAdapter.step] at ha
      split at ha
      · rename_i request join rest hrunning
        obtain rfl := Option.some.inj ha
        obtain rfl := hlinked request join rest hrunning
        exact h.resolved hdistinct hrunning
      · cases ha
  | eventAnswered outcome =>
      simp only [EventAdapter.step, EventAdapter.eventAnswered] at ha
      split at ha
      · rename_i hrunning
        obtain rfl := Option.some.inj ha
        exact h.swept hdistinct hrunning
      · rename_i hrunning
        obtain rfl := Option.some.inj ha
        exact h.joined hrunning
      · rename_i hrunning
        -- the end of a participant is another operation
        obtain ⟨_, _, _, _, -, -, hwaits, -, -⟩ := h.admitting_of_task hrunning (by simp) (by simp)
        cases hwaits
      · cases ha
  | resume =>
      simp only [EventAdapter.step] at ha
      split at ha
      · rename_i rest hrunning
        obtain rfl := Option.some.inj ha
        exact h.resumed hdistinct hrunning
      · cases ha

theorem stage_begun (hbegun : Begun start) : Stage config start resolution reply (begun start).view := by
  obtain ⟨epoch, hfetching⟩ := hbegun.fetching
  exact .fetching epoch hfetching hbegun.accepting rfl rfl rfl rfl

theorem stage_of_reaches (hdistinct : ∀ current, reply = .ok (some current) → Distinct config current)
    (hbegun : Begun start)
    (h : Reaches (Reconciliation.step config) (Uninterrupted reply resolution) (begun start) r) :
    Stage config start resolution reply r.view := by
  apply h.invariant (I := fun r => Stage config start resolution reply r.view) (stage_begun hbegun)
  intro r action r' hstage huninterrupted hstep
  exact Stage.step hdistinct hstage huninterrupted hstep

/-! ## What a reconciliation has done -/

/-- Of the entries with different keys one has a key. -/
theorem filter_key_eq {α β : Type} [DecidableEq β] {key : α → β} {list : List α} (hnodup : (list.map key).Nodup) {x : α}
    (hx : x ∈ list) : (list.filter fun y => key y = key x) = [x] := by
  induction list with
  | nil => cases hx
  | cons y list ih =>
      obtain ⟨hfirst, hnodup⟩ := List.nodup_cons.mp hnodup
      rcases List.mem_cons.mp hx with rfl | hx
      · rw [List.filter_cons_of_pos (by simp), List.filter_eq_nil_iff.mpr]
        intro z hz
        have hne : key z ≠ key x := fun heq => hfirst (heq ▸ List.mem_map_of_mem hz)
        simpa using hne
      · have hne : key y ≠ key x := fun heq => hfirst (heq ▸ List.mem_map_of_mem hx)
        rw [List.filter_cons_of_neg (by simpa using hne)]
        exact ih hnodup hx

theorem eventsOf_eq (hpast : Past config start current resolution gate current.entries r.view) (type callId : String) :
    r.eventsOf type callId =
      ((endEvents config current start.participantByCallId.entries).filter fun event =>
        event.type = some type ∧ event.callId = some callId) ++
      (joinEvents config resolution gate current.entries).filter fun event =>
        event.type = some type ∧ event.callId = some callId := by
  have hevents : r.events = endEvents config current start.participantByCallId.entries ++
    joinEvents config resolution gate current.entries := hpast.events
  rw [eventsOf, hevents, List.filter_append]

/-- The events of an end for a call. -/
theorem eventsOf_end (hpast : Past config start current resolution gate current.entries r.view) (callId : String) :
    r.eventsOf ROUTE_POINT_END callId =
      ((goneCalls config current start.participantByCallId.entries).filter fun call => call.1 = callId).map
        fun call => endEvent config call.1 := by
  rw [eventsOf_eq hpast, endEvents, joinEvents, List.filter_map, List.filter_map]
  have hjoins : (joinedCalls config resolution gate current.entries).filter
      ((fun event : CallEvent => decide (event.type = some ROUTE_POINT_END ∧ event.callId = some callId)) ∘
        fun call => joinEvent config call.1 call.2) = [] := by
    apply List.filter_eq_nil_iff.mpr
    intro call _
    simp [joinEvent, ROUTE_POINT_JOIN, ROUTE_POINT_END]
  rw [hjoins, List.map_nil, List.append_nil]
  congr 1
  apply List.filter_congr
  intro call _
  simp [endEvent]

/-- The events of a join for a call. -/
theorem eventsOf_join (hpast : Past config start current resolution gate current.entries r.view) (callId : String) :
    r.eventsOf ROUTE_POINT_JOIN callId =
      ((joinedCalls config resolution gate current.entries).filter fun call => call.1.callId = callId).map
        fun call => joinEvent config call.1 call.2 := by
  rw [eventsOf_eq hpast, endEvents, joinEvents, List.filter_map, List.filter_map]
  have hends : (goneCalls config current start.participantByCallId.entries).filter
      ((fun event : CallEvent => decide (event.type = some ROUTE_POINT_JOIN ∧ event.callId = some callId)) ∘
        fun call => endEvent config call.1) = [] := by
    apply List.filter_eq_nil_iff.mpr
    intro call _
    simp [endEvent, ROUTE_POINT_JOIN, ROUTE_POINT_END]
  rw [hends, List.map_nil, List.nil_append]
  congr 1
  apply List.filter_congr
  intro call _
  simp [joinEvent]

theorem mem_goneCalls {tracked : List (String × Int)} {call : String × Int} :
    call ∈ goneCalls config current tracked ↔ call ∈ tracked ∧ isCurrent config current call.1 call.2 = false := by
  simp [goneCalls]

/-- A tracked call is gone exactly if the snapshot does not have it. -/
theorem mem_gone_keys {callId : String} {participantId : Int}
    (htracked : start.participantByCallId.get callId = some participantId) :
    callId ∈ (goneCalls config current start.participantByCallId.entries).map Prod.fst ↔
      isCurrent config current callId participantId = false := by
  constructor
  · intro hmem
    obtain ⟨call, hcall, rfl⟩ := List.mem_map.mp hmem
    obtain ⟨hentry, hgone⟩ := mem_goneCalls.mp hcall
    have hget : start.participantByCallId.get call.1 = some call.2 := OrderedMap.mem_entries.mp hentry
    obtain rfl := Option.some.inj (htracked.symm.trans hget)
    exact hgone
  · intro hgone
    exact List.mem_map.mpr ⟨(callId, participantId), mem_goneCalls.mpr ⟨OrderedMap.mem_entries.mpr htracked, hgone⟩, rfl⟩

/-- The calls that join are different. -/
theorem nodup_joinedCalls (hdistinct : Distinct config current) :
    ((joinedCalls config resolution gate current.entries).map fun call => call.1.callId).Nodup := by
  have hpairs := hdistinct.nodup
  rw [List.Nodup, List.pairwise_map, List.pairwise_filterMap] at hpairs
  rw [List.Nodup, List.pairwise_map, joinedCalls, List.pairwise_filterMap]
  apply hpairs.imp
  rintro entry entry' hne ⟨join, did⟩ hcall ⟨join', did'⟩ hcall'
  obtain ⟨call, hjoin, hcall⟩ := Option.bind_eq_some_iff.mp hcall
  obtain ⟨call', hjoin', hcall'⟩ := Option.bind_eq_some_iff.mp hcall'
  have hsame : call = join := by
    split at hcall
    · obtain ⟨_, _, hpair⟩ := Option.map_eq_some_iff.mp hcall
      exact (Prod.mk.inj hpair).1
    · cases hcall
  have hsame' : call' = join' := by
    split at hcall'
    · obtain ⟨_, _, hpair⟩ := Option.map_eq_some_iff.mp hcall'
      exact (Prod.mk.inj hpair).1
    · cases hcall'
  subst hsame hsame'
  exact hne call hjoin call' hjoin'

/-- The loops have come to their ends. -/
theorem reconciled_of_past (hdistinct : Distinct config current)
    (hpast : Past config start current resolution gate current.entries r.view) :
    Reconciled config start current resolution r := by
  have hends := eventsOf_end hpast
  have hjoins := eventsOf_join hpast
  constructor
  case gone =>
    intro callId participantId htracked hgone
    have hmem : (callId, participantId) ∈ goneCalls config current start.participantByCallId.entries :=
      mem_goneCalls.mpr ⟨OrderedMap.mem_entries.mpr htracked, hgone⟩
    have hnodup : ((goneCalls config current start.participantByCallId.entries).map Prod.fst).Nodup :=
      start.participantByCallId.nodup.sublist (List.filter_sublist.map Prod.fst)
    refine ⟨?_, ?_, gate, hpast.opened, ?_⟩
    · rw [hends, filter_key_eq hnodup hmem]
      rfl
    · -- its event is one of those that have been answered
      have hanswered : Answers config current r.answered start.participantByCallId.entries := hpast.answered
      have hevent : endEvent config callId ∈ (r.answered.filter isEnd).map Prod.fst := by
        rw [hanswered.ends]
        exact List.mem_map.mpr ⟨(callId, participantId), hmem, rfl⟩
      obtain ⟨⟨event, reason⟩, hanswer, rfl⟩ := List.mem_map.mp hevent
      obtain ⟨hanswer, hend⟩ := List.mem_filter.mp hanswer
      exact ⟨reason, hanswer, hanswered.reasons _ hanswer hend⟩
    · rw [hpast.swept callId, if_pos ((mem_gone_keys htracked).mpr hgone)]
  case kept =>
    intro callId participantId htracked hcurrent
    have hnot : callId ∉ (goneCalls config current start.participantByCallId.entries).map Prod.fst := by
      rw [mem_gone_keys htracked, hcurrent]
      exact Bool.noConfusion
    have hgate : gate.get callId = some participantId := by
      rw [hpast.swept callId, if_neg hnot, htracked]
    have hno : ∀ call ∈ joinedCalls config resolution gate current.entries, call.1.callId ≠ callId := by
      rintro call hcall rfl
      rw [(mem_joinedCalls.mp hcall).2.1] at hgate
      cases hgate
    refine ⟨?_, ?_, ?_⟩
    · exact (hpast.calls callId hno).trans hgate
    · rw [hends, List.filter_eq_nil_iff.mpr, List.map_nil]
      intro call hcall hkey
      exact hnot (List.mem_map.mpr ⟨call, hcall, of_decide_eq_true hkey⟩)
    · rw [hjoins, List.filter_eq_nil_iff.mpr, List.map_nil]
      intro call hcall hkey
      exact hno call hcall (of_decide_eq_true hkey)
  case joined =>
    intro key row reference participantId did hrow hstatus hreference hnumber huntracked hdid
    obtain ⟨number, hnumber', hpositive, -⟩ := hdistinct.keyed key row hrow
    obtain rfl := Option.some.inj (hnumber.symm.trans hnumber')
    have hjoin : rowJoin config row = some ⟨config.sha256Hex reference, participantId⟩ := by
      simp [rowJoin, hstatus, hnumber, hreference, not_lt_of_ge hpositive]
    have hgate : gate.get ("pbx-" ++ config.sha256Hex reference) = none := by
      rw [hpast.swept, huntracked, ite_self]
    have hmem : (⟨config.sha256Hex reference, participantId⟩, did) ∈
        joinedCalls config resolution gate current.entries :=
      mem_joinedCalls.mpr ⟨⟨(key, row), OrderedMap.mem_entries.mpr hrow, hjoin⟩, hgate, hdid⟩
    have hsingle := filter_key_eq (nodup_joinedCalls hdistinct) hmem
    rw [hjoins]
    exact (congrArg _ hsingle).trans rfl

/-- A reconciliation that settles with `pbx_reconciled` has done what it has to; one that fails leaves the gate closed
and has joined nothing. -/
theorem reconciliation_exact (hbegun : Begun start)
    (hdistinct : ∀ current, reply = .ok (some current) → Distinct config current)
    (h : Reaches (Reconciliation.step config) (Uninterrupted reply resolution) (begun start) r) :
    (r.settled = some "pbx_reconciled" →
      ∃ current, reply = .ok (some current) ∧ Reconciled config start current resolution r) ∧
    (r.settled = some "pbx_reconciliation_failed" → Refused r) := by
  have hstage := stage_of_reaches hdistinct hbegun h
  have hsettled : r.view.settled = r.settled := rfl
  constructor
  · intro hreconciled
    rw [← hsettled] at hreconciled
    cases hstage with
    | fetching _ _ _ _ _ _ settled => cases hreconciled.symm.trans settled
    | sweeping _ _ _ _ _ _ _ _ _ _ swept => cases hreconciled.symm.trans swept.settled
    | admitting _ _ _ _ _ _ _ _ _ _ settled => cases hreconciled.symm.trans settled
    | reconciled current fetched gate _ past _ =>
        exact ⟨current, fetched, reconciled_of_past (hdistinct current fetched) past⟩
    | failed _ settled => exact absurd hreconciled settled
  · intro hfailed
    rw [← hsettled] at hfailed
    cases hstage with
    | fetching _ _ _ _ _ _ settled => cases hfailed.symm.trans settled
    | sweeping _ _ _ _ _ _ _ _ _ _ swept => cases hfailed.symm.trans swept.settled
    | admitting _ _ _ _ _ _ _ _ _ _ settled => cases hfailed.symm.trans settled
    | reconciled _ _ _ _ _ settled =>
        exact absurd (Option.some.inj (hfailed.symm.trans settled)) (by decide)
    | failed _ _ refused =>
        obtain ⟨haccepting, hjoins⟩ := refused hfailed
        exact ⟨haccepting, hjoins⟩

end Turns

/-! ## A caller that came while the link was down -/

/-- The first caller, who has stayed, and another. -/
def twoCallersSnapshot : Snapshot :=
  .ofPairs [("53", ⟨some 53, sampleInfo⟩), ("54", ⟨some 54, { sampleInfo with participantUid := some "second leg" }⟩)]

def inboundResolution (_ : PendingJoin) : Except String (Option Resolution) :=
  .ok (some ⟨some "+15550100", some "inbound"⟩)

/-- The first caller is tracked, and the link has come back. -/
def reconnected : EventAdapter :=
  final (EventAdapter.step twoCallersConfig) initial (sampleCall ++ [.disconnected, .connected, .begin])

theorem begun_reconnected : Begun reconnected where
  fetching := ⟨3, by decide +kernel⟩
  accepting := by decide +kernel

theorem row_of_get {key : String} {row : SnapshotRow} (h : twoCallersSnapshot.get key = some row) :
    (key = "53" ∧ row = ⟨some 53, sampleInfo⟩) ∨
      (key = "54" ∧ row = ⟨some 54, { sampleInfo with participantUid := some "second leg" }⟩) := by
  have hmem : (key, row) ∈ [("53", (⟨some 53, sampleInfo⟩ : SnapshotRow)),
      ("54", ⟨some 54, { sampleInfo with participantUid := some "second leg" }⟩)] := OrderedMap.mem_entries.mpr h
  simpa using hmem

theorem distinct_twoCallers (current : Snapshot)
    (h : (.ok (some twoCallersSnapshot) : Except String (Option Snapshot)) = .ok (some current)) :
    Distinct twoCallersConfig current := by
  obtain rfl := Option.some.inj (Except.ok.inj h)
  constructor
  case keyed =>
    intro key row hrow
    rcases row_of_get hrow with ⟨rfl, rfl⟩ | ⟨rfl, rfl⟩
    · exact ⟨53, rfl, by decide, by decide⟩
    · exact ⟨54, rfl, by decide, by decide⟩
  case references =>
    intro key row key' row' hrow hrow' _ hsame
    rcases row_of_get hrow with ⟨rfl, rfl⟩ | ⟨rfl, rfl⟩ <;> rcases row_of_get hrow' with ⟨rfl, rfl⟩ | ⟨rfl, rfl⟩
    · rfl
    · exact absurd hsame (by decide)
    · exact absurd hsame (by decide)
    · rfl
  case digests =>
    intro key row key' row' reference reference' hrow hrow' huid huid' hsame
    rcases row_of_get hrow with ⟨rfl, rfl⟩ | ⟨rfl, rfl⟩ <;> rcases row_of_get hrow' with ⟨rfl, rfl⟩ | ⟨rfl, rfl⟩ <;>
      obtain rfl := Option.some.inj huid <;> obtain rfl := Option.some.inj huid'
    · rfl
    · exact absurd hsame (by decide)
    · exact absurd hsame (by decide)
    · rfl

/-- The other caller joins. -/
def sampleReconciliation : List AdapterAction :=
  [.fetched (.ok (some twoCallersSnapshot)), .resume, .resolved (inboundResolution ⟨"", 0⟩),
    .eventAnswered (.ok (some "call_active")), .resume]

/-- The adapter is stopped before the loop comes to the other caller. -/
def sampleStopped : List AdapterAction :=
  [.fetched (.ok (some twoCallersSnapshot)), .stop, .resume, .resume]

def isLinked (_ : Reconciliation) : AdapterAction → Bool
  | .disconnected | .begin => false
  | .fetched (.ok (some current)) => current = twoCallersSnapshot
  | .fetched _ => false
  | .resolved (.ok (some resolution)) => resolution = ⟨some "+15550100", some "inbound"⟩
  | .resolved _ => false
  | _ => true

theorem linked_of_isLinked {r : Reconciliation} {action : AdapterAction} (h : isLinked r action = true) :
    r.Linked (.ok (some twoCallersSnapshot)) inboundResolution action := by
  cases action with
  | disconnected => cases h
  | begin => cases h
  | fetched outcome =>
      rcases outcome with _ | _ | current
      · cases h
      · cases h
      · obtain rfl := of_decide_eq_true h
        rfl
  | resolved outcome =>
      rcases outcome with _ | _ | resolution
      · cases h
      · cases h
      · obtain rfl := of_decide_eq_true h
        exact fun _ _ _ _ => rfl
  | _ => trivial

def isUninterrupted (r : Reconciliation) (action : AdapterAction) : Bool :=
  isLinked r action && match action with
    | .stop => false
    | _ => true

theorem uninterrupted_of_isUninterrupted {r : Reconciliation} {action : AdapterAction}
    (h : isUninterrupted r action = true) :
    r.Uninterrupted (.ok (some twoCallersSnapshot)) inboundResolution action := by
  obtain ⟨hlinked, hstop⟩ := Bool.and_eq_true_iff.mp h
  constructor
  · exact linked_of_isLinked hlinked
  · rintro rfl
    cases hstop

/-- The record of the run in which the other caller joins. -/
def sampleReconciled : Reconciliation :=
  final (Reconciliation.step twoCallersConfig) (begun reconnected) sampleReconciliation

theorem reconciliation_exact_sample :
    (sampleReconciled.settled = some "pbx_reconciled" →
      ∃ current, (.ok (some twoCallersSnapshot) : Except String (Option Snapshot)) = .ok (some current) ∧
        Reconciled twoCallersConfig reconnected current inboundResolution sampleReconciled) ∧
    (sampleReconciled.settled = some "pbx_reconciliation_failed" → Refused sampleReconciled) :=
  reconciliation_exact begun_reconnected distinct_twoCallers
    (.of_checked (fun _ _ _ => uninterrupted_of_isUninterrupted) (by decide +kernel) (execute_final (by decide +kernel)))

/-- The reconciliation of an adapter that has been stopped says that it has reconciled, and has not joined the other
caller. -/
theorem stopped_reconciliation :
    ¬ ∀ (start : EventAdapter) (reply : Except String (Option Snapshot))
        (resolution : PendingJoin → Except String (Option Resolution)) (r : Reconciliation), Begun start →
      (∀ current, reply = .ok (some current) → Distinct twoCallersConfig current) →
      Reaches (Reconciliation.step twoCallersConfig) (Linked reply resolution) (begun start) r →
      r.settled = some "pbx_reconciled" →
        ∃ current, reply = .ok (some current) ∧ Reconciled twoCallersConfig start current resolution r := by
  intro hall
  obtain ⟨current, hcurrent, hreconciled⟩ := hall reconnected (.ok (some twoCallersSnapshot)) inboundResolution
    (final (Reconciliation.step twoCallersConfig) (begun reconnected) sampleStopped) begun_reconnected distinct_twoCallers
    (.of_checked (fun _ _ _ => linked_of_isLinked) (by decide +kernel) (execute_final (by decide +kernel)))
    (by decide +kernel)
  obtain rfl := Option.some.inj (Except.ok.inj hcurrent)
  have hjoined := hreconciled.joined "54" ⟨some 54, { sampleInfo with participantUid := some "second leg" }⟩
    "second leg" 54 "+15550100" (by decide +kernel) rfl (by decide +kernel) rfl (by decide +kernel) (by decide +kernel)
  exact absurd (congrArg List.length hjoined) (by decide +kernel)

end Reconciliation

end EventAdapter

end Connector
end VoiceAssistants
