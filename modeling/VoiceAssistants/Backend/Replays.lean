import VoiceAssistants.Backend.KeyResolution

/-!
# Replayed responses

A request that finds the record of its key committed is answered from the stored payload.  The record is found by the
tenant and the key alone: its tool is not compared, and the parameters of the request that was executed are not
stored.  So a replay carries what some request of the same tenant and key has committed (`replayed_response`), and
whether that was the same action is for the clients to ensure, which choose one key for each logical action.
-/

namespace VoiceAssistants
namespace Backend

open Db Sql Async

/-- Somewhere on a run to this state, the request has committed the payload. -/
def Produced (s : State) (id : Nat) (request : Request) (payload : Payload) : Prop :=
  ∃ u v delivery, Reaches step Always State.initial u ∧ u.requests[id]? = some request ∧
    request.phase = .committing (some payload) ∧ delivery ≠ .failed ∧ step u (.commit id delivery) = some v ∧
    Reaches step Always v s

/-- The payload of a committed record was produced by a request of the record's tenant and key. -/
def Attributed (s : State) : Prop :=
  ∀ row ∈ s.table, row.status = .committed →
    ∃ id request payload, row.responsePayload = some payload ∧ Records request.lock row ∧
      Produced s id request payload

section Attribution

variable {s t : State} {action : Action} {id : Nat} {request : Request} {payload : Payload}

theorem Produced.later (h : Produced s id request payload) (hrun : Reaches step Always s t) :
    Produced t id request payload := by
  obtain ⟨u, v, delivery, hu, hfound, hphase, heffective, hcommit, hv⟩ := h
  exact ⟨u, v, delivery, hu, hfound, hphase, heffective, hcommit, hv.trans hrun⟩

/-- The request that has produced a payload keeps its lock and its parameters. -/
theorem Produced.found (h : Produced s id request payload) :
    ∃ phase, s.requests[id]? = some { request with phase := phase } := by
  obtain ⟨u, v, delivery, -, hfound, -, -, hcommit, hv⟩ := h
  exact reaches_keeps hfound ((Reaches.tail .refl trivial hcommit).trans hv)

/-- A step whose committed rows are old ones keeps the attribution. -/
theorem Attributed.keep (h : Attributed s) (hstep : step s action = some t)
    (hrows : ∀ row ∈ t.table, row.status = .committed → row ∈ s.table) : Attributed t := by
  intro row hrow hcommitted
  obtain ⟨id, request, payload, hpayload, hrecords, hproduced⟩ := h row (hrows row hrow hcommitted) hcommitted
  exact ⟨id, request, payload, hpayload, hrecords, hproduced.later (.tail .refl trivial hstep)⟩

/-- A grant commits nothing. -/
theorem committed_of_grant {now : Int} {user : Uuid} {key : String} {table table' : List IdempotencyRow}
    (hgrant : Grant now user key table table') {row : IdempotencyRow} (hrow : row ∈ table')
    (hcommitted : row.status = .committed) : row ∈ table := by
  cases hgrant with
  | takeover =>
      obtain ⟨old, hold, ⟨-, rfl⟩ | ⟨-, rfl⟩⟩ := mem_updateWhere hrow
      · cases hcommitted
      · exact hold
  | insert =>
      rcases List.mem_append.mp hrow with hold | hnew
      · exact hold
      · obtain rfl := List.mem_singleton.mp hnew
        cases hcommitted

/-- Every step keeps the attribution. -/
theorem Attributed.step (h : Attributed s) (hrun : Reaches Backend.step Always State.initial s)
    (hstep : Backend.step s action = some t) : Attributed t := by
  cases step_effect hstep with
  | arrived | moved | started | finished => exact h.keep hstep fun _ hrow _ => hrow
  | granted id request phase now user table delivery found before after unconfirmed asked effective parsed grant =>
      exact h.keep hstep fun row hrow hcommitted => committed_of_grant grant hrow hcommitted
  | committed id request phase result delivery user found before after idle asked effective parsed =>
      subst asked
      intro row hrow hcommitted
      obtain ⟨old, hold, ⟨hvisible, rfl⟩ | ⟨-, rfl⟩⟩ := mem_updateWhere hrow
      · -- the row that this commit has found
        obtain ⟨hkey, huser⟩ := IdempotencyRow.visible_iff.mp hvisible
        rw [← huser] at parsed
        exact ⟨id, request, result, rfl, records_lock.mpr ⟨parsed, hkey⟩, s, _, delivery, hrun, found, before, effective,
          hstep, .refl⟩
      · obtain ⟨id', request', payload, hpayload, hrecords, hproduced⟩ := h _ hold hcommitted
        exact ⟨id', request', payload, hpayload, hrecords, hproduced.later (.tail .refl trivial hstep)⟩
  | released id request phase delivery user found before after idle asked effective parsed =>
      apply h.keep hstep
      intro row hrow hcommitted
      obtain ⟨old, hold, ⟨-, rfl⟩ | ⟨-, rfl⟩⟩ := mem_updateWhere hrow
      · cases hcommitted
      · exact hold

theorem attributed_reached (h : Reaches Backend.step Always State.initial s) : Attributed s := by
  apply h.invariant_reached (I := Attributed)
  · intro row hrow
    simp [State.initial] at hrow
  · intro u action v hu hattributed _ hstep
    exact hattributed.step hu hstep

/-- The phase a request has entered when its acquisition has answered. -/
theorem acquire_requests {now : Int} {acquisition : Acquisition} {table : List IdempotencyRow}
    (h : acquireIdempotencyLock now request.idempotencyKey request.userId request.toolName.value 60 s.table =
      .ok (acquisition, table)) :
    (s.acquire id request now .answered).requests = (s.enter id request (.afterAcquisition acquisition)).requests := by
  simp only [State.acquire, h]
  split <;> rfl

/-- The response to an acquisition is a success only if it carries the payload of a committed record. -/
theorem cached_of_success {now : Int} {response : ToolExecutionResponse} (hfound : s.requests[id]? = some request)
    (hstep : Backend.step s (.acquire id now .answered) = some t)
    (hanswered : t.requests[id]? = some { request with phase := .responded response })
    (hsuccess : response.status = "success") :
    ∃ row payload, row ∈ s.table ∧ Records request.lock row ∧ row.status = .committed ∧
      row.responsePayload = some (some payload) ∧ response = ⟨"success", none, none, none, some payload⟩ := by
  have hadvance := advance_of_step hfound rfl hstep
  have hphase : request.phase = .received := by
    cases hphase : request.phase <;> simp only [hphase, State.advance] at hadvance <;> cases hadvance
    rfl
  rw [hphase] at hadvance
  obtain rfl : s.acquire id request now .answered = t := Option.some.inj hadvance
  have hentered {phase : Phase}
      (hrequests : (s.acquire id request now .answered).requests = (s.enter id request phase).requests) :
      phase = .responded response := by
    rw [hrequests, enter_self hfound] at hanswered
    simpa using hanswered
  cases hacquire : acquireIdempotencyLock now request.idempotencyKey request.userId request.toolName.value 60
      s.table with
  | error message =>
      have hraised : Phase.raised = .responded response := hentered (by simp [State.acquire, hacquire])
      cases hraised
  | ok result =>
      obtain ⟨acquisition, table⟩ := result
      have hresponse : Phase.afterAcquisition acquisition = .responded response := hentered (acquire_requests hacquire)
      unfold Phase.afterAcquisition at hresponse
      split at hresponse
      · cases hresponse
      · cases hcached : acquisition.cached with
        | none =>
            simp only [hcached] at hresponse
            cases hresponse
            simp at hsuccess
        | some payload =>
            simp only [hcached] at hresponse
            obtain ⟨user, row, hparse, hrow, hvisible, hcommitted, hpayload⟩ :=
              acquireIdempotencyLock_cached hacquire hcached
            obtain ⟨hkey, huser⟩ := IdempotencyRow.visible_iff.mp hvisible
            have hrecords : Records request.lock row := by
              rw [← huser] at hparse
              exact records_lock.mpr ⟨hparse, hkey⟩
            cases hresponse
            exact ⟨row, payload, hrow, hrecords, hcommitted, hpayload, rfl⟩

end Attribution

/-- A booking that has been committed, and its retry. -/
def sampleRetry : List Action :=
  sampleExecution ++ [.finishTool 0 sampleBooked, .commit 0 .answered,
    .arrive sampleExecuting.userId sampleExecuting.idempotencyKey sampleExecuting.parameters]

/-- A listing under the key of a booking is answered with the booking's data. -/
def sampleReuse : List Action :=
  sampleExecution ++ [.finishTool 0 sampleBooked, .commit 0 .answered,
    .arrive sampleExecuting.userId sampleExecuting.idempotencyKey (.listEvents none none none)]

end Backend
end VoiceAssistants
