import VoiceAssistants.Collections.Slots
import VoiceAssistants.Backend.ZeroDuplication

/-!
# What becomes of an acquired key

A request that has been granted a lock settles it by its commit or its release.  `KeyInvariant` says which requests
have not settled yet and that the row of an outstanding request is in the table, in every run and after any time.

A key is refunded after its effect when the commit of the result raises: the handler's `except` block cannot tell
this from a tool function that has raised (`refunded_iff`).  A key stays acquired when the consumption of the
confirmation token raises, which is outside the `try`, when the tool function itself asks for a confirmation, and
when the key is longer than its column (`resolved_iff`).
-/

namespace VoiceAssistants
namespace Backend

open Db Sql Async
open Collections (getElem?_concat_cases)

/-- The request an event belongs to. -/
def Event.request : Event → Nat
  | granted id _ | started id _ | finished id _ | committed id _ | released id _ => id

/-- The request has neither committed nor released a lock. -/
def Unsettled (id : Nat) (s : State) : Prop :=
  ∀ lock, Event.committed id lock ∉ s.history ∧ Event.released id lock ∉ s.history

/-- The row under which the lock of a request is stored. -/
def StoredUnder (request : Request) (row : IdempotencyRow) : Prop :=
  Uuid.parse request.userId = some row.userId ∧ varchar 128 request.idempotencyKey = some row.key

/-- What holds of the keys in every state. -/
structure KeyInvariant (s : State) : Prop where
  stored : ∀ row ∈ s.table, varchar 128 row.key = some row.key
  recorded : ∀ (id : Nat) (request : Request), s.requests[id]? = some request → request.phase.outstanding = true →
    ∃ row ∈ s.table, StoredUnder request row
  unsettled : ∀ (id : Nat) (request : Request), s.requests[id]? = some request → request.phase.unsettled = true →
    Unsettled id s
  bounded : ∀ id, s.requests.length ≤ id → Unsettled id s

section Invariant

variable {s t : State} {action : Action} {id : Nat} {request : Request} {phase : Phase}

theorem keyInvariant_initial : KeyInvariant State.initial where
  stored := by simp [State.initial]
  recorded := by simp [State.initial]
  unsettled := by simp [State.initial]
  bounded := by simp [Unsettled, State.initial]

/-- An event of one request does not settle the others. -/
theorem Unsettled.record (h : Unsettled id s) {event : Event} (hother : event.request ≠ id) :
    Unsettled id (s.record event) := by
  intro lock
  constructor
  · intro hmem
    rcases List.mem_cons.mp hmem with heq | hold
    · exact hother (heq ▸ rfl)
    · exact (h lock).1 hold
  · intro hmem
    rcases List.mem_cons.mp hmem with heq | hold
    · exact hother (heq ▸ rfl)
    · exact (h lock).2 hold

/-- A grant, the start and the end of an execution settle nothing. -/
theorem Unsettled.pass (h : Unsettled id s) {event : Event} (hcommitted : ∀ lock, event ≠ .committed id lock)
    (hreleased : ∀ lock, event ≠ .released id lock) : Unsettled id (s.record event) := by
  intro lock
  constructor
  · intro hmem
    rcases List.mem_cons.mp hmem with heq | hold
    · exact hcommitted lock heq.symm
    · exact (h lock).1 hold
  · intro hmem
    rcases List.mem_cons.mp hmem with heq | hold
    · exact hreleased lock heq.symm
    · exact (h lock).2 hold

/-- The rows that are in the table under the owner and the key of a request stay there. -/
theorem recorded_update {user : Uuid} {key : String} {change : IdempotencyRow → IdempotencyRow}
    (hcolumns : ∀ row, ((change row).userId, (change row).key) = (row.userId, row.key))
    (h : ∃ row ∈ s.table, StoredUnder request row) :
    ∃ row ∈ updateWhere (IdempotencyRow.visible user key) change s.table, StoredUnder request row := by
  obtain ⟨row, hrow, huser, hkey⟩ := h
  have hkept : ∃ row' ∈ updateWhere (IdempotencyRow.visible user key) change s.table,
      (row'.userId, row'.key) = (row.userId, row.key) := exists_mem_updateWhere hcolumns hrow
  obtain ⟨row', hrow', hsame⟩ := hkept
  obtain ⟨huser', hkey'⟩ := Prod.mk.inj hsame
  exact ⟨row', hrow', by rw [huser', huser], by rw [hkey', hkey]⟩

theorem stored_update {user : Uuid} {key : String} {change : IdempotencyRow → IdempotencyRow}
    (hcolumns : ∀ row, ((change row).userId, (change row).key) = (row.userId, row.key))
    (h : ∀ row ∈ s.table, varchar 128 row.key = some row.key) :
    ∀ row ∈ updateWhere (IdempotencyRow.visible user key) change s.table, varchar 128 row.key = some row.key := by
  intro row hrow
  obtain ⟨old, hmem, ⟨-, rfl⟩ | ⟨-, rfl⟩⟩ := mem_updateWhere hrow
  · rw [(Prod.mk.inj (hcolumns old)).2]
    exact h old hmem
  · exact h _ hmem

/-- One request enters a phase while the table changes. -/
theorem KeyInvariant.enter (h : KeyInvariant s) (hfound : s.requests[id]? = some request)
    {table : List IdempotencyRow} (events : List Event) {u : State}
    (hu : u = { (s.enter id request phase) with table := table, history := events ++ s.history })
    (hstored : ∀ row ∈ table, varchar 128 row.key = some row.key)
    (hkept : ∀ request', (∃ row ∈ s.table, StoredUnder request' row) → ∃ row ∈ table, StoredUnder request' row)
    (hrecorded : phase.outstanding = true → ∃ row ∈ table, StoredUnder request row)
    (hevents : ∀ event ∈ events, event.request = id)
    (hworking : phase.unsettled = true → Unsettled id u) : KeyInvariant u := by
  have hlt : id < s.requests.length := (List.getElem?_eq_some_iff.mp hfound).1
  have hother {id' : Nat} (hne : id' ≠ id) (hunsettled : Unsettled id' s) : Unsettled id' u := by
    intro lock
    rw [hu]
    constructor
    · intro hmem
      rcases List.mem_append.mp hmem with hnew | hold
      · exact hne (hevents _ hnew)
      · exact (hunsettled lock).1 hold
    · intro hmem
      rcases List.mem_append.mp hmem with hnew | hold
      · exact hne (hevents _ hnew)
      · exact (hunsettled lock).2 hold
  have hrequests : u.requests = (s.enter id request phase).requests := by rw [hu]
  constructor
  · rw [hu]
    exact hstored
  · intro id' request' hfound' hout'
    rw [hrequests] at hfound'
    have htable : u.table = table := by rw [hu]
    rw [htable]
    rcases enter_found hfound hfound' with ⟨rfl, rfl⟩ | ⟨-, hfound'⟩
    · exact hrecorded hout'
    · exact hkept request' (h.recorded id' request' hfound' hout')
  · intro id' request' hfound' hworking'
    rw [hrequests] at hfound'
    rcases enter_found hfound hfound' with ⟨rfl, rfl⟩ | ⟨hne, hfound'⟩
    · exact hworking hworking'
    · exact hother hne (h.unsettled id' request' hfound' hworking')
  · intro id' hle
    rw [hrequests, State.enter, List.length_set] at hle
    exact hother (by omega) (h.bounded id' hle)

/-- A new request has settled nothing. -/
theorem KeyInvariant.arrived (h : KeyInvariant s) (hfresh : request.phase = .received) :
    KeyInvariant { s with requests := s.requests ++ [request] } := by
  constructor
  · exact h.stored
  · intro id' request' hfound hout
    rcases getElem?_concat_cases hfound with hold | ⟨-, rfl⟩
    · exact h.recorded id' request' hold hout
    · simp [hfresh, Phase.outstanding] at hout
  · intro id' request' hfound hworking lock
    rcases getElem?_concat_cases hfound with hold | ⟨rfl, -⟩
    · exact h.unsettled id' request' hold hworking lock
    · exact h.bounded _ (Nat.le_refl _) lock
  · intro id' hle lock
    simp only [List.length_append, List.length_singleton] at hle
    exact h.bounded id' (by omega) lock

/-- A grant puts the row of its lock into the table. -/
theorem KeyInvariant.granted (h : KeyInvariant s) (hfound : s.requests[id]? = some request)
    (hbefore : request.phase = .received) {now : Int} {user : Uuid} {table : List IdempotencyRow}
    (hparse : Uuid.parse request.userId = some user)
    (hgrant : Grant now user request.idempotencyKey s.table table) :
    KeyInvariant (({ s with table := table }.enter id request phase).record (.granted id request.lock)) := by
  apply h.enter hfound [.granted id request.lock] rfl (hgrant.stored h.stored)
  · intro request' hrow
    obtain ⟨row, hmem, huser, hkey⟩ := hrow
    obtain ⟨row', hmem', hcolumns⟩ := hgrant.keeps hmem
    obtain ⟨huser', hkey'⟩ := Prod.mk.inj hcolumns
    exact ⟨row', hmem', by rw [huser', huser], by rw [hkey', hkey]⟩
  · intro _
    obtain ⟨row, hmem, rfl, hkey⟩ := hgrant.record h.stored
    exact ⟨row, hmem, hparse, hkey⟩
  · simp [Event.request]
  · intro _
    have hworking : Unsettled id s := h.unsettled id request hfound (by simp [hbefore, Phase.unsettled])
    exact hworking.pass (by simp) (by simp)

/-- The commit or the release of a request leaves every row where it is. -/
theorem KeyInvariant.settled (h : KeyInvariant s) (hfound : s.requests[id]? = some request)
    (hbefore : request.phase.outstanding = true) (hidle : phase.unsettled = false) {user : Uuid} {key : String}
    {change : IdempotencyRow → IdempotencyRow}
    (hcolumns : ∀ row, ((change row).userId, (change row).key) = (row.userId, row.key)) (event : Event)
    (hevent : event.request = id) :
    KeyInvariant (({ s with table := updateWhere (IdempotencyRow.visible user key) change s.table }.enter
      id request phase).record event) := by
  apply h.enter hfound [event] rfl (stored_update hcolumns h.stored)
  · intro request' hrow
    exact recorded_update hcolumns hrow
  · intro _
    exact recorded_update hcolumns (h.recorded id request hfound hbefore)
  · simpa using hevent
  · simp [hidle]

/-- Every step keeps the invariant. -/
theorem KeyInvariant.step (h : KeyInvariant s) (hstep : step s action = some t) : KeyInvariant t := by
  -- the start and the end of an execution
  have hexecution {id : Nat} {request : Request} {phase : Phase} {event : Event}
      (hfound : s.requests[id]? = some request) (hout : request.phase.outstanding = true)
      (hworking : request.phase.unsettled = true) (hevent : event.request = id)
      (hcommitted : ∀ lock, event ≠ .committed id lock) (hreleased : ∀ lock, event ≠ .released id lock) :
      KeyInvariant ((s.enter id request phase).record event) := by
    apply h.enter hfound [event] rfl h.stored
    · exact fun _ hrow => hrow
    · intro _
      exact h.recorded id request hfound hout
    · simpa using hevent
    · intro _
      have hunsettled : Unsettled id s := h.unsettled id request hfound hworking
      exact hunsettled.pass hcommitted hreleased
  cases step_effect hstep with
  | arrived request fresh => exact h.arrived fresh
  | moved id request phase asked found before after outstanding releasing unsettled =>
      apply h.enter found [] rfl h.stored
      · exact fun _ hrow => hrow
      · intro hout
        exact h.recorded id request found (outstanding hout)
      · simp
      · intro hworking
        exact h.unsettled id request found (unsettled hworking)
  | granted id request phase now user table delivery found before after unconfirmed asked effective parsed grant =>
      exact h.granted found before parsed grant
  | started id request asked found before =>
      rcases before with hphase | hphase
      · exact hexecution found (by simp [hphase, Phase.outstanding]) (by simp [hphase, Phase.unsettled]) rfl
          (by simp) (by simp)
      · exact hexecution found (by simp [hphase, Phase.outstanding]) (by simp [hphase, Phase.unsettled]) rfl
          (by simp) (by simp)
  | finished id request phase asked found before after =>
      exact hexecution found (by simp [before, Phase.outstanding]) (by simp [before, Phase.unsettled]) rfl (by simp)
        (by simp)
  | committed id request phase result delivery user found before after idle asked effective parsed =>
      apply h.settled found (by simp [before, Phase.outstanding]) idle
      · exact fun _ => rfl
      · rfl
  | released id request phase delivery user found before after idle asked effective parsed =>
      apply h.settled found (outstanding_of_isReleasing before) idle
      · exact fun _ => rfl
      · rfl

theorem keyInvariant_reached (h : Reaches Backend.step Always State.initial s) : KeyInvariant s :=
  h.invariant keyInvariant_initial fun _ _ _ hinv _ hstep => hinv.step hstep

end Invariant

/-! ## The steps of one request -/

section Steps

variable {s t : State} {action : Action} {id : Nat} {request : Request}

/-- The step of a request is its next one. -/
theorem advance_of_step (hfound : s.requests[id]? = some request) (haction : action.request? = some id)
    (h : step s action = some t) : s.advance id request request.phase action = some t := by
  cases action with
  | arrive => cases haction
  | acquire | consumeToken | startTool | finishTool | commit | release | abandon =>
      obtain rfl := Option.some.inj haction
      simpa [step, Action.request?, hfound] using h

/-- A step keeps every request but for its phase. -/
theorem step_keeps (hfound : s.requests[id]? = some request) (h : step s action = some t) :
    ∃ phase, t.requests[id]? = some { request with phase := phase } := by
  have hentered {id' : Nat} {request' : Request} {phase' : Phase} (hfound' : s.requests[id']? = some request') :
      ∃ phase, (s.enter id' request' phase').requests[id]? = some { request with phase := phase } := by
    by_cases hid : id = id'
    · subst hid
      obtain rfl := Option.some.inj (hfound.symm.trans hfound')
      exact ⟨phase', enter_self hfound⟩
    · exact ⟨request.phase, (enter_ne hid).trans hfound⟩
  cases step_effect h with
  | arrived request' fresh =>
      have hlt : id < s.requests.length := (List.getElem?_eq_some_iff.mp hfound).1
      exact ⟨request.phase, (List.getElem?_append_left hlt).trans hfound⟩
  | moved id' request' phase' asked found => exact hentered found
  | granted id' request' phase' now user table delivery found => exact hentered found
  | started id' request' asked found => exact hentered found
  | finished id' request' phase' asked found => exact hentered found
  | committed id' request' phase' result delivery user found => exact hentered found
  | released id' request' phase' delivery user found => exact hentered found

/-- A step of another request leaves the request and its events. -/
theorem step_other (hfound : s.requests[id]? = some request) (hother : action.request? ≠ some id)
    (h : step s action = some t) :
    t.requests[id]? = some request ∧ ∀ event ∈ t.history, event.request = id → event ∈ s.history := by
  have hne {id' : Nat} (hasked : action.request? = some id') : id ≠ id' := by
    rintro rfl
    exact hother hasked
  have hnew {id' : Nat} {event : Event} (hasked : action.request? = some id') (hevent : event.request = id') :
      ∀ e ∈ event :: s.history, e.request = id → e ∈ s.history := by
    intro e hmem he
    rcases List.mem_cons.mp hmem with rfl | hold
    · exact absurd (he.symm.trans hevent) (hne hasked)
    · exact hold
  cases step_effect h with
  | arrived request' fresh =>
      have hlt : id < s.requests.length := (List.getElem?_eq_some_iff.mp hfound).1
      exact ⟨(List.getElem?_append_left hlt).trans hfound, fun _ hmem _ => hmem⟩
  | moved id' request' phase' asked found =>
      exact ⟨(enter_ne (hne asked)).trans hfound, fun _ hmem _ => hmem⟩
  | granted id' request' phase' now user table delivery found before after unconfirmed asked =>
      have hasked : action.request? = some id' := by rw [asked]; rfl
      exact ⟨(enter_ne (hne hasked)).trans hfound, hnew hasked rfl⟩
  | started id' request' asked found =>
      have hasked : action.request? = some id' := by rw [asked]; rfl
      exact ⟨(enter_ne (hne hasked)).trans hfound, hnew hasked rfl⟩
  | finished id' request' phase' asked found => exact ⟨(enter_ne (hne asked)).trans hfound, hnew asked rfl⟩
  | committed id' request' phase' result delivery user found before after idle asked =>
      have hasked : action.request? = some id' := by rw [asked]; rfl
      exact ⟨(enter_ne (hne hasked)).trans hfound, hnew hasked rfl⟩
  | released id' request' phase' delivery user found before after idle asked =>
      have hasked : action.request? = some id' := by rw [asked]; rfl
      exact ⟨(enter_ne (hne hasked)).trans hfound, hnew hasked rfl⟩

/-- A request that has ended takes no step. -/
theorem no_step_of_ended (hfound : s.requests[id]? = some request) (hidle : request.phase.unsettled = false)
    (hended : request.phase.outstanding = false) (haction : action.request? = some id) : step s action ≠ some t := by
  intro h
  have hadvance := advance_of_step hfound haction h
  cases hphase : request.phase <;> simp [hphase, Phase.unsettled, Phase.outstanding] at hidle hended
  all_goals cases action <;> simp [hphase, State.advance] at hadvance

/-- What a request that is about to commit does. -/
theorem step_committing {json : Option Payload} (hfound : s.requests[id]? = some request)
    (hphase : request.phase = .committing json) (haction : action.request? = some id) (h : step s action = some t) :
    (∃ delivery, action = .commit id delivery ∧ t = s.commit id request json delivery) ∨
      t = s.enter id request .abandoned := by
  have hadvance := advance_of_step hfound haction h
  rw [hphase] at hadvance
  cases action with
  | commit id' delivery =>
      obtain rfl := Option.some.inj haction
      exact .inl ⟨delivery, rfl, (Option.some.inj hadvance).symm⟩
  | abandon => exact .inr (Option.some.inj hadvance).symm
  | arrive | acquire | consumeToken | startTool | finishTool | release => cases hadvance

/-- The commit of a serialised result, when it answers. -/
theorem commit_answered {result : Payload} {user : Uuid} (hparse : Uuid.parse request.userId = some user) :
    s.commit id request (some result) .answered =
      ({ s with
          table := updateWhere (IdempotencyRow.visible user request.idempotencyKey)
            (fun row => { row with status := .committed, responsePayload := some result }) s.table }.enter id
        request (.responded ⟨"success", none, none, none, result⟩)).record (.committed id request.lock) := by
  simp [State.commit, commitIdempotencyLock, updateLock, hparse]

/-- A release that takes effect. -/
theorem step_released {reason : ReleaseReason} {delivery : Delivery} {user : Uuid}
    (hfound : s.requests[id]? = some request) (hphase : request.phase = .releasing reason)
    (hparse : Uuid.parse request.userId = some user) (heffective : delivery ≠ .failed) :
    ∃ phase, step s (.release id delivery) = some
      (({ s with
          table := updateWhere (IdempotencyRow.visible user request.idempotencyKey)
            (fun row => { row with status := .refunded }) s.table }.enter id
        request phase).record (.released id request.lock)) := by
  have hstep : step s (.release id delivery) = some (s.release id request reason delivery) := by
    simp [step, Action.request?, hfound, hphase, State.advance]
  rw [hstep]
  cases delivery with
  | answered => exact ⟨.responded reason.response, by simp [State.release, releaseIdempotencyLock, updateLock, hparse]⟩
  | failed => exact absurd rfl heffective
  | lost => exact ⟨.afterFailedRelease reason, by simp [State.release, releaseIdempotencyLock, updateLock, hparse]⟩

/-- The update of a commit or a release reaches the row of the request, if its key is stored as it is. -/
theorem updated_row {user : Uuid} {change : IdempotencyRow → IdempotencyRow} {table : List IdempotencyRow}
    (hparse : Uuid.parse request.userId = some user) (hfits : request.idempotencyKey.length ≤ 128)
    (hrow : ∃ row ∈ table, StoredUnder request row) :
    ∃ row ∈ table, Records request.lock row ∧
      change row ∈ updateWhere (IdempotencyRow.visible user request.idempotencyKey) change table := by
  obtain ⟨row, hmem, huser, hkey⟩ := hrow
  rw [varchar_of_length_le hfits] at hkey
  have hkey' : row.key = request.idempotencyKey := (Option.some.inj hkey).symm
  have huser' : row.userId = user := Option.some.inj (huser.symm.trans hparse)
  refine ⟨row, hmem, records_lock.mpr ⟨huser, hkey'⟩, change_mem_updateWhere hmem ?_⟩
  rw [IdempotencyRow.visible_iff]
  exact ⟨hkey', huser'⟩

end Steps

/-! ## Refunds after the effect -/

/-- The tool function has returned a result other than a slot conflict. -/
def ToolOutcome.takesEffect : ToolOutcome → Bool
  | confirmationRequired .. | returned _ => true
  | conflict .. | raised => false

/-- The request has set the record of its key to `REFUNDED`: its release took effect, and the key has a record. -/
def Refunded (id : Nat) (s : State) : Prop :=
  ∃ request row, s.requests[id]? = some request ∧ Event.released id request.lock ∈ s.history ∧ row ∈ s.table ∧
    Records request.lock row

/-- If the step is the commit of the given request, it records the result: the result can be serialised, and the
transaction answers. -/
def RecordsResult (id : Nat) (s : State) : Action → Prop
  | .commit id' delivery =>
      id' = id → delivery = .answered ∧
        ∃ request result, s.requests[id]? = some request ∧ request.phase = .committing (some result)
  | _ => True

/-- The request has ended or is about to commit, and has released nothing. -/
def KeepsResult (id : Nat) (s : State) : Prop :=
  (∃ request, s.requests[id]? = some request ∧
    ((∃ json, request.phase = .committing json) ∨
      request.phase.unsettled = false ∧ request.phase.outstanding = false)) ∧
  ∀ lock, Event.released id lock ∉ s.history

section Refund

variable {s t u v : State} {action : Action} {id : Nat} {request : Request}

theorem KeepsResult.not_refunded (h : KeepsResult id s) : ¬ Refunded id s := by
  rintro ⟨request, row, -, hreleased, -⟩
  exact h.2 request.lock hreleased

/-- A commit that records the result ends its request. -/
theorem RecordsResult.responded {delivery : Delivery} {json : Option Payload} (hinv : KeyInvariant s)
    (hfound : s.requests[id]? = some request) (hphase : request.phase = .committing json)
    (hrecords : RecordsResult id s (.commit id delivery)) (hnone : ∀ lock, Event.released id lock ∉ s.history) :
    (∃ response, (s.commit id request json delivery).requests[id]? =
      some { request with phase := .responded response }) ∧
    ∀ lock, Event.released id lock ∉ (s.commit id request json delivery).history := by
  obtain ⟨rfl, request', result, hfound', hjson⟩ := hrecords rfl
  obtain rfl := Option.some.inj (hfound.symm.trans hfound')
  obtain rfl : json = some result := by simpa [hphase] using hjson
  obtain ⟨row, -, hparse, -⟩ := hinv.recorded id request hfound (by simp [hphase, Phase.outstanding])
  rw [commit_answered hparse]
  constructor
  · exact ⟨_, enter_self hfound⟩
  · intro lock hmem
    rcases List.mem_cons.mp hmem with heq | hold
    · cases heq
    · exact hnone lock hold

/-- While the result is recorded, nothing is released. -/
theorem KeepsResult.step (h : KeepsResult id s) (hinv : KeyInvariant s) (hrecords : RecordsResult id s action)
    (hstep : Backend.step s action = some t) : KeepsResult id t := by
  obtain ⟨⟨request, hfound, hphase⟩, hnone⟩ := h
  by_cases haction : action.request? = some id
  · rcases hphase with ⟨json, hphase⟩ | ⟨hidle, hended⟩
    · rcases step_committing hfound hphase haction hstep with ⟨delivery, rfl, rfl⟩ | rfl
      · obtain ⟨⟨response, hfound'⟩, hnone'⟩ := hrecords.responded hinv hfound hphase hnone
        exact ⟨⟨_, hfound', .inr ⟨rfl, rfl⟩⟩, hnone'⟩
      · exact ⟨⟨_, enter_self hfound, .inr ⟨rfl, rfl⟩⟩, hnone⟩
    · exact absurd hstep (no_step_of_ended hfound hidle hended haction)
  · obtain ⟨hfound', hevents⟩ := step_other hfound haction hstep
    exact ⟨⟨request, hfound', hphase⟩, fun lock hmem => hnone lock (hevents _ hmem rfl)⟩

/-- A request that has ended stays as it is and settles nothing more. -/
theorem not_refunded_of_ended (h : ∀ lock, Event.released id lock ∉ s.history) (hfound : s.requests[id]? = some request)
    (hidle : request.phase.unsettled = false) (hended : request.phase.outstanding = false)
    (hrun : Reaches Backend.step Always s t) : ¬ Refunded id t := by
  have hkept : t.requests[id]? = some request ∧ ∀ lock, Event.released id lock ∉ t.history := by
    apply hrun.invariant (I := fun u => u.requests[id]? = some request ∧ ∀ lock, Event.released id lock ∉ u.history)
      ⟨hfound, h⟩
    intro u action v hu _ hstep
    have hother : action.request? ≠ some id := by
      intro haction
      exact no_step_of_ended hu.1 hidle hended haction hstep
    obtain ⟨hfound', hevents⟩ := step_other hu.1 hother hstep
    exact ⟨hfound', fun lock hmem => hu.2 lock (hevents _ hmem rfl)⟩
  rintro ⟨request', row, -, hreleased, -⟩
  exact hkept.2 request'.lock hreleased

/-- A request that is about to release can refund the record of its key, if the key is stored as it is. -/
theorem refund_possible {reason : ReleaseReason} (hinv : KeyInvariant s) (hfound : s.requests[id]? = some request)
    (hphase : request.phase = .releasing reason) (hfits : request.idempotencyKey.length ≤ 128) :
    ∃ t, step s (.release id .answered) = some t ∧ Refunded id t := by
  have hrow := hinv.recorded id request hfound (by simp [hphase, Phase.outstanding])
  have hrecorded := hrow
  obtain ⟨_, _, hparse, _⟩ := hrecorded
  obtain ⟨phase, hstep⟩ := step_released hfound hphase hparse (by decide : Delivery.answered ≠ .failed)
  obtain ⟨row, -, ⟨huser, hkey⟩, hmem⟩ := updated_row hparse hfits hrow
  exact ⟨_, hstep, _, _, enter_self hfound, List.mem_cons_self, hmem, huser, hkey⟩

/-- A key that is too long for its column has no record under its own text. -/
theorem not_refunded_of_long (hinv : KeyInvariant s) (hfound : s.requests[id]? = some request)
    (hlong : 128 < request.idempotencyKey.length) : ¬ Refunded id s := by
  rintro ⟨request', row, hfound', -, hrow, -, hkey⟩
  obtain rfl := Option.some.inj (hfound.symm.trans hfound')
  have hstored := length_le_of_varchar (hinv.stored row hrow)
  rw [hkey] at hstored
  exact absurd hlong (Nat.not_lt.mpr hstored)

/-- Along a run a request changes only its phase. -/
theorem reaches_keeps (hfound : s.requests[id]? = some request) (hrun : Reaches step Always s t) :
    ∃ phase, t.requests[id]? = some { request with phase := phase } := by
  induction hrun with
  | refl => exact ⟨request.phase, hfound⟩
  | tail _ _ taken ih =>
      obtain ⟨phase, hphase⟩ := ih
      obtain ⟨phase', hphase'⟩ := step_keeps hphase taken
      exact ⟨phase', hphase'⟩

/-- The end of the tool function with a result: the request is to commit it, or has ended. -/
theorem keepsResult_finish {outcome : ToolOutcome} (hinv : KeyInvariant s)
    (hfound : s.requests[id]? = some request) (hstep : step s (.finishTool id outcome) = some t)
    (heffect : outcome.takesEffect = true) : KeepsResult id t := by
  have hadvance := advance_of_step hfound rfl hstep
  cases hphase : request.phase <;> simp only [hphase, State.advance] at hadvance <;> cases hadvance
  have hnone : Unsettled id s := hinv.unsettled id request hfound (by simp [hphase, Phase.unsettled])
  constructor
  · refine ⟨_, enter_self hfound, ?_⟩
    cases outcome with
    | returned json => exact .inl ⟨json, rfl⟩
    | confirmationRequired => exact .inr ⟨rfl, rfl⟩
    | conflict | raised => cases heffect
  · intro lock hmem
    rcases List.mem_cons.mp hmem with heq | hold
    · cases heq
    · exact (hnone lock).2 hold

/-- A commit finds its request about to commit. -/
theorem committing_of_step {delivery : Delivery} (hfound : s.requests[id]? = some request)
    (hstep : step s (.commit id delivery) = some t) :
    ∃ json, request.phase = .committing json ∧ t = s.commit id request json delivery := by
  have hadvance := advance_of_step hfound rfl hstep
  cases hphase : request.phase <;> simp only [hphase, State.advance] at hadvance <;> cases hadvance
  exact ⟨_, rfl, rfl⟩

/-- A commit records the result, or the request goes on to release its lock. -/
theorem commit_cases {delivery : Delivery} (hfound : s.requests[id]? = some request)
    (hstep : step s (.commit id delivery) = some t) :
    RecordsResult id s (.commit id delivery) ∨
      t.requests[id]? = some { request with phase := .releasing .executionError } := by
  obtain ⟨json, hphase, rfl⟩ := committing_of_step hfound hstep
  have hraised : (s.enter id request (.releasing .executionError)).requests[id]? =
      some { request with phase := .releasing .executionError } := enter_self hfound
  cases json with
  | none => exact .inr hraised
  | some result =>
      cases delivery with
      | answered => exact .inl fun _ => ⟨rfl, request, result, hfound, hphase⟩
      | failed =>
          apply Or.inr
          unfold State.commit
          dsimp only
          split <;> exact hraised
      | lost =>
          apply Or.inr
          unfold State.commit
          dsimp only
          split <;> exact hraised

end Refund

/-- Once the tool function has returned a result other than a slot conflict, the request refunds its key in no run
in which its commit records the result; and a commit rules a refund out in every run exactly if it records the
result, or the key is longer than its column. -/
theorem refunded_iff {s t : State} {id : Nat} {request : Request} {outcome : ToolOutcome}
    (hrun : Reaches step Always State.initial s) (hfound : s.requests[id]? = some request)
    (hstep : step s (.finishTool id outcome) = some t) (heffect : outcome.takesEffect = true) :
    (∀ u, Reaches step (RecordsResult id) t u → ¬ Refunded id u) ∧
      ∀ u v delivery, Reaches step Always t u → step u (.commit id delivery) = some v →
        ((∀ w, Reaches step Always v w → ¬ Refunded id w) ↔
          RecordsResult id u (.commit id delivery) ∨ 128 < request.idempotencyKey.length) := by
  have hinv : KeyInvariant s := keyInvariant_reached hrun
  have hkeeps : KeepsResult id t := keepsResult_finish hinv hfound hstep heffect
  have hrunt : Reaches step Always State.initial t := .tail hrun trivial hstep
  constructor
  · intro u hu
    have hinvariant : KeyInvariant u ∧ KeepsResult id u := by
      apply hu.invariant (I := fun w => KeyInvariant w ∧ KeepsResult id w) ⟨hinv.step hstep, hkeeps⟩
      intro w action w' hw hrecords htaken
      exact ⟨hw.1.step htaken, hw.2.step hw.1 hrecords htaken⟩
    exact hinvariant.2.not_refunded
  · intro u v delivery hu hcommit
    have hinvu : KeyInvariant u := keyInvariant_reached (hrunt.trans hu)
    have hinvv : KeyInvariant v := hinvu.step hcommit
    have hrunv : Reaches step Always State.initial v := .tail (hrunt.trans hu) trivial hcommit
    obtain ⟨phase, hfoundu⟩ : ∃ phase, u.requests[id]? = some { request with phase := phase } :=
      reaches_keeps hfound ((Reaches.tail .refl trivial hstep).trans hu)
    constructor
    · intro hnever
      rcases commit_cases hfoundu hcommit with hrecords | hreleasing
      · exact .inl hrecords
      · by_cases hfits : request.idempotencyKey.length ≤ 128
        · obtain ⟨w, hrelease, hrefunded⟩ := refund_possible hinvv hreleasing rfl hfits
          exact absurd hrefunded (hnever w (.tail .refl trivial hrelease))
        · exact .inr (Nat.not_le.mp hfits)
    · rintro (hrecords | hlong) w hw
      · obtain ⟨json, hphase, rfl⟩ := committing_of_step hfoundu hcommit
        have hnone : Unsettled id u := hinvu.unsettled id _ hfoundu (by rw [hphase]; rfl)
        obtain ⟨⟨response, hfoundv⟩, hnonev⟩ :=
          hrecords.responded hinvu hfoundu hphase fun lock => (hnone lock).2
        exact not_refunded_of_ended hnonev hfoundv rfl rfl hw
      · obtain ⟨phase', hfoundw⟩ : ∃ phase', w.requests[id]? = some { request with phase := phase' } := by
          obtain ⟨phase', hfoundw⟩ := reaches_keeps hfoundu ((Reaches.tail .refl trivial hcommit).trans hw)
          exact ⟨phase', hfoundw⟩
        have hinvw : KeyInvariant w := keyInvariant_reached (hrunv.trans hw)
        exact not_refunded_of_long hinvw hfoundw hlong

/-- A booking whose tool function is about to end. -/
def sampleExecution : List Action :=
  [.arrive sampleExecuting.userId sampleExecuting.idempotencyKey sampleExecuting.parameters, .acquire 0 0 .answered,
    .startTool 0]

/-- The tool function has booked. -/
def sampleBooked : ToolOutcome :=
  .returned (some (some "confirmed"))

theorem refunded_iff_booked :
    ¬ Refunded 0 (after (sampleExecution ++ [.finishTool 0 sampleBooked, .commit 0 .answered])) := by
  obtain ⟨hsome, hfound, hstep, hcommit, hcommitting⟩ :
      (execute step State.initial sampleExecution).isSome = true ∧
      (after sampleExecution).requests[0]? = some sampleExecuting ∧
      step (after sampleExecution) (.finishTool 0 sampleBooked) =
        some (after (sampleExecution ++ [.finishTool 0 sampleBooked])) ∧
      step (after (sampleExecution ++ [.finishTool 0 sampleBooked])) (.commit 0 .answered) =
        some (after (sampleExecution ++ [.finishTool 0 sampleBooked, .commit 0 .answered])) ∧
      (after (sampleExecution ++ [.finishTool 0 sampleBooked])).requests[0]? =
        some { sampleExecuting with phase := .committing (some (some "confirmed")) } := by
    decide +kernel
  have hrun : Reaches step Always State.initial (after sampleExecution) := .of_execute (execute_after hsome)
  have hrecords : RecordsResult 0 (after (sampleExecution ++ [.finishTool 0 sampleBooked])) (.commit 0 .answered) :=
    fun _ => ⟨rfl, { sampleExecuting with phase := .committing (some (some "confirmed")) }, some "confirmed",
      hcommitting, rfl⟩
  exact (refunded_iff hrun hfound hstep rfl).1 _ (.tail .refl hrecords hcommit)

/-- The database refuses the commit of a booking, and the handler refunds the key: a retry books again. -/
theorem refunded_booking :
    ¬ ∀ (s t u : State) (id : Nat) (outcome : ToolOutcome), Reaches step Always State.initial s →
      step s (.finishTool id outcome) = some t → outcome.takesEffect = true → Reaches step Always t u →
      ¬ Refunded id u := by
  intro hall
  obtain ⟨hsome, hstep, hrefund⟩ :
      (execute step State.initial sampleExecution).isSome = true ∧
      step (after sampleExecution) (.finishTool 0 sampleBooked) =
        some (after (sampleExecution ++ [.finishTool 0 sampleBooked])) ∧
      execute step (after (sampleExecution ++ [.finishTool 0 sampleBooked])) [.commit 0 .failed, .release 0 .answered] =
        some (after (sampleExecution ++ [.finishTool 0 sampleBooked, .commit 0 .failed, .release 0 .answered])) := by
    decide +kernel
  apply hall (after sampleExecution) _ _ 0 sampleBooked (.of_execute (execute_after hsome)) hstep rfl (.of_execute hrefund)
  let row := acquiredRow "booking-1" 0x11111111111141118111111111111111 "book_event" 0 60000000
  exact ⟨{ sampleExecuting with phase := .responded ReleaseReason.executionError.response },
    { row with status := .refunded }, by decide +kernel, by decide +kernel, by decide +kernel, by decide +kernel⟩

/-! ## Keys that stay acquired -/

/-- The handler has returned or raised. -/
def Phase.finished : Phase → Bool
  | responded _ | raised => true
  | received | granted | confirmed | executing | committing _ | releasing _ | abandoned => false

/-- The record of the request's key is `COMMITTED` or `REFUNDED`. -/
def Resolved (request : Request) (s : State) : Prop :=
  ∃ row ∈ s.table, StoredUnder request row ∧ row.status ≠ .acquired

/-- The steps that end the handler without a commit or a release: the consumption of the confirmation token raises,
which is outside the `try`, or the tool function asks for a confirmation. -/
def Action.bypassesSettlement : Action → Bool
  | consumeToken _ .raised | finishTool _ (.confirmationRequired ..) => true
  | _ => false

section Finish

variable {s t : State} {action : Action} {id : Nat} {request request' : Request}

/-- How the handler of an acquired key can finish in one step: without a settlement, or with one that takes effect. -/
inductive Finishes (s : State) (request : Request) (action : Action) (t : State) : Prop
  | unsettled (bypass : action.bypassesSettlement = true) (table : t.table = s.table)
  | settled (settlement : action.bypassesSettlement = false) (user : Uuid)
      (change : IdempotencyRow → IdempotencyRow) (parsed : Uuid.parse request.userId = some user)
      (columns : ∀ row, ((change row).userId, (change row).key) = (row.userId, row.key))
      (status : ∀ row, (change row).status ≠ .acquired)
      (table : t.table = updateWhere (IdempotencyRow.visible user request.idempotencyKey) change s.table)

theorem finished_of_entered (phase : Phase) (hfound : s.requests[id]? = some request)
    (hrequests : t.requests = (s.enter id request phase).requests) (hfound' : t.requests[id]? = some request')
    (hfinished : request'.phase.finished = true) : phase.finished = true := by
  rw [hrequests, enter_self hfound] at hfound'
  obtain rfl := Option.some.inj hfound'
  exact hfinished

/-- A commit with which the handler finishes has answered. -/
theorem Finishes.of_commit {json : Option Payload} {delivery : Delivery} {user : Uuid}
    (hparse : Uuid.parse request.userId = some user) (hfound : s.requests[id]? = some request)
    (ht : t = s.commit id request json delivery) (hfound' : t.requests[id]? = some request')
    (hfinished : request'.phase.finished = true) : Finishes s request (.commit id delivery) t := by
  have hreleasing (hrequests : t.requests = (s.enter id request (.releasing .executionError)).requests) : False := by
    have hphase := finished_of_entered _ hfound hrequests hfound' hfinished
    cases hphase
  cases json with
  | none => exact absurd (by rw [ht]; rfl) hreleasing
  | some result =>
      cases delivery with
      | answered =>
          rw [commit_answered hparse] at ht
          apply Finishes.settled rfl user _ hparse _ _ (by rw [ht]; rfl)
          · exact fun _ => rfl
          · simp
      | failed | lost =>
          apply absurd _ hreleasing
          rw [ht]
          simp only [State.commit]
          split <;> rfl

/-- A release with which the handler finishes has taken effect, if the database was reachable. -/
theorem Finishes.of_release {reason : ReleaseReason} {delivery : Delivery} {user : Uuid}
    (hparse : Uuid.parse request.userId = some user) (hfound : s.requests[id]? = some request)
    (hphase : request.phase = .releasing reason) (hstep : step s (.release id delivery) = some t)
    (hreachable : delivery ≠ .failed) : Finishes s request (.release id delivery) t := by
  obtain ⟨phase, hreleased⟩ := step_released hfound hphase hparse hreachable
  obtain rfl := Option.some.inj (hreleased.symm.trans hstep)
  apply Finishes.settled rfl user _ hparse _ _ rfl
  · exact fun _ => rfl
  · simp

/-- The step with which the handler of an acquired key finishes. -/
theorem finishing_step (hinv : KeyInvariant s) (hfound : s.requests[id]? = some request)
    (hacquired : request.phase.outstanding = true) (haction : action.request? = some id)
    (hstep : step s action = some t) (hfound' : t.requests[id]? = some request')
    (hfinished : request'.phase.finished = true) (hreachable : action ≠ .release id .failed) :
    Finishes s request action t := by
  obtain ⟨row, -, hparse, -⟩ := hinv.recorded id request hfound hacquired
  -- every other step enters a phase in which the handler goes on
  have hgoes (phase : Phase) (hphase : phase.finished = false)
      (hrequests : t.requests = (s.enter id request phase).requests) : Finishes s request action t := by
    have hfinished' := finished_of_entered phase hfound hrequests hfound' hfinished
    rw [hphase] at hfinished'
    cases hfinished'
  have hadvance := advance_of_step hfound haction hstep
  cases hphase : request.phase with
  | received | responded | raised | abandoned => simp [hphase, Phase.outstanding] at hacquired
  | granted =>
      rw [hphase] at hadvance
      cases action with
      | consumeToken id' result =>
          simp only [State.advance] at hadvance
          split at hadvance
          · cases result with
            | accepted => exact hgoes .confirmed rfl (by rw [← Option.some.inj hadvance])
            | refused message =>
                exact hgoes (.releasing (.invalidConfirmation message)) rfl (by rw [← Option.some.inj hadvance])
            | raised => exact .unsettled rfl (by rw [← Option.some.inj hadvance]; rfl)
          · cases hadvance
      | startTool id' =>
          simp only [State.advance] at hadvance
          split at hadvance
          · cases hadvance
          · exact hgoes .executing rfl (by rw [← Option.some.inj hadvance]; rfl)
      | abandon id' => exact hgoes .abandoned rfl (by rw [← Option.some.inj hadvance])
      | arrive | acquire | finishTool | commit | release => cases hadvance
  | confirmed =>
      rw [hphase] at hadvance
      cases action with
      | startTool id' => exact hgoes .executing rfl (by rw [← Option.some.inj hadvance]; rfl)
      | abandon id' => exact hgoes .abandoned rfl (by rw [← Option.some.inj hadvance])
      | arrive | acquire | consumeToken | finishTool | commit | release => cases hadvance
  | executing =>
      rw [hphase] at hadvance
      cases action with
      | finishTool id' outcome =>
          cases outcome with
          | confirmationRequired => exact .unsettled rfl (by rw [← Option.some.inj hadvance]; rfl)
          | conflict | returned | raised =>
              exact hgoes _ rfl (by rw [← Option.some.inj hadvance]; rfl)
      | abandon id' => exact hgoes .abandoned rfl (by rw [← Option.some.inj hadvance]; rfl)
      | arrive | acquire | consumeToken | startTool | commit | release => cases hadvance
  | committing json =>
      rcases step_committing hfound hphase haction hstep with ⟨delivery, rfl, ht⟩ | rfl
      · exact .of_commit hparse hfound ht hfound' hfinished
      · exact hgoes .abandoned rfl rfl
  | releasing reason =>
      rw [hphase] at hadvance
      cases action with
      | release id' delivery =>
          obtain rfl := Option.some.inj haction
          apply Finishes.of_release hparse hfound hphase hstep
          rintro rfl
          exact hreachable rfl
      | abandon id' => exact hgoes .abandoned rfl (by rw [← Option.some.inj hadvance])
      | arrive | acquire | consumeToken | startTool | finishTool | commit => cases hadvance

/-- A row that carries the exact key of a request is stored under it only if the key fits its column. -/
theorem updateWhere_of_long {user : Uuid} {change : IdempotencyRow → IdempotencyRow} (hinv : KeyInvariant s)
    (hlong : ¬ request.idempotencyKey.length ≤ 128) :
    updateWhere (IdempotencyRow.visible user request.idempotencyKey) change s.table = s.table := by
  apply updateWhere_eq_self
  intro row hrow
  have hlength : row.key.length ≤ 128 := length_le_of_varchar (hinv.stored row hrow)
  have hkey : row.key ≠ request.idempotencyKey := by
    rintro heq
    exact hlong (heq ▸ hlength)
  simp [IdempotencyRow.visible, hkey]

end Finish

/-- When the handler of an acquired key finishes while the database is reachable, the record is resolved exactly if
it was before, or the step does not bypass the settlement and the key fits its column. -/
theorem resolved_iff {s t : State} {action : Action} {id : Nat} {request request' : Request}
    (hrun : Reaches step Always State.initial s) (hfound : s.requests[id]? = some request)
    (hacquired : request.phase.outstanding = true) (haction : action.request? = some id)
    (hstep : step s action = some t) (hfound' : t.requests[id]? = some request')
    (hfinished : request'.phase.finished = true) (hreachable : action ≠ .release id .failed) :
    Resolved request t ↔
      Resolved request s ∨ request.idempotencyKey.length ≤ 128 ∧ action.bypassesSettlement = false := by
  have hinv : KeyInvariant s := keyInvariant_reached hrun
  cases finishing_step hinv hfound hacquired haction hstep hfound' hfinished hreachable with
  | unsettled bypass table => simp [Resolved, table, bypass]
  | settled settlement user change parsed columns status table =>
      by_cases hfits : request.idempotencyKey.length ≤ 128
      · have hresolved : Resolved request t := by
          have hupdated : ∃ row ∈ s.table, Records request.lock row ∧
              change row ∈ updateWhere (IdempotencyRow.visible user request.idempotencyKey) change s.table :=
            updated_row parsed hfits (hinv.recorded id request hfound hacquired)
          obtain ⟨row, -, hrecords, hmem⟩ := hupdated
          obtain ⟨huser, hkey⟩ := records_lock.mp hrecords
          obtain ⟨huser', hkey'⟩ := Prod.mk.inj (columns row)
          refine ⟨change row, table ▸ hmem, ⟨?_, ?_⟩, status row⟩
          · rw [huser', huser]
          · rw [hkey', hkey]
            exact varchar_of_length_le hfits
        simp [hresolved, hfits, settlement]
      · rw [updateWhere_of_long hinv hfits] at table
        simp [Resolved, table, hfits]

/-- A cancellation that holds its lock and is about to consume its token. -/
def sampleCancellation : Request :=
  ⟨sampleExecuting.userId, "cancel-1", .cancelEvent "event-1" none "token", .granted⟩

def sampleConfirmation : List Action :=
  [.arrive sampleCancellation.userId sampleCancellation.idempotencyKey sampleCancellation.parameters,
    .acquire 0 0 .answered]

/-- A refused token: the handler releases the key. -/
theorem resolved_iff_refused :
    Resolved { sampleCancellation with phase := .releasing (.invalidConfirmation "used") }
      (after (sampleConfirmation ++ [.consumeToken 0 (.refused "used"), .release 0 .answered])) := by
  have hrun : Reaches step Always State.initial (after (sampleConfirmation ++ [.consumeToken 0 (.refused "used")])) :=
    .of_execute (execute_after (by decide +kernel))
  have hfound : (after (sampleConfirmation ++ [.consumeToken 0 (.refused "used")])).requests[0]? =
      some { sampleCancellation with phase := .releasing (.invalidConfirmation "used") } := by
    decide +kernel
  have hstep : step (after (sampleConfirmation ++ [.consumeToken 0 (.refused "used")])) (.release 0 .answered) =
      some (after (sampleConfirmation ++ [.consumeToken 0 (.refused "used"), .release 0 .answered])) := by
    decide +kernel
  have hfound' : (after (sampleConfirmation ++ [.consumeToken 0 (.refused "used"), .release 0 .answered])).requests[0]? =
      some { sampleCancellation with phase := .responded (ReleaseReason.invalidConfirmation "used").response } := by
    decide +kernel
  exact (resolved_iff hrun hfound rfl rfl hstep hfound' rfl (by simp)).mpr (.inr ⟨by decide, rfl⟩)

/-- The consumption of a confirmation token raises: the handler ends and the key stays acquired. -/
theorem unresolved_cancellation :
    ¬ ∀ (s t : State) (action : Action) (id : Nat) (request request' : Request), Reaches step Always State.initial s →
      s.requests[id]? = some request → request.phase.outstanding = true → action.request? = some id →
      step s action = some t → t.requests[id]? = some request' → request'.phase.finished = true →
      action ≠ .release id .failed → Resolved request t := by
  intro hall
  have hresolved : Resolved sampleCancellation (after (sampleConfirmation ++ [.consumeToken 0 .raised])) := by
    apply hall (after sampleConfirmation) _ (.consumeToken 0 .raised) 0 sampleCancellation
      { sampleCancellation with phase := .raised } (.of_execute (execute_after (by decide +kernel)))
    · decide +kernel
    · rfl
    · rfl
    · decide +kernel
    · decide +kernel
    · rfl
    · simp
  obtain ⟨row, hrow, -, hstatus⟩ := hresolved
  have hacquired : ∀ row ∈ (after (sampleConfirmation ++ [.consumeToken 0 .raised])).table, row.status = .acquired := by
    decide +kernel
  exact hstatus (hacquired row hrow)

end Backend
end VoiceAssistants
