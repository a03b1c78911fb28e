import VoiceAssistants.Collections.Slots
import VoiceAssistants.Db.Confirmation
import VoiceAssistants.Backend.KeyResolution

/-!
# Confirmed executions (the ANE-03 interceptor of `backend/app/api/tools.py`)

The requests of `ToolExecution` together with the table of confirmation tokens.  A `cancel_event` request without
`confirm` is intercepted in step 4 and answered with a fresh token; one with `confirm` consumes the token it carries
after it has been granted its lock, and only then executes.

`log` records the tokens issued, the consumptions that were accepted and the executions, newest first.  Each entry
says what it is for: the tenant, the tool, the event and the reason.  `Entitled` is what the interceptor is for.

The clock is one: `now` is the time of the application at an issue and of the database at a consumption.
-/

namespace VoiceAssistants
namespace Backend

open Db Sql Async
open Collections (getElem?_concat_cases)

/-- What a confirmation is for. -/
structure ConfirmedAction where
  user : Option Uuid
  toolName : String
  eventId : String
  reason : Option String
  deriving DecidableEq, Repr

inductive ConfirmationEvent
  | issued (token : String) (confirmed : ConfirmedAction) (now : Int)
  | accepted (request : Nat) (token : String) (confirmed : ConfirmedAction) (now : Int)
  | executed (request : Nat) (confirmed : ConfirmedAction)
  deriving DecidableEq, Repr

structure Confirmations where
  execution : State
  tokens : List ConfirmationRow
  log : List ConfirmationEvent
  deriving DecidableEq, Repr

def Confirmations.initial : Confirmations where
  execution := .initial
  tokens := []
  log := []

/-- What a request that needs a confirmation asks for. -/
def Request.confirmedAction? (request : Request) : Option ConfirmedAction :=
  match request.parameters with
  | .cancelEvent eventId reason _ => some ⟨Uuid.parse request.userId, request.toolName.value, eventId, reason⟩
  | .getCalendarAvailability .. | .bookEvent .. | .listEvents .. => none

inductive ConfirmationStep
  /-- a `cancel_event` request without `confirm`, and the token it is given -/
  | intercept (userId eventId : String) (reason : Option String) (token : String) (now : Int) (delivery : Delivery)
  | consume (id : Nat) (now : Int) (delivery : Delivery)
  | execution (action : Action)
  deriving DecidableEq, Repr

section Machine

variable (hash : String → String)

/-- The interception of a request that is not confirmed. -/
def Confirmations.intercept (s : Confirmations) (userId eventId : String) (reason : Option String) (token : String)
    (now : Int) (delivery : Delivery) : Confirmations :=
  let toolName := ToolName.cancelEvent.value
  match issueConfirmationToken hash now token userId toolName eventId ⟨eventId, reason⟩ 300 s.tokens, delivery with
  | none, _ => s
  | some _, .failed => s
  | some tokens, .answered | some tokens, .lost =>
      { s with
        tokens := tokens
        log := .issued token ⟨Uuid.parse userId, toolName, eventId, reason⟩ now :: s.log }

/-- The consumption of the token that a confirmed request carries. -/
def Confirmations.consume (s : Confirmations) (id : Nat) (now : Int) (delivery : Delivery) : Option Confirmations := do
  let request ← s.execution.requests[id]?
  let .cancelEvent eventId reason token := request.parameters | none
  let toolName := request.toolName.value
  let answer (result : TokenResult) := step s.execution (.consumeToken id result)
  match consumeConfirmationToken hash now token request.userId toolName eventId ⟨eventId, reason⟩ s.tokens, delivery with
  | none, _ | some _, .failed => return { s with execution := (← answer .raised) }
  | some (_, tokens), .lost => return { s with execution := (← answer .raised), tokens := tokens }
  | some ((false, message), tokens), .answered =>
      return { s with execution := (← answer (.refused message)), tokens := tokens }
  | some ((true, _), tokens), .answered =>
      let confirmed : ConfirmedAction := ⟨Uuid.parse request.userId, toolName, eventId, reason⟩
      return { s with
        execution := (← answer .accepted)
        tokens := tokens
        log := .accepted id token confirmed now :: s.log }

/-- The executions of actions that need a confirmation. -/
def State.confirmedStarts (s : State) : Action → List ConfirmationEvent
  | .startTool id =>
      match s.requests[id]?.bind Request.confirmedAction? with
      | some confirmed => [.executed id confirmed]
      | none => []
  | _ => []

/-- One step of the requests and the tokens. -/
def confirmationStep (s : Confirmations) : ConfirmationStep → Option Confirmations
  | .intercept userId eventId reason token now delivery => some (s.intercept hash userId eventId reason token now delivery)
  | .consume id now delivery => s.consume hash id now delivery
  | .execution (.consumeToken ..) => none
  | .execution action => do
      let execution ← step s.execution action
      return { s with execution := execution, log := s.execution.confirmedStarts action ++ s.log }

end Machine

/-- What an entry may be after the older ones.  A token is issued once.  It is accepted once, for what it was issued
for and before it has expired.  A request executes once, what its own token was accepted for. -/
def ConfirmationEvent.Entitled (older : List ConfirmationEvent) : ConfirmationEvent → Prop
  | .issued token _ _ => ∀ confirmed now, ConfirmationEvent.issued token confirmed now ∉ older
  | .accepted _ token confirmed now =>
      (∃ issuedAt, ConfirmationEvent.issued token confirmed issuedAt ∈ older ∧ now < issuedAt + 300 * 1000000) ∧
        ∀ id' confirmed' now', ConfirmationEvent.accepted id' token confirmed' now' ∉ older
  | .executed id confirmed =>
      (∃ token now, ConfirmationEvent.accepted id token confirmed now ∈ older) ∧
        ∀ confirmed', ConfirmationEvent.executed id confirmed' ∉ older

/-- Every entry was entitled when it was made. -/
def EntitledLog : List ConfirmationEvent → Prop
  | [] => True
  | event :: older => event.Entitled older ∧ EntitledLog older

/-- The condition on the steps: the token that is consumed has not the hash of another token that was issued. -/
def NoCollision (hash : String → String) (s : Confirmations) : ConfirmationStep → Prop
  | .consume id _ _ =>
      ∀ request eventId reason token, s.execution.requests[id]? = some request →
        request.parameters = .cancelEvent eventId reason token →
        ∀ token' confirmed now, ConfirmationEvent.issued token' confirmed now ∈ s.log → hash token' = hash token →
          token' = token
  | _ => True

/-! ## What the requests do -/

section Requests

variable {s t : State} {action : Action} {id : Nat} {request request' : Request}

@[simp] theorem confirmedAction_enter (phase : Phase) :
    Request.confirmedAction? { request with phase := phase } = request.confirmedAction? := rfl

/-- A request is confirmed by an accepted token only. -/
theorem confirmed_step (h : step s action = some t) (hfound' : t.requests[id]? = some request')
    (hphase : request'.phase = .confirmed) : s.requests[id]? = some request' ∨ action = .consumeToken id .accepted := by
  -- the request that has taken the step has not entered this phase
  have hunconfirmed {id' : Nat} {request : Request} {phase : Phase} (hfound : s.requests[id']? = some request)
      (hnot : phase ≠ .confirmed) (hentered : (s.enter id' request phase).requests[id]? = some request') :
      s.requests[id]? = some request' := by
    rcases enter_found hfound hentered with ⟨rfl, rfl⟩ | ⟨-, hold⟩
    · exact absurd hphase hnot
    · exact hold
  cases step_effect h with
  | arrived request fresh =>
      rcases getElem?_concat_cases hfound' with hold | ⟨-, rfl⟩
      · exact .inl hold
      · rw [fresh] at hphase
        cases hphase
  | moved id' request phase asked found before after outstanding releasing unsettled starting confirmed =>
      rcases enter_found found hfound' with ⟨rfl, rfl⟩ | ⟨-, hold⟩
      · exact .inr (confirmed hphase)
      · exact .inl hold
  | granted id' request phase now user table delivery found before after unconfirmed =>
      exact .inl (hunconfirmed found unconfirmed hfound')
  | started id' request asked found => exact .inl (hunconfirmed found (by simp) hfound')
  | finished id' request phase asked found before after ended =>
      exact .inl (hunconfirmed found (by rintro rfl; cases ended) hfound')
  | committed id' request phase result delivery user found before after idle =>
      exact .inl (hunconfirmed found (by rintro rfl; cases idle) hfound')
  | released id' request phase delivery user found before after idle =>
      exact .inl (hunconfirmed found (by rintro rfl; cases idle) hfound')

/-- A request that settles has started its tool function, or never will. -/
theorem starting_of_settled {phase : Phase} (h : phase.unsettled = false) : phase.starting = false := by
  cases phase with
  | received | granted | confirmed => cases h
  | executing | committing | releasing | responded | raised | abandoned => rfl

/-- Once the tool function has been started, it is not started again. -/
theorem started_stays (hfound : s.requests[id]? = some request) (hstarted : request.phase.starting = false)
    (h : step s action = some t) : ∃ phase, t.requests[id]? = some { request with phase := phase } ∧
      phase.starting = false := by
  have hentered {id' : Nat} {request' : Request} {phase' : Phase} (hfound' : s.requests[id']? = some request')
      (hphase : request'.phase.starting = false → phase'.starting = false) :
      ∃ phase, (s.enter id' request' phase').requests[id]? = some { request with phase := phase } ∧
        phase.starting = false := by
    by_cases hid : id = id'
    · subst hid
      obtain rfl := Option.some.inj (hfound.symm.trans hfound')
      exact ⟨phase', enter_self hfound, hphase hstarted⟩
    · exact ⟨request.phase, (enter_ne hid).trans hfound, hstarted⟩
  cases step_effect h with
  | arrived request' fresh =>
      have hlt : id < s.requests.length := (List.getElem?_eq_some_iff.mp hfound).1
      exact ⟨request.phase, (List.getElem?_append_left hlt).trans hfound, hstarted⟩
  | moved id' request' phase' asked found before after outstanding releasing unsettled starting =>
      apply hentered found
      intro hbefore
      rw [← Bool.not_eq_true] at hbefore ⊢
      exact fun hafter => hbefore (starting hafter)
  | granted id' request' phase' now user table delivery found before =>
      apply hentered found
      simp [before, Phase.starting]
  | started id' request' asked found => exact hentered found fun _ => rfl
  | finished id' request' phase' asked found before after ended => exact hentered found fun _ => ended
  | committed id' request' phase' result delivery user found before after idle =>
      exact hentered found fun _ => starting_of_settled idle
  | released id' request' phase' delivery user found before after idle =>
      exact hentered found fun _ => starting_of_settled idle

/-- An execution is started by its own step. -/
theorem started_step {lock : Lock} (h : step s action = some t) (hmem : Event.started id lock ∈ t.history) :
    Event.started id lock ∈ s.history ∨ action = .startTool id := by
  cases step_effect h with
  | arrived | moved => exact .inl hmem
  | started id' request' asked found =>
      rcases List.mem_cons.mp hmem with heq | hold
      · cases heq
        exact .inr asked
      · exact .inl hold
  | granted | finished | committed | released =>
      rcases List.mem_cons.mp hmem with heq | hold
      · cases heq
      · exact .inl hold

/-- What is started: a tool that needs no confirmation, or one that has it. -/
theorem startTool_cases (hfound : s.requests[id]? = some request) (h : step s (.startTool id) = some t) :
    t = (s.enter id request .executing).record (.started id request.lock) ∧
      (request.confirmedAction? = none ∨ request.phase = .confirmed) := by
  have hadvance := advance_of_step hfound rfl h
  cases hphase : request.phase <;> simp only [hphase, State.advance] at hadvance
  case granted =>
    split at hadvance
    · cases hadvance
    · rename_i hnot
      refine ⟨(Option.some.inj hadvance).symm, .inl ?_⟩
      unfold Request.confirmedAction?
      cases hparameters : request.parameters with
      | cancelEvent =>
          simp [Request.toolName, hparameters, ToolParameters.toolName, ToolName.confirmationRequired] at hnot
      | getCalendarAvailability | bookEvent | listEvents => rfl
  case confirmed => exact ⟨(Option.some.inj hadvance).symm, .inr rfl⟩
  all_goals cases hadvance

end Requests

/-! ## What the tokens do -/

/-- What a token is issued for, as its row has it. -/
def ConfirmedAction.ofRow (row : ConfirmationRow) : ConfirmedAction :=
  ⟨some row.userId, row.toolName, row.parameters.eventId, row.parameters.reason⟩

section Tokens

variable {hash : String → String} {s t : Confirmations} {id : Nat} {now : Int} {delivery : Delivery}

/-- What an interception does. -/
theorem intercept_cases {userId eventId token : String} {reason : Option String} :
    s.intercept hash userId eventId reason token now delivery = s ∨
    ∃ row, (∀ other ∈ s.tokens, other.tokenHash ≠ row.tokenHash) ∧ row.tokenHash = hash token ∧
      row.expiresAt = now + 300 * 1000000 ∧
      s.intercept hash userId eventId reason token now delivery =
        { s with tokens := s.tokens ++ [row], log := .issued token (ConfirmedAction.ofRow row) now :: s.log } := by
  unfold Confirmations.intercept
  dsimp only
  cases hissue : issueConfirmationToken hash now token userId ToolName.cancelEvent.value eventId ⟨eventId, reason⟩ 300
      s.tokens with
  | none => exact .inl rfl
  | some tokens =>
      obtain ⟨user, storedName, storedEvent, hparse, hname, habsent, rfl⟩ := issueConfirmationToken_eq_some hissue
      obtain rfl : ToolName.cancelEvent.value = storedName := by
        rw [varchar_of_length_le (by decide)] at hname
        exact Option.some.inj hname
      cases delivery with
      | failed => exact .inl rfl
      | answered | lost =>
          refine .inr ⟨⟨hash token, user, ToolName.cancelEvent.value, storedEvent, ⟨eventId, reason⟩,
            now + 300 * 1000000, none⟩, habsent, rfl, rfl, ?_⟩
          simp [ConfirmedAction.ofRow, hparse]

/-- What a consumption does: the request goes on only if its token is found, unconsumed and not expired. -/
inductive Consumption (hash : String → String) (s : Confirmations) (id : Nat) (now : Int) : Confirmations → Prop
  | refused (result : TokenResult) (execution : State) (condition : ConfirmationRow → Bool)
      (unaccepted : result ≠ .accepted) (taken : step s.execution (.consumeToken id result) = some execution) :
      Consumption hash s id now
        ⟨execution, updateWhere condition (fun row => { row with consumedAt := some now }) s.tokens, s.log⟩
  | accepted (request : Request) (eventId : String) (reason : Option String) (token : String) (execution : State)
      (condition : ConfirmationRow → Bool) (row : ConfirmationRow) (found : s.execution.requests[id]? = some request)
      (carries : request.parameters = .cancelEvent eventId reason token)
      (taken : step s.execution (.consumeToken id .accepted) = some execution) (mem : row ∈ s.tokens)
      (reached : condition row = true) (hashed : row.tokenHash = hash token) (fresh : row.consumedAt = none)
      (timely : now < row.expiresAt) (asked : request.confirmedAction? = some (ConfirmedAction.ofRow row)) :
      Consumption hash s id now
        ⟨execution, updateWhere condition (fun row => { row with consumedAt := some now }) s.tokens,
          .accepted id token (ConfirmedAction.ofRow row) now :: s.log⟩

theorem consume_cases (h : s.consume hash id now delivery = some t) : Consumption hash s id now t := by
  -- the transaction had no effect, or its request has raised or been refused
  have hrefused {result : TokenResult} {execution : State} {tokens : List ConfirmationRow}
      {condition : ConfirmationRow → Bool} (hresult : result ≠ .accepted)
      (htaken : step s.execution (.consumeToken id result) = some execution)
      (htokens : tokens = updateWhere condition (fun row => { row with consumedAt := some now }) s.tokens) :
      Consumption hash s id now ⟨execution, tokens, s.log⟩ := by
    rw [htokens]
    exact .refused result execution condition hresult htaken
  have hunchanged : s.tokens = updateWhere (fun _ => false) (fun row => { row with consumedAt := some now }) s.tokens :=
    (updateWhere_eq_self fun _ _ => rfl).symm
  simp only [Confirmations.consume, Option.bind_eq_bind, Option.bind_eq_some_iff] at h
  obtain ⟨request, hfound, h⟩ := h
  cases hcarries : request.parameters with
  | getCalendarAvailability | bookEvent | listEvents => simp [hcarries] at h
  | cancelEvent eventId reason token =>
      simp only [hcarries] at h
      cases hconsume : consumeConfirmationToken hash now token request.userId request.toolName.value eventId
          ⟨eventId, reason⟩ s.tokens with
      | none =>
          simp only [hconsume, Option.bind_eq_some_iff] at h
          obtain ⟨execution, htaken, ht⟩ := h
          obtain rfl := Option.some.inj ht
          exact hrefused (by simp) htaken hunchanged
      | some result =>
          obtain ⟨⟨accepted, message⟩, tokens⟩ := result
          obtain ⟨user, hparse, htokens, haccepted⟩ := consumeConfirmationToken_eq_some hconsume
          cases delivery with
          | failed =>
              simp only [hconsume, Option.bind_eq_some_iff] at h
              obtain ⟨execution, htaken, ht⟩ := h
              obtain rfl := Option.some.inj ht
              exact hrefused (by simp) htaken hunchanged
          | lost =>
              simp only [hconsume, Option.bind_eq_some_iff] at h
              obtain ⟨execution, htaken, ht⟩ := h
              obtain rfl := Option.some.inj ht
              exact hrefused (by simp) htaken htokens
          | answered =>
              cases accepted with
              | false =>
                  simp only [hconsume, Option.bind_eq_some_iff] at h
                  obtain ⟨execution, htaken, ht⟩ := h
                  obtain rfl := Option.some.inj ht
                  exact hrefused (by simp) htaken htokens
              | true =>
                  simp only [hconsume, Option.bind_eq_some_iff] at h
                  obtain ⟨execution, htaken, ht⟩ := h
                  obtain rfl := Option.some.inj ht
                  obtain ⟨row, hrow, hreached⟩ := haccepted rfl
                  obtain ⟨hhash, huser, hname, -, hparameters, hfresh, htimely⟩ :=
                    ConfirmationRow.matching_iff.mp hreached
                  have hconfirmed : (⟨Uuid.parse request.userId, request.toolName.value, eventId, reason⟩ :
                      ConfirmedAction) = ConfirmedAction.ofRow row := by
                    simp [ConfirmedAction.ofRow, hparse, huser, hname, hparameters]
                  rw [hconfirmed, htokens]
                  apply Consumption.accepted request eventId reason token execution _ row hfound hcarries htaken hrow
                    hreached hhash hfresh htimely
                  rw [← hconfirmed]
                  simp [Request.confirmedAction?, hcarries]

end Tokens

/-! ## The invariant -/

/-- What holds of the requests and the tokens in every state. -/
structure ConfirmationInvariant (hash : String → String) (s : Confirmations) : Prop where
  keyed : Keyed ConfirmationRow.tokenHash s.tokens
  /-- every row is the one of a token that was issued -/
  rows : ∀ row ∈ s.tokens, ∃ token now, ConfirmationEvent.issued token (ConfirmedAction.ofRow row) now ∈ s.log ∧
    row.tokenHash = hash token ∧ row.expiresAt = now + 300 * 1000000
  issued : ∀ token confirmed now, ConfirmationEvent.issued token confirmed now ∈ s.log →
    ∃ row ∈ s.tokens, row.tokenHash = hash token
  accepted : ∀ id token confirmed now, ConfirmationEvent.accepted id token confirmed now ∈ s.log →
    ∃ row ∈ s.tokens, row.tokenHash = hash token ∧ row.consumedAt ≠ none
  /-- a confirmed request has had its token accepted and has not executed -/
  confirmed : ∀ (id : Nat) (request : Request) (confirmed : ConfirmedAction),
    s.execution.requests[id]? = some request → request.phase = .confirmed →
    request.confirmedAction? = some confirmed →
    (∃ token now, ConfirmationEvent.accepted id token confirmed now ∈ s.log) ∧
      ∀ confirmed', ConfirmationEvent.executed id confirmed' ∉ s.log
  executed : ∀ id confirmed, ConfirmationEvent.executed id confirmed ∈ s.log →
    ∃ request, s.execution.requests[id]? = some request ∧ request.phase.starting = false
  recorded : ∀ id lock, Event.started id lock ∈ s.execution.history →
    ∃ request, s.execution.requests[id]? = some request ∧
      ∀ confirmed, request.confirmedAction? = some confirmed → ConfirmationEvent.executed id confirmed ∈ s.log
  entitled : EntitledLog s.log

section Invariant

variable {hash : String → String} {s t : Confirmations} {id : Nat} {now : Int}

theorem confirmationInvariant_initial : ConfirmationInvariant hash .initial where
  keyed := by simp [Keyed, Confirmations.initial]
  rows := by simp [Confirmations.initial]
  issued := by simp [Confirmations.initial]
  accepted := by simp [Confirmations.initial]
  confirmed := by simp [Confirmations.initial, State.initial]
  executed := by simp [Confirmations.initial]
  recorded := by simp [Confirmations.initial, State.initial]
  entitled := trivial

/-- A fresh token is issued. -/
theorem ConfirmationInvariant.issue (h : ConfirmationInvariant hash s) {row : ConfirmationRow} {token : String}
    (habsent : ∀ other ∈ s.tokens, other.tokenHash ≠ row.tokenHash) (hhash : row.tokenHash = hash token)
    (hexpires : row.expiresAt = now + 300 * 1000000) :
    ConfirmationInvariant hash
      { s with tokens := s.tokens ++ [row], log := .issued token (ConfirmedAction.ofRow row) now :: s.log } := by
  have hold {event : ConfirmationEvent} (hmem : event ∈ s.log) :
      event ∈ ConfirmationEvent.issued token (ConfirmedAction.ofRow row) now :: s.log := List.mem_cons_of_mem _ hmem
  constructor
  · exact keyed_append h.keyed habsent
  · intro other hother
    rcases List.mem_append.mp hother with hmem | hnew
    · obtain ⟨token', now', hissued, hrest⟩ := h.rows other hmem
      exact ⟨token', now', hold hissued, hrest⟩
    · obtain rfl := List.mem_singleton.mp hnew
      exact ⟨token, now, List.mem_cons_self, hhash, hexpires⟩
  · intro token' confirmed now' hissued
    rcases List.mem_cons.mp hissued with heq | hissued
    · cases heq
      exact ⟨row, List.mem_append_right _ List.mem_cons_self, hhash⟩
    · obtain ⟨other, hmem, hhash'⟩ := h.issued token' confirmed now' hissued
      exact ⟨other, List.mem_append_left _ hmem, hhash'⟩
  · intro id token' confirmed now' haccepted
    rcases List.mem_cons.mp haccepted with heq | haccepted
    · cases heq
    · obtain ⟨other, hmem, hrest⟩ := h.accepted id token' confirmed now' haccepted
      exact ⟨other, List.mem_append_left _ hmem, hrest⟩
  · intro id request confirmed hfound hphase hasked
    obtain ⟨⟨token', now', haccepted⟩, hnone⟩ := h.confirmed id request confirmed hfound hphase hasked
    refine ⟨⟨token', now', hold haccepted⟩, fun confirmed' hmem => ?_⟩
    rcases List.mem_cons.mp hmem with heq | hmem
    · cases heq
    · exact hnone confirmed' hmem
  · intro id confirmed hmem
    rcases List.mem_cons.mp hmem with heq | hmem
    · cases heq
    · exact h.executed id confirmed hmem
  · intro id lock hstarted
    obtain ⟨request, hfound, hexecuted⟩ := h.recorded id lock hstarted
    exact ⟨request, hfound, fun confirmed hasked => hold (hexecuted confirmed hasked)⟩
  · refine ⟨?_, h.entitled⟩
    -- another token with this hash would have a row
    intro confirmed now' hissued
    obtain ⟨other, hmem, hhash'⟩ := h.issued token confirmed now' hissued
    exact habsent other hmem (hhash'.trans hhash.symm)

section Consumption

variable {condition : ConfirmationRow → Bool} {row : ConfirmationRow}

/-- A row stays in the table, and a consumed one stays consumed. -/
theorem consumed_keeps (h : row ∈ s.tokens) :
    ∃ row' ∈ updateWhere condition (fun row => { row with consumedAt := some now }) s.tokens,
      row'.tokenHash = row.tokenHash ∧ (row.consumedAt ≠ none → row'.consumedAt ≠ none) := by
  by_cases hc : condition row = true
  · exact ⟨_, change_mem_updateWhere h hc, rfl, by simp⟩
  · refine ⟨row, ?_, rfl, fun hconsumed => hconsumed⟩
    have hmem : (if condition row then { row with consumedAt := some now } else row) ∈
        updateWhere condition (fun row => { row with consumedAt := some now }) s.tokens := List.mem_map_of_mem h
    rwa [if_neg hc] at hmem

/-- A consumption changes nothing of a row but its mark. -/
theorem consumed_from (h : row ∈ updateWhere condition (fun row => { row with consumedAt := some now }) s.tokens) :
    ∃ old ∈ s.tokens, row.tokenHash = old.tokenHash ∧ ConfirmedAction.ofRow row = ConfirmedAction.ofRow old ∧
      row.expiresAt = old.expiresAt := by
  obtain ⟨old, hold, ⟨-, rfl⟩ | ⟨-, rfl⟩⟩ := mem_updateWhere h
  · exact ⟨old, hold, rfl, rfl, rfl⟩
  · exact ⟨_, hold, rfl, rfl, rfl⟩

/-- The requests that have executed stay past their start. -/
theorem ConfirmationInvariant.executed_step (h : ConfirmationInvariant hash s) {action : Action} {execution : State}
    (htaken : step s.execution action = some execution) {confirmed : ConfirmedAction}
    (hmem : ConfirmationEvent.executed id confirmed ∈ s.log) :
    ∃ request, execution.requests[id]? = some request ∧ request.phase.starting = false := by
  obtain ⟨request, hfound, hstarting⟩ := h.executed id confirmed hmem
  obtain ⟨phase, hfound', hstarting'⟩ := started_stays hfound hstarting htaken
  exact ⟨_, hfound', hstarting'⟩

/-- The executions that were started before a step are recorded after it. -/
theorem ConfirmationInvariant.recorded_step (h : ConfirmationInvariant hash s) {action : Action} {execution : State}
    (htaken : step s.execution action = some execution) {lock : Lock}
    (hstarted : Event.started id lock ∈ s.execution.history) :
    ∃ request, execution.requests[id]? = some request ∧
      ∀ confirmed, request.confirmedAction? = some confirmed → ConfirmationEvent.executed id confirmed ∈ s.log := by
  obtain ⟨request, hfound, hexecuted⟩ := h.recorded id lock hstarted
  obtain ⟨phase, hfound'⟩ := step_keeps hfound htaken
  exact ⟨_, hfound', hexecuted⟩

/-- A consumption that lets its request not go on. -/
theorem ConfirmationInvariant.refuse (h : ConfirmationInvariant hash s) {result : TokenResult} {execution : State}
    (hresult : result ≠ .accepted) (htaken : step s.execution (.consumeToken id result) = some execution) :
    ConfirmationInvariant hash
      ⟨execution, updateWhere condition (fun row => { row with consumedAt := some now }) s.tokens, s.log⟩ := by
  constructor
  · exact keyed_updateWhere (fun _ => rfl) h.keyed
  · intro row hrow
    obtain ⟨old, hold, hhash, hconfirmed, hexpires⟩ := consumed_from hrow
    rw [hhash, hconfirmed, hexpires]
    exact h.rows old hold
  · intro token confirmed issuedAt hissued
    obtain ⟨row, hrow, hhash⟩ := h.issued token confirmed issuedAt hissued
    obtain ⟨row', hrow', hhash', -⟩ := consumed_keeps hrow
    exact ⟨row', hrow', hhash'.trans hhash⟩
  · intro id' token confirmed at' haccepted
    obtain ⟨row, hrow, hhash, hconsumed⟩ := h.accepted id' token confirmed at' haccepted
    obtain ⟨row', hrow', hhash', hkept⟩ := consumed_keeps hrow
    exact ⟨row', hrow', hhash'.trans hhash, hkept hconsumed⟩
  · intro id' request confirmed hfound hphase hasked
    rcases confirmed_step htaken hfound hphase with hold | haction
    · exact h.confirmed id' request confirmed hold hphase hasked
    · cases haction
      exact absurd rfl hresult
  · intro id' confirmed hmem
    exact h.executed_step htaken hmem
  · intro id' lock hstarted
    rcases started_step htaken hstarted with hold | haction
    · exact h.recorded_step htaken hold
    · cases haction
  · exact h.entitled

/-- A consumption that is accepted. -/
theorem ConfirmationInvariant.accept (h : ConfirmationInvariant hash s) {request : Request} {token : String}
    {execution : State} (hfound : s.execution.requests[id]? = some request)
    (htaken : step s.execution (.consumeToken id .accepted) = some execution) (hrow : row ∈ s.tokens)
    (hreached : condition row = true) (hhash : row.tokenHash = hash token) (hfresh : row.consumedAt = none)
    (htimely : now < row.expiresAt) (hasked : request.confirmedAction? = some (ConfirmedAction.ofRow row))
    (hcollision : ∀ token' confirmed issuedAt, ConfirmationEvent.issued token' confirmed issuedAt ∈ s.log →
      hash token' = hash token → token' = token) :
    ConfirmationInvariant hash
      ⟨execution, updateWhere condition (fun row => { row with consumedAt := some now }) s.tokens,
        .accepted id token (ConfirmedAction.ofRow row) now :: s.log⟩ := by
  have hnew {event : ConfirmationEvent} (hmem : event ∈ s.log) :
      event ∈ ConfirmationEvent.accepted id token (ConfirmedAction.ofRow row) now :: s.log :=
    List.mem_cons_of_mem _ hmem
  constructor
  · exact keyed_updateWhere (fun _ => rfl) h.keyed
  · intro row' hrow'
    obtain ⟨old, hold, hhash', hconfirmed, hexpires⟩ := consumed_from hrow'
    obtain ⟨token', issuedAt, hissued, hrest⟩ := h.rows old hold
    rw [hhash', hconfirmed, hexpires]
    exact ⟨token', issuedAt, hnew hissued, hrest⟩
  · intro token' confirmed issuedAt hissued
    rcases List.mem_cons.mp hissued with heq | hissued
    · cases heq
    · obtain ⟨old, hold, hhash'⟩ := h.issued token' confirmed issuedAt hissued
      obtain ⟨row', hrow', hsame, -⟩ := consumed_keeps hold
      exact ⟨row', hrow', hsame.trans hhash'⟩
  · intro id' token' confirmed at' haccepted
    rcases List.mem_cons.mp haccepted with heq | haccepted
    · cases heq
      exact ⟨_, change_mem_updateWhere hrow hreached, hhash, by simp⟩
    · obtain ⟨old, hold, hhash', hconsumed⟩ := h.accepted id' token' confirmed at' haccepted
      obtain ⟨row', hrow', hsame, hkept⟩ := consumed_keeps hold
      exact ⟨row', hrow', hsame.trans hhash', hkept hconsumed⟩
  · intro id' request' confirmed hfound' hphase' hasked'
    rcases confirmed_step htaken hfound' hphase' with hold | haction
    · obtain ⟨⟨token', at', haccepted⟩, hnone⟩ := h.confirmed id' request' confirmed hold hphase' hasked'
      refine ⟨⟨token', at', hnew haccepted⟩, fun confirmed' hmem => ?_⟩
      rcases List.mem_cons.mp hmem with heq | hmem
      · cases heq
      · exact hnone confirmed' hmem
    · -- the request that has consumed the token
      cases haction
      obtain ⟨phase, hkept⟩ := step_keeps hfound htaken
      obtain rfl := Option.some.inj (hkept.symm.trans hfound')
      obtain rfl : ConfirmedAction.ofRow row = confirmed := Option.some.inj (hasked.symm.trans hasked')
      refine ⟨⟨token, now, List.mem_cons_self⟩, fun confirmed' hmem => ?_⟩
      rcases List.mem_cons.mp hmem with heq | hmem
      · cases heq
      · obtain ⟨request', hfound', hstarting⟩ := h.executed id confirmed' hmem
        obtain rfl := Option.some.inj (hfound.symm.trans hfound')
        have hadvance := advance_of_step hfound rfl htaken
        cases hphase : request.phase <;> simp [hphase, Phase.starting] at hstarting <;>
          simp [hphase, State.advance] at hadvance
  · intro id' confirmed hmem
    rcases List.mem_cons.mp hmem with heq | hmem
    · cases heq
    · exact h.executed_step htaken hmem
  · intro id' lock hstarted
    rcases started_step htaken hstarted with hold | haction
    · obtain ⟨request', hfound', hexecuted⟩ := h.recorded_step htaken hold
      exact ⟨request', hfound', fun confirmed hasked' => hnew (hexecuted confirmed hasked')⟩
    · cases haction
  · refine ⟨⟨?_, ?_⟩, h.entitled⟩
    · obtain ⟨token', issuedAt, hissued, hhash', hexpires⟩ := h.rows row hrow
      obtain rfl : token' = token := hcollision token' _ issuedAt hissued (hhash'.symm.trans hhash)
      exact ⟨issuedAt, hissued, hexpires ▸ htimely⟩
    · -- a token that was accepted before has a consumed row, and this is its row
      intro id' confirmed at' haccepted
      obtain ⟨old, hold, hhash', hconsumed⟩ := h.accepted id' token confirmed at' haccepted
      obtain rfl : old = row := h.keyed.eq_of_key hold hrow (hhash'.trans hhash.symm)
      exact hconsumed hfresh

end Consumption

/-- A step of the requests that neither consumes a token nor starts an execution. -/
theorem ConfirmationInvariant.pass (h : ConfirmationInvariant hash s) {action : Action} {execution : State}
    (htaken : step s.execution action = some execution) (hconsume : ∀ id, action ≠ .consumeToken id .accepted)
    (hstart : ∀ id, action ≠ .startTool id) : ConfirmationInvariant hash { s with execution := execution } := by
  constructor
  · exact h.keyed
  · exact h.rows
  · exact h.issued
  · exact h.accepted
  · intro id request confirmed hfound hphase hasked
    rcases confirmed_step htaken hfound hphase with hold | haction
    · exact h.confirmed id request confirmed hold hphase hasked
    · exact absurd haction (hconsume id)
  · intro id confirmed hmem
    exact h.executed_step htaken hmem
  · intro id lock hstarted
    rcases started_step htaken hstarted with hold | haction
    · exact h.recorded_step htaken hold
    · exact absurd haction (hstart id)
  · exact h.entitled

/-- The start of an execution. -/
theorem ConfirmationInvariant.start (h : ConfirmationInvariant hash s) {execution : State}
    (htaken : step s.execution (.startTool id) = some execution) :
    ConfirmationInvariant hash
      { s with execution := execution, log := s.execution.confirmedStarts (.startTool id) ++ s.log } := by
  obtain ⟨request, hfound⟩ : ∃ request, s.execution.requests[id]? = some request := by
    cases hfound : s.execution.requests[id]? with
    | none => simp [step, Action.request?, hfound] at htaken
    | some request => exact ⟨request, rfl⟩
  obtain ⟨hexecution, hentitled⟩ := startTool_cases hfound htaken
  have hnew {event : ConfirmationEvent} (hmem : event ∈ s.log) :
      event ∈ s.execution.confirmedStarts (.startTool id) ++ s.log := List.mem_append_right _ hmem
  -- the new entries are the execution of this request
  have hstarts {event : ConfirmationEvent} (hmem : event ∈ s.execution.confirmedStarts (.startTool id)) :
      ∃ confirmed, request.confirmedAction? = some confirmed ∧ event = .executed id confirmed := by
    simp only [State.confirmedStarts, hfound, Option.bind_some] at hmem
    cases hasked : request.confirmedAction? with
    | none => simp [hasked] at hmem
    | some confirmed => exact ⟨confirmed, rfl, by simpa [hasked] using hmem⟩
  have hself : execution.requests[id]? = some { request with phase := .executing } := by
    rw [hexecution]
    exact enter_self hfound
  constructor
  · exact h.keyed
  · intro row hrow
    obtain ⟨token, issuedAt, hissued, hrest⟩ := h.rows row hrow
    exact ⟨token, issuedAt, hnew hissued, hrest⟩
  · intro token confirmed issuedAt hissued
    rcases List.mem_append.mp hissued with hmem | hmem
    · obtain ⟨confirmed', -, heq⟩ := hstarts hmem
      cases heq
    · exact h.issued token confirmed issuedAt hmem
  · intro id' token confirmed at' haccepted
    rcases List.mem_append.mp haccepted with hmem | hmem
    · obtain ⟨confirmed', -, heq⟩ := hstarts hmem
      cases heq
    · exact h.accepted id' token confirmed at' hmem
  · intro id' request' confirmed hfound' hphase hasked
    rcases confirmed_step htaken hfound' hphase with hold | haction
    · obtain ⟨⟨token, at', haccepted⟩, hnone⟩ := h.confirmed id' request' confirmed hold hphase hasked
      refine ⟨⟨token, at', hnew haccepted⟩, fun confirmed' hmem => ?_⟩
      rcases List.mem_append.mp hmem with hmem | hmem
      · obtain ⟨confirmed'', -, heq⟩ := hstarts hmem
        cases heq
        rw [hself] at hfound'
        obtain rfl := Option.some.inj hfound'
        cases hphase
      · exact hnone confirmed' hmem
    · cases haction
  · intro id' confirmed hmem
    rcases List.mem_append.mp hmem with hmem | hmem
    · obtain ⟨confirmed', -, heq⟩ := hstarts hmem
      cases heq
      exact ⟨_, hself, rfl⟩
    · exact h.executed_step htaken hmem
  · intro id' lock hstarted
    rcases started_step htaken hstarted with hold | haction
    · obtain ⟨request', hfound', hexecuted⟩ := h.recorded_step htaken hold
      exact ⟨request', hfound', fun confirmed hasked => hnew (hexecuted confirmed hasked)⟩
    · cases haction
      refine ⟨_, hself, fun confirmed hasked => List.mem_append_left _ ?_⟩
      rw [confirmedAction_enter] at hasked
      simp [State.confirmedStarts, hfound, hasked]
  · cases hasked : request.confirmedAction? with
    | none => simpa [State.confirmedStarts, hfound, hasked] using h.entitled
    | some confirmed =>
        rcases hentitled with hnone | hphase
        · rw [hasked] at hnone
          cases hnone
        · have hexecuted : EntitledLog (.executed id confirmed :: s.log) :=
            ⟨h.confirmed id request confirmed hfound hphase hasked, h.entitled⟩
          simpa [State.confirmedStarts, hfound, hasked] using hexecuted

/-- Every step without a collision keeps the invariant. -/
theorem ConfirmationInvariant.step (h : ConfirmationInvariant hash s) {action : ConfirmationStep}
    (hcollision : NoCollision hash s action) (hstep : confirmationStep hash s action = some t) :
    ConfirmationInvariant hash t := by
  cases action with
  | intercept userId eventId reason token now delivery =>
      obtain rfl := Option.some.inj hstep
      have hcases : s.intercept hash userId eventId reason token now delivery = s ∨ _ := intercept_cases
      rcases hcases with heq | ⟨row, habsent, hhash, hexpires, heq⟩
      · rw [heq]
        exact h
      · rw [heq]
        exact h.issue habsent hhash hexpires
  | consume id now delivery =>
      cases consume_cases hstep with
      | refused result execution condition unaccepted taken => exact h.refuse unaccepted taken
      | accepted request eventId reason token execution condition row found carries taken mem reached hashed fresh timely
          asked =>
          exact h.accept found taken mem reached hashed fresh timely asked
            (hcollision request eventId reason token found carries)
  | execution action =>
      cases action with
      | consumeToken => cases hstep
      | startTool id =>
          obtain ⟨execution, htaken, ht⟩ := Option.bind_eq_some_iff.mp hstep
          obtain rfl := Option.some.inj ht
          exact h.start htaken
      | arrive | acquire | finishTool | commit | release | abandon =>
          obtain ⟨execution, htaken, ht⟩ := Option.bind_eq_some_iff.mp hstep
          obtain rfl := Option.some.inj ht
          exact h.pass htaken (by simp) (by simp)

end Invariant

/-- In every run without hash collisions, every execution of a tool that needs a confirmation is in the log, and every
entry of the log is entitled: the execution has an accepted token of its own, and the token was issued for the same
tenant, tool, event and reason, had not expired and was accepted once. -/
theorem confirmed_executions {hash : String → String} {s : Confirmations}
    (hrun : Reaches (confirmationStep hash) (NoCollision hash) .initial s) :
    EntitledLog s.log ∧
      ∀ id lock, Event.started id lock ∈ s.execution.history →
        ∃ request, s.execution.requests[id]? = some request ∧
          ∀ confirmed, request.confirmedAction? = some confirmed →
            ConfirmationEvent.executed id confirmed ∈ s.log := by
  have hinv : ConfirmationInvariant hash s :=
    hrun.invariant confirmationInvariant_initial fun _ _ _ hinv hcollision hstep => hinv.step hcollision hstep
  exact ⟨hinv.entitled, hinv.recorded⟩

theorem noCollision_of_injective {hash : String → String} (h : Function.Injective hash) (s : Confirmations)
    (action : ConfirmationStep) : NoCollision hash s action := by
  cases action with
  | consume id now delivery =>
      intro request eventId reason token hfound hcarries token' confirmed issuedAt hissued hhash
      exact h hhash
  | intercept | execution => trivial

/-- A hash with the digest of one token. -/
def sampleHash (token : String) : String :=
  if token = "token" then "3c469e9d6c5875d37a43f353d4f88e61fcf812c66eee3457465a40b0da4153e0" else "of " ++ token

theorem sampleHash_injective : Function.Injective sampleHash := by
  intro token token' h
  have hdigest (other : String) : "3c469e9d6c5875d37a43f353d4f88e61fcf812c66eee3457465a40b0da4153e0" ≠ "of " ++ other := by
    intro heq
    have hfirst := congrArg (fun text => text.toList.head?) heq
    simp at hfirst
  unfold sampleHash at h
  split at h
  · split at h
    · simp_all
    · exact absurd h (hdigest token')
  · split at h
    · exact absurd h.symm (hdigest token)
    · exact (String.append_right_inj "of ").mp h

/-- A cancellation that is asked for, confirmed and executed. -/
def sampleConfirmed : List ConfirmationStep :=
  let company := "11111111-1111-4111-8111-111111111111"
  [.intercept company "event-1" none "token" 0 .answered,
    .execution (.arrive company "cancel-1" (.cancelEvent "event-1" none "token")), .execution (.acquire 0 5000000 .answered),
    .consume 0 6000000 .answered, .execution (.startTool 0)]

theorem confirmed_executions_sample :
    EntitledLog (final (confirmationStep sampleHash) .initial sampleConfirmed).log ∧
      ∃ confirmed, ConfirmationEvent.executed 0 confirmed ∈
        (final (confirmationStep sampleHash) .initial sampleConfirmed).log := by
  have hexecute : execute (confirmationStep sampleHash) .initial sampleConfirmed =
      some (final (confirmationStep sampleHash) .initial sampleConfirmed) := execute_final (by decide +kernel)
  obtain ⟨hentitled, hrecorded⟩ := confirmed_executions
    (.of_execute_allowed (fun action _ s => noCollision_of_injective sampleHash_injective s action) hexecute)
  obtain ⟨request, hfound, hexecuted⟩ := hrecorded 0
    (some 0x11111111111141118111111111111111, "cancel-1") (by decide +kernel)
  refine ⟨hentitled, ⟨some 0x11111111111141118111111111111111, "cancel_event", "event-1", none⟩, hexecuted _ ?_⟩
  have hcancelled : (final (confirmationStep sampleHash) .initial sampleConfirmed).execution.requests[0]? =
      some { sampleExecuting with
        idempotencyKey := "cancel-1", parameters := .cancelEvent "event-1" none "token" } := by
    decide +kernel
  obtain rfl := Option.some.inj (hcancelled.symm.trans hfound)
  decide +kernel

end Backend
end VoiceAssistants
