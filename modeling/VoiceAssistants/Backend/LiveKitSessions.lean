import VoiceAssistants.Collections.Slots
import VoiceAssistants.Async.Run
import VoiceAssistants.Backend.SessionContext
import VoiceAssistants.Sql.Table

/-!
# Voice sessions in the browser

`GET /livekit/token` dispatches an agent to a room of LiveKit and issues a token for it (`backend/app/api/settings.py`).
The row of `livekit_sessions` (`db/livekit_sessions.py`) says which dispatch a session has; the dispatch is made inside the
transaction that inserts the row, under an advisory lock on the company and the session id.

`State` is the ledger, the requests, and what has been created at LiveKit, while the requests proceed in any order and fail
at any point.

* `one_dispatch_per_session` — a session gets a second dispatch exactly if a transaction is rolled back after it has made
  one and the session is requested again.
* `rooms_isolated` — tokens stay apart in every run; dispatches do if no session id is used for two companies.

A request starts where its header is verified and its profile and its time zone are found.
-/

namespace VoiceAssistants
namespace LiveKitSessions

open Sql Async
open Collections (getElem?_concat_cases getElem?_set_cases)
open SessionContext (InternalSessionContext VerifiedSessionContext Settings)

/-- A row of `livekit_sessions`. -/
structure Session where
  userId : String
  sessionId : String
  roomName : String
  dispatchId : String
  profileVersion : Int
  deriving DecidableEq, Repr

/-- The primary key. -/
def Session.key (row : Session) : String × String :=
  (row.userId, row.sessionId)

/-- The primary key or `UNIQUE (room_name)` does not admit both rows. -/
def Session.violates (row other : Session) : Bool :=
  row.key == other.key || row.roomName == other.roomName

/-- A dispatch at LiveKit.  Its metadata is kept as the context that is signed. -/
structure Dispatch where
  room : String
  metadata : VerifiedSessionContext
  deriving DecidableEq, Repr

/-- The company of the signed context. -/
def Dispatch.company (dispatch : Dispatch) : String :=
  dispatch.metadata.companyId

/-- An access token, and the company that it is issued to. -/
structure Token where
  issuedTo : String
  identity : String
  name : Option String
  room : String
  deriving DecidableEq, Repr

/-- How far a request is. -/
inductive Phase
  | waiting
  | locked
  | reusing (session : Session)
  /-- The session has no row. -/
  | missing
  | dispatched (dispatchId : String)
  | inserted (dispatchId : String)
  /-- `get_or_create_session` has returned. -/
  | ready (session : Session)
  | served
  /-- The answer is 409, `SessionProfileConflict`. -/
  | conflict
  | failed
  /-- It failed, and its transaction was rolled back after it had made a dispatch. -/
  | orphaned
  deriving DecidableEq, Repr

namespace Phase

/-- The transaction has begun and has not ended. -/
def isOpen : Phase → Bool
  | locked | reusing _ | missing | dispatched _ | inserted _ => true
  | _ => false

/-- The row was looked for and not found. -/
def searched : Phase → Bool
  | missing | dispatched _ | inserted _ => true
  | _ => false

/-- A dispatch was made that no committed row records. -/
def unrecorded : Phase → Bool
  | dispatched _ | inserted _ | orphaned => true
  | _ => false

/-- The session that was found or created. -/
def session? : Phase → Option Session
  | reusing session | ready session => some session
  | _ => none

end Phase

/-- A request for a token. -/
structure Request where
  context : InternalSessionContext
  /-- `resolved_session_id` -/
  sessionId : String
  /-- `resolved_profile_version` -/
  profileVersion : Int
  /-- `session_timezone` -/
  timezone : String
  /-- When the metadata of a dispatch is signed. -/
  issuedAt : Int
  participantName : Option String
  phase : Phase
  deriving DecidableEq, Repr

structure State where
  /-- The committed rows. -/
  sessions : List Session
  requests : List Request
  dispatches : List Dispatch
  tokens : List Token
  deriving DecidableEq, Repr

def State.initial : State := ⟨[], [], [], []⟩

/-- `hash` is `hashtextextended(text, 0)`, and `sha256` is a hexadecimal digest. -/
structure Config (H : Type) where
  settings : Settings
  hash : (text : String) → H
  sha256 : (text : String) → String

/-! ## A request -/

/-- `requested_room` -/
def requestedRoom (sessionId : String) : String :=
  "sandbox-" ++ sessionId

theorem requestedRoom_injective {first second : String} (h : requestedRoom first = requestedRoom second) :
    first = second := by
  have htexts := congrArg String.toList h
  simpa [requestedRoom, String.toList_inj] using htexts

/-- `session_id or uuid.uuid4().hex`, of a session id of 8 to 128 characters; `none` is the 422. -/
def resolvedSessionId (sessionId : Option String) (hex : String) : Option String :=
  match sessionId with
  | none => some hex
  | some sessionId => if 8 ≤ sessionId.length ∧ sessionId.length ≤ 128 then some sessionId else none

namespace Request

variable (request : Request)

def company : String :=
  request.context.companyId

/-- The room that the request asks for. -/
def room : String :=
  requestedRoom request.sessionId

/-- The company and the session id. -/
def key : String × String :=
  (request.company, request.sessionId)

/-- The text of the advisory lock. -/
def lockText : String :=
  "livekit:" ++ request.company ++ ":" ++ request.sessionId

/-- The row that the request inserts. -/
def row (dispatchId : String) : Session :=
  { userId := request.company, sessionId := request.sessionId, roomName := request.room, dispatchId,
    profileVersion := request.profileVersion }

/-- The row that the request's open transaction has inserted. -/
def uncommitted : Option Session :=
  match request.phase with
  | .inserted dispatchId => some (request.row dispatchId)
  | _ => none

/-- `dispatch_metadata` -/
def metadata (settings : Settings) : VerifiedSessionContext :=
  settings.issued { request.context with profileVersion := some request.profileVersion, timezone := some request.timezone }
    request.issuedAt

/-- `CreateAgentDispatchRequest` -/
def dispatch (settings : Settings) : Dispatch :=
  { room := request.room, metadata := request.metadata settings }

end Request

section Machine

variable {H : Type} [DecidableEq H] (config : Config H)

/-- `stable_participant_identity` -/
def stableParticipantIdentity (companyId sessionId : String) : String :=
  "user-" ++ ((config.sha256 (companyId ++ ":" ++ sessionId)).take 16).toString

/-- The key of the advisory lock. -/
def lockKey (request : Request) : H :=
  config.hash request.lockText

/-- How the call of LiveKit ends. -/
inductive DispatchOutcome
  | returned (dispatchId : String)
  /-- The dispatch is created, but the call raises or returns no identifier. -/
  | lost
  | refused
  deriving DecidableEq, Repr

/-- A dispatch is created. -/
def DispatchOutcome.creates : DispatchOutcome → Bool
  | returned _ | lost => true
  | refused => false

inductive CommitOutcome
  | committed
  /-- It is committed, but the connection is lost. -/
  | lost
  | rolledBack
  deriving DecidableEq, Repr

inductive Move
  | lock
  | lookup
  | createDispatch (outcome : DispatchOutcome)
  | insert
  | commit (outcome : CommitOutcome)
  | issueToken
  /-- A statement or a call raises, or the request is cancelled. -/
  | raise
  deriving DecidableEq, Repr

inductive Action
  | request (context : InternalSessionContext) (sessionId : Option String) (hex : String) (profileVersion : Int)
      (timezone : String) (issuedAt : Int) (participantName : Option String)
  | move (index : Nat) (move : Move)
  deriving DecidableEq, Repr

/-- What a move of a request does. -/
structure Effect where
  phase : Phase
  session : Option Session := none
  dispatch : Option Dispatch := none
  token : Option Token := none

/-- `get_or_create_session`, `create_dispatch` and what `generate_livekit_token` does with the session, one statement or
call at a time.  An insert waits for an open transaction with a conflicting row. -/
def State.perform (s : State) (request : Request) : Move → Option Effect
  | .lock =>
      if request.phase = .waiting ∧
          ∀ other ∈ s.requests, other.phase.isOpen = true → lockKey config other ≠ lockKey config request then
        some { phase := .locked }
      else none
  | .lookup =>
      if request.phase = .locked then
        match selectKey Session.key request.key s.sessions with
        | some session =>
            if session.profileVersion ≠ request.profileVersion then some { phase := .conflict }
            else some { phase := .reusing session }
        | none => some { phase := .missing }
      else none
  | .createDispatch outcome =>
      if request.phase = .missing then
        match outcome with
        | .returned dispatchId =>
            some { phase := .dispatched dispatchId, dispatch := some (request.dispatch config.settings) }
        | .lost => some { phase := .orphaned, dispatch := some (request.dispatch config.settings) }
        | .refused => some { phase := .failed }
      else none
  | .insert =>
      match request.phase with
      | .dispatched dispatchId =>
          if s.sessions.any (request.row dispatchId).violates then some { phase := .orphaned }
          else if s.requests.any fun other => other.uncommitted.any (request.row dispatchId).violates then none
          else some { phase := .inserted dispatchId }
      | _ => none
  | .commit outcome =>
      match request.phase, outcome with
      | .reusing session, .committed => some { phase := .ready session }
      | .reusing _, .lost | .reusing _, .rolledBack => some { phase := .failed }
      | .inserted dispatchId, .committed =>
          some { phase := .ready (request.row dispatchId), session := some (request.row dispatchId) }
      | .inserted dispatchId, .lost => some { phase := .failed, session := some (request.row dispatchId) }
      | .inserted _, .rolledBack => some { phase := .orphaned }
      | _, _ => none
  | .issueToken =>
      match request.phase with
      | .ready session =>
          some { phase := .served,
                 token := some { issuedTo := request.company,
                                 identity := stableParticipantIdentity config request.company request.sessionId,
                                 name := request.participantName, room := session.roomName } }
      | _ => none
  | .raise =>
      match request.phase with
      | .waiting | .locked | .reusing _ | .missing | .ready _ => some { phase := .failed }
      | .dispatched _ | .inserted _ => some { phase := .orphaned }
      | _ => none

def State.apply (s : State) (index : Nat) (request : Request) (effect : Effect) : State where
  sessions := s.sessions ++ effect.session.toList
  requests := s.requests.set index { request with phase := effect.phase }
  dispatches := s.dispatches ++ effect.dispatch.toList
  tokens := s.tokens ++ effect.token.toList

def step (s : State) : Action → Option State
  | .request context sessionId hex profileVersion timezone issuedAt participantName =>
      (resolvedSessionId sessionId hex).map fun sessionId =>
        { s with requests := s.requests ++ [{ context, sessionId, profileVersion, timezone, issuedAt, participantName,
                                              phase := .waiting }] }
  | .move index move => do
      let request ← s.requests[index]?
      let effect ← s.perform config request move
      return s.apply index request effect

end Machine

/-! ## What a move can do -/

section Moves

variable {H : Type} [DecidableEq H] (config : Config H) (s : State) (request : Request)

/-- What a move does in a phase. -/
inductive Performs : Move → Phase → Effect → Prop
  | lock (hfree : ∀ other ∈ s.requests, other.phase.isOpen = true → lockKey config other ≠ lockKey config request) :
      Performs .lock .waiting { phase := .locked }
  | conflict : Performs .lookup .locked { phase := .conflict }
  | reuse (session : Session) (hmem : session ∈ s.sessions) (hkey : session.key = request.key) :
      Performs .lookup .locked { phase := .reusing session }
  | missing (hnone : ∀ row ∈ s.sessions, row.key ≠ request.key) : Performs .lookup .locked { phase := .missing }
  | dispatched (dispatchId : String) :
      Performs (.createDispatch (.returned dispatchId)) .missing
        { phase := .dispatched dispatchId, dispatch := some (request.dispatch config.settings) }
  | dispatchLost :
      Performs (.createDispatch .lost) .missing
        { phase := .orphaned, dispatch := some (request.dispatch config.settings) }
  | insert (dispatchId : String) (hsessions : ∀ row ∈ s.sessions, (request.row dispatchId).violates row = false)
      (hrequests : ∀ other ∈ s.requests, ∀ row, other.uncommitted = some row →
        (request.row dispatchId).violates row = false) :
      Performs .insert (.dispatched dispatchId) { phase := .inserted dispatchId }
  | reused (session : Session) : Performs (.commit .committed) (.reusing session) { phase := .ready session }
  | created (dispatchId : String) :
      Performs (.commit .committed) (.inserted dispatchId)
        { phase := .ready (request.row dispatchId), session := some (request.row dispatchId) }
  | answerLost (dispatchId : String) :
      Performs (.commit .lost) (.inserted dispatchId)
        { phase := .failed, session := some (request.row dispatchId) }
  | token (session : Session) (identity : String) :
      Performs .issueToken (.ready session)
        { phase := .served,
          token := some { issuedTo := request.company, identity, name := request.participantName,
                          room := session.roomName } }
  | failed (move : Move) (before : Phase) (hrecorded : before.unrecorded = false) :
      Performs move before { phase := .failed }
  | orphaned (move : Move) (before : Phase) (hunrecorded : before.unrecorded = true) :
      Performs move before { phase := .orphaned }

variable {config s request}

theorem performs_of_perform {move : Move} {effect : Effect} (h : s.perform config request move = some effect) :
    Performs config s request move request.phase effect := by
  cases move with
  | lock =>
      simp only [State.perform] at h
      split at h
      · rename_i hguard
        obtain rfl := Option.some.inj h
        rw [hguard.1]
        exact .lock hguard.2
      · cases h
  | lookup =>
      simp only [State.perform] at h
      split at h
      · rename_i hphase
        rw [hphase]
        cases hfound : selectKey Session.key request.key s.sessions with
        | some session =>
            simp only [hfound] at h
            split at h
            · obtain rfl := Option.some.inj h
              exact .conflict
            · obtain rfl := Option.some.inj h
              exact .reuse session (selectKey_mem hfound) (selectKey_key hfound)
        | none =>
            simp only [hfound, Option.some.injEq] at h
            obtain rfl := h
            exact .missing (selectKey_eq_none.mp hfound)
      · cases h
  | createDispatch outcome =>
      simp only [State.perform] at h
      split at h
      · rename_i hphase
        rw [hphase]
        cases outcome with
        | returned dispatchId =>
            obtain rfl := Option.some.inj h
            exact .dispatched dispatchId
        | lost =>
            obtain rfl := Option.some.inj h
            exact .dispatchLost
        | refused =>
            obtain rfl := Option.some.inj h
            exact .failed _ _ rfl
      · cases h
  | insert =>
      simp only [State.perform] at h
      split at h
      · rename_i dispatchId hphase
        rw [hphase]
        split at h
        · obtain rfl := Option.some.inj h
          exact .orphaned _ _ rfl
        · rename_i hsessions
          split at h
          · cases h
          · rename_i hrequests
            obtain rfl := Option.some.inj h
            apply Performs.insert dispatchId
            · simpa using hsessions
            · intro other hother row hrow
              have hany : other.uncommitted.any (request.row dispatchId).violates = false := by
                simp only [List.any_eq_true, not_exists, not_and, Bool.not_eq_true] at hrequests
                exact hrequests other hother
              rw [hrow] at hany
              exact hany
      · cases h
  | commit outcome =>
      simp only [State.perform] at h
      split at h
      case h_1 session hphase =>
        obtain rfl := Option.some.inj h
        rw [hphase]
        exact .reused session
      case h_2 session hphase | h_3 session hphase =>
        obtain rfl := Option.some.inj h
        rw [hphase]
        exact .failed _ _ rfl
      case h_4 dispatchId hphase =>
        obtain rfl := Option.some.inj h
        rw [hphase]
        exact .created dispatchId
      case h_5 dispatchId hphase =>
        obtain rfl := Option.some.inj h
        rw [hphase]
        exact .answerLost dispatchId
      case h_6 dispatchId hphase =>
        obtain rfl := Option.some.inj h
        rw [hphase]
        exact .orphaned _ _ rfl
      case h_7 => cases h
  | issueToken =>
      simp only [State.perform] at h
      split at h
      · rename_i session hphase
        obtain rfl := Option.some.inj h
        rw [hphase]
        exact .token session _
      · cases h
  | raise =>
      cases hphase : request.phase
      all_goals simp only [State.perform, hphase, Option.some.injEq, reduceCtorEq] at h
      case waiting | locked | reusing | missing | ready =>
        obtain rfl := h
        exact .failed _ _ rfl
      case dispatched | inserted =>
        obtain rfl := h
        exact .orphaned _ _ rfl

end Moves

/-! ## The invariant -/

section Invariant

variable {H : Type} {config : Config H} {s t : State} {request : Request} {move : Move} {effect : Effect}
  {index : Nat} {row : Session}

theorem violates_eq_false {other : Session} (h : row.violates other = false) :
    row.key ≠ other.key ∧ row.roomName ≠ other.roomName := by
  simpa [Session.violates] using h

/-- The lock is that of the company and the session id. -/
theorem lockKey_eq {first second : Request} (h : first.key = second.key) :
    lockKey config first = lockKey config second := by
  obtain ⟨hcompany, hsession⟩ := Prod.mk.inj h
  unfold lockKey Request.lockText
  rw [hcompany, hsession]

theorem uncommitted_eq_some {phase : Phase} (h : { request with phase }.uncommitted = some row) :
    ∃ dispatchId, phase = .inserted dispatchId ∧ row = request.row dispatchId := by
  cases phase with
  | inserted dispatchId => exact ⟨dispatchId, rfl, (Option.some.inj h).symm⟩
  | _ => cases h

theorem getElem?_apply {position : Nat} {other : Request}
    (h : (s.apply index request effect).requests[position]? = some other) :
    (position = index ∧ other = { request with phase := effect.phase }) ∨
      (position ≠ index ∧ s.requests[position]? = some other) := by
  change (s.requests.set index _)[position]? = some other at h
  exact getElem?_set_cases h

/-- The requests after a move. -/
theorem mem_apply {other : Request} (h : other ∈ (s.apply index request effect).requests) :
    other = { request with phase := effect.phase } ∨ other ∈ s.requests :=
  (List.mem_or_eq_of_mem_set h).symm

theorem self_mem_apply (effect : Effect) (hindex : s.requests[index]? = some request) :
    { request with phase := effect.phase } ∈ (s.apply index request effect).requests :=
  List.mem_set (List.getElem?_eq_some_iff.mp hindex).1 _

theorem mem_apply_of_mem (effect : Effect) (hindex : s.requests[index]? = some request) {other : Request} (h : other ∈ s.requests) :
    other = request ∨ other ∈ (s.apply index request effect).requests := by
  obtain ⟨position, hposition⟩ := List.mem_iff_getElem?.mp h
  by_cases heq : position = index
  · rw [heq, hindex] at hposition
    exact .inl (Option.some.inj hposition).symm
  · refine .inr (List.mem_of_getElem? (i := position) ?_)
    show (s.requests.set index _)[position]? = some other
    rw [List.getElem?_set_ne (Ne.symm heq), hposition]

theorem mem_sessions_apply :
    row ∈ (s.apply index request effect).sessions ↔ row ∈ s.sessions ∨ effect.session = some row := by
  simp [State.apply]

theorem mem_dispatches_apply {dispatch : Dispatch} : dispatch ∈ (s.apply index request effect).dispatches ↔
    dispatch ∈ s.dispatches ∨ effect.dispatch = some dispatch := by
  simp [State.apply]

theorem mem_tokens_apply {token : Token} :
    token ∈ (s.apply index request effect).tokens ↔ token ∈ s.tokens ∨ effect.token = some token := by
  simp [State.apply]

/-- What holds of the ledger, the requests and LiveKit in every run. -/
structure Invariant (config : Config H) (s : State) : Prop where
  /-- Two open transactions have different locks. -/
  locks : ∀ (i j : Nat) (first second : Request), s.requests[i]? = some first → s.requests[j]? = some second → i ≠ j →
    first.phase.isOpen = true → second.phase.isOpen = true → lockKey config first ≠ lockKey config second
  rooms : ∀ row ∈ s.sessions, row.roomName = requestedRoom row.sessionId
  keyed : Keyed Session.roomName s.sessions
  /-- A row that was not found is not there until it is inserted. -/
  searched : ∀ request ∈ s.requests, request.phase.searched = true → ∀ row ∈ s.sessions, row.key ≠ request.key
  /-- A row that has been inserted can be committed. -/
  inserted : ∀ request ∈ s.requests, ∀ row, request.uncommitted = some row →
    ∀ other ∈ s.sessions, other.roomName ≠ row.roomName
  uncommitted : ∀ (i j : Nat) (first second : Request) (row other : Session), s.requests[i]? = some first →
    s.requests[j]? = some second → i ≠ j → first.uncommitted = some row → second.uncommitted = some other → row.roomName ≠ other.roomName
  found : ∀ request ∈ s.requests, ∀ session, request.phase.session? = some session →
    session ∈ s.sessions ∧ session.key = request.key
  unrecorded : ∀ request ∈ s.requests, request.phase.unrecorded = true →
    request.dispatch config.settings ∈ s.dispatches
  recorded : ∀ row ∈ s.sessions, ∃ dispatch ∈ s.dispatches,
    dispatch.company = row.userId ∧ dispatch.room = row.roomName
  /-- A dispatch is that of a row, or of a request whose transaction has not been committed. -/
  owned : ∀ dispatch ∈ s.dispatches,
    (∃ row ∈ s.sessions, row.userId = dispatch.company ∧ row.roomName = dispatch.room) ∨
    ∃ request ∈ s.requests, request.phase.unrecorded = true ∧ request.company = dispatch.company ∧
      request.room = dispatch.room
  tokens : ∀ token ∈ s.tokens, ∃ row ∈ s.sessions, row.userId = token.issuedTo ∧ row.roomName = token.room

theorem Invariant.initial (config : Config H) : Invariant config .initial := by
  constructor <;> simp [State.initial, Keyed]

/-! ### The rows -/

/-- A row is committed by the request that has inserted it. -/
theorem session_of_performs (h : Performs config s request move request.phase effect) (hsession : effect.session = some row) :
    request.phase.isOpen = true ∧ effect.phase.searched = false ∧ { request with phase := effect.phase }.uncommitted = none ∧
      request.uncommitted = some row ∧ row.key = request.key ∧ row.roomName = request.room ∧
      request.phase.unrecorded = true := by
  generalize hbefore : request.phase = before at h
  cases h with
  | created dispatchId | answerLost dispatchId =>
      obtain rfl := Option.some.inj hsession
      refine ⟨rfl, rfl, rfl, ?_, rfl, rfl, rfl⟩
      rw [Request.uncommitted, hbefore]
  | _ => cases hsession

section Step

variable (hinvariant : Invariant config s) (hindex : s.requests[index]? = some request)
  (h : Performs config s request move request.phase effect)

include hinvariant hindex h

omit h in
/-- Another open request has another session. -/
theorem key_ne_of_open {position : Nat} {other : Request} (hposition : s.requests[position]? = some other)
    (hne : position ≠ index) (hopen : other.phase.isOpen = true) (hrequest : request.phase.isOpen = true) :
    other.key ≠ request.key :=
  fun hkey => hinvariant.locks position index other request hposition hindex hne hopen hrequest (lockKey_eq hkey)

theorem locks_apply (i j : Nat) (first second : Request) (hfirst : (s.apply index request effect).requests[i]? = some first)
    (hsecond : (s.apply index request effect).requests[j]? = some second) (hne : i ≠ j)
    (hopenFirst : first.phase.isOpen = true) (hopenSecond : second.phase.isOpen = true) :
    lockKey config first ≠ lockKey config second := by
  -- a transaction that was open keeps its lock, one that begins takes a free one
  have hopens : effect.phase.isOpen = true → request.phase.isOpen = true ∨
      ∀ other ∈ s.requests, other.phase.isOpen = true → lockKey config other ≠ lockKey config request := by
    generalize request.phase = before at h
    intro hopen
    cases h with
    | lock hfree => exact .inr hfree
    | failed | orphaned | conflict | dispatchLost | reused | created | answerLost | token => cases hopen
    | _ => exact .inl rfl
  have hother : ∀ (position : Nat) (other : Request), position ≠ index → s.requests[position]? = some other →
      other.phase.isOpen = true → effect.phase.isOpen = true → lockKey config other ≠ lockKey config request := by
    intro position other hposition hget hopen heffect
    rcases hopens heffect with hwas | hfree
    · exact hinvariant.locks position index other request hget hindex hposition hopen hwas
    · exact hfree other (List.mem_of_getElem? hget) hopen
  rcases getElem?_apply hfirst with ⟨hi, rfl⟩ | ⟨hi, hfirst⟩
  · rcases getElem?_apply hsecond with ⟨hj, -⟩ | ⟨hj, hsecond⟩
    · exact absurd (hi.trans hj.symm) hne
    · exact (hother j second hj hsecond hopenSecond hopenFirst).symm
  · rcases getElem?_apply hsecond with ⟨hj, rfl⟩ | ⟨hj, hsecond⟩
    · exact hother i first hi hfirst hopenFirst hopenSecond
    · exact hinvariant.locks i j first second hfirst hsecond hne hopenFirst hopenSecond

omit hindex in
theorem rooms_apply : ∀ row ∈ (s.apply index request effect).sessions, row.roomName = requestedRoom row.sessionId := by
  intro row hrow
  rcases mem_sessions_apply.mp hrow with hrow | hrow
  · exact hinvariant.rooms row hrow
  · obtain ⟨-, -, -, -, hkey, hroom, -⟩ := session_of_performs h hrow
    rw [hroom, (Prod.mk.inj hkey).2]
    rfl

theorem keyed_apply : Keyed Session.roomName (s.apply index request effect).sessions := by
  cases hsession : effect.session with
  | none =>
      show Keyed Session.roomName (s.sessions ++ effect.session.toList)
      rw [hsession, Option.toList_none, List.append_nil]
      exact hinvariant.keyed
  | some row =>
      obtain ⟨-, -, -, huncommitted, -⟩ := session_of_performs h hsession
      show Keyed Session.roomName (s.sessions ++ effect.session.toList)
      rw [hsession]
      exact keyed_append hinvariant.keyed
        (hinvariant.inserted request (List.mem_of_getElem? hindex) row huncommitted)

theorem searched_apply : ∀ other ∈ (s.apply index request effect).requests, other.phase.searched = true →
    ∀ row ∈ (s.apply index request effect).sessions, row.key ≠ other.key := by
  intro other hother hsearched row hrow
  obtain ⟨position, hposition⟩ := List.mem_iff_getElem?.mp hother
  rcases mem_sessions_apply.mp hrow with hstored | hcommitted
  · rcases getElem?_apply hposition with ⟨-, rfl⟩ | ⟨-, hposition⟩
    · -- the row was looked for before, or now
      have hold := hinvariant.searched request (List.mem_of_getElem? hindex)
      change row.key ≠ request.key
      generalize request.phase = before at h hold
      cases h with
      | missing hnone => exact hnone row hstored
      | dispatched | insert => exact hold rfl row hstored
      | _ => cases hsearched
    · exact hinvariant.searched other (List.mem_of_getElem? hposition) hsearched row hstored
  · obtain ⟨hopen, hleft, -, -, hkey, -⟩ := session_of_performs h hcommitted
    rcases getElem?_apply hposition with ⟨-, rfl⟩ | ⟨hne, hposition⟩
    · exact absurd hsearched (by simp [hleft])
    · -- the transaction that commits the row has the lock of its session
      have hopenOther : other.phase.isOpen = true := by
        revert hsearched
        cases other.phase <;> simp [Phase.searched, Phase.isOpen]
      rw [hkey]
      exact (key_ne_of_open hinvariant hindex hposition hne hopenOther hopen).symm

theorem inserted_apply : ∀ other ∈ (s.apply index request effect).requests, ∀ row, other.uncommitted = some row →
    ∀ committed ∈ (s.apply index request effect).sessions, committed.roomName ≠ row.roomName := by
  intro other hother row hrow committed hcommitted
  obtain ⟨position, hposition⟩ := List.mem_iff_getElem?.mp hother
  rcases mem_sessions_apply.mp hcommitted with hstored | hcommitted
  · rcases getElem?_apply hposition with ⟨-, rfl⟩ | ⟨-, hposition⟩
    · obtain ⟨dispatchId, hphase, rfl⟩ := uncommitted_eq_some hrow
      generalize request.phase = before at h
      cases h with
      | insert dispatchId' hsessions hrequests =>
          exact (violates_eq_false (hsessions committed hstored)).2.symm
      | _ => cases hphase
    · exact hinvariant.inserted other (List.mem_of_getElem? hposition) row hrow committed hstored
  · obtain ⟨-, -, hnone, huncommitted, -⟩ := session_of_performs h hcommitted
    rcases getElem?_apply hposition with ⟨-, rfl⟩ | ⟨hne, hposition⟩
    · rw [hnone] at hrow
      cases hrow
    · exact (hinvariant.uncommitted position index other request row committed hposition hindex hne hrow
        huncommitted).symm

omit hindex in
theorem uncommitted_apply (i j : Nat) (first second : Request) (row other : Session)
    (hfirst : (s.apply index request effect).requests[i]? = some first)
    (hsecond : (s.apply index request effect).requests[j]? = some second) (hne : i ≠ j)
    (hrow : first.uncommitted = some row) (hother : second.uncommitted = some other) :
    row.roomName ≠ other.roomName := by
  have hinserts : ∀ row other, { request with phase := effect.phase }.uncommitted = some row →
      ∀ request' ∈ s.requests, request'.uncommitted = some other → row.roomName ≠ other.roomName := by
    intro row other hrow request' hmem hother
    obtain ⟨dispatchId, hphase, rfl⟩ := uncommitted_eq_some hrow
    generalize request.phase = before at h
    cases h with
    | insert dispatchId' hsessions hrequests => exact (violates_eq_false (hrequests request' hmem other hother)).2
    | _ => cases hphase
  rcases getElem?_apply hfirst with ⟨hi, rfl⟩ | ⟨hi, hfirst⟩
  · rcases getElem?_apply hsecond with ⟨hj, -⟩ | ⟨hj, hsecond⟩
    · exact absurd (hi.trans hj.symm) hne
    · exact hinserts row other hrow second (List.mem_of_getElem? hsecond) hother
  · rcases getElem?_apply hsecond with ⟨hj, rfl⟩ | ⟨hj, hsecond⟩
    · exact (hinserts other row hother first (List.mem_of_getElem? hfirst) hrow).symm
    · exact hinvariant.uncommitted i j first second row other hfirst hsecond hne hrow hother

theorem found_apply : ∀ other ∈ (s.apply index request effect).requests, ∀ session,
    other.phase.session? = some session → session ∈ (s.apply index request effect).sessions ∧ session.key = other.key := by
  intro other hother session hsession
  rcases mem_apply hother with rfl | hother
  · have hold := hinvariant.found request (List.mem_of_getElem? hindex)
    change session ∈ _ ∧ session.key = request.key
    rw [mem_sessions_apply]
    generalize request.phase = before at h hold
    cases h with
    | reuse found hmem hkey =>
        obtain rfl := Option.some.inj hsession
        exact ⟨.inl hmem, hkey⟩
    | reused found =>
        obtain rfl := Option.some.inj hsession
        obtain ⟨hmem, hkey⟩ := hold found rfl
        exact ⟨.inl hmem, hkey⟩
    | created dispatchId =>
        obtain rfl := Option.some.inj hsession
        exact ⟨.inr rfl, rfl⟩
    | _ => cases hsession
  · obtain ⟨hmem, hkey⟩ := hinvariant.found other hother session hsession
    exact ⟨mem_sessions_apply.mpr (.inl hmem), hkey⟩

/-! ### The dispatches -/

theorem unrecorded_apply : ∀ other ∈ (s.apply index request effect).requests, other.phase.unrecorded = true →
    other.dispatch config.settings ∈ (s.apply index request effect).dispatches := by
  intro other hother hunrecorded
  rw [mem_dispatches_apply]
  rcases mem_apply hother with rfl | hother
  · have hold := hinvariant.unrecorded request (List.mem_of_getElem? hindex)
    change request.dispatch config.settings ∈ _ ∨ effect.dispatch = some (request.dispatch config.settings)
    generalize request.phase = before at h hold
    cases h with
    | dispatched | dispatchLost => exact .inr rfl
    | insert => exact .inl (hold rfl)
    | orphaned move before hwas => exact .inl (hold hwas)
    | _ => cases hunrecorded
  · exact .inl (hinvariant.unrecorded other hother hunrecorded)

theorem recorded_apply : ∀ row ∈ (s.apply index request effect).sessions,
    ∃ dispatch ∈ (s.apply index request effect).dispatches,
      dispatch.company = row.userId ∧ dispatch.room = row.roomName := by
  intro row hrow
  rcases mem_sessions_apply.mp hrow with hrow | hrow
  · obtain ⟨dispatch, hmem, hsame⟩ := hinvariant.recorded row hrow
    exact ⟨dispatch, mem_dispatches_apply.mpr (.inl hmem), hsame⟩
  · obtain ⟨-, -, -, -, hkey, hroom, hunrecorded⟩ := session_of_performs h hrow
    have hmem := hinvariant.unrecorded request (List.mem_of_getElem? hindex) hunrecorded
    exact ⟨_, mem_dispatches_apply.mpr (.inl hmem), (Prod.mk.inj hkey).1.symm, hroom.symm⟩

theorem owned_apply : ∀ dispatch ∈ (s.apply index request effect).dispatches,
    (∃ row ∈ (s.apply index request effect).sessions, row.userId = dispatch.company ∧ row.roomName = dispatch.room) ∨
    ∃ other ∈ (s.apply index request effect).requests, other.phase.unrecorded = true ∧
      other.company = dispatch.company ∧ other.room = dispatch.room := by
  -- a request's dispatch stays unrecorded, or its row is committed
  have hself := self_mem_apply effect hindex
  have hkeeps : request.phase.unrecorded = true → effect.phase.unrecorded = true ∨
      ∃ row, effect.session = some row ∧ row.userId = request.company ∧ row.roomName = request.room := by
    generalize request.phase = before at h
    intro hunrecorded
    cases h with
    | insert | orphaned => exact .inl rfl
    | created dispatchId | answerLost dispatchId => exact .inr ⟨_, rfl, rfl, rfl⟩
    | failed move before hrecorded => simp [hrecorded] at hunrecorded
    | _ => cases hunrecorded
  have hmakes : ∀ dispatch, effect.dispatch = some dispatch → effect.phase.unrecorded = true ∧
      dispatch = request.dispatch config.settings := by
    generalize request.phase = before at h
    intro dispatch hdispatch
    cases h with
    | dispatched | dispatchLost => exact ⟨rfl, (Option.some.inj hdispatch).symm⟩
    | _ => cases hdispatch
  intro dispatch hdispatch
  rcases mem_dispatches_apply.mp hdispatch with hdispatch | hdispatch
  · rcases hinvariant.owned dispatch hdispatch with ⟨row, hrow, hsame⟩ | ⟨other, hother, hunrecorded, hcompany, hroom⟩
    · exact .inl ⟨row, mem_sessions_apply.mpr (.inl hrow), hsame⟩
    · rcases mem_apply_of_mem effect hindex hother with rfl | hother
      · rcases hkeeps hunrecorded with hunrecorded | ⟨row, hrow, huser, hname⟩
        · exact .inr ⟨_, hself, hunrecorded, hcompany, hroom⟩
        · exact .inl ⟨row, mem_sessions_apply.mpr (.inr hrow), huser.trans hcompany, hname.trans hroom⟩
      · exact .inr ⟨other, hother, hunrecorded, hcompany, hroom⟩
  · obtain ⟨hunrecorded, rfl⟩ := hmakes dispatch hdispatch
    exact .inr ⟨_, hself, hunrecorded, rfl, rfl⟩

theorem tokens_apply : ∀ token ∈ (s.apply index request effect).tokens,
    ∃ row ∈ (s.apply index request effect).sessions, row.userId = token.issuedTo ∧ row.roomName = token.room := by
  intro token htoken
  rcases mem_tokens_apply.mp htoken with htoken | htoken
  · obtain ⟨row, hrow, hsame⟩ := hinvariant.tokens token htoken
    exact ⟨row, mem_sessions_apply.mpr (.inl hrow), hsame⟩
  · have hfound := hinvariant.found request (List.mem_of_getElem? hindex)
    generalize request.phase = before at h hfound
    cases h with
    | token session identity =>
        obtain rfl := Option.some.inj htoken
        obtain ⟨hmem, hkey⟩ := hfound session rfl
        exact ⟨session, mem_sessions_apply.mpr (.inl hmem), (Prod.mk.inj hkey).1, rfl⟩
    | _ => cases htoken

theorem Invariant.apply : Invariant config (s.apply index request effect) where
  locks := locks_apply hinvariant hindex h
  rooms := rooms_apply hinvariant h
  keyed := keyed_apply hinvariant hindex h
  searched := searched_apply hinvariant hindex h
  inserted := inserted_apply hinvariant hindex h
  uncommitted := uncommitted_apply hinvariant h
  found := found_apply hinvariant hindex h
  unrecorded := unrecorded_apply hinvariant hindex h
  recorded := recorded_apply hinvariant hindex h
  owned := owned_apply hinvariant hindex h
  tokens := tokens_apply hinvariant hindex h

end Step

/-- A request that arrives has done nothing yet. -/
theorem Invariant.arrival (hinvariant : Invariant config s) (arrives : Request) (hphase : arrives.phase = .waiting) :
    Invariant config { s with requests := s.requests ++ [arrives] } := by
  have hmem : ∀ other ∈ s.requests ++ [arrives], other ∈ s.requests ∨ other = arrives := by simp
  have hget : ∀ (position : Nat) (other : Request), (s.requests ++ [arrives])[position]? = some other →
      s.requests[position]? = some other ∨ other = arrives := by
    intro position other hposition
    exact (getElem?_concat_cases hposition).imp_right And.right
  have huncommitted : arrives.uncommitted = none := by rw [Request.uncommitted, hphase]
  constructor
  case locks =>
    intro i j first second hfirst hsecond hne hopenFirst hopenSecond
    rcases hget i first hfirst with hfirst | rfl
    · rcases hget j second hsecond with hsecond | rfl
      · exact hinvariant.locks i j first second hfirst hsecond hne hopenFirst hopenSecond
      · simp [hphase, Phase.isOpen] at hopenSecond
    · simp [hphase, Phase.isOpen] at hopenFirst
  case rooms => exact hinvariant.rooms
  case keyed => exact hinvariant.keyed
  case searched =>
    intro other hother hsearched
    rcases hmem other hother with hother | rfl
    · exact hinvariant.searched other hother hsearched
    · simp [hphase, Phase.searched] at hsearched
  case inserted =>
    intro other hother row hrow
    rcases hmem other hother with hother | rfl
    · exact hinvariant.inserted other hother row hrow
    · rw [huncommitted] at hrow
      cases hrow
  case uncommitted =>
    intro i j first second row other hfirst hsecond hne hrow hother
    rcases hget i first hfirst with hfirst | rfl
    · rcases hget j second hsecond with hsecond | rfl
      · exact hinvariant.uncommitted i j first second row other hfirst hsecond hne hrow hother
      · rw [huncommitted] at hother
        cases hother
    · rw [huncommitted] at hrow
      cases hrow
  case found =>
    intro other hother session hsession
    rcases hmem other hother with hother | rfl
    · exact hinvariant.found other hother session hsession
    · simp [hphase, Phase.session?] at hsession
  case unrecorded =>
    intro other hother hunrecorded
    rcases hmem other hother with hother | rfl
    · exact hinvariant.unrecorded other hother hunrecorded
    · simp [hphase, Phase.unrecorded] at hunrecorded
  case recorded => exact hinvariant.recorded
  case owned =>
    intro dispatch hdispatch
    rcases hinvariant.owned dispatch hdispatch with hrow | ⟨other, hother, hsame⟩
    · exact .inl hrow
    · exact .inr ⟨other, List.mem_append_left _ hother, hsame⟩
  case tokens => exact hinvariant.tokens

end Invariant

/-! ## Runs -/

section Runs

variable {H : Type} [DecidableEq H] {config : Config H} {s t : State}

/-- A step is the arrival of a request or a move of one. -/
theorem step_cases {action : Action} (h : step config s action = some t) :
    (∃ arrives : Request, arrives.phase = .waiting ∧ t = { s with requests := s.requests ++ [arrives] }) ∨
      ∃ index move request effect, action = .move index move ∧ s.requests[index]? = some request ∧
        Performs config s request move request.phase effect ∧
        t = s.apply index request effect := by
  cases action with
  | request context sessionId hex profileVersion timezone issuedAt participantName =>
      obtain ⟨resolved, -, rfl⟩ := Option.map_eq_some_iff.mp h
      exact .inl ⟨_, rfl, rfl⟩
  | move index move =>
      obtain ⟨request, hindex, h⟩ := Option.bind_eq_some_iff.mp h
      obtain ⟨effect, heffect, h⟩ := Option.bind_eq_some_iff.mp h
      obtain rfl := Option.some.inj h
      exact .inr ⟨index, move, request, effect, rfl, hindex, performs_of_perform heffect, rfl⟩

theorem Invariant.step {action : Action} (hinvariant : Invariant config s) (h : step config s action = some t) :
    Invariant config t := by
  rcases step_cases h with ⟨arrives, hphase, rfl⟩ | ⟨index, move, request, effect, -, hindex, hperforms, rfl⟩
  · exact hinvariant.arrival arrives hphase
  · exact hinvariant.apply hindex hperforms

theorem Invariant.of_reaches {allowed : State → Action → Prop} (h : Reaches (LiveKitSessions.step config) allowed .initial t) :
    Invariant config t :=
  h.invariant (Invariant.initial config) fun _ _ _ hinvariant _ hstep => hinvariant.step hstep

omit [DecidableEq H] in
/-- What creates a dispatch. -/
theorem dispatch_of_performs {request : Request} {move : Move} {effect : Effect} {dispatch : Dispatch}
    (h : Performs config s request move request.phase effect) (hdispatch : effect.dispatch = some dispatch) :
    request.phase = .missing ∧ dispatch = request.dispatch config.settings ∧
      ∃ outcome, move = .createDispatch outcome ∧ outcome.creates = true := by
  generalize request.phase = before at h
  cases h with
  | dispatched | dispatchLost => exact ⟨rfl, (Option.some.inj hdispatch).symm, _, rfl, rfl⟩
  | _ => cases hdispatch

/-- A call of LiveKit that creates a dispatch creates that of the request. -/
theorem creates_of_step {index : Nat} {outcome : DispatchOutcome} {request : Request}
    (h : step config s (.move index (.createDispatch outcome)) = some t) (hindex : s.requests[index]? = some request)
    (hcreates : outcome.creates = true) :
    t.dispatches = s.dispatches ++ [request.dispatch config.settings] ∧ t.sessions = s.sessions := by
  obtain ⟨request', hindex', h⟩ := Option.bind_eq_some_iff.mp h
  obtain rfl := Option.some.inj (hindex.symm.trans hindex')
  obtain ⟨effect, heffect, h⟩ := Option.bind_eq_some_iff.mp h
  obtain rfl := Option.some.inj h
  simp only [State.perform] at heffect
  split at heffect
  · cases outcome with
    | returned | lost =>
        obtain rfl := Option.some.inj heffect
        exact ⟨rfl, List.append_nil _⟩
    | refused => cases hcreates
  · cases heffect

end Runs

/-! ## One dispatch for each session -/

section OneDispatch

variable {H : Type} [DecidableEq H] {config : Config H} {s t : State}

/-- The number of dispatches that have been created for a company and a session id. -/
def State.dispatchesFor (s : State) (company sessionId : String) : Nat :=
  s.dispatches.countP fun dispatch => decide (dispatch.company = company ∧ dispatch.room = requestedRoom sessionId)

def OneDispatch (s : State) : Prop :=
  ∀ company sessionId, s.dispatchesFor company sessionId ≤ 1

/-- A dispatch is created only if no transaction for the same company and session id was rolled back after it had created
one. -/
def NotOrphaned (s : State) : Action → Prop
  | .move index (.createDispatch outcome) =>
      outcome.creates = true → ∀ request, s.requests[index]? = some request →
        ∀ other ∈ s.requests, other.key = request.key → other.phase ≠ .orphaned
  | _ => True

omit [DecidableEq H] in
/-- Before its dispatch is created, a session has none that is not an orphan. -/
theorem dispatchesFor_eq_zero (hinvariant : Invariant config s) {index : Nat} {request : Request}
    (hindex : s.requests[index]? = some request) (hphase : request.phase = .missing)
    (horphans : ∀ other ∈ s.requests, other.key = request.key → other.phase ≠ .orphaned) :
    s.dispatchesFor request.company request.sessionId = 0 := by
  rw [State.dispatchesFor, List.countP_eq_zero]
  intro dispatch hdispatch
  rw [decide_eq_true_eq]
  rintro ⟨hcompany, hroom⟩
  have hopen : request.phase.isOpen = true := by rw [hphase]; rfl
  have hsearched : request.phase.searched = true := by rw [hphase]; rfl
  rcases hinvariant.owned dispatch hdispatch with ⟨row, hrow, huser, hname⟩ | ⟨other, hother, hunrecorded, huser, hname⟩
  · -- the row of the session was looked for
    have hsession : row.sessionId = request.sessionId :=
      requestedRoom_injective ((hinvariant.rooms row hrow).symm.trans (hname.trans hroom))
    exact hinvariant.searched request (List.mem_of_getElem? hindex) hsearched row hrow
      (Prod.ext (huser.trans hcompany) hsession)
  · have hkey : other.key = request.key :=
      Prod.ext (huser.trans hcompany) (requestedRoom_injective (hname.trans hroom))
    obtain ⟨position, hposition⟩ := List.mem_iff_getElem?.mp hother
    by_cases heq : position = index
    · rw [heq, hindex] at hposition
      obtain rfl := Option.some.inj hposition
      rw [hphase] at hunrecorded
      cases hunrecorded
    · -- the lock of the session is taken
      have hopenOther : other.phase.isOpen = true := by
        have hnot := horphans other hother hkey
        revert hunrecorded hnot
        cases other.phase <;> simp [Phase.unrecorded, Phase.isOpen]
      exact key_ne_of_open hinvariant hindex hposition heq hopenOther hopen hkey

theorem OneDispatch.step {action : Action} (hone : OneDispatch s) (hinvariant : Invariant config s)
    (hallowed : NotOrphaned s action) (h : step config s action = some t) : OneDispatch t := by
  rcases step_cases h with ⟨arrives, -, rfl⟩ | ⟨index, move, request, effect, rfl, hindex, hperforms, rfl⟩
  · exact hone
  · intro company sessionId
    cases hdispatch : effect.dispatch with
    | none =>
        show (s.dispatches ++ effect.dispatch.toList).countP _ ≤ 1
        rw [hdispatch, Option.toList_none, List.append_nil]
        exact hone company sessionId
    | some dispatch =>
        obtain ⟨hphase, rfl, outcome, rfl, hcreates⟩ := dispatch_of_performs hperforms hdispatch
        have hzero := dispatchesFor_eq_zero hinvariant hindex hphase (hallowed hcreates request hindex)
        have hbefore := hone company sessionId
        show (s.dispatches ++ effect.dispatch.toList).countP _ ≤ 1
        rw [hdispatch, Option.toList_some, List.countP_append, List.countP_singleton]
        by_cases hsame : (request.dispatch config.settings).company = company ∧
            (request.dispatch config.settings).room = requestedRoom sessionId
        · -- the first one of its session
          obtain ⟨hcompany, hroom⟩ := hsame
          obtain rfl : request.sessionId = sessionId := requestedRoom_injective hroom
          obtain rfl : request.company = company := hcompany
          change s.dispatchesFor request.company request.sessionId + _ ≤ 1
          rw [hzero]
          split <;> omega
        · rw [if_neg (by simpa using hsame)]
          exact hbefore

/-- A second dispatch is created for a session that has an orphan. -/
theorem not_oneDispatch (hinvariant : Invariant config s) {action : Action} (hforbidden : ¬ NotOrphaned s action)
    (h : step config s action = some t) : ¬ OneDispatch t := by
  intro hone
  apply hforbidden
  cases action with
  | request => trivial
  | move index move =>
      cases move with
      | createDispatch outcome =>
          intro hcreates request hindex other hother hkey horphaned
          obtain ⟨hdispatches, -⟩ := creates_of_step h hindex hcreates
          have hold := hinvariant.unrecorded other hother (by rw [horphaned]; rfl)
          obtain ⟨hcompany, hsession⟩ := Prod.mk.inj hkey
          have hcount := hone request.company request.sessionId
          rw [State.dispatchesFor, hdispatches, List.countP_append, List.countP_singleton] at hcount
          have hpositive : 0 < s.dispatchesFor request.company request.sessionId := by
            apply List.countP_pos_iff.mpr
            refine ⟨other.dispatch config.settings, hold, decide_eq_true ⟨hcompany, ?_⟩⟩
            exact congrArg requestedRoom hsession
          have hself : decide ((request.dispatch config.settings).company = request.company ∧
              (request.dispatch config.settings).room = requestedRoom request.sessionId) = true :=
            decide_eq_true ⟨rfl, rfl⟩
          rw [if_pos hself] at hcount
          change s.dispatchesFor request.company request.sessionId + 1 ≤ 1 at hcount
          omega
      | _ => trivial

/-- In every run at most one dispatch is created for each company and session id, as long as none is created after a
transaction for the same two was rolled back that had created one; and then a second one is. -/
theorem one_dispatch_per_session (config : Config H) :
    (∀ t, Reaches (step config) NotOrphaned .initial t → OneDispatch t) ∧
      ∀ s t action, Reaches (step config) Always .initial s → ¬ NotOrphaned s action → step config s action = some t →
        ¬ OneDispatch t := by
  constructor
  · intro t h
    have hstart : OneDispatch .initial := fun _ _ => Nat.zero_le 1
    have hboth : Invariant config t ∧ OneDispatch t := by
      apply h.invariant ⟨Invariant.initial config, hstart⟩
      intro s action t ⟨hinvariant, hone⟩ hallowed hstep
      exact ⟨hinvariant.step hstep, hone.step hinvariant hallowed hstep⟩
    exact hboth.2
  · intro s t action hreached hforbidden hstep
    exact not_oneDispatch (Invariant.of_reaches hreached) hforbidden hstep

end OneDispatch

def sampleConfig : Config String where
  settings := SessionContext.sampleSettings
  hash text := text
  sha256 text := text

/-- A request of a company for a session. -/
def tokenRequest (company sessionId : String) : Action :=
  .request ⟨sessionId, company, "user-1", none, none⟩ (some sessionId) "" 1 "Indian/Mauritius" 1000 none

/-- The moves of a request that gets as far as its dispatch. -/
def dispatches (index : Nat) : List Action :=
  [.move index .lock, .move index .lookup, .move index (.createDispatch (.returned "dispatch"))]

/-- The session is requested again after its token is issued. -/
def retriedRun : List Action :=
  [tokenRequest "company-1" "session-1"] ++ dispatches 0 ++
    [.move 0 .insert, .move 0 (.commit .committed), .move 0 .issueToken, tokenRequest "company-1" "session-1",
      .move 1 .lock, .move 1 .lookup, .move 1 (.commit .committed), .move 1 .issueToken]

/-- No transaction was rolled back after it had created a dispatch. -/
def noOrphans (s : State) (_ : Action) : Bool :=
  s.requests.all fun request => decide (request.phase ≠ .orphaned)

theorem notOrphaned_of_noOrphans {s : State} {action : Action} (h : noOrphans s action = true) : NotOrphaned s action := by
  have hall := List.all_eq_true.mp h
  cases action with
  | request => trivial
  | move index move =>
      cases move with
      | createDispatch outcome =>
          intro _ _ _ other hother _
          exact of_decide_eq_true (hall other hother)
      | _ => trivial

theorem one_dispatch_per_session_retried : OneDispatch (final (step sampleConfig) .initial retriedRun) :=
  (one_dispatch_per_session sampleConfig).1 _
    (Reaches.of_checked (fun _ _ _ => notOrphaned_of_noOrphans) (by decide +kernel) (execute_final (by decide +kernel)))

/-- The commit fails and the browser retries. -/
def rolledBackRun : List Action :=
  [tokenRequest "company-1" "session-1"] ++ dispatches 0 ++
    [.move 0 .insert, .move 0 (.commit .rolledBack), tokenRequest "company-1" "session-1"] ++ dispatches 1

theorem second_dispatch : ¬ ∀ (config : Config String) (t : State),
    Reaches (step config) Always .initial t → OneDispatch t := by
  intro hall
  have hone := hall sampleConfig (final (step sampleConfig) .initial rolledBackRun)
    (Reaches.of_execute (execute_final (by decide +kernel)))
  have htwo : (final (step sampleConfig) .initial rolledBackRun).dispatchesFor "company-1" "session-1" = 2 := by
    decide +kernel
  have hcount := hone "company-1" "session-1"
  omega

/-! ## Rooms of companies -/

section Isolation

variable {H : Type} [DecidableEq H] {config : Config H} {s t : State}

/-- No dispatch with the context of a company is in a room of which another company has the session. -/
def DispatchesApart (s : State) : Prop :=
  ∀ dispatch ∈ s.dispatches, ∀ row ∈ s.sessions, row.roomName = dispatch.room → row.userId = dispatch.company

/-- No token of a company is for a room of which another company has the session. -/
def TokensApart (s : State) : Prop :=
  ∀ token ∈ s.tokens, ∀ row ∈ s.sessions, row.roomName = token.room → row.userId = token.issuedTo

/-- A dispatch is created only if none has been created for another company with the same session id. -/
def OwnSessionId (s : State) : Action → Prop
  | .move index (.createDispatch outcome) =>
      outcome.creates = true → ∀ request, s.requests[index]? = some request →
        ∀ dispatch ∈ s.dispatches, dispatch.room = request.room → dispatch.company = request.company
  | _ => True

/-- The dispatches of a room are those of one company. -/
def OneCompany (s : State) : Prop :=
  ∀ first ∈ s.dispatches, ∀ second ∈ s.dispatches, first.room = second.room → first.company = second.company

theorem OneCompany.step {action : Action} (hone : OneCompany s) (hallowed : OwnSessionId s action)
    (h : step config s action = some t) : OneCompany t := by
  rcases step_cases h with ⟨arrives, -, rfl⟩ | ⟨index, move, request, effect, rfl, hindex, hperforms, rfl⟩
  · exact hone
  · have hnew : ∀ dispatch, effect.dispatch = some dispatch →
        ∀ other ∈ s.dispatches, other.room = dispatch.room → other.company = dispatch.company := by
      intro dispatch hdispatch
      obtain ⟨-, rfl, outcome, rfl, hcreates⟩ := dispatch_of_performs hperforms hdispatch
      exact hallowed hcreates request hindex
    intro first hfirst second hsecond hroom
    rcases mem_dispatches_apply.mp hfirst with hfirst | hfirst
    · rcases mem_dispatches_apply.mp hsecond with hsecond | hsecond
      · exact hone first hfirst second hsecond hroom
      · exact hnew second hsecond first hfirst hroom
    · rcases mem_dispatches_apply.mp hsecond with hsecond | hsecond
      · exact (hnew first hfirst second hsecond hroom.symm).symm
      · rw [Option.some.inj (hfirst.symm.trans hsecond)]

omit [DecidableEq H] in
/-- A token is for a room whose session its company has, and a room has one session. -/
theorem Invariant.tokensApart (hinvariant : Invariant config s) : TokensApart s := by
  intro token htoken row hrow hroom
  obtain ⟨own, hown, huser, hname⟩ := hinvariant.tokens token htoken
  have hsame : row = own := hinvariant.keyed.eq_of_key hrow hown (hroom.trans hname.symm)
  rw [hsame, huser]

end Isolation

/-- Two companies with a session each. -/
def separateRun : List Action :=
  [tokenRequest "company-1" "session-1"] ++ dispatches 0 ++
    [.move 0 .insert, .move 0 (.commit .committed), .move 0 .issueToken, tokenRequest "company-2" "session-2"] ++
    dispatches 1 ++ [.move 1 .insert, .move 1 (.commit .committed), .move 1 .issueToken]

/-- `OwnSessionId`, as a check. -/
def ownSessionId (s : State) : Action → Bool
  | .move index (.createDispatch _) =>
      s.requests[index]?.all fun request =>
        s.dispatches.all fun dispatch => dispatch.room != request.room || dispatch.company == request.company
  | _ => true

theorem ownSessionId_of_check {s : State} {action : Action} (h : ownSessionId s action = true) : OwnSessionId s action := by
  cases action with
  | request => trivial
  | move index move =>
      cases move with
      | createDispatch outcome =>
          intro _ request hindex dispatch hdispatch hroom
          rw [ownSessionId, hindex, Option.all_some] at h
          simpa [hroom] using List.all_eq_true.mp h dispatch hdispatch
      | _ => trivial

/-- A company asks for the session id of another. -/
def foreignRun : List Action :=
  [tokenRequest "company-1" "session-1"] ++ dispatches 0 ++
    [.move 0 .insert, .move 0 (.commit .committed), .move 0 .issueToken, tokenRequest "company-2" "session-1"] ++
    dispatches 1

end LiveKitSessions
end VoiceAssistants
