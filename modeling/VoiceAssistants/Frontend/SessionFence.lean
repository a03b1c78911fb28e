import VoiceAssistants.Async.Fence
import VoiceAssistants.Collections.Slots
import VoiceAssistants.Frontend.LiveKitSession

/-!
# The generations of a voice session

A step of `useLiveKitSession` keeps its room and its generation, gives the room up with a generation that is over, begins a
generation without a room, or creates the room of the generation (`Effect`).  A handler or a continuation belongs to the
generation of the `connect` it comes from (`origin`), and what is shown is a `View`.

* `Sound` — the room that is tracked is of the current generation, and no room is tracked while the `connect` of the current
  generation has still to create its own.
* `move_step` — every step is a move of the fence, which loses no room.
* `view_step_of_stale` — a step of a generation that is over changes nothing that is shown.
* `Turn.generation_lt` — with every `connect` that begins, every `disconnect` and every failure a generation is over.
* `session_fence` — what follows for every run.
-/

namespace VoiceAssistants
namespace BrowserSession

open Async Collections LiveKitRuntime

/-! ## Callbacks that wait -/

/-- The callback is an invocation of `connect`. -/
def Pending.connects : Pending → Bool
  | connect _ _ => true
  | _ => false

/-- Every `connect` that waits afterwards waited before, and had no room before if it has none afterwards. -/
def Waits (before after : List Pending) : Prop :=
  ∀ (index generation : Nat) (point : ConnectPoint), after[index]? = some (.connect generation point) →
    ∃ earlier : ConnectPoint, before[index]? = some (.connect generation earlier) ∧
      (point.beforeRoom = true → earlier.beforeRoom = true)

namespace Waits

variable {before after last : List Pending} {pending : Pending} {index generation : Nat} {point later : ConnectPoint}

theorem refl (before : List Pending) : Waits before before := by
  intro index generation point hcall
  exact ⟨point, hcall, id⟩

theorem trans (h : Waits before after) (hlast : Waits after last) : Waits before last := by
  intro index generation point hcall
  obtain ⟨middle, hmiddle, hto⟩ := hlast index generation point hcall
  obtain ⟨earlier, hearlier, hfrom⟩ := h index generation middle hmiddle
  exact ⟨earlier, hearlier, fun hpoint => hfrom (hto hpoint)⟩

/-- Another callback begins to wait. -/
theorem concat (hother : pending.connects = false) : Waits before (before ++ [pending]) := by
  intro index generation point hcall
  rcases getElem?_concat_cases hcall with hold | ⟨-, hnew⟩
  · exact ⟨point, hold, id⟩
  · rw [← hnew] at hother
    cases hother

/-- A callback settles, or waits for something that is not part of a `connect`. -/
theorem set (hother : pending.connects = false) : Waits before (before.set index pending) := by
  intro position generation point hcall
  rcases getElem?_set_cases hcall with ⟨-, hnew⟩ | ⟨-, hold⟩
  · rw [← hnew] at hother
    cases hother
  · exact ⟨point, hold, id⟩

/-- A `connect` waits for something else. -/
theorem set_connect (hcall : before[index]? = some (.connect generation point))
    (hbefore : later.beforeRoom = true → point.beforeRoom = true) :
    Waits before (before.set index (.connect generation later)) := by
  intro position generation' point' hafter
  rcases getElem?_set_cases hafter with ⟨hposition, hnew⟩ | ⟨-, hold⟩
  · cases hnew
    rw [hposition]
    exact ⟨point, hcall, hbefore⟩
  · exact ⟨point', hold, id⟩

end Waits

/-! ## What a step can do -/

/-- The status of a session that begins, or has ended. -/
def turns : LiveKitConnectionStatus → Bool
  | .connecting | .disconnected | .error => true
  | _ => false

/-- The room and the generation stay. -/
structure Keeps (session session' : Session) : Prop where
  generation : session'.sessionGeneration = session.sessionGeneration
  room : session'.roomRef = session.roomRef
  rooms : session'.rooms = session.rooms
  disconnected : ∀ room ∈ session.disconnected, room ∈ session'.disconnected ∨ session'.roomRef = some room
  status : session'.connectionStatus = session.connectionStatus ∨ turns session'.connectionStatus = false
  waits : Waits session.pending session'.pending

namespace Keeps

variable {session session' session'' : Session}

/-- Only what is shown, and the timer, may change. -/
theorem of_same (hgeneration : session'.sessionGeneration = session.sessionGeneration)
    (hroom : session'.roomRef = session.roomRef) (hrooms : session'.rooms = session.rooms)
    (hdisconnected : session.disconnected ⊆ session'.disconnected)
    (hstatus : session'.connectionStatus = session.connectionStatus ∨ turns session'.connectionStatus = false)
    (hwaits : Waits session.pending session'.pending) : Keeps session session' where
  generation := hgeneration
  room := hroom
  rooms := hrooms
  disconnected := fun _ hgone => .inl (hdisconnected hgone)
  status := hstatus
  waits := hwaits

theorem refl (session : Session) : Keeps session session :=
  .of_same rfl rfl rfl (List.Subset.refl _) (.inl rfl) (.refl _)

theorem trans (h : Keeps session session') (hnext : Keeps session' session'') : Keeps session session'' := by
  constructor
  case generation => exact hnext.generation.trans h.generation
  case room => exact hnext.room.trans h.room
  case rooms => exact hnext.rooms.trans h.rooms
  case disconnected =>
    intro room hgone
    rcases h.disconnected room hgone with hstill | htracked
    · exact hnext.disconnected room hstill
    · exact .inr (hnext.room.trans htracked)
  case status =>
    rcases hnext.status with hsame | hlive
    · rw [hsame]
      exact h.status
    · exact .inr hlive
  case waits => exact h.waits.trans hnext.waits

/-- Only what is shown of the media changes, or nothing that is looked at. -/
theorem shown (session : Session) (media : MediaState) (messages : List TranscriptMessage) (tasks : List TaskItem) :
    Keeps session { session with media := media, messages := messages, tasks := tasks } :=
  .of_same rfl rfl rfl (List.Subset.refl _) (.inl rfl) (.refl _)

end Keeps

/-- What a step can do to the room and the generation. -/
inductive Effect (session session' : Session) : Prop
  | keeps (h : Keeps session session')
  /-- The room is disconnected and given up; the generation is over. -/
  | drops (hgeneration : session'.sessionGeneration = session.sessionGeneration + 1) (hroom : session'.roomRef = none)
      (hrooms : session'.rooms = session.rooms)
      (hdisconnected : session.disconnected ++ session.roomRef.toList ⊆ session'.disconnected)
      (hwaits : Waits session.pending session'.pending)
  /-- A `connect` begins. -/
  | begins (hgeneration : session'.sessionGeneration = session.sessionGeneration + 1) (hfree : session.roomRef = none)
      (hroom : session'.roomRef = none) (hrooms : session'.rooms = session.rooms)
      (hdisconnected : session'.disconnected = session.disconnected)
      (hpending : session'.pending = session.pending ++ [.connect (session.sessionGeneration + 1) .fetch])
  /-- The `connect` of the generation creates its room. -/
  | creates (index : Nat) (point : ConnectPoint)
      (hcall : session.pending[index]? = some (.connect session.sessionGeneration point))
      (hpoint : point.beforeRoom = true) (hgeneration : session'.sessionGeneration = session.sessionGeneration)
      (hroom : session'.roomRef = some session.rooms.length)
      (hrooms : session'.rooms = session.rooms ++ [session.sessionGeneration])
      (hdisconnected : session'.disconnected = session.disconnected)
      (hstatus : session'.connectionStatus = session.connectionStatus)
      (hpending : session'.pending =
        session.pending.set index (.connect session.sessionGeneration (.roomConnect session.rooms.length)))

/-- What a `connect` does with an answer: it fails, waits for something else before it has a room, creates its room, or goes on
with the room. -/
inductive Resumed (session : Session) (index generation : Nat) : ConnectPoint → Session → Prop
  | fails (point : ConnectPoint) : Resumed session index generation point (session.failConnect index generation)
  | waits {point : ConnectPoint} (later : ConnectPoint) (hpoint : point.beforeRoom = true) :
      Resumed session index generation point (session.suspend index (.connect generation later))
  | ready : Resumed session index generation .json
      (if isCurrentSessionGeneration generation session.sessionGeneration then session.createRoom index generation
        else session.finish index generation)
  | connected (room : Nat) :
      Resumed session index generation (.roomConnect room) (session.roomConnected index generation room)
  | published (room : Nat) (mediaStreamTrack : Option Nat) :
      Resumed session index generation (.microphone room)
        (session.microphonePublished index generation room mediaStreamTrack)

theorem resumed_resumeConnect (session : Session) (index generation : Nat) (point : ConnectPoint) (answer : Answer) :
    Resumed session index generation point (session.resumeConnect index generation point answer) := by
  cases point with
  | errorBody => exact .fails _
  | fetch =>
      cases answer with
      | rejected => exact .fails _
      | notOk => exact .waits .errorBody rfl
      | done => exact .waits .json rfl
      | track => exact .waits .json rfl
      | activated => exact .waits .json rfl
  | json =>
      cases answer with
      | rejected => exact .fails _
      | notOk => exact .ready
      | done => exact .ready
      | track => exact .ready
      | activated => exact .ready
  | roomConnect room =>
      cases answer with
      | rejected => exact .fails _
      | notOk => exact .connected room
      | done => exact .connected room
      | track => exact .connected room
      | activated => exact .connected room
  | microphone room =>
      cases answer with
      | rejected => exact .fails _
      | track mediaStreamTrack => exact .published room mediaStreamTrack
      | notOk => exact .published room none
      | done => exact .published room none
      | activated => exact .published room none

section Steps

variable {session : Session} {index generation : Nat} {point : ConnectPoint}

theorem keeps_suspend {pending : Pending} (hother : pending.connects = false) :
    Keeps session (session.suspend index pending) :=
  .of_same rfl rfl rfl (List.Subset.refl _) (.inl rfl) (.set hother)

theorem keeps_await {pending : Pending} (hother : pending.connects = false) : Keeps session (session.await pending) :=
  .of_same rfl rfl rfl (List.Subset.refl _) (.inl rfl) (.concat hother)

theorem keeps_finish : Keeps session (session.finish index generation) :=
  .of_same rfl rfl rfl (List.Subset.refl _) (.inl rfl) (.set rfl)

theorem keeps_activateAssistantAudio : Keeps session session.activateAssistantAudio := by
  unfold Session.activateAssistantAudio
  split
  case h_1 =>
    split
    · exact .refl _
    · exact keeps_await rfl
  case h_2 => exact .refl _

theorem keeps_resumeActivate {element gainNode : Nat} {activated : Bool} :
    Keeps session (session.resumeActivate index generation element gainNode activated) := by
  unfold Session.resumeActivate
  split
  case isTrue => exact keeps_suspend rfl
  case isFalse =>
    dsimp only
    split
    · -- playback has been activated
      exact .of_same rfl rfl rfl (List.Subset.refl _) (.inr rfl) (.set rfl)
    · split
      · exact .of_same rfl rfl rfl (List.Subset.refl _) (.inr rfl) (.set rfl)
      · exact .of_same rfl rfl rfl (List.Subset.refl _) (.inl rfl) (.set rfl)

theorem effect_failCurrentSession {room : Nat} : Effect session (session.failCurrentSession room) := by
  unfold Session.failCurrentSession
  split
  case isTrue => exact .keeps (.refl _)
  case isFalse hcurrent =>
    have htracked : session.roomRef = some room := not_not.mp hcurrent
    apply Effect.drops
    case hgeneration => rfl
    case hroom => rfl
    case hrooms => rfl
    case hwaits => exact .refl _
    case hdisconnected =>
      rw [htracked]
      exact List.Subset.refl _

theorem effect_failConnect : Effect session (session.failConnect index generation) := by
  unfold Session.failConnect
  split
  case isTrue => exact .keeps keeps_finish
  case isFalse =>
    apply Effect.drops
    case hgeneration => rfl
    case hroom => rfl
    case hrooms => rfl
    case hdisconnected => exact List.Subset.refl _
    case hwaits => exact .set rfl

theorem effect_connect {sessionId : String} : Effect session (session.connect sessionId) := by
  unfold Session.connect
  split
  case isTrue => exact .keeps (.refl _)
  case isFalse hfree =>
    have hnone : session.roomRef = none := not_not.mp (not_or.mp hfree).2
    exact .begins rfl hnone hnone rfl rfl rfl

theorem effect_disconnect : Effect session session.disconnect := by
  apply Effect.drops
  case hgeneration => rfl
  case hroom => rfl
  case hrooms => rfl
  case hdisconnected => exact List.Subset.refl _
  case hwaits => exact .refl _

/-- The room has connected: it is tracked, or is disconnected again. -/
theorem keeps_roomConnected {room : Nat} (hcall : session.pending[index]? = some (.connect generation (.roomConnect room))) :
    Keeps session (session.roomConnected index generation room) := by
  unfold Session.roomConnected
  dsimp only
  split
  case isTrue hcurrent =>
    constructor
    case generation => rfl
    case room => rfl
    case rooms => rfl
    case disconnected =>
      -- only the room itself is connected again, and it is tracked
      intro other hgone
      by_cases hother : other = room
      · rw [hother]
        exact .inr hcurrent.2
      · refine .inl (List.mem_filter.mpr ⟨hgone, ?_⟩)
        exact decide_eq_true hother
    case status =>
      show (if session.media.hasAssistantAudio then _ else _) = _ ∨ _
      split
      case isTrue haudio => exact .inl rfl
      case isFalse haudio => exact .inr rfl
    case waits =>
      apply Waits.set_connect hcall
      intro hpoint
      cases hpoint
  case isFalse =>
    apply Keeps.of_same
    case hgeneration => rfl
    case hroom => rfl
    case hrooms => rfl
    case hstatus => exact .inl rfl
    case hwaits => exact .set rfl
    case hdisconnected =>
      -- it came too late and is disconnected again
      intro other hgone
      show other ∈ session.disconnected.filter (· ≠ room) ++ [room]
      by_cases hother : other = room
      · exact List.mem_append_right _ (List.mem_singleton.mpr hother)
      · refine List.mem_append_left _ (List.mem_filter.mpr ⟨hgone, ?_⟩)
        exact decide_eq_true hother

theorem effect_microphonePublished {room : Nat} {mediaStreamTrack : Option Nat} :
    Effect session (session.microphonePublished index generation room mediaStreamTrack) := by
  unfold Session.microphonePublished
  split
  case isTrue =>
    split
    · exact .keeps ((Keeps.shown session _ _ _).trans keeps_finish)
    · exact effect_failConnect
  case isFalse =>
    exact .keeps (.of_same rfl rfl rfl (List.subset_append_left _ _) (.inl rfl) (.set rfl))

/-- A `connect` that waits before it has a room waits for the next answer. -/
theorem keeps_waiting {later : ConnectPoint} (hcall : session.pending[index]? = some (.connect generation point))
    (hpoint : point.beforeRoom = true) : Keeps session (session.suspend index (.connect generation later)) :=
  .of_same rfl rfl rfl (List.Subset.refl _) (.inl rfl) (.set_connect hcall fun _ => hpoint)

theorem effect_createRoom (hcall : session.pending[index]? = some (.connect generation .json)) :
    Effect session (if isCurrentSessionGeneration generation session.sessionGeneration then
      session.createRoom index generation else session.finish index generation) := by
  split
  case isTrue hcurrent =>
    have hsame : generation = session.sessionGeneration := hcurrent
    rw [hsame] at hcall ⊢
    exact .creates index .json hcall rfl rfl rfl rfl rfl rfl rfl
  case isFalse => exact .keeps keeps_finish

theorem effect_resumeConnect {answer : Answer} (hcall : session.pending[index]? = some (.connect generation point)) :
    Effect session (session.resumeConnect index generation point answer) := by
  have hresumed := resumed_resumeConnect session index generation point answer
  generalize session.resumeConnect index generation point answer = session' at hresumed ⊢
  cases hresumed with
  | fails => exact effect_failConnect
  | waits later hpoint => exact .keeps (keeps_waiting hcall hpoint)
  | ready => exact effect_createRoom hcall
  | connected room => exact .keeps (keeps_roomConnected hcall)
  | published room mediaStreamTrack => exact effect_microphonePublished

theorem keeps_buildGraph {room track : Nat} : Keeps session (session.buildGraph room track) := by
  unfold Session.buildGraph
  dsimp only
  refine Keeps.trans ?_ keeps_activateAssistantAudio
  exact .of_same rfl rfl rfl (List.Subset.refl _) (.inl rfl) (.refl _)

theorem keeps_resumeTrackSubscribed {room track : Nat} : Keeps session (session.resumeTrackSubscribed index room track) := by
  unfold Session.resumeTrackSubscribed
  split
  · exact keeps_buildGraph.trans (keeps_suspend rfl)
  · exact keeps_suspend rfl

theorem keeps_trackSubscribed {room track : Nat} {closed suspended : Bool} :
    Keeps session (session.trackSubscribed room track closed suspended) := by
  unfold Session.trackSubscribed
  dsimp only
  split
  case isTrue =>
    refine Keeps.trans ?_ (keeps_await rfl)
    exact .of_same rfl rfl rfl (List.Subset.refl _) (.inl rfl) (.refl _)
  case isFalse =>
    refine Keeps.trans (Keeps.trans ?_ keeps_buildGraph) (keeps_await rfl)
    exact .of_same rfl rfl rfl (List.Subset.refl _) (.inl rfl) (.refl _)

theorem keeps_trackUnsubscribed {track : Nat} {connected : Bool} :
    Keeps session (session.trackUnsubscribed track connected) := by
  unfold Session.trackUnsubscribed
  split
  case isTrue => exact .refl _
  case isFalse =>
    cases connected with
    | true => exact .of_same rfl rfl rfl (List.Subset.refl _) (.inr rfl) (.refl _)
    | false => exact .of_same rfl rfl rfl (List.Subset.refl _) (.inl rfl) (.refl _)

theorem keeps_activeSpeakersChanged {isAgentSpeaking : Bool} :
    Keeps session (session.activeSpeakersChanged isAgentSpeaking) := by
  unfold Session.activeSpeakersChanged
  split
  case isTrue => exact .refl _
  case isFalse =>
    dsimp only
    split
    · exact (Keeps.shown session _ _ _).trans keeps_activateAssistantAudio
    · exact .shown session _ _ _

theorem turns_getAgentLifecycleStatus {state : AgentLifecycleState} (hfailed : state ≠ .failed) (hended : state ≠ .ended)
    (hasAssistantAudio isAudioPlaybackBlocked : Bool) :
    turns (getAgentLifecycleStatus state hasAssistantAudio isAudioPlaybackBlocked) = false := by
  cases hasAssistantAudio <;> cases isAudioPlaybackBlocked <;> cases state <;> first | rfl | contradiction

theorem effect_receiveLifecycle {room : Nat} {lifecycle : AgentLifecycleMessage} :
    Effect session (session.receiveLifecycle room lifecycle) := by
  unfold Session.receiveLifecycle
  split
  case isTrue => exact .keeps (.refl _)
  case isFalse =>
    split
    case h_1 => exact effect_failCurrentSession
    case h_2 => exact .keeps (.of_same rfl rfl rfl (List.subset_append_left _ _) (.inl rfl) (.refl _))
    case h_3 hfailed hended =>
      refine .keeps (.of_same rfl rfl rfl (List.Subset.refl _) (.inr ?_) (.refl _))
      exact turns_getAgentLifecycleStatus hfailed hended _ _

theorem effect_dataReceived {room : Nat} {event : JsValue} {madeUp time : String} :
    Effect session (session.dataReceived room event madeUp time) := by
  unfold Session.dataReceived
  split
  case h_1 => exact effect_receiveLifecycle
  case h_2 =>
    split
    · exact .keeps (.shown session _ _ _)
    · split
      · split
        · exact .keeps (.shown session _ _ _)
        · exact .keeps (.refl _)
      · exact .keeps (.refl _)

theorem turns_reconnected (hasAssistantAudio isAudioPlaybackBlocked : Bool) :
    turns (getLiveKitConnectionStatus .reconnected hasAssistantAudio isAudioPlaybackBlocked) = false := by
  cases hasAssistantAudio <;> cases isAudioPlaybackBlocked <;> rfl

theorem keeps_reconnected {room : Nat} : Keeps session (session.handle room .reconnected) := by
  have hstatus : Keeps session { session with
      connectionStatus :=
        getLiveKitConnectionStatus .reconnected session.media.hasAssistantAudio session.media.playbackRetryPending } := by
    refine .of_same rfl rfl rfl (List.Subset.refl _) (.inr ?_) (.refl _)
    exact turns_reconnected _ _
  unfold Session.handle
  dsimp only
  split
  · exact hstatus.trans keeps_activateAssistantAudio
  · exact hstatus

theorem effect_receive {room : Nat} {event : RoomEvent} : Effect session (session.receive room event) := by
  unfold Session.receive
  split
  case isFalse => exact .keeps (.refl _)
  case isTrue =>
    dsimp only
    split
    case isTrue hcurrent =>
      cases event with
      | reconnecting => exact .keeps (.of_same rfl rfl rfl (List.Subset.refl _) (.inr rfl) (.refl _))
      | reconnected => exact .keeps keeps_reconnected
      | dataReceived => exact effect_dataReceived
      | trackSubscribed => exact .keeps keeps_trackSubscribed
      | trackUnsubscribed => exact .keeps keeps_trackUnsubscribed
      | activeSpeakersChanged => exact .keeps keeps_activeSpeakersChanged
      | disconnected =>
          -- the room has disconnected by itself, and is the one that is given up
          apply Effect.drops
          case hgeneration => rfl
          case hroom => rfl
          case hrooms => rfl
          case hwaits => exact .refl _
          case hdisconnected =>
            rw [hcurrent.2]
            exact List.Subset.refl _
    case isFalse =>
      cases event with
      | disconnected => exact .keeps (.of_same rfl rfl rfl (List.subset_append_left _ _) (.inl rfl) (.refl _))
      | reconnecting => exact .keeps (.refl _)
      | reconnected => exact .keeps (.refl _)
      | dataReceived => exact .keeps (.refl _)
      | trackSubscribed => exact .keeps (.refl _)
      | trackUnsubscribed => exact .keeps (.refl _)
      | activeSpeakersChanged => exact .keeps (.refl _)

theorem keeps_elementEvent {playback : Playback} {event : ElementEvent} :
    Keeps session (session.elementEvent playback event) := by
  unfold Session.elementEvent
  split
  case isFalse => exact .refl _
  case isTrue =>
    cases event with
    | pause => exact .shown session _ _ _
    | ended => exact .shown session _ _ _
    | play =>
        dsimp only
        split
        · exact .refl _
        · exact .shown session _ _ _

theorem effect_heartbeat {timer : Nat} {connected : Bool} : Effect session (session.heartbeat timer connected) := by
  unfold Session.heartbeat
  split
  case h_1 =>
    split
    · exact effect_failCurrentSession
    · exact .keeps (.refl _)
  case h_2 => exact .keeps (.refl _)

theorem keeps_unmuteAssistant : Keeps session session.unmuteAssistant := by
  unfold Session.unmuteAssistant
  split
  case isTrue => exact .refl _
  case isFalse =>
    dsimp only
    split
    · exact (Keeps.shown session _ _ _).trans keeps_activateAssistantAudio
    · exact .shown session _ _ _

theorem keeps_handleSpeechEnd {isAgentSpeaking : Bool} : Keeps session (session.handleSpeechEnd isAgentSpeaking) := by
  unfold Session.handleSpeechEnd
  dsimp only
  split
  · exact ((Keeps.shown session _ _ _).trans keeps_unmuteAssistant).trans (.shown _ _ _ _)
  · exact (Keeps.shown session _ _ _).trans keeps_unmuteAssistant

theorem effect_resume {answer : Answer} : Effect session (session.resume index answer) := by
  unfold Session.resume
  split
  case h_1 hcall => exact effect_resumeConnect hcall
  case h_2 => exact .keeps keeps_resumeActivate
  case h_3 => exact .keeps keeps_resumeTrackSubscribed
  case h_4 => exact .keeps (keeps_suspend rfl)
  case h_5 => exact .keeps (.refl _)

theorem step_element {event : ElementEvent} : session.step (.element index event) =
    (session.playbacks[index]?).elim session fun playback => session.elementEvent playback event := by
  unfold Session.step
  dsimp only
  cases session.playbacks[index]? <;> rfl

/-- What any step can do. -/
theorem effect_step (action : Action) : Effect session (session.step action) := by
  cases action with
  | connect => exact effect_connect
  | disconnect => exact effect_disconnect
  | resume => exact effect_resume
  | room => exact effect_receive
  | heartbeat => exact effect_heartbeat
  | speechStart => exact .keeps (.shown session _ _ _)
  | speechEnd => exact .keeps keeps_handleSpeechEnd
  | unmuteAssistant => exact .keeps keeps_unmuteAssistant
  | element index event =>
      rw [step_element]
      cases session.playbacks[index]? with
      | none => exact .keeps (.refl _)
      | some playback => exact .keeps keeps_elementEvent
  | retryPlayback =>
      show Effect session (if _ then session.activateAssistantAudio else session)
      split
      · exact .keeps keeps_activateAssistantAudio
      · exact .keeps (.refl _)
  | interruption =>
      show Effect session (if _ then _ else session)
      split
      · exact .keeps (.shown session _ _ _)
      · exact .keeps (.refl _)
  | toggleMute =>
      show Effect session (if _ then _ else session)
      split
      · exact .keeps (.shown session _ _ _)
      · exact .keeps (.refl _)

end Steps

/-! ## The room and its generation -/

/-- What holds of the hook between two steps. -/
structure Sound (session : Session) : Prop where
  /-- The room that is tracked is of the current generation. -/
  owned : ∀ room, session.roomRef = some room → session.rooms[room]? = some session.sessionGeneration
  reached : ∀ (index generation : Nat) (point : ConnectPoint),
    session.pending[index]? = some (.connect generation point) → generation ≤ session.sessionGeneration
  /-- Of a generation, one `connect` waits. -/
  single : ∀ (index other generation : Nat) (point point' : ConnectPoint),
    session.pending[index]? = some (.connect generation point) →
      session.pending[other]? = some (.connect generation point') → index = other
  /-- No room is tracked while the `connect` of the generation has none. -/
  free : ∀ (index : Nat) (point : ConnectPoint), session.pending[index]? = some (.connect session.sessionGeneration point) →
    point.beforeRoom = true → session.roomRef = none

/-- The hook as an object that tracks one room. -/
def Session.fence (session : Session) : Fence Nat :=
  ⟨session.sessionGeneration, session.roomRef, List.range session.rooms.length, session.disconnected⟩

section Invariant

variable {session session' : Session} {action : Action}

theorem sound_initial : Sound initial := by
  constructor
  case owned =>
    intro room htracked
    cases htracked
  case reached =>
    intro index generation point hcall
    cases hcall
  case single =>
    intro index other generation point point' hcall
    cases hcall
  case free =>
    intro index point hcall
    cases hcall

theorem Sound.keeps (h : Sound session) (hkeeps : Keeps session session') : Sound session' := by
  constructor
  case owned =>
    intro room htracked
    rw [hkeeps.rooms, hkeeps.generation]
    exact h.owned room (hkeeps.room.symm.trans htracked)
  case reached =>
    intro index generation point hcall
    obtain ⟨earlier, hearlier, -⟩ := hkeeps.waits index generation point hcall
    rw [hkeeps.generation]
    exact h.reached index generation earlier hearlier
  case single =>
    intro index other generation point point' hcall hother
    obtain ⟨earlier, hearlier, -⟩ := hkeeps.waits index generation point hcall
    obtain ⟨earlier', hearlier', -⟩ := hkeeps.waits other generation point' hother
    exact h.single index other generation earlier earlier' hearlier hearlier'
  case free =>
    intro index point hcall hpoint
    rw [hkeeps.generation] at hcall
    obtain ⟨earlier, hearlier, hbefore⟩ := hkeeps.waits index _ point hcall
    rw [hkeeps.room]
    exact h.free index earlier hearlier (hbefore hpoint)

/-- A generation that is over without a room. -/
theorem Sound.drops (h : Sound session) (hgeneration : session'.sessionGeneration = session.sessionGeneration + 1)
    (hroom : session'.roomRef = none) (hwaits : Waits session.pending session'.pending) : Sound session' := by
  constructor
  case owned =>
    intro room htracked
    rw [hroom] at htracked
    cases htracked
  case reached =>
    intro index generation point hcall
    obtain ⟨earlier, hearlier, -⟩ := hwaits index generation point hcall
    have hle := h.reached index generation earlier hearlier
    omega
  case single =>
    intro index other generation point point' hcall hother
    obtain ⟨earlier, hearlier, -⟩ := hwaits index generation point hcall
    obtain ⟨earlier', hearlier', -⟩ := hwaits other generation point' hother
    exact h.single index other generation earlier earlier' hearlier hearlier'
  case free =>
    intro _ _ _ _
    exact hroom

theorem Sound.begins (h : Sound session) (hgeneration : session'.sessionGeneration = session.sessionGeneration + 1)
    (hroom : session'.roomRef = none)
    (hpending : session'.pending = session.pending ++ [.connect (session.sessionGeneration + 1) .fetch]) :
    Sound session' := by
  constructor
  case owned =>
    intro room htracked
    rw [hroom] at htracked
    cases htracked
  case reached =>
    intro index generation point hcall
    rw [hpending] at hcall
    rw [hgeneration]
    rcases getElem?_concat_cases hcall with hold | ⟨-, hnew⟩
    · exact Nat.le_succ_of_le (h.reached index generation point hold)
    · cases hnew
      exact Nat.le_refl _
  case single =>
    intro index other generation point point' hcall hother
    rw [hpending] at hcall hother
    rcases getElem?_concat_cases hcall with hold | ⟨hindex, hnew⟩
    · rcases getElem?_concat_cases hother with hold' | ⟨-, hnew'⟩
      · exact h.single index other generation point point' hold hold'
      · -- the generation that begins is later than all before
        have hle := h.reached index generation point hold
        cases hnew'
        omega
    · rcases getElem?_concat_cases hother with hold' | ⟨hother', -⟩
      · have hle := h.reached other generation point' hold'
        cases hnew
        omega
      · rw [hindex, hother']
  case free =>
    intro _ _ _ _
    exact hroom

theorem Sound.creates (h : Sound session) {index : Nat} {point : ConnectPoint}
    (hcall : session.pending[index]? = some (.connect session.sessionGeneration point))
    (hgeneration : session'.sessionGeneration = session.sessionGeneration)
    (hroom : session'.roomRef = some session.rooms.length)
    (hrooms : session'.rooms = session.rooms ++ [session.sessionGeneration])
    (hpending : session'.pending =
      session.pending.set index (.connect session.sessionGeneration (.roomConnect session.rooms.length))) :
    Sound session' := by
  constructor
  case owned =>
    intro room htracked
    rw [hroom] at htracked
    cases htracked
    rw [hrooms, hgeneration]
    exact List.getElem?_concat_length
  case reached =>
    intro position generation point' hafter
    rw [hpending] at hafter
    rw [hgeneration]
    rcases getElem?_set_cases hafter with ⟨-, hnew⟩ | ⟨-, hold⟩
    · cases hnew
      exact Nat.le_refl _
    · exact h.reached position generation point' hold
  case single =>
    intro position other generation point' point'' hafter hother
    rw [hpending] at hafter hother
    rcases getElem?_set_cases hafter with ⟨hposition, hnew⟩ | ⟨-, hold⟩
    · cases hnew
      rw [hposition]
      rcases getElem?_set_cases hother with ⟨hsame, -⟩ | ⟨-, hold'⟩
      · exact hsame.symm
      · exact h.single index other _ point point'' hcall hold'
    · rcases getElem?_set_cases hother with ⟨hsame, hnew'⟩ | ⟨-, hold'⟩
      · cases hnew'
        rw [hsame]
        exact h.single position index _ point' point hold hcall
      · exact h.single position other generation point' point'' hold hold'
  case free =>
    intro position point' hafter hpoint
    rw [hpending, hgeneration] at hafter
    rcases getElem?_set_cases hafter with ⟨-, hnew⟩ | ⟨hother, hold⟩
    · cases hnew
      cases hpoint
    · -- no other `connect` of the generation waits
      exact absurd (h.single position index _ point' point hold hcall) hother

theorem sound_step (h : Sound session) : Sound (session.step action) := by
  have heffect : Effect session (session.step action) := effect_step action
  cases heffect with
  | keeps hkeeps => exact h.keeps hkeeps
  | drops hgeneration hroom _ _ hwaits => exact h.drops hgeneration hroom hwaits
  | begins hgeneration _ hroom _ _ hpending => exact h.begins hgeneration hroom hpending
  | creates index point hcall _ hgeneration hroom hrooms _ _ hpending =>
      exact h.creates hcall hgeneration hroom hrooms hpending

/-- Every step is a move of the fence. -/
theorem move_step (h : Sound session) : Fence.Move session.fence (session.step action).fence := by
  have heffect : Effect session (session.step action) := effect_step action
  cases heffect with
  | keeps hkeeps =>
      apply Fence.Move.keep
      case hgeneration => exact le_of_eq hkeeps.generation.symm
      case hcreated => exact congrArg (fun rooms : List Nat => List.range rooms.length) hkeeps.rooms
      case hreleased => exact hkeeps.disconnected
      case htracked => exact .inl hkeeps.room
  | drops hgeneration hroom hrooms hdisconnected _ =>
      apply Fence.Move.keep
      case hgeneration =>
        show session.sessionGeneration ≤ (session.step action).sessionGeneration
        omega
      case hcreated => exact congrArg (fun rooms : List Nat => List.range rooms.length) hrooms
      case hreleased =>
        intro room hgone
        exact .inl (hdisconnected (List.mem_append_left _ hgone))
      case htracked =>
        refine .inr ⟨hroom, ?_⟩
        intro room htracked
        exact hdisconnected (List.mem_append_right _ (Option.mem_toList.mpr htracked))
  | begins hgeneration hfree hroom hrooms hdisconnected _ =>
      apply Fence.Move.keep
      case hgeneration =>
        show session.sessionGeneration ≤ (session.step action).sessionGeneration
        omega
      case hcreated => exact congrArg (fun rooms : List Nat => List.range rooms.length) hrooms
      case hreleased =>
        intro room hgone
        refine .inl ?_
        show room ∈ (session.step action).disconnected
        rw [hdisconnected]
        exact hgone
      case htracked => exact .inl (hroom.trans hfree.symm)
  | creates index point hcall hpoint hgeneration hroom hrooms hdisconnected _ _ =>
      apply Fence.Move.create session.rooms.length
      case hfree => exact h.free index point hcall hpoint
      case hgeneration => exact le_of_eq hgeneration.symm
      case hcreated =>
        show List.range (session.step action).rooms.length = _
        rw [hrooms, List.length_append, List.length_singleton, List.range_succ]
        rfl
      case hreleased =>
        show session.disconnected ⊆ (session.step action).disconnected
        rw [hdisconnected]
        exact List.Subset.refl _
      case htracked => exact hroom

end Invariant

/-! ## What is shown -/

/-- The status of the connection, the messages, the tasks and the media. -/
structure View where
  connectionStatus : LiveKitConnectionStatus
  messages : List TranscriptMessage
  tasks : List TaskItem
  media : MediaState

def Session.view (session : Session) : View :=
  ⟨session.connectionStatus, session.messages, session.tasks, session.media⟩

/-- The generation of a callback that waits. -/
def Pending.origin (session : Session) : Pending → Option Nat
  | connect generation _ | activate generation _ _ => some generation
  | trackSubscribed room _ _ | trackActivated room _ => session.rooms[room]?
  | settled => none

/-- The generation of the handler or the continuation that an action runs; what the user does has none. -/
def origin (session : Session) : Action → Option Nat
  | .resume index _ => session.pending[index]?.bind (Pending.origin session)
  | .room room _ => session.rooms[room]?
  | .element index _ => session.playbacks[index]?.bind fun playback => session.rooms[playback.room]?
  | .heartbeat timer _ => session.timers[timer]?.bind fun room => session.rooms[room]?
  | _ => none

section Stale

variable {session : Session} {index generation : Nat}

theorem not_isCurrent {room : Nat} (hroom : session.rooms[room]? = some generation)
    (hstale : generation ≠ session.sessionGeneration) : ¬ session.isCurrent room := by
  intro hcurrent
  have hsame : some generation = some session.sessionGeneration := hroom.symm.trans hcurrent.1
  exact hstale (Option.some.inj hsame)

theorem view_failConnect_of_stale (hstale : generation ≠ session.sessionGeneration) :
    (session.failConnect index generation).view = session.view := by
  unfold Session.failConnect
  rw [if_pos (show ¬ isCurrentSessionGeneration generation session.sessionGeneration from hstale)]
  rfl

theorem view_roomConnected_of_stale (hstale : generation ≠ session.sessionGeneration) (room : Nat) :
    (session.roomConnected index generation room).view = session.view := by
  unfold Session.roomConnected
  dsimp only
  rw [if_neg fun hcurrent => hstale hcurrent.1]
  rfl

theorem view_microphonePublished_of_stale (hstale : generation ≠ session.sessionGeneration) (room : Nat)
    (mediaStreamTrack : Option Nat) :
    (session.microphonePublished index generation room mediaStreamTrack).view = session.view := by
  unfold Session.microphonePublished
  rw [if_neg fun hcurrent => hstale hcurrent.1]
  rfl

theorem view_json_of_stale (hstale : generation ≠ session.sessionGeneration) :
    (if isCurrentSessionGeneration generation session.sessionGeneration then session.createRoom index generation
      else session.finish index generation).view = session.view := by
  rw [if_neg (show ¬ isCurrentSessionGeneration generation session.sessionGeneration from hstale)]
  rfl

theorem view_resumeConnect_of_stale (hstale : generation ≠ session.sessionGeneration) (point : ConnectPoint)
    (answer : Answer) : (session.resumeConnect index generation point answer).view = session.view := by
  have hresumed := resumed_resumeConnect session index generation point answer
  generalize session.resumeConnect index generation point answer = session' at hresumed ⊢
  cases hresumed with
  | fails => exact view_failConnect_of_stale hstale
  | waits => rfl
  | ready => exact view_json_of_stale hstale
  | connected room => exact view_roomConnected_of_stale hstale room
  | published room mediaStreamTrack => exact view_microphonePublished_of_stale hstale room mediaStreamTrack

theorem view_resume_of_stale {answer : Answer}
    (horigin : session.pending[index]?.bind (Pending.origin session) = some generation)
    (hstale : generation ≠ session.sessionGeneration) : (session.resume index answer).view = session.view := by
  obtain ⟨pending, hpending, hgeneration⟩ := Option.bind_eq_some_iff.mp horigin
  unfold Session.resume
  rw [hpending]
  cases pending with
  | connect connected point =>
      cases hgeneration
      exact view_resumeConnect_of_stale hstale point answer
  | activate begun element gainNode =>
      cases hgeneration
      show (session.resumeActivate index generation element gainNode _).view = session.view
      unfold Session.resumeActivate
      rw [if_pos (.inl hstale)]
      rfl
  | trackSubscribed room track element =>
      show (session.resumeTrackSubscribed index room track).view = session.view
      unfold Session.resumeTrackSubscribed
      rw [if_neg fun hcurrent => not_isCurrent hgeneration hstale hcurrent.1]
      rfl
  | trackActivated => rfl
  | settled => rfl

theorem view_receive_of_stale {room : Nat} (event : RoomEvent) (hroom : session.rooms[room]? = some generation)
    (hstale : generation ≠ session.sessionGeneration) : (session.receive room event).view = session.view := by
  unfold Session.receive
  split
  case isFalse => rfl
  case isTrue =>
    dsimp only
    rw [if_neg (not_isCurrent hroom hstale)]
    cases event <;> rfl

/-- A step of a generation that is over changes nothing that is shown. -/
theorem view_step_of_stale {action : Action} (h : Sound session) (horigin : origin session action = some generation)
    (hstale : generation ≠ session.sessionGeneration) : (session.step action).view = session.view := by
  cases action with
  | resume index answer => exact view_resume_of_stale horigin hstale
  | room room event => exact view_receive_of_stale event horigin hstale
  | element index event =>
      obtain ⟨playback, hplayback, hroom⟩ := Option.bind_eq_some_iff.mp horigin
      rw [step_element, hplayback]
      show (session.elementEvent playback event).view = session.view
      unfold Session.elementEvent
      rw [if_neg fun hcurrent => not_isCurrent hroom hstale hcurrent.1]
  | heartbeat timer connected =>
      obtain ⟨room, htimer, hroom⟩ := Option.bind_eq_some_iff.mp horigin
      show (session.heartbeat timer connected).view = session.view
      unfold Session.heartbeat
      rw [htimer]
      show (if _ then session.failCurrentSession room else session).view = session.view
      rw [if_neg]
      rintro ⟨-, htracked, -⟩
      -- the room that is tracked is of the current generation
      exact not_isCurrent hroom hstale ⟨h.owned room htracked, htracked⟩
  | connect => cases horigin
  | disconnect => cases horigin
  | retryPlayback => cases horigin
  | speechStart => cases horigin
  | speechEnd => cases horigin
  | unmuteAssistant => cases horigin
  | interruption => cases horigin
  | toggleMute => cases horigin

end Stale

/-! ## When a generation is over -/

/-- A `connect` begins, `disconnect` is called, or the session fails or is disconnected: its room is given up, or its status
becomes one of these. -/
inductive Turn (session : Session) : Action → Prop
  | connect (sessionId : String) (hflight : session.connectInFlight = none) (hfree : session.roomRef = none) :
      Turn session (.connect sessionId)
  | disconnect : Turn session .disconnect
  | room (action : Action) (htracked : session.roomRef ≠ none) (hnone : (session.step action).roomRef = none) :
      Turn session action
  | status (action : Action) (hchanged : (session.step action).connectionStatus ≠ session.connectionStatus)
      (hturns : turns (session.step action).connectionStatus = true) : Turn session action

section Runs

variable {session : Session} {action : Action} {actions : List Action}

/-- With a turn, the generation is over. -/
theorem Turn.generation_lt (h : Turn session action) :
    session.sessionGeneration < (session.step action).sessionGeneration := by
  have heffect : Effect session (session.step action) := effect_step action
  cases h with
  | connect sessionId hflight hfree =>
      show session.sessionGeneration < (session.connect sessionId).sessionGeneration
      unfold Session.connect
      rw [if_neg (not_or.mpr ⟨not_not_intro hflight, not_not_intro hfree⟩)]
      exact Nat.lt_succ_self _
  | disconnect => exact Nat.lt_succ_self _
  | room _ htracked hnone =>
      cases heffect with
      | keeps hkeeps => exact absurd (hkeeps.room.symm.trans hnone) htracked
      | drops hgeneration => omega
      | begins hgeneration => omega
      | creates _ _ _ _ _ hroom =>
          rw [hnone] at hroom
          cases hroom
  | status _ hchanged hturns =>
      cases heffect with
      | keeps hkeeps =>
          rcases hkeeps.status with hsame | hlive
          · exact absurd hsame hchanged
          · rw [hturns] at hlive
            cases hlive
      | drops hgeneration => omega
      | begins hgeneration => omega
      | creates _ _ _ _ _ _ _ _ hsame => exact absurd hsame hchanged

theorem run_append (session : Session) (first second : List Action) :
    session.run (first ++ second) = (session.run first).run second :=
  List.foldl_append

theorem sound_run (h : Sound session) : Sound (session.run actions) := by
  induction actions generalizing session with
  | nil => exact h
  | cons action rest ih => exact ih (sound_step h)

theorem moves_run (h : Sound session) : Fence.Moves session.fence (session.run actions).fence := by
  induction actions generalizing session with
  | nil => exact .refl
  | cons action rest ih => exact .head (move_step h) (ih (sound_step h))

theorem covered_run : (initial.run actions).fence.Covered := by
  have hmoves : Fence.Moves initial.fence (initial.run actions).fence := moves_run sound_initial
  apply Fence.Covered.moves _ hmoves
  intro room hroom
  cases hroom

/-- The generation before a turn is over in every state after it. -/
theorem generation_lt_of_turn {before : List Action} {turn : Action} (after : List Action)
    (hturn : Turn (initial.run before) turn) :
    (initial.run before).sessionGeneration < (initial.run (before ++ turn :: after)).sessionGeneration := by
  have hsound : Sound (initial.run before) := sound_run sound_initial
  have hmoves : Fence.Moves ((initial.run before).step turn).fence (((initial.run before).step turn).run after).fence :=
    moves_run (sound_step hsound)
  rw [run_append]
  calc (initial.run before).sessionGeneration
      < ((initial.run before).step turn).sessionGeneration := hturn.generation_lt
    _ ≤ (((initial.run before).step turn).run after).sessionGeneration := Fence.generation_le_of_moves hmoves

end Runs

/-- The session after a run: every room is tracked or has been disconnected, so that one at most has not, and a room is created
only where none is tracked; what belongs to a generation that a turn has ended changes nothing that is shown. -/
structure Fenced (actions : List Action) : Prop where
  covered : ∀ room < (initial.run actions).rooms.length,
    (initial.run actions).roomRef = some room ∨ room ∈ (initial.run actions).disconnected
  single : ∀ room < (initial.run actions).rooms.length, ∀ other < (initial.run actions).rooms.length,
    room ∉ (initial.run actions).disconnected → other ∉ (initial.run actions).disconnected → room = other
  created : ∀ action, (initial.run actions).rooms.length < ((initial.run actions).step action).rooms.length →
    (initial.run actions).roomRef = none
  stale : ∀ (before after : List Action) (turn action : Action) (generation : Nat), actions = before ++ turn :: after →
    Turn (initial.run before) turn → origin (initial.run actions) action = some generation →
      generation ≤ (initial.run before).sessionGeneration →
        ((initial.run actions).step action).view = (initial.run actions).view

/-- Every run of the hook is fenced. -/
theorem session_fence (actions : List Action) : Fenced actions := by
  have hsound : Sound (initial.run actions) := sound_run sound_initial
  have hcovered : ∀ room < (initial.run actions).rooms.length,
      (initial.run actions).roomRef = some room ∨ room ∈ (initial.run actions).disconnected :=
    fun room hroom => covered_run room (List.mem_range.mpr hroom)
  constructor
  case covered => exact hcovered
  case single =>
    intro room hroom other hother hstill hstill'
    have htracked := (hcovered room hroom).resolve_right hstill
    have htracked' := (hcovered other hother).resolve_right hstill'
    exact Option.some.inj (htracked.symm.trans htracked')
  case created =>
    intro action hcreated
    cases effect_step action with
    | keeps hkeeps =>
        rw [hkeeps.rooms] at hcreated
        omega
    | drops _ _ hrooms =>
        rw [hrooms] at hcreated
        omega
    | begins _ _ _ hrooms =>
        rw [hrooms] at hcreated
        omega
    | creates index point hcall hpoint => exact hsound.free index point hcall hpoint
  case stale =>
    intro before after turn action generation hactions hturn horigin hover
    have hlater := generation_lt_of_turn after hturn
    rw [← hactions] at hlater
    exact view_step_of_stale hsound horigin (by omega)

end BrowserSession
end VoiceAssistants
