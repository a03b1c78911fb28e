import VoiceAssistants.Async.Fence
import VoiceAssistants.Collections.Slots

/-!
# Calls of the mobile application (`mobile/src/hooks/useVoiceBot.ts`)

`initiateCall` and `endCall` of `useVoiceBot`, as the steps between their awaits.  An invocation that does not return at once
is a task; its `Point` is the await at which it is suspended, and `resume` goes on with the answer.  Any number of them may be
under way at a time, and the events of a room may come at any time.

A task is numbered by the generation in which it began.  What the dependencies give back is left out where it is only passed on
(the token, the options of the room), and so are the levels, the transcripts and the task that the hook shows.

* `Sound` — a call of the current generation has the room that is tracked, so a room is created only where none is.
* `move_step` — every step is a move of the fence, which loses no room.
* `call_torn_down` — once `endCall` was the last invocation and all tasks are settled, everything is torn down, if no call goes
  on from its audio set-up in a generation that is over.
* `late_call_keeps_room` — a call that does leaves its room tracked and the audio session started.
-/

namespace VoiceAssistants
namespace VoiceCall

open Async Collections

/-! ## The hook -/

/-- `VoiceBotStatus` -/
inductive Status
  | disconnected
  | connecting
  | waitingForAgent
  | connected
  | reconnecting
  | error
  deriving DecidableEq

/-- `VoiceBotError` -/
structure VoiceBotError where
  code : String
  message : String
  status : Option Int
  deriving DecidableEq

/-- What has been thrown, as far as it is an object. -/
structure Caught where
  code : Option String
  message : Option String
  status : Option Int
  deriving DecidableEq

/-- `value || otherwise` -/
def orText (value : Option String) (otherwise : String) : String :=
  (value.filter (· ≠ "")).getD otherwise

/-- `toVoiceBotError` -/
def toVoiceBotError (error : Option Caught) : VoiceBotError :=
  match error with
  | some value =>
      ⟨orText value.code "VOICE_SESSION_FAILED", orText value.message "The voice session could not be started.",
        value.status⟩
  | none => ⟨"VOICE_SESSION_FAILED", "The voice session could not be started.", none⟩

/-- The calls that start and stop the native audio. -/
inductive AudioCall
  | startAudioSession
  | stopAudioSession
  deriving DecidableEq

/-- The awaits of `initiateCall`; `disconnectLate` is for a room that is not current any more, the last two are in the
`catch` block. -/
inductive Point
  | fetchToken
  | configureAudio
  | startAudioSession
  | selectOutput
  | connect (room : Nat)
  | disconnectLate (room : Nat)
  | setMicrophoneEnabled (room : Nat)
  | disconnectFailed (caught : Option Caught)
  | stopFailed (caught : Option Caught)
  deriving DecidableEq

/-- `room`, where it can still be used. -/
def Point.room? : Point → Option Nat
  | connect room | disconnectLate room | setMicrophoneEnabled room => some room
  | _ => none

/-- The awaits of `endCall`. -/
inductive EndPoint
  | disconnect
  | stop
  deriving DecidableEq

/-- An invocation; a call remembers its generation. -/
inductive Task
  | call (generation : Nat) (point : Point)
  | ending (point : EndPoint)
  | settled
  deriving DecidableEq

/-- A room: the generation of its call, and `hasAgentAudio`. -/
structure Room where
  generation : Nat
  hasAgentAudio : Bool
  deriving DecidableEq

/-- The refs and the state of the hook, the rooms that have been created, those that have been disconnected (by
`room.disconnect()` or by themselves), the calls of the audio session in their order, and the invocations. -/
structure VoiceBot where
  roomRef : Option Nat
  generation : Nat
  intentionalDisconnect : Bool
  status : Status
  error : Option VoiceBotError
  rooms : List Room
  disconnected : List Nat
  audio : List AudioCall
  tasks : List Task
  deriving DecidableEq

def initial : VoiceBot :=
  ⟨none, 0, false, .disconnected, none, [], [], [], []⟩

/-- A promise is resolved, or rejected. -/
inductive Answer
  | resolved
  | rejected (caught : Option Caught)

/-- The events of a room; tracks are of audio. -/
inductive RoomEvent
  | reconnecting
  | reconnected
  | trackSubscribed
  | trackUnsubscribed (connected : Bool)
  | disconnected

inductive Action
  | initiateCall
  | endCall
  | resume (index : Nat) (answer : Answer)
  | event (room : Nat) (event : RoomEvent)

namespace VoiceBot

/-- A task goes on to another await, or settles. -/
def suspend (bot : VoiceBot) (index : Nat) (task : Task) : VoiceBot :=
  { bot with tasks := bot.tasks.set index task }

/-- `initiateCall`, up to its first await. -/
def initiateCall (bot : VoiceBot) : VoiceBot :=
  match bot.roomRef with
  | some _ => bot
  | none =>
      let generation := bot.generation + 1
      { bot with
        generation := generation
        intentionalDisconnect := false
        error := none
        status := .connecting
        tasks := bot.tasks ++ [.call generation .fetchToken] }

/-- `endCall`, up to its first await. -/
def endCall (bot : VoiceBot) : VoiceBot :=
  let bot' := { bot with generation := bot.generation + 1, intentionalDisconnect := true, roomRef := none }
  match bot.roomRef with
  | some room =>
      { bot' with disconnected := bot.disconnected ++ [room], tasks := bot.tasks ++ [.ending .disconnect] }
  | none => { bot' with audio := bot.audio ++ [.stopAudioSession], tasks := bot.tasks ++ [.ending .stop] }

/-- The `catch` block of `initiateCall`. -/
def fail (bot : VoiceBot) (index generation : Nat) (room : Option Nat) (caught : Option Caught) : VoiceBot :=
  if bot.generation ≠ generation then bot.suspend index .settled
  else
    let bot' := { bot with roomRef := none }
    match room with
    | some room =>
        suspend { bot' with disconnected := bot.disconnected ++ [room] } index (.call generation (.disconnectFailed caught))
    | none => suspend { bot' with audio := bot.audio ++ [.stopAudioSession] } index (.call generation (.stopFailed caught))

/-- `new Room`, and what follows up to `room.connect`. -/
def createRoom (bot : VoiceBot) (index generation : Nat) : VoiceBot :=
  let room := bot.rooms.length
  suspend { bot with rooms := bot.rooms ++ [⟨generation, false⟩], roomRef := some room } index
    (.call generation (.connect room))

/-- `setStatus(hasAgentAudio ? 'connected' : 'waiting_for_agent')` -/
def agentStatus (hasAgentAudio : Bool) : Status :=
  if hasAgentAudio then .connected else .waitingForAgent

/-- The room has connected. -/
def connected (bot : VoiceBot) (index generation room : Nat) : VoiceBot :=
  if bot.roomRef = some room ∧ bot.generation = generation then
    suspend { bot with status := agentStatus (bot.rooms[room]?.any Room.hasAgentAudio) } index
      (.call generation (.setMicrophoneEnabled room))
  else
    suspend { bot with disconnected := bot.disconnected ++ [room] } index (.call generation (.disconnectLate room))

/-- `initiateCall`, from one await to the next. -/
def resumeCall (bot : VoiceBot) (index generation : Nat) (point : Point) (answer : Answer) : VoiceBot :=
  match point, answer with
  | .fetchToken, .resolved =>
      if bot.generation ≠ generation then bot.suspend index .settled
      else bot.suspend index (.call generation .configureAudio)
  | .configureAudio, .resolved =>
      suspend { bot with audio := bot.audio ++ [.startAudioSession] } index (.call generation .startAudioSession)
  | .startAudioSession, .resolved => bot.suspend index (.call generation .selectOutput)
  | .selectOutput, _ => bot.createRoom index generation
  | .connect room, .resolved => bot.connected index generation room
  | .disconnectLate _, .resolved => bot.suspend index .settled
  | .setMicrophoneEnabled _, .resolved => bot.suspend index .settled
  | .disconnectFailed caught, _ =>
      suspend { bot with audio := bot.audio ++ [.stopAudioSession] } index (.call generation (.stopFailed caught))
  | .stopFailed caught, _ =>
      suspend { bot with error := some (toVoiceBotError caught), status := .error } index .settled
  | point, .rejected caught => bot.fail index generation point.room? caught

/-- `endCall`, from one await to the next. -/
def resumeEnding (bot : VoiceBot) (index : Nat) (point : EndPoint) : VoiceBot :=
  match point with
  | .disconnect => suspend { bot with audio := bot.audio ++ [.stopAudioSession] } index (.ending .stop)
  | .stop => suspend { bot with status := .disconnected } index .settled

def resume (bot : VoiceBot) (index : Nat) (answer : Answer) : VoiceBot :=
  match bot.tasks[index]? with
  | some (.call generation point) => bot.resumeCall index generation point answer
  | some (.ending point) => bot.resumeEnding index point
  | _ => bot

/-- The `RoomEvent.Disconnected` handler of the current room. -/
def roomDisconnected (bot : VoiceBot) : VoiceBot :=
  { bot with
    roomRef := none
    audio := bot.audio ++ [.stopAudioSession]
    status := if bot.intentionalDisconnect then .disconnected else .error
    error := if bot.intentionalDisconnect then bot.error
      else some ⟨"ROOM_DISCONNECTED", "The LiveKit room disconnected unexpectedly.", none⟩ }

def setAgentAudio (bot : VoiceBot) (index : Nat) (room : Room) (hasAgentAudio : Bool) : VoiceBot :=
  { bot with rooms := bot.rooms.set index { room with hasAgentAudio := hasAgentAudio } }

/-- What the handlers do for the current room. -/
def handle (bot : VoiceBot) (index : Nat) (room : Room) (event : RoomEvent) : VoiceBot :=
  match event with
  | .reconnecting => { bot with status := .reconnecting }
  | .reconnected => { bot with status := agentStatus room.hasAgentAudio }
  | .trackSubscribed => { bot.setAgentAudio index room true with status := .connected }
  | .trackUnsubscribed connected =>
      let bot' := bot.setAgentAudio index room false
      if connected then { bot' with status := .waitingForAgent } else bot'
  | .disconnected => bot.roomDisconnected

/-- An event of a room; the handlers look whether it is current. -/
def receive (bot : VoiceBot) (index : Nat) (event : RoomEvent) : VoiceBot :=
  match bot.rooms[index]? with
  | none => bot
  | some room =>
      let bot' :=
        match event with
        | .disconnected => { bot with disconnected := bot.disconnected ++ [index] }
        | _ => bot
      if bot.roomRef = some index ∧ bot.generation = room.generation then bot'.handle index room event else bot'

def step (bot : VoiceBot) (action : Action) : VoiceBot :=
  match action with
  | .initiateCall => bot.initiateCall
  | .endCall => bot.endCall
  | .resume index answer => bot.resume index answer
  | .event room event => bot.receive room event

def run (bot : VoiceBot) (actions : List Action) : VoiceBot :=
  actions.foldl step bot

@[simp] theorem suspend_roomRef (bot : VoiceBot) (index : Nat) (task : Task) :
    (bot.suspend index task).roomRef = bot.roomRef := rfl

@[simp] theorem suspend_generation (bot : VoiceBot) (index : Nat) (task : Task) :
    (bot.suspend index task).generation = bot.generation := rfl

@[simp] theorem suspend_rooms (bot : VoiceBot) (index : Nat) (task : Task) :
    (bot.suspend index task).rooms = bot.rooms := rfl

@[simp] theorem suspend_disconnected (bot : VoiceBot) (index : Nat) (task : Task) :
    (bot.suspend index task).disconnected = bot.disconnected := rfl

@[simp] theorem suspend_audio (bot : VoiceBot) (index : Nat) (task : Task) :
    (bot.suspend index task).audio = bot.audio := rfl

@[simp] theorem suspend_tasks (bot : VoiceBot) (index : Nat) (task : Task) :
    (bot.suspend index task).tasks = bot.tasks.set index task := rfl

end VoiceBot

/-! ## What a step can do -/

/-- A call goes on in its audio set-up, where it does not look at the generation. -/
def Point.proceeds : Point → Answer → Bool
  | .configureAudio, .resolved => true
  | .startAudioSession, .resolved => true
  | .selectOutput, _ => true
  | _, _ => false

/-- What a call does from one await to the next. -/
inductive Resumed (bot : VoiceBot) (index generation : Nat) (point : Point) (answer : Answer) (bot' : VoiceBot) : Prop
  /-- It settles, or waits for something else with the same room. -/
  | goesOn (task : Task)
      (htask : task = .settled ∨ ∃ point', task = .call generation point' ∧ point'.room? = point.room?)
      (htasks : bot'.tasks = bot.tasks.set index task) (hroom : bot'.roomRef = bot.roomRef)
      (hgeneration : bot'.generation = bot.generation) (hrooms : bot'.rooms = bot.rooms)
      (hdisconnected : bot.disconnected <+: bot'.disconnected)
      (haudio : bot'.audio = bot.audio ∨ bot'.audio = bot.audio ++ [.stopAudioSession] ∨
        (point.proceeds answer = true ∧ bot'.audio = bot.audio ++ [.startAudioSession]))
  /-- It creates its room. -/
  | creates (hproceeds : point.proceeds answer = true) (hpoint : point.room? = none)
      (htasks : bot'.tasks = bot.tasks.set index (.call generation (.connect bot.rooms.length)))
      (hroom : bot'.roomRef = some bot.rooms.length) (hgeneration : bot'.generation = bot.generation)
      (hrooms : bot'.rooms = bot.rooms ++ [⟨generation, false⟩]) (hdisconnected : bot'.disconnected = bot.disconnected)
      (haudio : bot'.audio = bot.audio)
  /-- It gives its room up, after an exception in its own generation. -/
  | fails (point' : Point) (hcurrent : bot.generation = generation)
      (htasks : bot'.tasks = bot.tasks.set index (.call generation point')) (hroom : bot'.roomRef = none)
      (hgeneration : bot'.generation = bot.generation) (hrooms : bot'.rooms = bot.rooms)
      (hdisconnected : bot'.disconnected = bot.disconnected ++ point.room?.toList)
      (haudio : bot'.audio = bot.audio ∨ bot'.audio = bot.audio ++ [.stopAudioSession])

section Steps

variable {bot : VoiceBot} {index generation : Nat} {point : Point} {answer : Answer}

/-- A task that only waits for something else, or settles. -/
theorem Resumed.of_suspend {task : Task}
    (htask : task = .settled ∨ ∃ point', task = .call generation point' ∧ point'.room? = point.room?) :
    Resumed bot index generation point answer (bot.suspend index task) :=
  .goesOn task htask rfl rfl rfl rfl (List.prefix_refl _) (.inl rfl)

theorem resumed_fail (caught : Option Caught) :
    Resumed bot index generation point answer (bot.fail index generation point.room? caught) := by
  unfold VoiceBot.fail
  by_cases hcurrent : bot.generation = generation
  · rw [if_neg (not_not_intro hcurrent)]
    cases hroom : point.room? with
    | some room =>
        exact .fails (.disconnectFailed caught) hcurrent rfl rfl rfl rfl (by rw [hroom]; rfl) (.inl rfl)
    | none =>
        exact .fails (.stopFailed caught) hcurrent rfl rfl rfl rfl (by rw [hroom]; exact (List.append_nil _).symm)
          (.inr rfl)
  · rw [if_pos hcurrent]
    exact .of_suspend (.inl rfl)

theorem resumed_connected {room : Nat} :
    Resumed bot index generation (.connect room) answer (bot.connected index generation room) := by
  unfold VoiceBot.connected
  split
  · exact .goesOn _ (.inr ⟨.setMicrophoneEnabled room, rfl, rfl⟩) rfl rfl rfl rfl (List.prefix_refl _) (.inl rfl)
  · exact .goesOn _ (.inr ⟨.disconnectLate room, rfl, rfl⟩) rfl rfl rfl rfl (List.prefix_append _ _) (.inl rfl)

theorem resumed_resumeCall : Resumed bot index generation point answer (bot.resumeCall index generation point answer) := by
  cases answer with
  | resolved =>
      cases point with
      | fetchToken =>
          show Resumed _ _ _ _ _ (if bot.generation ≠ generation then _ else _)
          split
          · exact .of_suspend (.inl rfl)
          · exact .of_suspend (.inr ⟨.configureAudio, rfl, rfl⟩)
      | configureAudio =>
          exact .goesOn _ (.inr ⟨.startAudioSession, rfl, rfl⟩) rfl rfl rfl rfl (List.prefix_refl _)
            (.inr (.inr ⟨rfl, rfl⟩))
      | startAudioSession => exact .of_suspend (.inr ⟨.selectOutput, rfl, rfl⟩)
      | selectOutput => exact .creates rfl rfl rfl rfl rfl rfl rfl rfl
      | connect room => exact resumed_connected
      | disconnectLate room => exact .of_suspend (.inl rfl)
      | setMicrophoneEnabled room => exact .of_suspend (.inl rfl)
      | disconnectFailed caught =>
          exact .goesOn _ (.inr ⟨.stopFailed caught, rfl, rfl⟩) rfl rfl rfl rfl (List.prefix_refl _) (.inr (.inl rfl))
      | stopFailed caught => exact .goesOn _ (.inl rfl) rfl rfl rfl rfl (List.prefix_refl _) (.inl rfl)
  | rejected thrown =>
      cases point with
      | selectOutput => exact .creates rfl rfl rfl rfl rfl rfl rfl rfl
      | disconnectFailed caught =>
          exact .goesOn _ (.inr ⟨.stopFailed caught, rfl, rfl⟩) rfl rfl rfl rfl (List.prefix_refl _) (.inr (.inl rfl))
      | stopFailed caught => exact .goesOn _ (.inl rfl) rfl rfl rfl rfl (List.prefix_refl _) (.inl rfl)
      | fetchToken => exact resumed_fail thrown
      | configureAudio => exact resumed_fail thrown
      | startAudioSession => exact resumed_fail thrown
      | connect room => exact resumed_fail thrown
      | disconnectLate room => exact resumed_fail thrown
      | setMicrophoneEnabled room => exact resumed_fail thrown

/-- What an event does; only the current room is given up, once it has disconnected. -/
structure Received (bot bot' : VoiceBot) : Prop where
  tasks : bot'.tasks = bot.tasks
  generation : bot'.generation = bot.generation
  rooms : bot'.rooms.length = bot.rooms.length
  disconnected : bot.disconnected <+: bot'.disconnected
  room : bot'.roomRef = bot.roomRef ∨
    bot'.roomRef = none ∧ ∀ room, bot.roomRef = some room → room ∈ bot'.disconnected
  audio : bot'.audio = bot.audio ∨ bot'.audio = bot.audio ++ [.stopAudioSession]

theorem received_receive {room : Nat} {event : RoomEvent} : Received bot (bot.receive room event) := by
  unfold VoiceBot.receive
  split
  case h_1 => exact ⟨rfl, rfl, rfl, List.prefix_refl _, .inl rfl, .inl rfl⟩
  case h_2 found hfound =>
    dsimp only
    split
    case isTrue hcurrent =>
      cases event with
      | reconnecting => exact ⟨rfl, rfl, rfl, List.prefix_refl _, .inl rfl, .inl rfl⟩
      | reconnected => exact ⟨rfl, rfl, rfl, List.prefix_refl _, .inl rfl, .inl rfl⟩
      | trackSubscribed =>
          exact ⟨rfl, rfl, List.length_set, List.prefix_refl _, .inl rfl, .inl rfl⟩
      | trackUnsubscribed connected =>
          cases connected with
          | false => exact ⟨rfl, rfl, List.length_set, List.prefix_refl _, .inl rfl, .inl rfl⟩
          | true => exact ⟨rfl, rfl, List.length_set, List.prefix_refl _, .inl rfl, .inl rfl⟩
      | disconnected =>
          refine ⟨rfl, rfl, rfl, List.prefix_append _ _, .inr ⟨rfl, ?_⟩, .inr rfl⟩
          intro other hother
          rw [hcurrent.1] at hother
          cases hother
          exact List.mem_append_right _ (List.mem_singleton.mpr rfl)
    case isFalse =>
      cases event with
      | disconnected => exact ⟨rfl, rfl, rfl, List.prefix_append _ _, .inl rfl, .inl rfl⟩
      | reconnecting => exact ⟨rfl, rfl, rfl, List.prefix_refl _, .inl rfl, .inl rfl⟩
      | reconnected => exact ⟨rfl, rfl, rfl, List.prefix_refl _, .inl rfl, .inl rfl⟩
      | trackSubscribed => exact ⟨rfl, rfl, rfl, List.prefix_refl _, .inl rfl, .inl rfl⟩
      | trackUnsubscribed connected => exact ⟨rfl, rfl, rfl, List.prefix_refl _, .inl rfl, .inl rfl⟩

end Steps

/-! ## Calls and their rooms -/

/-- What holds of the hook between two steps. -/
structure Sound (bot : VoiceBot) : Prop where
  /-- A generation is the number of a task. -/
  count : bot.tasks.length = bot.generation
  named : ∀ (index generation : Nat) (point : Point), bot.tasks[index]? = some (.call generation point) → generation = index + 1
  /-- The room that is tracked is that of the call of the current generation. -/
  owned : ∀ (index : Nat) (point : Point), bot.tasks[index]? = some (.call bot.generation point) →
    ∀ room, bot.roomRef = some room → point.room? = some room

/-- No call goes on in its audio set-up once its generation is over. -/
def Timely (bot : VoiceBot) (action : Action) : Prop :=
  match action with
  | .resume index answer => ∀ (generation : Nat) (point : Point), bot.tasks[index]? = some (.call generation point) →
      point.proceeds answer = true → bot.generation = generation
  | _ => True

/-- The hook as an object that tracks one room. -/
def VoiceBot.fence (bot : VoiceBot) : Fence Nat :=
  ⟨bot.generation, bot.roomRef, List.range bot.rooms.length, bot.disconnected⟩

section Invariant

variable {bot : VoiceBot} {action : Action}

theorem sound_initial : Sound initial := by
  constructor
  case count => rfl
  case named =>
    intro index generation point hcall
    cases hcall
  case owned =>
    intro index point hcall
    cases hcall

/-- A step that adds a task, of which the generation is the next one, and tracks no room. -/
theorem sound_invoke {bot' : VoiceBot} {task : Task} (h : Sound bot)
    (htask : ∀ (generation : Nat) (point : Point), task = .call generation point → generation = bot.generation + 1)
    (htasks : bot'.tasks = bot.tasks ++ [task]) (hgeneration : bot'.generation = bot.generation + 1)
    (hroom : bot'.roomRef = none) : Sound bot' := by
  constructor
  case count => rw [htasks, List.length_append, List.length_singleton, hgeneration, h.count]
  case named =>
    intro index generation point hcall
    rw [htasks] at hcall
    rcases getElem?_concat_cases hcall with hold | ⟨hindex, hnew⟩
    · exact h.named index generation point hold
    · rw [htask generation point hnew.symm, hindex, h.count]
  case owned =>
    intro index point _ room htracked
    rw [hroom] at htracked
    cases htracked

/-- A step of a task, in which the room is kept or given up, or becomes that of the task. -/
theorem sound_resume {bot' : VoiceBot} {index : Nat} {task : Task} (h : Sound bot)
    (htask : ∀ (generation : Nat) (point : Point), task = .call generation point → generation = index + 1)
    (htasks : bot'.tasks = bot.tasks.set index task) (hgeneration : bot'.generation = bot.generation)
    (hown : ∀ point : Point, task = .call bot.generation point → ∀ room, bot'.roomRef = some room → point.room? = some room)
    (hroom : bot'.roomRef = bot.roomRef ∨ bot'.roomRef = none ∨ bot.generation = index + 1) : Sound bot' := by
  constructor
  case count => rw [htasks, List.length_set, hgeneration, h.count]
  case named =>
    intro position generation point hcall
    rw [htasks] at hcall
    rcases getElem?_set_cases hcall with ⟨hsame, hnew⟩ | ⟨-, hold⟩
    · rw [htask generation point hnew.symm, hsame]
    · exact h.named position generation point hold
  case owned =>
    intro position point hcall room htracked
    rw [htasks, hgeneration] at hcall
    rcases getElem?_set_cases hcall with ⟨-, hnew⟩ | ⟨hother, hold⟩
    · exact hown point hnew.symm room htracked
    · rcases hroom with hkept | hnone | hindex
      · exact h.owned position point hold room (hkept.symm.trans htracked)
      · rw [hnone] at htracked
        cases htracked
      · -- the generations of two tasks differ
        have hposition := h.named position bot.generation point hold
        omega

theorem sound_step (h : Sound bot) (htimely : Timely bot action) : Sound (bot.step action) := by
  cases action with
  | initiateCall =>
      show Sound bot.initiateCall
      unfold VoiceBot.initiateCall
      split
      case h_1 => exact h
      case h_2 hnone =>
        apply sound_invoke h
        case htasks => rfl
        case hgeneration => rfl
        case hroom => exact hnone
        case htask =>
          intro generation point htask
          cases htask
          rfl
  | endCall =>
      show Sound bot.endCall
      unfold VoiceBot.endCall
      split
      all_goals
        apply sound_invoke h
        case htasks => rfl
        case hgeneration => rfl
        case hroom => rfl
        case htask =>
          intro generation point htask
          cases htask
  | event room event =>
      have hreceived : Received bot (bot.receive room event) := received_receive
      show Sound (bot.receive room event)
      constructor
      case count => rw [hreceived.tasks, hreceived.generation, h.count]
      case named => rw [hreceived.tasks]; exact h.named
      case owned =>
        rw [hreceived.tasks, hreceived.generation]
        intro index point hcall other htracked
        rcases hreceived.room with hkept | ⟨hnone, -⟩
        · exact h.owned index point hcall other (hkept.symm.trans htracked)
        · rw [hnone] at htracked
          cases htracked
  | resume index answer =>
      show Sound (bot.resume index answer)
      unfold VoiceBot.resume
      split
      case h_1 generation point hcall =>
        have hnamed := h.named index generation point hcall
        have hresumed : Resumed bot index generation point answer (bot.resumeCall index generation point answer) :=
          resumed_resumeCall
        cases hresumed with
        | goesOn task htask htasks hroom hgeneration _ _ _ =>
            apply sound_resume h _ htasks hgeneration _ (.inl hroom)
            · rintro generation' point' rfl
              rcases htask with hsettled | ⟨_, hpoint, -⟩
              · cases hsettled
              · cases hpoint
                exact hnamed
            · rintro point' rfl room htracked
              rcases htask with hsettled | ⟨_, hpoint, hsame⟩
              · cases hsettled
              · cases hpoint
                rw [hsame]
                exact h.owned index point hcall room (hroom.symm.trans htracked)
        | creates hproceeds _ htasks hroom hgeneration _ _ _ =>
            have hcurrent := htimely generation point hcall hproceeds
            apply sound_resume h _ htasks hgeneration _ (.inr (.inr (hcurrent.trans hnamed)))
            · intro generation' point' htask
              cases htask
              exact hnamed
            · intro point' htask room htracked
              cases htask
              rw [← htracked, hroom]
              rfl
        | fails point' _ htasks hroom hgeneration _ _ _ =>
            apply sound_resume h _ htasks hgeneration _ (.inr (.inl hroom))
            · intro generation' other htask
              cases htask
              exact hnamed
            · intro other _ room htracked
              rw [hroom] at htracked
              cases htracked
      case h_2 point hending =>
        cases point with
        | disconnect =>
            apply sound_resume h
            case htasks => rfl
            case hgeneration => rfl
            case hroom => exact .inl rfl
            case htask =>
              intro generation point htask
              cases htask
            case hown =>
              intro point htask
              cases htask
        | stop =>
            apply sound_resume h
            case htasks => rfl
            case hgeneration => rfl
            case hroom => exact .inl rfl
            case htask =>
              intro generation point htask
              cases htask
            case hown =>
              intro point htask
              cases htask
      case h_3 => exact h

/-- A step is a move of the fence. -/
theorem move_step (h : Sound bot) (htimely : Timely bot action) :
    Fence.Move bot.fence (bot.step action).fence := by
  cases action with
  | initiateCall =>
      show Fence.Move bot.fence bot.initiateCall.fence
      unfold VoiceBot.initiateCall
      split
      case h_1 => exact .refl _
      case h_2 => exact .keep (Nat.le_succ _) rfl (Fence.released_of_extends (List.prefix_refl _)) (.inl rfl)
  | endCall =>
      show Fence.Move bot.fence bot.endCall.fence
      unfold VoiceBot.endCall
      split
      case h_1 room hroom =>
        apply Fence.Move.keep
        case hgeneration => exact Nat.le_succ _
        case hcreated => rfl
        case hreleased => exact Fence.released_of_extends (List.prefix_append _ _)
        case htracked =>
          refine .inr ⟨rfl, ?_⟩
          intro other hother
          have hsame : some room = some other := hroom.symm.trans hother
          cases hsame
          exact List.mem_append_right _ (List.mem_singleton.mpr rfl)
      case h_2 hnone => exact .keep (Nat.le_succ _) rfl (Fence.released_of_extends (List.prefix_refl _)) (.inl hnone.symm)
  | event room event =>
      have hreceived : Received bot (bot.receive room event) := received_receive
      apply Fence.Move.keep (le_of_eq hreceived.generation.symm) _ (Fence.released_of_extends hreceived.disconnected)
        hreceived.room
      exact congrArg List.range hreceived.rooms
  | resume index answer =>
      show Fence.Move bot.fence (bot.resume index answer).fence
      unfold VoiceBot.resume
      split
      case h_1 generation point hcall =>
        have hresumed : Resumed bot index generation point answer (bot.resumeCall index generation point answer) :=
          resumed_resumeCall
        cases hresumed with
        | goesOn task _ _ hroom hgeneration hrooms hdisconnected _ =>
            apply Fence.Move.keep (le_of_eq hgeneration.symm) _ (Fence.released_of_extends hdisconnected) (.inl hroom)
            exact congrArg (fun rooms : List Room => List.range rooms.length) hrooms
        | creates hproceeds hpoint _ hroom hgeneration hrooms hdisconnected _ =>
            have hcurrent := htimely generation point hcall hproceeds
            have hfree : bot.roomRef = none := by
              cases htracked : bot.roomRef with
              | none => rfl
              | some room =>
                  have howned := h.owned index point (hcurrent ▸ hcall) room htracked
                  rw [hpoint] at howned
                  cases howned
            apply Fence.Move.create bot.rooms.length hfree (le_of_eq hgeneration.symm) _ _ hroom
            · show List.range (bot.resumeCall index generation point answer).rooms.length = _
              rw [hrooms, List.length_append, List.length_singleton, List.range_succ]
              rfl
            · show bot.disconnected ⊆ (bot.resumeCall index generation point answer).disconnected
              rw [hdisconnected]
              exact List.Subset.refl _
        | fails _ hcurrent _ hroom hgeneration hrooms hdisconnected _ =>
            apply Fence.Move.keep (le_of_eq hgeneration.symm)
            · exact congrArg (fun rooms : List Room => List.range rooms.length) hrooms
            · apply Fence.released_of_extends
              show bot.disconnected <+: (bot.resumeCall index generation point answer).disconnected
              rw [hdisconnected]
              exact List.prefix_append _ _
            · refine .inr ⟨hroom, ?_⟩
              intro room htracked
              have howned := h.owned index point (hcurrent ▸ hcall) room htracked
              show room ∈ (bot.resumeCall index generation point answer).disconnected
              rw [hdisconnected, howned]
              exact List.mem_append_right _ (List.mem_singleton.mpr rfl)
      case h_2 point hending =>
        cases point with
        | disconnect => exact .keep (Nat.le_refl _) rfl (Fence.released_of_extends (List.prefix_refl _)) (.inl rfl)
        | stop => exact .keep (Nat.le_refl _) rfl (Fence.released_of_extends (List.prefix_refl _)) (.inl rfl)
      case h_3 => exact .refl _

end Invariant

/-! ## Runs -/

/-- Every step of a run is timely. -/
def TimelyRun : VoiceBot → List Action → Prop
  | _, [] => True
  | bot, action :: rest => Timely bot action ∧ TimelyRun (bot.step action) rest

/-- The action is an invocation. -/
def Action.invokes : Action → Bool
  | initiateCall | endCall => true
  | _ => false

/-- No task is under way. -/
def Settled (bot : VoiceBot) : Prop :=
  ∀ task ∈ bot.tasks, task = .settled

instance (bot : VoiceBot) : Decidable (Settled bot) :=
  inferInstanceAs (Decidable (∀ task ∈ bot.tasks, task = .settled))

/-- Everything is torn down, and the next call starts. -/
structure TornDown (bot : VoiceBot) : Prop where
  room : bot.roomRef = none
  disconnected : ∀ room < bot.rooms.length, room ∈ bot.disconnected
  /-- There is no `startAudioSession` after the last `stopAudioSession`. -/
  audio : bot.audio.getLast? ≠ some .startAudioSession
  next : (bot.step .initiateCall).tasks = bot.tasks ++ [.call (bot.generation + 1) .fetchToken]

/-- What holds after `endCall` until the next invocation: no generation of a call is the current one, and the audio is stopped
or about to be. -/
structure Ended (bot : VoiceBot) : Prop where
  room : bot.roomRef = none
  superseded : ∀ (index generation : Nat) (point : Point), bot.tasks[index]? = some (.call generation point) →
    bot.generation ≠ generation
  audio : bot.audio.getLast? ≠ some .startAudioSession ∨ ∃ index : Nat, bot.tasks[index]? = some (.ending .disconnect)

section Runs

variable {bot : VoiceBot} {action : Action}

theorem run_append (first second : List Action) : bot.run (first ++ second) = (bot.run first).run second :=
  List.foldl_append

theorem timelyRun_append {first second : List Action} (h : TimelyRun bot (first ++ second)) :
    TimelyRun bot first ∧ TimelyRun (bot.run first) second := by
  induction first generalizing bot with
  | nil => exact ⟨trivial, h⟩
  | cons action rest ih =>
      obtain ⟨hfirst, hsecond⟩ := ih h.2
      exact ⟨⟨h.1, hfirst⟩, hsecond⟩

theorem sound_run {actions : List Action} (h : Sound bot) (htimely : TimelyRun bot actions) : Sound (bot.run actions) := by
  induction actions generalizing bot with
  | nil => exact h
  | cons action rest ih => exact ih (sound_step h htimely.1) htimely.2

/-- A run loses no room. -/
theorem moves_run {actions : List Action} (h : Sound bot) (htimely : TimelyRun bot actions) :
    Fence.Moves bot.fence (bot.run actions).fence := by
  induction actions generalizing bot with
  | nil => exact .refl
  | cons action rest ih =>
      exact .head (move_step h htimely.1) (ih (sound_step h htimely.1) htimely.2)

theorem getLast?_stop (audio : List AudioCall) :
    (audio ++ [AudioCall.stopAudioSession]).getLast? ≠ some .startAudioSession := by
  rw [List.getLast?_concat]
  intro h
  cases h

/-- The audio is left as it is, or stopped. -/
theorem stopped_of_same {audio audio' : List AudioCall} (h : audio.getLast? ≠ some .startAudioSession)
    (hsame : audio' = audio ∨ audio' = audio ++ [.stopAudioSession]) : audio'.getLast? ≠ some .startAudioSession := by
  rcases hsame with rfl | rfl
  · exact h
  · exact getLast?_stop audio

theorem ended_endCall (h : Sound bot) : Ended bot.endCall := by
  have hcalls {task : Task} (hending : ∀ (generation : Nat) (point : Point), task ≠ .call generation point)
      (index generation : Nat) (point : Point) (hcall : (bot.tasks ++ [task])[index]? = some (.call generation point)) :
      bot.generation + 1 ≠ generation := by
    rcases getElem?_concat_cases hcall with hold | ⟨-, hnew⟩
    · have hindex := (List.getElem?_eq_some_iff.mp hold).1
      have hnamed := h.named index generation point hold
      have hcount := h.count
      omega
    · exact absurd hnew.symm (hending generation point)
  unfold VoiceBot.endCall
  split
  case h_1 room hroom =>
    constructor
    case room => rfl
    case superseded =>
      apply hcalls
      intro generation point htask
      cases htask
    case audio => exact .inr ⟨bot.tasks.length, List.getElem?_concat_length⟩
  case h_2 =>
    constructor
    case room => rfl
    case superseded =>
      apply hcalls
      intro generation point htask
      cases htask
    case audio => exact .inl (getLast?_stop bot.audio)

/-- A task goes on after `endCall`. -/
theorem Ended.resumed {bot' : VoiceBot} {index : Nat} {task old : Task} (h : Ended bot)
    (hold : bot.tasks[index]? = some old) (htasks : bot'.tasks = bot.tasks.set index task)
    (hroom : bot'.roomRef = bot.roomRef) (hgeneration : bot'.generation = bot.generation)
    (htask : ∀ (generation : Nat) (point : Point), task = .call generation point → bot.generation ≠ generation)
    (haudio : bot'.audio = bot.audio ∨ bot'.audio = bot.audio ++ [.stopAudioSession])
    (hstops : old = .ending .disconnect → bot'.audio = bot.audio ++ [.stopAudioSession]) : Ended bot' := by
  constructor
  case room => rw [hroom, h.room]
  case superseded =>
    intro position generation point hcall
    rw [htasks] at hcall
    rw [hgeneration]
    rcases getElem?_set_cases hcall with ⟨-, hnew⟩ | ⟨-, hsame⟩
    · exact htask generation point hnew.symm
    · exact h.superseded position generation point hsame
  case audio =>
    rcases h.audio with hstopped | ⟨position, hending⟩
    · exact .inl (stopped_of_same hstopped haudio)
    · by_cases hposition : position = index
      · -- the task is the one that stops the audio
        rw [hposition, hold] at hending
        rw [hstops (Option.some.inj hending)]
        exact .inl (getLast?_stop bot.audio)
      · refine .inr ⟨position, ?_⟩
        rw [htasks, List.getElem?_set_ne (Ne.symm hposition)]
        exact hending

theorem ended_step (h : Ended bot) (htimely : Timely bot action) (hinvokes : action.invokes = false) :
    Ended (bot.step action) := by
  cases action with
  | initiateCall => cases hinvokes
  | endCall => cases hinvokes
  | event room event =>
      have hreceived : Received bot (bot.receive room event) := received_receive
      show Ended (bot.receive room event)
      constructor
      case room =>
        rcases hreceived.room with hkept | ⟨hnone, -⟩
        · exact hkept.trans h.room
        · exact hnone
      case superseded =>
        rw [hreceived.tasks, hreceived.generation]
        exact h.superseded
      case audio =>
        rw [hreceived.tasks]
        exact h.audio.imp_left fun hstopped => stopped_of_same hstopped hreceived.audio
  | resume index answer =>
      show Ended (bot.resume index answer)
      unfold VoiceBot.resume
      split
      case h_1 generation point hcall =>
        have hover : bot.generation ≠ generation := h.superseded index generation point hcall
        have hresumed : Resumed bot index generation point answer (bot.resumeCall index generation point answer) :=
          resumed_resumeCall
        cases hresumed with
        | goesOn task htask htasks hroom hgeneration _ _ haudio =>
            apply h.resumed hcall htasks hroom hgeneration
            case htask =>
              rintro generation' point' rfl
              rcases htask with hsettled | ⟨_, hpoint, -⟩
              · cases hsettled
              · cases hpoint
                exact hover
            case haudio =>
              rcases haudio with hsame | hstopped | ⟨hproceeds, -⟩
              · exact .inl hsame
              · exact .inr hstopped
              · exact absurd (htimely generation point hcall hproceeds) hover
            case hstops =>
              intro hending
              cases hending
        | creates hproceeds => exact absurd (htimely generation point hcall hproceeds) hover
        | fails _ hcurrent => exact absurd hcurrent hover
      case h_2 point hending =>
        cases point with
        | disconnect =>
            apply h.resumed hending
            case htasks => rfl
            case hroom => rfl
            case hgeneration => rfl
            case haudio => exact .inr rfl
            case hstops => exact fun _ => rfl
            case htask =>
              intro generation point htask
              cases htask
        | stop =>
            apply h.resumed hending
            case htasks => rfl
            case hroom => rfl
            case hgeneration => rfl
            case haudio => exact .inl rfl
            case hstops =>
              intro hother
              cases hother
            case htask =>
              intro generation point htask
              cases htask
      case h_3 => exact h

theorem ended_run {actions : List Action} (h : Ended bot) (htimely : TimelyRun bot actions)
    (hinvokes : ∀ action ∈ actions, action.invokes = false) : Ended (bot.run actions) := by
  induction actions generalizing bot with
  | nil => exact h
  | cons action rest ih =>
      have hstep : Ended (bot.step action) := ended_step h htimely.1 (hinvokes action List.mem_cons_self)
      exact ih hstep htimely.2 fun other hother => hinvokes other (List.mem_cons_of_mem _ hother)

end Runs

/-- In every run in which `endCall` is the last invocation and all tasks are settled, everything is torn down, if no call goes
on in its audio set-up once its generation is over. -/
theorem call_torn_down (before after : List Action) (hlast : ∀ action ∈ after, action.invokes = false)
    (hsettled : Settled (initial.run (before ++ .endCall :: after)))
    (htimely : TimelyRun initial (before ++ .endCall :: after)) :
    TornDown (initial.run (before ++ .endCall :: after)) := by
  obtain ⟨hbefore, hend, hafter⟩ := timelyRun_append htimely
  have hsound : Sound (initial.run before) := sound_run sound_initial hbefore
  have hended : Ended (initial.run (before ++ .endCall :: after)) := by
    rw [run_append]
    show Ended ((initial.run before).endCall.run after)
    exact ended_run (ended_endCall hsound) hafter hlast
  have hmoves : Fence.Moves initial.fence (initial.run (before ++ .endCall :: after)).fence :=
    moves_run sound_initial htimely
  have hcovered : (initial.run (before ++ .endCall :: after)).fence.Covered := by
    apply Fence.Covered.moves _ hmoves
    intro room hroom
    cases hroom
  constructor
  case room => exact hended.room
  case disconnected =>
    intro room hroom
    rcases hcovered room (List.mem_range.mpr hroom) with htracked | hgone
    · have hnone := hended.room.symm.trans htracked
      cases hnone
    · exact hgone
  case audio =>
    rcases hended.audio with hstopped | ⟨index, hending⟩
    · exact hstopped
    · have hsame := hsettled _ (List.mem_of_getElem? hending)
      cases hsame
  case next =>
    generalize initial.run (before ++ .endCall :: after) = bot at hended
    show bot.initiateCall.tasks = _
    unfold VoiceBot.initiateCall
    rw [hended.room]

/-- The theorem at a call that is ended while its token is fetched. -/
theorem call_torn_down_fetching :
    TornDown (initial.run ([.initiateCall] ++ .endCall :: [.resume 1 .resolved, .resume 0 .resolved])) := by
  apply call_torn_down [.initiateCall] [.resume 1 .resolved, .resume 0 .resolved]
  case hlast => decide
  case hsettled => decide +kernel
  case htimely =>
    refine ⟨trivial, trivial, ?_, ?_, trivial⟩
    · intro generation point hcall
      cases hcall
    · intro generation point hcall hproceeds
      cases hcall
      cases hproceeds

/-- A call that goes on from its audio set-up after `endCall` leaves its room tracked and the audio session started, and the
next call does not start. -/
theorem late_call_keeps_room : ¬ ∀ before after : List Action, (∀ action ∈ after, action.invokes = false) →
    Settled (initial.run (before ++ .endCall :: after)) → TornDown (initial.run (before ++ .endCall :: after)) := by
  intro htorn
  -- the call is ended while the audio is configured
  have hdown := htorn [.initiateCall, .resume 0 .resolved]
    [.resume 1 .resolved, .resume 0 .resolved, .resume 0 .resolved, .resume 0 .resolved, .resume 0 .resolved,
      .resume 0 .resolved] (by decide) (by decide +kernel)
  have hroom : (initial.run ([.initiateCall, .resume 0 .resolved] ++ .endCall ::
      [.resume 1 .resolved, .resume 0 .resolved, .resume 0 .resolved, .resume 0 .resolved, .resume 0 .resolved,
        .resume 0 .resolved])).roomRef = some 0 := by decide +kernel
  rw [hdown.room] at hroom
  cases hroom

end VoiceCall
end VoiceAssistants
