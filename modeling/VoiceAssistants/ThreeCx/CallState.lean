/-!
# Call states and their legal transitions

The states of a durable 3CX call and the table `THREECX_CALL_TRANSITIONS`, shared by the database operations
and by the connector's call controller.
-/

namespace VoiceAssistants
namespace ThreeCx

/-- The values of the column `threecx_call_sessions.state`. -/
inductive CallState
  | claimed
  | connecting
  | active
  | transferring
  | transferred
  | ending
  | ended
  | failed
  deriving DecidableEq, Repr

namespace CallState

/-- The stored text of a state. -/
def text : CallState → String
  | claimed => "claimed"
  | connecting => "connecting"
  | active => "active"
  | transferring => "transferring"
  | transferred => "transferred"
  | ending => "ending"
  | ended => "ended"
  | failed => "failed"

/-- `THREECX_CALL_TRANSITIONS`: the states each state may be moved to. -/
def transitions : CallState → List CallState
  | claimed => [connecting, failed, ended]
  | connecting => [active, failed, ending]
  | active => [transferring, ending, failed]
  | transferring => [transferred, active, failed]
  | transferred => [ending, ended]
  | ending => [ended, failed]
  | ended => []
  | failed => []

/-- `new` is among the transitions of `old`. -/
def Edge (old new : CallState) : Prop :=
  new ∈ old.transitions

instance (old new : CallState) : Decidable (Edge old new) :=
  inferInstanceAs (Decidable (new ∈ old.transitions))

/-- The states in which a call is over. -/
def Terminal (state : CallState) : Prop :=
  state = ended ∨ state = failed

instance (state : CallState) : Decidable state.Terminal :=
  inferInstanceAs (Decidable (state = ended ∨ state = failed))

/-- No edge leaves a terminal state. -/
theorem Edge.not_terminal {old new : CallState} (h : Edge old new) : ¬ old.Terminal := by
  rintro (rfl | rfl) <;> simp [Edge, transitions] at h

/-- No edge enters the initial state: a call is claimed once. -/
theorem Edge.ne_claimed {old new : CallState} (h : Edge old new) : new ≠ claimed := by
  rintro rfl
  cases old <;> simp [Edge, transitions] at h

/-- An edge changes the state. -/
theorem Edge.ne {old new : CallState} (h : Edge old new) : new ≠ old := by
  rintro rfl
  cases new <;> simp [Edge, transitions] at h

end CallState

end ThreeCx
end VoiceAssistants
