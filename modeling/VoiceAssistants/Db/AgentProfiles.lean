import Mathlib.Logic.Function.Basic
import VoiceAssistants.Async.Run
import VoiceAssistants.Db.Idempotency

/-!
# Versions of the assistant profile (`db/agent_profiles.py`, `db/assistant_configuration.py`, migration 007)

`save_agent_profile_version` and `save_assistant_configuration` insert the next version of a company's profile,
`transition_agent_profile` moves a version to another state; publishing supersedes the version that was published.

`State` is what is committed, and the operations as they run against PostgreSQL at READ COMMITTED: a statement reads what
is committed when it begins, an `UPDATE` waits for the locks on its rows and looks at them again, an index entry waits for
one that another open transaction has made, and any statement can fail, which rolls the transaction back.

* `profile_versions_invariant` — in every run of saves, publications and rollbacks the versions of a company are numbered
  without gaps, one at most is published, and one stays so; versions do not change, and an operation that raises has
  changed nothing.

Row-level security is outside, and so are the columns of `assistant_configs` that the database fills in.
-/

namespace VoiceAssistants
namespace Db

open Sql Async

/-- The values of `agent_profile_versions.lifecycle_state`. -/
inductive LifecycleState
  | draft
  | validated
  | tested
  | published
  | superseded
  | rolledBack
  deriving DecidableEq, Repr

/-- A row of `agent_profile_versions`; `D` is what a `jsonb` column holds. -/
structure ProfileVersion (D : Type) where
  companyId : Uuid
  version : Int
  lifecycleState : LifecycleState
  profile : D
  compiledPolicy : D
  policyVersion : Option String
  createdBy : String
  createdAt : Int
  publishedAt : Option Int
  deriving DecidableEq, Repr

/-- `UNIQUE (company_id, version)` -/
def ProfileVersion.key {D : Type} (row : ProfileVersion D) : Uuid × Int :=
  (row.companyId, row.version)

/-- A row of `assistant_configs`. -/
structure AssistantConfig where
  assistantName : String
  voiceEngine : String
  inboundGreeting : String
  systemPrompt : String
  knowledgeBaseNotes : Option String
  isDeployed : Bool
  deriving DecidableEq, Repr

/-- The row as its columns hold it; `none` is a value that is too long. -/
def AssistantConfig.stored (config : AssistantConfig) : Option AssistantConfig := do
  let assistantName ← varchar 255 config.assistantName
  let voiceEngine ← varchar 64 config.voiceEngine
  return { config with assistantName, voiceEngine }

/-! ## The operations -/

/-- What is saved; `save_assistant_configuration` gives a `config`. -/
structure SaveInput (D : Type) where
  companyId : String
  createdBy : String
  profile : D
  compiledPolicy : D
  /-- `compiled_policy.get("platformPolicyVersion")` -/
  policyVersion : Option String
  published : Bool
  config : Option AssistantConfig
  deriving DecidableEq, Repr

inductive Operation (D : Type)
  | save (input : SaveInput D)
  | transition (companyId : String) (version : Int) (lifecycleState : LifecycleState)
      (allowedSourceStates : Option (List LifecycleState))
  deriving DecidableEq, Repr

namespace Operation

variable {D : Type}

/-- `save_assistant_configuration`: `published`, when it is given, replaces `is_deployed`. -/
def saveAssistantConfiguration (input : SaveInput D) (config : AssistantConfig) (published : Option Bool) : Operation D :=
  let isDeployed := published.getD config.isDeployed
  .save { input with published := isDeployed, config := some { config with isDeployed } }

/-- `publish_assistant_profile` -/
def publish (companyId : String) (version : Int) : Operation D :=
  .transition companyId version .published (some [.validated, .tested])

/-- `rollback_assistant_profile` -/
def rollback (companyId : String) (version : Int) : Operation D :=
  .transition companyId version .published (some [.superseded])

/-- The operation makes a version the published one. -/
def publishes : Operation D → Bool
  | save input => input.published
  | transition _ _ lifecycleState _ => lifecycleState = .published

def isSave : Operation D → Bool
  | save _ => true
  | transition _ _ _ _ => false

end Operation

/-- `validate_profile_transition`; `false` is the `ValueError`. -/
def validateProfileTransition (currentState targetState : LifecycleState)
    (allowedSourceStates : Option (List LifecycleState)) : Bool :=
  (allowedSourceStates.all fun states => states.contains currentState) && currentState ≠ targetState

/-- The row that a save inserts. -/
def SaveInput.row {D : Type} (input : SaveInput D) (company : Uuid) (version now : Int) : Option (ProfileVersion D) := do
  let policyVersion ← nullableVarchar 128 input.policyVersion
  let createdBy ← varchar 255 input.createdBy
  return {
    companyId := company, version, lifecycleState := if input.published then .published else .draft,
    profile := input.profile, compiledPolicy := input.compiledPolicy, policyVersion, createdBy, createdAt := now,
    publishedAt := if input.published then some now else none }

/-- The row after the last `UPDATE` of `transition_agent_profile`. -/
def ProfileVersion.transitioned {D : Type} (row : ProfileVersion D) (target : LifecycleState) (now : Int) :
    ProfileVersion D :=
  { row with lifecycleState := target, publishedAt := if target = .published then some now else row.publishedAt }

/-! ## A transaction -/

/-- The statement that an operation is at. -/
inductive TransactionPhase
  | configuring (config : AssistantConfig)
  | locking
  | reading
  | selecting
  /-- The rows that the `UPDATE` has still to visit, once it has begun. -/
  | superseding (todo : Option (List Int))
  | writing
  /-- The last statement has changed a row, or none. -/
  | committing (found : Bool)
  | returned
  | raised
  deriving DecidableEq, Repr

namespace TransactionPhase

def isOpen : TransactionPhase → Bool
  | returned | raised => false
  | _ => true

/-- The version is known. -/
def isChosen : TransactionPhase → Bool
  | superseding _ | writing | committing _ => true
  | _ => false

def isCommitting : TransactionPhase → Bool
  | committing _ => true
  | _ => false

end TransactionPhase

/-- An operation with what its transaction holds and has changed. -/
structure Transaction (D : Type) where
  operation : Operation D
  company : Uuid
  /-- `NOW()` -/
  now : Int
  phase : TransactionPhase
  version : Int
  /-- The versions whose rows are locked. -/
  locks : List Int
  superseded : List Int
  config : Option AssistantConfig
  deriving DecidableEq, Repr

/-- The range of `INTEGER`. -/
def isInteger (value : Int) : Bool :=
  -2147483648 ≤ value && value ≤ 2147483647

namespace Transaction

variable {D : Type}

section Definitions

variable {H : Type} [DecidableEq H] (hash : String → H) (rows : List (ProfileVersion D)) (others : List (Transaction D))
  (tx : Transaction D)

def key : Uuid × Int :=
  (tx.company, tx.version)

def raise : Transaction D :=
  { tx with phase := .raised }

/-- An operation up to its first statement that matters. -/
def start (operation : Operation D) (now : Int) : Transaction D :=
  let called : Transaction D :=
    { operation, company := 0, now, phase := .raised, version := 0, locks := [], superseded := [], config := none }
  match operation with
  | .save input =>
      match Uuid.parse input.companyId with
      | none => called
      | some company =>
          match input.config with
          | some config => { called with company, phase := .configuring config }
          | none => { called with company, phase := .locking }
  | .transition companyId version lifecycleState _ =>
      if !([LifecycleState.validated, .tested, .published, .rolledBack].contains lifecycleState) then called
      else
        match Uuid.parse companyId with
        | none => called
        | some company => { called with company, phase := .selecting, version }

/-- The advisory lock that a save holds from its `SELECT` on. -/
def advisoryLock : Option H :=
  match tx.operation, tx.phase with
  | .save input, .reading | .save input, .superseding _ | .save input, .writing | .save input, .committing _ =>
      some (hash input.companyId)
  | _, _ => none

/-- The phase once the version is known. -/
def chosenPhase : TransactionPhase :=
  if tx.operation.publishes then .superseding none else .writing

/-- `SELECT COALESCE(MAX(version), 0) + 1` -/
def readVersion : Transaction D :=
  let version := (((rows.filter fun row => row.companyId = tx.company).map (·.version)).max?).getD 0 + 1
  if isInteger version then { tx with version, phase := tx.chosenPhase } else tx.raise

/-- `SELECT … FOR UPDATE`, and the checks of the state; `none` is waiting. -/
def selectForUpdate (target : LifecycleState) (allowedSourceStates : Option (List LifecycleState)) :
    Option (Transaction D) :=
  if !isInteger tx.version then some tx.raise
  else
    match selectKey ProfileVersion.key tx.key rows with
    | none => some tx.raise
    | some row =>
        if others.any fun other => other.company = tx.company && other.locks.contains tx.version then none
        else if validateProfileTransition row.lifecycleState target allowedSourceStates then
          some { tx with locks := [tx.version], phase := tx.chosenPhase }
        else some tx.raise

/-- The versions that the `UPDATE` of the published ones sees when it begins. -/
def publishedVersions : List Int :=
  (rows.filter fun row => row.companyId = tx.company && row.lifecycleState = .published).map (·.version)

/-- The `UPDATE` comes to a row; `none` is waiting.  The row is looked at again when its lock is there. -/
def supersede (version : Int) (rest : List Int) : Option (Transaction D) :=
  if others.any fun other => other.company = tx.company && other.locks.contains version then none
  else
    let stillPublished := (selectKey ProfileVersion.key (tx.company, version) rows).any fun row =>
      row.lifecycleState = .published
    some { tx with
      phase := .superseding (some rest), locks := version :: tx.locks,
      superseded := if stillPublished then version :: tx.superseded else tx.superseded }

/-- The transaction has an entry in the index of the published versions. -/
def hasPublished : Bool :=
  tx.phase.isCommitting && tx.operation.publishes

/-- The transaction has an entry in the index of the versions that is not committed. -/
def hasInserted : Bool :=
  tx.phase.isCommitting && tx.operation.isSave

/-- The committed rows that `uq_agent_profile_published` does not admit beside the one that is written. -/
def conflicts : List (ProfileVersion D) :=
  rows.filter fun row => row.companyId = tx.company && row.lifecycleState = .published && row.version ≠ tx.version &&
    !tx.superseded.contains row.version

/-- The row that a save inserts. -/
def inserted : Option (ProfileVersion D) :=
  match tx.operation with
  | .save input => input.row tx.company tx.version tx.now
  | .transition _ _ _ _ => none

/-- The `INSERT`, or the last `UPDATE`; `none` is waiting for another transaction's index entry. -/
def write : Option (Transaction D) :=
  if tx.operation.isSave && tx.inserted.isNone then some tx.raise
  else if tx.operation.isSave && others.any fun other => other.hasInserted && other.key = tx.key then none
  else if tx.operation.isSave && rows.any fun row => row.key = tx.key then some tx.raise
  else if tx.operation.publishes && others.any (fun other => other.company = tx.company && (other.hasPublished ||
      (tx.conflicts rows).any fun row => other.superseded.contains row.version)) then none
  else if tx.operation.publishes && !(tx.conflicts rows).isEmpty then some tx.raise
  else some { tx with phase := .committing (tx.operation.isSave || rows.any fun row => row.key = tx.key) }

/-- The next statement of an operation before its COMMIT; `none` is waiting. -/
def next : Option (Transaction D) :=
  match tx.phase with
  | .configuring config =>
      match config.stored with
      | none => some tx.raise
      | some stored =>
          if others.any fun other => other.company = tx.company && other.config.isSome then none
          else some { tx with phase := .locking, config := some stored }
  | .locking =>
      match tx.operation with
      | .save input =>
          if others.any fun other => other.advisoryLock hash = some (hash input.companyId) then none
          else some { tx with phase := .reading }
      | .transition _ _ _ _ => none
  | .reading => some (tx.readVersion rows)
  | .selecting =>
      match tx.operation with
      | .save _ => none
      | .transition _ _ target allowedSourceStates => tx.selectForUpdate rows others target allowedSourceStates
  | .superseding none => some { tx with phase := .superseding (some (tx.publishedVersions rows)) }
  | .superseding (some []) => some { tx with phase := .writing }
  | .superseding (some (version :: rest)) => tx.supersede rows others version rest
  | .writing => tx.write rows others
  | .committing _ | .returned | .raised => none

/-- A committed row after the `UPDATE` of the published versions. -/
def supersedeRow (row : ProfileVersion D) : ProfileVersion D :=
  if row.companyId = tx.company ∧ row.version ∈ tx.superseded then { row with lifecycleState := .superseded } else row

/-- What the transaction makes of a committed row. -/
def change (row : ProfileVersion D) : ProfileVersion D :=
  match tx.operation with
  | .save _ => tx.supersedeRow row
  | .transition _ _ target _ =>
      if row.key = tx.key then (tx.supersedeRow row).transitioned target tx.now else tx.supersedeRow row

/-- The rows once the transaction is committed. -/
def apply : List (ProfileVersion D) :=
  rows.map tx.change ++ tx.inserted.toList

end Definitions

end Transaction

/-! ## The store -/

structure ProfileStore (D : Type) where
  rows : List (ProfileVersion D)
  configs : Uuid → Option AssistantConfig
  operations : List (Transaction D)

namespace ProfileStore

variable {D H : Type} [DecidableEq H]

/-- The store before any operation. -/
def initial (rows : List (ProfileVersion D)) (configs : Uuid → Option AssistantConfig) : ProfileStore D :=
  ⟨rows, configs, []⟩

inductive Action (D : Type)
  | start (operation : Operation D) (now : Int)
  | statement (index : Nat)
  | commit (index : Nat)
  /-- A statement fails, or the connection. -/
  | fail (index : Nat)
  deriving DecidableEq, Repr

/-- The operation that an action is about. -/
def Action.index (s : ProfileStore D) : Action D → Nat
  | start _ _ => s.operations.length
  | statement index | commit index | fail index => index

/-- The other transactions that are open. -/
def others (s : ProfileStore D) (index : Nat) : List (Transaction D) :=
  (s.operations.eraseIdx index).filter fun tx => tx.phase.isOpen

def replace (s : ProfileStore D) (index : Nat) (tx : Transaction D) : ProfileStore D :=
  { s with operations := s.operations.set index tx }

/-- COMMIT, and the return of the operation. -/
def committed (s : ProfileStore D) (index : Nat) (tx : Transaction D) (found : Bool) : ProfileStore D where
  rows := tx.apply s.rows
  configs := match tx.config with
    | some config => Function.update s.configs tx.company (some config)
    | none => s.configs
  operations := s.operations.set index { tx with phase := if found then .returned else .raised }

def step (hash : String → H) (s : ProfileStore D) : Action D → Option (ProfileStore D)
  | .start operation now => some { s with operations := s.operations ++ [.start operation now] }
  | .statement index => do
      let tx ← s.operations[index]?
      let tx' ← tx.next hash s.rows (s.others index)
      return s.replace index tx'
  | .commit index => do
      let tx ← s.operations[index]?
      match tx.phase with
      | .committing found => return s.committed index tx found
      | _ => none
  | .fail index => do
      let tx ← s.operations[index]?
      guard tx.phase.isOpen
      return s.replace index tx.raise

/-- Only saves, publications and rollbacks are started. -/
def Listed (_ : ProfileStore D) : Action D → Prop
  | .start (.transition _ _ target _) _ => target = .published
  | _ => True

end ProfileStore

end Db
end VoiceAssistants
