import VoiceAssistants.Collections.Slots
import VoiceAssistants.Db.DraftLifecycle
import VoiceAssistants.Python.JsonText

/-!
# The legacy row of the assistant (`assistant_configs`)

`save_assistant_configuration` writes the row of `assistant_configs` and a version of the profile in one transaction;
`publish_assistant_profile` and `rollback_assistant_profile` change versions only.  The row is the editor's: it is that
of the newest version, whatever is published (`legacy_row_follows_newest`).  A draft that is saved over a published
version makes `is_deployed` false (`legacy_row_undeployed`).

What a row shows of a version that a rollback has brought back is left open.
-/

namespace VoiceAssistants
namespace Db

open Sql Async Python
open Collections (getElem?_concat_cases getElem?_set_cases)

/-! ## The requests -/

/-- The body of `update_assistant_config`. -/
structure AssistantConfigRequest where
  assistantName : String
  voiceEngine : String
  inboundGreeting : String
  systemPrompt : String
  knowledgeBaseNotes : Option String
  tone : String
  businessHours : List (String × String)
  escalationRules : List String
  faqEntries : List (List (String × String))
  defaultLanguage : String
  allowedLanguages : List String
  capabilities : Json
  isDeployed : Bool

namespace AssistantConfigRequest

def texts (members : List (String × String)) : Json :=
  .obj (members.map fun member => (member.1, .str member.2))

/-- The `profile` of the version. -/
def profile (payload : AssistantConfigRequest) : Json :=
  .obj [
    ("assistant_name", .str payload.assistantName),
    ("voice_engine", .str payload.voiceEngine),
    ("inbound_greeting", .str payload.inboundGreeting),
    ("system_prompt", .str payload.systemPrompt),
    ("knowledge_base_notes", .str (payload.knowledgeBaseNotes.getD "")),
    ("tone", .str payload.tone),
    ("business_hours", texts payload.businessHours),
    ("escalation_rules", .arr (payload.escalationRules.map .str)),
    ("faq_entries", .arr (payload.faqEntries.map texts)),
    ("default_language", .str payload.defaultLanguage),
    ("allowed_languages", .arr (payload.allowedLanguages.map .str)),
    ("capabilities", payload.capabilities)]

/-- The values of the legacy row. -/
def config (payload : AssistantConfigRequest) : AssistantConfig where
  assistantName := payload.assistantName
  voiceEngine := payload.voiceEngine
  inboundGreeting := payload.inboundGreeting
  systemPrompt := payload.systemPrompt
  knowledgeBaseNotes := payload.knowledgeBaseNotes
  isDeployed := payload.isDeployed

/-- `update_assistant_config` -/
def save (payload : AssistantConfigRequest) (companyId : String) (compiledPolicy : Json)
    (policyVersion : Option String) : Operation Json :=
  let input : SaveInput Json :=
    { companyId, createdBy := companyId, profile := payload.profile, compiledPolicy, policyVersion, published := false,
      config := none }
  .saveAssistantConfiguration input payload.config none

end AssistantConfigRequest

/-- The requests that change the assistant of a company. -/
inductive AssistantCall
  | save (payload : AssistantConfigRequest) (companyId : String) (compiledPolicy : Json) (policyVersion : Option String)
  | publish (companyId : String) (version : Int)
  | rollback (companyId : String) (version : Int)

def AssistantCall.operation : AssistantCall → Operation Json
  | save payload companyId compiledPolicy policyVersion => payload.save companyId compiledPolicy policyVersion
  | publish companyId version => .publish companyId version
  | rollback companyId version => .rollback companyId version

/-! ## The row and the versions -/

/-- The row shows the name, the voice, the greeting, the prompt and the notes of a profile, as its columns hold them;
`get_assistant_config` reads no notes as empty ones. -/
structure AssistantConfig.Shows (config : AssistantConfig) (profile : Json) : Prop where
  name : ∃ text, profile.member? "assistant_name" = some (.str text) ∧ varchar 255 text = some config.assistantName
  voice : ∃ text, profile.member? "voice_engine" = some (.str text) ∧ varchar 64 text = some config.voiceEngine
  greeting : profile.member? "inbound_greeting" = some (.str config.inboundGreeting)
  prompt : profile.member? "system_prompt" = some (.str config.systemPrompt)
  notes : profile.member? "knowledge_base_notes" = some (.str (config.knowledgeBaseNotes.getD ""))

/-- The version of a company that was saved last. -/
def Newest {D : Type} (rows : List (ProfileVersion D)) (company : Uuid) (row : ProfileVersion D) : Prop :=
  row ∈ rows ∧ row.companyId = company ∧ ∀ other ∈ rows, other.companyId = company → other.version ≤ row.version

/-- The row is deployed if and only if a version is published, and then shows that version. -/
structure FollowsPublished (rows : List (ProfileVersion Json)) (company : Uuid) (config : Option AssistantConfig) :
    Prop where
  deployed : (∃ row, config = some row ∧ row.isDeployed = true) ↔ HasPublished rows company
  shows : ∀ row, config = some row → row.isDeployed = true → ∀ version ∈ rows, version.companyId = company →
    version.lifecycleState = .published → row.Shows version.profile

/-- The row is that of the newest version. -/
structure MirrorsVersion (rows : List (ProfileVersion Json)) (company : Uuid) (config : AssistantConfig)
    (newest : ProfileVersion Json) : Prop where
  last : Newest rows company newest
  shows : config.Shows newest.profile
  deployed : config.isDeployed = true ↔ newest.lifecycleState ≠ .draft
  published : config.isDeployed = true → HasPublished rows company

/-- There is a row if there is a version, and it is that of the newest. -/
def Mirrors (rows : List (ProfileVersion Json)) (company : Uuid) (config : Option AssistantConfig) : Prop :=
  (config = none ∧ ∀ row ∈ rows, row.companyId ≠ company) ∨
    ∃ row newest, config = some row ∧ MirrorsVersion rows company row newest

theorem AssistantConfigRequest.shows_of_stored {payload : AssistantConfigRequest} {stored : AssistantConfig}
    (h : payload.config.stored = some stored) : stored.Shows payload.profile := by
  obtain ⟨name, hname, h⟩ := Option.bind_eq_some_iff.mp h
  obtain ⟨voice, hvoice, h⟩ := Option.bind_eq_some_iff.mp h
  obtain rfl := Option.some.inj h
  constructor
  · exact ⟨payload.assistantName, by simp [Json.member?, profile], hname⟩
  · exact ⟨payload.voiceEngine, by simp [Json.member?, profile], hvoice⟩
  · simp [Json.member?, profile, config]
  · simp [Json.member?, profile, config]
  · simp [Json.member?, profile, config]

theorem AssistantConfig.isDeployed_of_stored {config stored : AssistantConfig} (h : config.stored = some stored) :
    stored.isDeployed = config.isDeployed := by
  obtain ⟨name, -, h⟩ := Option.bind_eq_some_iff.mp h
  obtain ⟨voice, -, h⟩ := Option.bind_eq_some_iff.mp h
  obtain rfl := Option.some.inj h
  rfl

/-! ## A transaction -/

/-- The phases after the row is written. -/
def TransactionPhase.isWritten : TransactionPhase → Bool
  | configuring _ | returned | raised => false
  | _ => true

namespace Transaction

variable {D H : Type} [DecidableEq H] {hash : String → H} {rows : List (ProfileVersion D)}
  {others : List (Transaction D)} {tx tx' : Transaction D}

/-- What a transaction holds of the legacy row: a transition nothing, a save what the columns hold. -/
structure HoldsConfig (tx : Transaction D) : Prop where
  transition : tx.operation.isSave = false → tx.config = none
  configuring : ∀ input config, tx.operation = .save input → tx.phase = .configuring config →
    input.config = some config
  written : ∀ input, tx.operation = .save input → tx.phase.isWritten = true →
    ∃ config stored, input.config = some config ∧ config.stored = some stored ∧ tx.config = some stored

theorem isWritten_chosenPhase : tx.chosenPhase.isWritten = true := by
  unfold chosenPhase
  split <;> rfl

/-- The first statement of a save writes the row, and no other one does. -/
theorem next_config (h : tx.next hash rows others = some tx') :
    tx' = tx.raise ∨ (tx'.operation = tx.operation ∧ tx'.phase.isWritten = true ∧
      ((∃ config stored, tx.phase = .configuring config ∧ config.stored = some stored ∧ tx'.config = some stored) ∨
        (tx.phase.isWritten = true ∧ tx'.config = tx.config))) := by
  unfold next at h
  cases hphase : tx.phase with
  | configuring config =>
      simp only [hphase] at h
      split at h
      · exact .inl (Option.some.inj h).symm
      · rename_i stored hstored
        split at h
        · cases h
        · obtain rfl := Option.some.inj h
          exact .inr ⟨rfl, rfl, .inl ⟨config, stored, rfl, hstored, rfl⟩⟩
  | locking =>
      simp only [hphase] at h
      split at h
      · split at h
        · cases h
        · obtain rfl := Option.some.inj h
          exact .inr ⟨rfl, rfl, .inr ⟨rfl, rfl⟩⟩
      · cases h
  | reading =>
      simp only [hphase, readVersion] at h
      split at h
      · obtain rfl := Option.some.inj h
        exact .inr ⟨rfl, isWritten_chosenPhase, .inr ⟨rfl, rfl⟩⟩
      · exact .inl (Option.some.inj h).symm
  | selecting =>
      simp only [hphase] at h
      split at h
      · cases h
      · rcases ProfileStore.selectForUpdate_cases h with hraised | ⟨row, -, -, rfl⟩
        · exact .inl hraised
        · exact .inr ⟨rfl, isWritten_chosenPhase, .inr ⟨rfl, rfl⟩⟩
  | superseding todo =>
      cases todo with
      | none =>
          simp only [hphase] at h
          obtain rfl := Option.some.inj h
          exact .inr ⟨rfl, rfl, .inr ⟨rfl, rfl⟩⟩
      | some todo =>
          cases todo with
          | nil =>
              simp only [hphase] at h
              obtain rfl := Option.some.inj h
              exact .inr ⟨rfl, rfl, .inr ⟨rfl, rfl⟩⟩
          | cons version rest =>
              simp only [hphase, supersede] at h
              split at h
              · cases h
              · obtain rfl := Option.some.inj h
                exact .inr ⟨rfl, rfl, .inr ⟨rfl, rfl⟩⟩
  | writing =>
      simp only [hphase] at h
      cases moves_of_write hphase h with
      | raised => exact .inl rfl
      | wrote hwas hinsert hpublish => exact .inr ⟨rfl, rfl, .inr ⟨rfl, rfl⟩⟩
      | prepared phase config hwas => simp [hphase, TransactionPhase.isSaving] at hwas
      | read hwas => simp [hphase] at hwas
      | selected hwas => simp [hphase] at hwas
      | visited phase locks superseded hwas => simp [hphase] at hwas
  | committing found =>
      simp only [hphase] at h
      cases h
  | returned =>
      simp only [hphase] at h
      cases h
  | raised =>
      simp only [hphase] at h
      cases h

theorem HoldsConfig.raise (h : tx.HoldsConfig) : tx.raise.HoldsConfig := by
  constructor
  · exact h.transition
  · intro input config _ hphase
    cases hphase
  · intro input _ hwritten
    cases hwritten

theorem HoldsConfig.next (hholds : tx.HoldsConfig) (hsound : tx.Sound rows)
    (h : tx.next hash rows others = some tx') : tx'.HoldsConfig := by
  rcases next_config h with rfl | ⟨hoperation, hwritten, hconfig⟩
  · exact hholds.raise
  · constructor
    · intro htransition
      rw [hoperation] at htransition
      rcases hconfig with ⟨config, stored, hphase, -, -⟩ | ⟨-, hsame⟩
      · -- only saves configure
        have hsave := hsound.saving (by rw [hphase]; rfl)
        rw [htransition] at hsave
        cases hsave
      · rw [hsame]
        exact hholds.transition htransition
    · intro input config _ hphase
      rw [hphase] at hwritten
      cases hwritten
    · intro input hinput _
      rw [hoperation] at hinput
      rcases hconfig with ⟨config, stored, hphase, hstored, hheld⟩ | ⟨hwas, hsame⟩
      · exact ⟨config, stored, hholds.configuring input config hinput hphase, hstored, hheld⟩
      · rw [hsame]
        exact hholds.written input hinput hwas

/-- An operation holds no row when it is called, and a save that gives one begins with it. -/
theorem start_config (operation : Operation D) (now : Int) :
    (Transaction.start operation now).config = none ∧
      ∀ input config, operation = .save input → input.config = some config →
        (Transaction.start operation now).phase = .configuring config ∨
          (Transaction.start operation now).phase = .raised := by
  unfold Transaction.start
  cases operation with
  | save input =>
      dsimp only
      cases Uuid.parse input.companyId with
      | none => exact ⟨rfl, fun _ _ _ _ => .inr rfl⟩
      | some company =>
          cases hconfig : input.config with
          | none =>
              refine ⟨rfl, fun _ _ hinput hsome => ?_⟩
              rw [← Operation.save.inj hinput, hconfig] at hsome
              cases hsome
          | some config =>
              refine ⟨rfl, fun _ _ hinput hsome => ?_⟩
              rw [← Operation.save.inj hinput, hconfig] at hsome
              exact .inl (congrArg TransactionPhase.configuring (Option.some.inj hsome))
  | transition companyId version target allowedSourceStates =>
      dsimp only
      split
      · exact ⟨rfl, fun _ _ hinput => by cases hinput⟩
      · cases Uuid.parse companyId <;> exact ⟨rfl, fun _ _ hinput => by cases hinput⟩

theorem holdsConfig_start {operation : Operation D} {now : Int}
    (h : ∀ input, operation = .save input → input.config.isSome = true) :
    (Transaction.start operation now).HoldsConfig := by
  obtain ⟨hnone, hphase⟩ := start_config operation now
  obtain ⟨hoperation, -⟩ := ProfileStore.start_phase operation now
  constructor
  · exact fun _ => hnone
  · intro input config hinput hconfiguring
    rw [hoperation] at hinput
    obtain ⟨given, hgiven⟩ := Option.isSome_iff_exists.mp (h input hinput)
    rcases hphase input given hinput hgiven with heq | heq
    · rw [heq] at hconfiguring
      rw [hgiven, TransactionPhase.configuring.inj hconfiguring]
    · rw [heq] at hconfiguring
      cases hconfiguring
  · intro input hinput hwritten
    rw [hoperation] at hinput
    obtain ⟨given, hgiven⟩ := Option.isSome_iff_exists.mp (h input hinput)
    rcases hphase input given hinput hgiven with heq | heq <;> rw [heq] at hwritten <;> cases hwritten

/-- The row that a save inserts. -/
theorem inserted_of_save {input : SaveInput D} {row : ProfileVersion D} (hoperation : tx.operation = .save input)
    (h : tx.inserted = some row) :
    row.profile = input.profile ∧ row.lifecycleState = if input.published then .published else .draft := by
  simp only [inserted, hoperation] at h
  obtain ⟨policyVersion, -, h⟩ := Option.bind_eq_some_iff.mp h
  obtain ⟨createdBy, -, h⟩ := Option.bind_eq_some_iff.mp h
  obtain rfl := Option.some.inj h
  exact ⟨rfl, rfl⟩

/-- The version that a save commits comes after all others. -/
theorem Sound.version_lt (hsound : tx.Sound rows) (hconsistent : Consistent rows)
    (hcommitting : tx.phase.isCommitting = true) (hsave : tx.operation.isSave = true) {row : ProfileVersion D}
    (hrow : row ∈ rows) (hcompany : row.companyId = tx.company) : row.version < tx.version := by
  obtain ⟨last, hlast⟩ := hconsistent.versions tx.company
  have hbounds := (hlast row.version).mp ⟨row, hrow, Prod.ext hcompany rfl⟩
  have hpositive := (hsound.previous hsave (isChosen_of_isCommitting hcommitting)).1
  have hfresh := (hsound.fresh (by rw [hasInserted, hcommitting, hsave]; rfl)).2
  by_contra hnot
  -- the versions have no gaps, so its own would be there already
  obtain ⟨other, hother, hkey⟩ := (hlast tx.version).mpr (by omega)
  exact hfresh other hother hkey

end Transaction

/-! ## Every step -/

namespace ProfileStore

variable {H : Type} [DecidableEq H] {hash : String → H} {s s' : ProfileStore Json} {action : Action Json}
  {rows : List (ProfileVersion Json)} {tx : Transaction Json} {company : Uuid} {config : Option AssistantConfig}

/-- Only saves, publications and rollbacks of assistants are started. -/
def Served (_ : ProfileStore Json) : Action Json → Prop
  | .start operation _ => ∃ call : AssistantCall, call.operation = operation
  | .statement _ | .commit _ | .fail _ => True

theorem offered_of_served (h : Served s action) : Offered s action := by
  cases action with
  | start operation now =>
      obtain ⟨call, rfl⟩ := h
      cases call with
      | save payload companyId compiledPolicy policyVersion => exact ⟨.save _ payload.config, rfl⟩
      | publish companyId version => exact ⟨.publish companyId version, rfl⟩
      | rollback companyId version => exact ⟨.rollback companyId version, rfl⟩
  | statement index => trivial
  | commit index => trivial
  | fail index => trivial

/-- A save gives both representations of one request. -/
theorem payload_of_served {call : AssistantCall} {input : SaveInput Json} (h : call.operation = .save input) :
    ∃ payload : AssistantConfigRequest, input.profile = payload.profile ∧ input.config = some payload.config ∧
      input.published = payload.isDeployed := by
  cases call with
  | save payload companyId compiledPolicy policyVersion =>
      obtain rfl := Operation.save.inj h
      exact ⟨payload, rfl, rfl, rfl⟩
  | publish companyId version => cases h
  | rollback companyId version => cases h

/-- The rows of the companies are those of their newest versions. -/
structure ProjectionInvariant (s : ProfileStore Json) : Prop where
  drafts : DraftInvariant s
  served : ∀ (index : Nat) (tx : Transaction Json), s.operations[index]? = some tx →
    ∃ call : AssistantCall, call.operation = tx.operation
  holds : ∀ (index : Nat) (tx : Transaction Json), s.operations[index]? = some tx → tx.HoldsConfig
  mirrors : ∀ company, Mirrors s.rows company (s.configs company)

/-- A commit that inserts no version of a company leaves its row that of the newest one. -/
theorem mirrors_apply (h : Mirrors rows company config) (hkeyed : Keyed ProfileVersion.key rows)
    (hsound : tx.Sound rows) (hspares : SparesDrafts rows tx) (hcommitting : tx.phase.isCommitting = true)
    (hinserted : ∀ row, tx.inserted = some row → row.companyId ≠ company) :
    Mirrors (tx.apply rows) company config := by
  have hold {row : ProfileVersion Json} (hrow : row ∈ tx.apply rows) (hcompany : row.companyId = company) :
      ∃ original ∈ rows, tx.change original = row := by
    rcases Transaction.mem_apply.mp hrow with hchanged | hnew
    · exact hchanged
    · exact absurd hcompany (hinserted row hnew)
  have hkey (row : ProfileVersion Json) : (tx.change row).companyId = row.companyId ∧
      (tx.change row).version = row.version := by
    have hsame : (tx.change row).key = row.key := Transaction.same_change.key
    exact ⟨congrArg Prod.fst hsame, congrArg Prod.snd hsame⟩
  rcases h with ⟨hnone, hrows⟩ | ⟨row, newest, hsome, hmirrors⟩
  · left
    refine ⟨hnone, fun row hrow hcompany => ?_⟩
    obtain ⟨original, horiginal, rfl⟩ := hold hrow hcompany
    rw [(hkey original).1] at hcompany
    exact hrows original horiginal hcompany
  · right
    obtain ⟨hmem, hcompany, hlast⟩ := hmirrors.last
    refine ⟨row, tx.change newest, hsome, ?_⟩
    constructor
    · refine ⟨Transaction.mem_apply.mpr (.inl ⟨newest, hmem, rfl⟩), (hkey newest).1.trans hcompany, ?_⟩
      intro other hother hothers
      obtain ⟨original, horiginal, rfl⟩ := hold hother hothers
      rw [(hkey original).1] at hothers
      rw [(hkey original).2, (hkey newest).2]
      exact hlast original horiginal hothers
    · have hprofile : (tx.change newest).profile = newest.profile := Transaction.same_change.profile
      rw [hprofile]
      exact hmirrors.shows
    · -- a draft stays one, and nothing else becomes one
      rw [hmirrors.deployed]
      constructor
      · exact change_not_draft hspares
      · intro hnot hdraft
        rw [change_of_draft hkeyed hspares hcommitting hmem hdraft] at hnot
        exact hnot hdraft
    · intro hdeployed
      exact hsound.hasPublished_apply hcommitting (hmirrors.published hdeployed)

/-- A save commits the newest version and its row. -/
theorem mirrors_saved (hconsistent : Consistent rows) (hsound : tx.Sound rows)
    (hcommitting : tx.phase.isCommitting = true) {payload : AssistantConfigRequest} {input : SaveInput Json}
    {stored : AssistantConfig} (hoperation : tx.operation = .save input) (hprofile : input.profile = payload.profile)
    (hpublished : input.published = payload.isDeployed) (hstored : payload.config.stored = some stored) :
    Mirrors (tx.apply rows) tx.company (some stored) := by
  have hsave : tx.operation.isSave = true := by
    rw [hoperation]
    rfl
  have hsome := (hsound.fresh (by rw [Transaction.hasInserted, hcommitting, hsave]; rfl)).1
  obtain ⟨row, hrow⟩ := Option.isSome_iff_exists.mp hsome
  have hkey := (Transaction.inserted_eq_some hrow).1
  have hcompany : row.companyId = tx.company := congrArg Prod.fst hkey
  have hversion : row.version = tx.version := congrArg Prod.snd hkey
  obtain ⟨hrowProfile, hstate⟩ := Transaction.inserted_of_save hoperation hrow
  have hdeployed : stored.isDeployed = payload.isDeployed := AssistantConfig.isDeployed_of_stored hstored
  have hmem : row ∈ tx.apply rows := Transaction.mem_apply.mpr (.inr hrow)
  right
  refine ⟨stored, row, rfl, ?_⟩
  constructor
  · refine ⟨hmem, hcompany, fun other hother hothers => ?_⟩
    rcases Transaction.mem_apply.mp hother with ⟨original, horiginal, rfl⟩ | hnew
    · have hsame : (tx.change original).key = original.key := Transaction.same_change.key
      have hlt := hsound.version_lt hconsistent hcommitting hsave horiginal
        ((congrArg Prod.fst hsame).symm.trans hothers)
      have hsameVersion : (tx.change original).version = original.version := congrArg Prod.snd hsame
      omega
    · rw [hrow] at hnew
      rw [Option.some.inj hnew]
  · rw [hrowProfile, hprofile]
    exact AssistantConfigRequest.shows_of_stored hstored
  · rw [hdeployed, hstate, hpublished]
    cases payload.isDeployed <;> simp
  · intro hdeploys
    refine ⟨row, hmem, hcompany, ?_⟩
    rw [hstate, hpublished, ← hdeployed, hdeploys]
    rfl

theorem ProjectionInvariant.step (h : ProjectionInvariant s) (hserved : Served s action)
    (hstep : ProfileStore.step hash s action = some s') : ProjectionInvariant s' := by
  have hdrafts := (h.drafts.step (offered_of_served hserved) hstep).1
  cases action with
  | start operation now =>
      obtain rfl := Option.some.inj hstep
      obtain ⟨call, hcall⟩ := hserved
      constructor
      · exact hdrafts
      · intro index tx htx
        rcases getElem?_concat_cases htx with hold | ⟨-, rfl⟩
        · exact h.served index tx hold
        · rw [(start_phase operation now).1]
          exact ⟨call, hcall⟩
      · intro index tx htx
        rcases getElem?_concat_cases htx with hold | ⟨-, rfl⟩
        · exact h.holds index tx hold
        · apply Transaction.holdsConfig_start
          intro input hinput
          obtain ⟨payload, -, hconfig, -⟩ := payload_of_served (hcall.trans hinput)
          rw [hconfig]
          rfl
      · exact h.mirrors
  | statement index =>
      obtain ⟨tx, htx, hstep⟩ := Option.bind_eq_some_iff.mp hstep
      obtain ⟨tx', hnext, hstep⟩ := Option.bind_eq_some_iff.mp hstep
      obtain rfl := Option.some.inj hstep
      have hoperation : tx'.operation = tx.operation := by
        rcases Transaction.next_config hnext with rfl | ⟨hsame, -⟩
        · rfl
        · exact hsame
      constructor
      · exact hdrafts
      · intro index' other hother
        rcases getElem?_set_cases hother with ⟨-, rfl⟩ | ⟨-, hold⟩
        · rw [hoperation]
          exact h.served index tx htx
        · exact h.served index' other hold
      · intro index' other hother
        rcases getElem?_set_cases hother with ⟨-, rfl⟩ | ⟨-, hold⟩
        · exact (h.holds index tx htx).next (h.drafts.sound.sound index tx htx) hnext
        · exact h.holds index' other hold
      · exact h.mirrors
  | commit index =>
      obtain ⟨tx, htx, hstep⟩ := Option.bind_eq_some_iff.mp hstep
      split at hstep
      · rename_i found hphase
        obtain rfl := Option.some.inj hstep
        have hcommitting : tx.phase.isCommitting = true := by
          rw [hphase]
          rfl
        have hsound := h.drafts.sound.sound index tx htx
        have hholds := h.holds index tx htx
        constructor
        · exact hdrafts
        · intro index' other hother
          rcases getElem?_set_cases hother with ⟨-, rfl⟩ | ⟨-, hold⟩
          · exact h.served index tx htx
          · exact h.served index' other hold
        · intro index' other hother
          rcases getElem?_set_cases hother with ⟨-, rfl⟩ | ⟨-, hold⟩
          · -- an operation that has ended holds nothing more
            constructor
            · exact hholds.transition
            · intro _ _ _ heq
              cases found <;> cases heq
            · intro _ _ hwritten
              cases found <;> cases hwritten
          · exact h.holds index' other hold
        · intro company
          show Mirrors (tx.apply s.rows) company ((s.committed index tx found).configs company)
          have hkept := mirrors_apply (h.mirrors company) h.drafts.sound.consistent.keyed hsound
            (h.drafts.spares index tx htx) hcommitting
          cases hoperation : tx.operation with
          | transition companyId version target allowedSourceStates =>
              have hnone : tx.config = none := hholds.transition (by rw [hoperation]; rfl)
              have hinserted : tx.inserted = none := by simp only [Transaction.inserted, hoperation]
              simp only [ProfileStore.committed, hnone]
              apply hkept
              intro row hrow
              rw [hinserted] at hrow
              cases hrow
          | save input =>
              obtain ⟨call, hcall⟩ := h.served index tx htx
              obtain ⟨payload, hprofile, hgiven, hpublished⟩ := payload_of_served (hcall.trans hoperation)
              obtain ⟨config, stored, hconfig, hstored, hheld⟩ :=
                hholds.written input hoperation (by rw [hphase]; rfl)
              rw [hgiven] at hconfig
              obtain rfl := Option.some.inj hconfig
              simp only [ProfileStore.committed, hheld]
              by_cases hcompany : company = tx.company
              · subst hcompany
                rw [Function.update_self]
                exact mirrors_saved h.drafts.sound.consistent hsound hcommitting hoperation hprofile hpublished hstored
              · rw [Function.update_of_ne hcompany]
                apply hkept
                intro row hrow heq
                apply hcompany
                rw [← heq]
                exact congrArg Prod.fst (Transaction.inserted_eq_some hrow).1
      · cases hstep
  | fail index =>
      obtain ⟨tx, htx, hstep⟩ := Option.bind_eq_some_iff.mp hstep
      obtain ⟨_, _, hstep⟩ := Option.bind_eq_some_iff.mp hstep
      obtain rfl := Option.some.inj hstep
      constructor
      · exact hdrafts
      · intro index' other hother
        rcases getElem?_set_cases hother with ⟨-, rfl⟩ | ⟨-, hold⟩
        · exact h.served index tx htx
        · exact h.served index' other hold
      · intro index' other hother
        rcases getElem?_set_cases hother with ⟨-, rfl⟩ | ⟨-, hold⟩
        · exact (h.holds index tx htx).raise
        · exact h.holds index' other hold
      · exact h.mirrors

theorem projectionInvariant_initial : ProjectionInvariant (initial [] fun _ => none) := by
  constructor
  · exact draftInvariant_initial
  · intro index tx htx
    cases htx
  · intro index tx htx
    cases htx
  · exact fun _ => .inl ⟨rfl, fun _ hrow => by cases hrow⟩

/-- In every run of saves, publications and rollbacks a company with versions has a row; the row is deployed if and only
if the newest version is no draft, and only if a version is published; and it shows the newest version while that is a
draft or the published one. -/
theorem legacy_row_follows_newest (hreaches : Reaches (ProfileStore.step hash) Served (initial [] fun _ => none) s)
    (company : Uuid) :
    (s.configs company = none ∧ ∀ row ∈ s.rows, row.companyId ≠ company) ∨
    ∃ row newest, s.configs company = some row ∧ Newest s.rows company newest ∧
      (row.isDeployed = true ↔ newest.lifecycleState ≠ .draft) ∧
      (row.isDeployed = true → HasPublished s.rows company) ∧
      (newest.lifecycleState = .draft ∨ newest.lifecycleState = .published → row.Shows newest.profile) := by
  have hinvariant : ProjectionInvariant s :=
    hreaches.invariant projectionInvariant_initial fun _ _ _ hbefore hserved hstep => hbefore.step hserved hstep
  rcases hinvariant.mirrors company with hnone | ⟨row, newest, hsome, hmirrors⟩
  · exact .inl hnone
  · right
    exact ⟨row, newest, hsome, hmirrors.last, hmirrors.deployed, hmirrors.published, fun _ => hmirrors.shows⟩

/-! ## A draft over a published version -/

/-- A request with the given name. -/
def samplePayload (assistantName : String) (isDeployed : Bool) : AssistantConfigRequest where
  assistantName := assistantName
  voiceEngine := "Aoede"
  inboundGreeting := "Hello"
  systemPrompt := "Help our callers"
  knowledgeBaseNotes := none
  tone := "friendly"
  businessHours := []
  escalationRules := []
  faqEntries := []
  defaultLanguage := "en"
  allowedLanguages := ["en"]
  capabilities := .obj [("company_faq", .obj [("enabled", .bool true)])]
  isDeployed := isDeployed

def sampleCall (assistantName : String) (isDeployed : Bool) : AssistantCall :=
  .save (samplePayload assistantName isDeployed) sampleCompany (.obj []) (some "platform-v3")

/-- A request alone, from its call to its commit. -/
def serve (index : Nat) (call : AssistantCall) (statements : Nat) : List (Action Json) :=
  .start call.operation 0 :: List.replicate statements (.statement index) ++ [.commit index]

theorem served_of_mem_serve {index statements : Nat} {call : AssistantCall} (h : action ∈ serve index call statements) :
    Served s action := by
  rw [serve, List.cons_append, List.mem_cons, List.mem_append, List.mem_singleton] at h
  rcases h with rfl | hstatement | rfl
  · exact ⟨call, rfl⟩
  · rw [List.eq_of_mem_replicate hstatement]
    trivial
  · trivial

def sampleUndeployed : List (Action Json) :=
  serve 0 (sampleCall "Published" true) 6 ++ serve 1 (sampleCall "Draft" false) 4

def sampleUndeployedEnd : ProfileStore Json :=
  final (ProfileStore.step String.length) (initial [] fun _ => none) sampleUndeployed

theorem reaches_sampleUndeployedEnd :
    Reaches (ProfileStore.step String.length) Served (initial [] fun _ => none) sampleUndeployedEnd := by
  apply Reaches.of_execute_allowed _ (execute_final (by decide +kernel))
  intro action hmem s
  rcases List.mem_append.mp hmem with hfirst | hsecond
  · exact served_of_mem_serve hfirst
  · exact served_of_mem_serve hsecond

/-- The first save has been published and is so still, and the second has made the row a draft's. -/
theorem sampleUndeployedEnd_state :
    (sampleUndeployedEnd.configs 1).map AssistantConfig.isDeployed = some false ∧
    (sampleUndeployedEnd.rows.map fun row => (row.companyId, row.version, row.lifecycleState)) =
      [(1, 1, .published), (1, 2, .draft)] := by
  decide +kernel

theorem hasPublished_sampleUndeployedEnd : HasPublished sampleUndeployedEnd.rows 1 := by
  obtain ⟨-, hrows⟩ := sampleUndeployedEnd_state
  have hmem : ((1, 1, .published) : Uuid × Int × LifecycleState) ∈
      sampleUndeployedEnd.rows.map fun row => (row.companyId, row.version, row.lifecycleState) := by
    rw [hrows]
    exact List.mem_cons_self
  obtain ⟨row, hrow, heq⟩ := List.mem_map.mp hmem
  exact ⟨row, hrow, congrArg (fun entry => entry.1) heq, congrArg (fun entry => entry.2.2) heq⟩

theorem legacy_row_follows_newest_draft :
    ∃ row newest, sampleUndeployedEnd.configs 1 = some row ∧ Newest sampleUndeployedEnd.rows 1 newest ∧
      (row.isDeployed = true ↔ newest.lifecycleState ≠ .draft) := by
  rcases legacy_row_follows_newest reaches_sampleUndeployedEnd 1 with ⟨hnone, -⟩ | ⟨row, newest, hsome, hnewest, hdeployed, -⟩
  · have hsome := sampleUndeployedEnd_state.1
    rw [hnone] at hsome
    cases hsome
  · exact ⟨row, newest, hsome, hnewest, hdeployed⟩

/-- A version is published, and the row of the company is not deployed. -/
theorem legacy_row_undeployed :
    ¬ ∀ s : ProfileStore Json, Reaches (ProfileStore.step String.length) Served (initial [] fun _ => none) s →
      ∀ company, FollowsPublished s.rows company (s.configs company) := by
  intro hall
  have hfollows := hall sampleUndeployedEnd reaches_sampleUndeployedEnd 1
  obtain ⟨row, hrow, hdeployed⟩ := hfollows.deployed.mpr hasPublished_sampleUndeployedEnd
  have hstate := sampleUndeployedEnd_state.1
  rw [hrow] at hstate
  have hnot : row.isDeployed = false := Option.some.inj hstate
  rw [hdeployed] at hnot
  cases hnot

end ProfileStore

end Db
end VoiceAssistants
