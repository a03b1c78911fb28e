import VoiceAssistants.Agent.AssistantPolicy
import VoiceAssistants.Async.Alone
import VoiceAssistants.Python.Coercions

/-!
# The gate of the agent's user turns

`VoiceBotAgent` of `agent/agent.py` decides at the end of every user turn whether the model may answer.  An explicit request
for a language switches it or counts as unclear, a turn that is unclear or out of scope is answered with a fixed text, and
any other turn goes on to the model; `StopResponse` keeps the model from a turn.  The calls of a turn (`set_language` of the
scripted voice, `update_instructions`, `session.say`) may raise.  LiveKit hands the agent one turn after the other.

`turn_gate` says what holds in every sequence of turns: of the active language, of the context of the calendar, of the turns
that do not reach the model, and of the answer to the third and later unclear turns in a row.
-/

namespace VoiceAssistants
namespace VoiceBot

open Async Async.Program
open Python (Json Coercions Unicode)

/-! ## The agent -/

/-- The keys of `LOCALIZED_RESPONSES`. -/
inductive ResponseKey
  | switch
  | clarifyFirst
  | clarifySecond
  | support
  | scope
  | calendarUnavailable

/-- `LOCALIZED_RESPONSES` -/
def localizedResponse : Language → ResponseKey → String
  | .frFR, .switch => "Très bien, je continuerai en français."
  | .frBE, .switch => "Très bien, je continuerai en français belge."
  | .en, .switch => "Of course. I’ll continue in English."
  | .frFR, .clarifyFirst | .frBE, .clarifyFirst =>
      "Je n’ai pas bien compris. Pourriez-vous répéter, s’il vous plaît ?"
  | .en, .clarifyFirst => "I didn’t understand that clearly. Could you please repeat it?"
  | .frFR, .clarifySecond | .frBE, .clarifySecond =>
      "Je suis désolé, je n’ai toujours pas compris. Pouvez-vous répéter clairement en français ou en anglais ?"
  | .en, .clarifySecond => "I’m sorry, I still didn’t understand. Please repeat clearly in French or English."
  | .frFR, .support | .frBE, .support =>
      "Je n’arrive pas à comprendre votre demande. Vous pouvez contacter directement notre équipe"
  | .en, .support => "I’m unable to understand the request. You can contact our team directly"
  | .frFR, .scope | .frBE, .scope =>
      "Je peux uniquement vous aider avec les informations de l’entreprise et les services d’accueil activés. " ++
        "Que souhaitez-vous savoir ?"
  | .en, .scope =>
      "I can only help with company information and enabled receptionist services. What would you like to know?"
  | .frFR, .calendarUnavailable | .frBE, .calendarUnavailable =>
      "Les actions de calendrier ne sont pas activées. " ++
        "Je peux néanmoins vous aider avec les informations de l’entreprise."
  | .en, .calendarUnavailable => "Calendar actions are not enabled. I can still help with company information."

/-- The parameters of `VoiceBotAgent`.  The facts of the company are what `match_approved_company_fact` finds with the index
of `company_scope_context`, and the text that `format_untrusted_company_context` makes of one. -/
structure AgentParameters where
  instructions : String
  companyCapabilities : Option (List (String × Json))
  companyScopeContext : Option (List (String × Json))
  companyFact : String → Option CompanyFactMatch
  factContext : CompanyFactMatch → String
  redirectResponse : String
  defaultLanguage : String
  allowedLanguages : Option (List String)
  hasScriptedTts : Bool

/-- What does not change of an agent.  It starts in an allowed language. -/
structure VoiceBotAgent where
  baseInstructions : String
  startLanguage : Language
  allowedLanguages : List Language
  start_allowed : startLanguage ∈ allowedLanguages
  companyCapabilities : List (String × Json)
  companyScopeContext : List (String × Json)
  companyFact : String → Option CompanyFactMatch
  factContext : CompanyFactMatch → String
  redirectResponse : String
  hasScriptedTts : Bool

/-- What a turn changes. -/
structure TurnState where
  activeLanguage : Language
  clarificationCount : Nat
  calendarContextActive : Bool
  turnFactContext : String

/-- `value or otherwise` for a list of Python. -/
def orElseList {T : Type} (value : Option (List T)) (otherwise : List T) : List T :=
  match value with
  | some (first :: rest) => first :: rest
  | _ => otherwise

/-- The languages of `__init__`: unsupported ones are left out, and the default one is put in front if it is missing. -/
def normalizedLanguages (defaultLanguage : String) (allowedLanguages : Option (List String)) : Language × List Language :=
  let allowed := (orElseList allowedLanguages [defaultLanguage]).eraseDups
  let default := (Language.ofCode? defaultLanguage).getD .en
  let supported := allowed.filterMap Language.ofCode?
  (default, if default ∈ supported then supported else default :: supported)

theorem default_mem_normalizedLanguages (defaultLanguage : String) (allowedLanguages : Option (List String)) :
    (normalizedLanguages defaultLanguage allowedLanguages).1 ∈ (normalizedLanguages defaultLanguage allowedLanguages).2 := by
  unfold normalizedLanguages
  dsimp only
  split
  · assumption
  · exact List.mem_cons_self

/-- `VoiceBotAgent.__init__` -/
def AgentParameters.construct (parameters : AgentParameters) : VoiceBotAgent where
  baseInstructions := parameters.instructions
  startLanguage := (normalizedLanguages parameters.defaultLanguage parameters.allowedLanguages).1
  allowedLanguages := (normalizedLanguages parameters.defaultLanguage parameters.allowedLanguages).2
  start_allowed := default_mem_normalizedLanguages parameters.defaultLanguage parameters.allowedLanguages
  companyCapabilities := orElseList parameters.companyCapabilities
    [("google_calendar", .obj [("enabled", .bool true)])]
  companyScopeContext := parameters.companyScopeContext.getD []
  companyFact := parameters.companyFact
  factContext := parameters.factContext
  redirectResponse := parameters.redirectResponse
  hasScriptedTts := parameters.hasScriptedTts

/-- The state after `__init__`. -/
def VoiceBotAgent.start (agent : VoiceBotAgent) : TurnState where
  activeLanguage := agent.startLanguage
  clarificationCount := 0
  calendarContextActive := false
  turnFactContext := ""

/-- `google_calendar` is enabled for the company. -/
def VoiceBotAgent.calendarEnabled (agent : VoiceBotAgent) : Bool :=
  (enabledCapabilities (some agent.companyCapabilities)).contains "google_calendar"

/-! ## A turn -/

/-- `transcript_confidence`, as far as it is compared. -/
inductive Confidence
  | notNumber
  | nan
  | negativeInfinity
  | positiveInfinity
  | finite (value : Rat)

/-- `isinstance(confidence, (int, float)) and confidence < 0.45`, with the double that `0.45` is. -/
def Confidence.low : Confidence → Bool
  | .negativeInfinity => true
  | .finite value => value < 8106479329266893 / 18014398509481984
  | _ => false

/-- The message of a turn. -/
structure UserMessage where
  textContent : Option String
  transcriptConfidence : Confidence

/-- The text that the gate goes by. -/
def UserMessage.transcript (message : UserMessage) : String :=
  if message.transcriptConfidence.low then "" else message.textContent.getD ""

/-- What a turn awaits or calls; the text of `say` is given before `clean_spoken_text`. -/
inductive AgentCall
  | setLanguage (language : Language)
  | updateInstructions (instructions : String)
  | say (text : String)

/-- How a turn ends otherwise than by returning. -/
inductive TurnExit
  | stopResponse
  | raised

abbrev turns : Interface where
  State := TurnState
  Output := Empty
  Request := AgentCall
  Answer _ := Unit
  Error := TurnExit

abbrev Turn (α : Type) := Program turns α

/-- A call and its answer. -/
def ask (call : AgentCall) : Turn Unit :=
  request (I := turns) call

/-- `raise StopResponse()` -/
def stopResponse : Turn Unit :=
  done (.error .stopResponse)

section Handler

variable (unicode : Unicode) (coercions : Coercions) (agent : VoiceBotAgent)

/-- `_instructions_for_language` -/
def instructionsForLanguage (state : TurnState) : String :=
  let dialectGuidance :=
    match state.activeLanguage with
    | .frBE =>
        " Vous devez répondre en français belge authentique. Utilisez le vocabulaire et les tournures belges " ++
          "(ex. 'septante' pour 70, 'nonante' pour 90, 's'il vous plaît', 'à tantôt', etc.)."
    | .frFR =>
        " Vous devez répondre en français général métropolitain. Utilisez la numération standard " ++
          "(ex. 'soixante-dix', 'quatre-vingt-dix')."
    | .en => " You must respond in natural, clear, fluent English."
  agent.baseInstructions ++ "\n\nCURRENT RESPONSE MODE (server-authoritative): " ++ state.activeLanguage.code ++ "." ++
    dialectGuidance ++ " Respond only in this mode until the server processes an explicit allowed language switch." ++
    state.turnFactContext

/-- `str(context.get(first) or context.get(second) or "").strip()` -/
def contactDetail (names : List String) : String :=
  let found := names.filterMap fun name => ((Json.obj agent.companyScopeContext).member? name).filter Json.truthy
  strip ((found.head?.map coercions.str).getD "")

/-- `_support_response` -/
def supportResponse (language : Language) : String :=
  let base := localizedResponse language .support
  let phone := contactDetail coercions agent ["phone", "company_phone"]
  let email := contactDetail coercions agent ["support_email"]
  if phone ≠ "" ∧ email ≠ "" then
    if language = .en then base ++ " by phone at " ++ phone ++ ", or by email at " ++ email ++ "."
    else base ++ " par téléphone au " ++ phone ++ ", ou par e-mail à " ++ email ++ "."
  else if phone ≠ "" then
    base ++ (if language = .en then " by phone at " else " par téléphone au ") ++ phone ++ "."
  else if email ≠ "" then
    base ++ (if language = .en then " by email at " else " par e-mail à ") ++ email ++ "."
  else base ++ "."

/-- The answer to an unclear turn, when so many have been counted with it. -/
def clarificationResponse (language : Language) (count : Nat) : String :=
  if count = 1 then localizedResponse language .clarifyFirst
  else if count = 2 then localizedResponse language .clarifySecond
  else supportResponse coercions agent language

/-- The scripted voice is set to a language, if there is one. -/
def setScriptedLanguage (language : Language) : Turn Unit :=
  if agent.hasScriptedTts then ask (.setLanguage language) else pure ()

/-- `_say_scripted` -/
def sayScripted (text : String) : Turn Unit := do
  let state ← get
  setScriptedLanguage agent state.activeLanguage
  ask (.say text)

/-- `_next_clarification_response` -/
def nextClarificationResponse : Turn String := do
  modify fun state => { state with clarificationCount := state.clarificationCount + 1 }
  let state ← get
  return clarificationResponse coercions agent state.activeLanguage state.clarificationCount

/-- `_switch_language` -/
def switchLanguage (language : Language) : Turn Unit := do
  modify fun state => { state with activeLanguage := language, clarificationCount := 0, turnFactContext := "" }
  setScriptedLanguage agent language
  let state ← get
  ask (.updateInstructions (instructionsForLanguage agent state))

/-- `_focus_company_fact` -/
def focusCompanyFact (transcript : String) : Turn Unit := do
  let context := ((agent.companyFact transcript).map agent.factContext).getD ""
  let state ← get
  if context = state.turnFactContext then pure ()
  else do
    modify fun state => { state with turnFactContext := context }
    let state ← get
    ask (.updateInstructions (instructionsForLanguage agent state))

/-- A turn that asks for a language. -/
def answerLanguageRequest (requested : Language) : Turn Unit :=
  if requested ∈ agent.allowedLanguages then do
    switchLanguage agent requested
    let state ← get
    sayScripted agent (localizedResponse state.activeLanguage .switch)
    stopResponse
  else do
    let response ← nextClarificationResponse coercions agent
    sayScripted agent response
    stopResponse

/-- A turn that is unclear. -/
def answerClarify : Turn Unit := do
  let response ← nextClarificationResponse coercions agent
  sayScripted agent response
  stopResponse

/-- A turn that is out of scope. -/
def answerRedirect (reason : TurnReason) : Turn Unit := do
  modify fun state => { state with clarificationCount := 0, calendarContextActive := false }
  let state ← get
  sayScripted agent
    (if reason = .calendarUnavailable then localizedResponse state.activeLanguage .calendarUnavailable
    else if state.activeLanguage = .en then agent.redirectResponse
    else localizedResponse state.activeLanguage .scope)
  stopResponse

/-- A turn that the model answers. -/
def letThrough (decision : ScopeDecision) (transcript : String) : Turn Unit := do
  modify fun state =>
    { state with clarificationCount := 0, calendarContextActive := decision.calendarContextActive }
  let state ← get
  if decision.reason = .companyCapability then focusCompanyFact agent transcript
  else if state.turnFactContext ≠ "" then focusCompanyFact agent ""
  else pure ()

/-- The decision about a text, in a state. -/
def decision (state : TurnState) (transcript : String) : ScopeDecision :=
  classifyAssistantTurn unicode agent.companyFact transcript state.calendarContextActive (some agent.companyCapabilities)

/-- `on_user_turn_completed` -/
def onUserTurnCompleted (message : UserMessage) : Turn Unit := do
  let transcript := message.transcript
  let state ← get
  match detectExplicitLanguageSwitch unicode transcript with
  | some requested => answerLanguageRequest coercions agent requested
  | none =>
      match (decision unicode agent state transcript).action with
      | .clarify => answerClarify coercions agent
      | .redirect => answerRedirect agent (decision unicode agent state transcript).reason
      | .allow => letThrough agent (decision unicode agent state transcript) transcript

end Handler

/-! ## What the parts of a turn do -/

/-- Nothing else is said than a text. -/
def OnlySays (text : String) (marks : List (Mark turns)) : Prop :=
  ∀ mark ∈ marks, ∀ other, mark.event = .called (.say other) → other = text

/-- A text has been said. -/
def Said (text : String) (marks : List (Mark turns)) : Prop :=
  ∃ mark ∈ marks, mark.event = .answered (.say text) (.ok ())

/-- No call has raised. -/
def AllReturned (marks : List (Mark turns)) : Prop :=
  ∀ mark ∈ marks, ∀ call error, mark.event ≠ .answered call (.error error)

/-- What saying a text comes to. -/
structure Speaks (text : String) (own own' : List (Mark turns)) (result : Except TurnExit Unit) : Prop where
  only : OnlySays text own → OnlySays text own'
  said : AllReturned own' → result = .ok () ∧ Said text own'

/-- The marks of a call. -/
def asked (state : TurnState) (call : AgentCall) (answer : Except TurnExit Unit) : List (Mark turns) :=
  [⟨state, .called call⟩, ⟨state, .answered call answer⟩]

theorem onlySays_asked {text : String} {state : TurnState} {call : AgentCall} {answer : Except TurnExit Unit}
    {own : List (Mark turns)} (hcall : ∀ other, call = .say other → other = text) (h : OnlySays text own) :
    OnlySays text (own ++ asked state call answer) := by
  intro mark hmark other hevent
  rcases List.mem_append.mp hmark with hown | hasked
  · exact h mark hown other hevent
  · simp only [asked, List.mem_cons, List.not_mem_nil, or_false] at hasked
    rcases hasked with rfl | rfl
    · exact hcall other (Event.called.inj hevent)
    · cases hevent

theorem returned_of_asked {state : TurnState} {call : AgentCall} {answer : Except TurnExit Unit}
    {own : List (Mark turns)} (h : AllReturned (own ++ asked state call answer)) : answer = .ok () := by
  cases answer with
  | ok value => rfl
  | error error => exact absurd rfl (h ⟨state, .answered call (.error error)⟩ (by simp [asked]) call error)

section Specifications

variable {unicode : Unicode} {coercions : Coercions} {agent : VoiceBotAgent} {state : TurnState}
  {own : List (Mark turns)} {post : Post turns Unit}

theorem safe_ask {call : AgentCall} (h : ∀ answer, post answer state (own ++ asked state call answer)) :
    (ask call).Safe (alone turns) post state own := by
  apply safe_request_alone
  intro answer
  have happend : own ++ [⟨state, .called call⟩] ++ [⟨state, .answered call answer⟩] = own ++ asked state call answer := by
    simp [asked]
  rw [happend]
  exact h answer

theorem safe_sayScripted {text : String} (h : ∀ result own', Speaks text own own' result → post result state own') :
    (sayScripted agent text).Safe (alone turns) post state own := by
  unfold sayScripted setScriptedLanguage
  rw [safe_get_bind, safe_bind]
  have hsay (before : List (Mark turns)) (hbefore : OnlySays text own → OnlySays text before) :
      (ask (.say text)).Safe (alone turns) post state before := by
    apply safe_ask
    intro answer
    apply h
    constructor
    case only =>
      intro hown
      exact onlySays_asked (fun other hother => (AgentCall.say.inj hother).symm) (hbefore hown)
    case said =>
      intro hreturned
      obtain rfl := returned_of_asked hreturned
      exact ⟨rfl, _, List.mem_append_right _ (List.mem_cons_of_mem _ List.mem_cons_self), rfl⟩
  by_cases htts : agent.hasScriptedTts = true
  · rw [if_pos htts]
    apply safe_ask
    intro answer
    have honly : OnlySays text own → OnlySays text (own ++ asked state (.setLanguage state.activeLanguage) answer) :=
      onlySays_asked fun _ hother => nomatch hother
    cases answer with
    | ok value => exact hsay _ honly
    | error error =>
        apply h
        constructor
        case only => exact honly
        case said => exact fun hreturned => nomatch returned_of_asked hreturned
  · rw [if_neg htts]
    exact hsay own id

theorem safe_switchLanguage {language : Language} (h : ∀ result own', post result
      { state with activeLanguage := language, clarificationCount := 0, turnFactContext := "" } own') :
    (switchLanguage agent language).Safe (alone turns) post state own := by
  unfold switchLanguage setScriptedLanguage
  rw [safe_modify_bind]
  refine ⟨trivial, ?_⟩
  rw [safe_bind]
  by_cases htts : agent.hasScriptedTts = true
  · rw [if_pos htts]
    apply safe_ask
    intro answer
    cases answer with
    | ok value => exact safe_ask fun answer => h answer _
    | error error => exact h _ _
  · rw [if_neg htts]
    exact safe_ask fun answer => h answer _

theorem safe_focusCompanyFact {transcript : String}
    (h : ∀ result context own', post result { state with turnFactContext := context } own') :
    (focusCompanyFact agent transcript).Safe (alone turns) post state own := by
  unfold focusCompanyFact
  rw [safe_get_bind]
  by_cases hsame : ((agent.companyFact transcript).map agent.factContext).getD "" = state.turnFactContext
  · rw [if_pos hsame]
    exact h _ state.turnFactContext own
  · rw [if_neg hsame, safe_modify_bind]
    exact ⟨trivial, safe_ask fun answer => h answer _ _⟩

end Specifications

/-! ## What a turn does -/

section Turns

variable (unicode : Unicode) (coercions : Coercions) (agent : VoiceBotAgent)

/-- The allowed language that a text explicitly asks for. -/
def allowedRequest (transcript : String) : Option Language :=
  (detectExplicitLanguageSwitch unicode transcript).filter (· ∈ agent.allowedLanguages)

/-- A turn is unclear: it asks for a language that is not allowed, or the decision is to clarify. -/
def unclear (state : TurnState) (message : UserMessage) : Bool :=
  ((detectExplicitLanguageSwitch unicode message.transcript).map fun requested =>
      decide (requested ∉ agent.allowedLanguages)).getD
    ((decision unicode agent state message.transcript).action == .clarify)

/-- A turn ends with `StopResponse` after a text is said, or a call raises; nothing else is said. -/
structure StopsWith (text : String) (result : Except TurnExit Unit) (marks : List (Mark turns)) : Prop where
  stops : result ≠ .ok ()
  only : OnlySays text marks
  said : AllReturned marks → result = .error .stopResponse ∧ Said text marks

/-- What a turn comes to, from the state before it. -/
structure TurnMeets (before : TurnState) (message : UserMessage) (result : Except TurnExit Unit) (after : TurnState)
    (marks : List (Mark turns)) : Prop where
  language : after.activeLanguage = (allowedRequest unicode agent message.transcript).getD before.activeLanguage
  count : after.clarificationCount = if unclear unicode agent before message then before.clarificationCount + 1 else 0
  calendar : after.calendarContextActive = true → before.calendarContextActive = true ∨ agent.calendarEnabled = true
  gated : (decision unicode agent before message.transcript).action ≠ .allow → result ≠ .ok ()
  spoken : unclear unicode agent before message = true →
    StopsWith (clarificationResponse coercions agent before.activeLanguage (before.clarificationCount + 1)) result marks

variable {unicode} {coercions} {agent} {state : TurnState} {post : Post turns Unit}

theorem unclear_of_requested {message : UserMessage} {requested : Language}
    (hdetect : detectExplicitLanguageSwitch unicode message.transcript = some requested) :
    unclear unicode agent state message = decide (requested ∉ agent.allowedLanguages) := by
  rw [unclear, hdetect, Option.map_some, Option.getD_some]

theorem unclear_of_decided {message : UserMessage} {action : TurnAction}
    (hdetect : detectExplicitLanguageSwitch unicode message.transcript = none)
    (haction : (decision unicode agent state message.transcript).action = action) :
    unclear unicode agent state message = (action == .clarify) := by
  rw [unclear, hdetect, Option.map_none, Option.getD_none, haction]

theorem allowedRequest_of_none {transcript : String}
    (hdetect : detectExplicitLanguageSwitch unicode transcript = none) :
    allowedRequest unicode agent transcript = none := by
  rw [allowedRequest, hdetect, Option.filter_none]

theorem allowedRequest_of_some {transcript : String} {requested : Language}
    (hdetect : detectExplicitLanguageSwitch unicode transcript = some requested) :
    allowedRequest unicode agent transcript = if requested ∈ agent.allowedLanguages then some requested else none := by
  rw [allowedRequest, hdetect, Option.filter_some]
  by_cases hallowed : requested ∈ agent.allowedLanguages
  · rw [if_pos hallowed, if_pos (decide_eq_true hallowed)]
  · rw [if_neg hallowed, if_neg fun h => hallowed (of_decide_eq_true h)]

/-- A turn that is not unclear ends the count. -/
theorem TurnMeets.of_clear {before after : TurnState} {message : UserMessage} {result : Except TurnExit Unit}
    {marks : List (Mark turns)} (hclear : unclear unicode agent before message = false)
    (hlanguage : after.activeLanguage =
      (allowedRequest unicode agent message.transcript).getD before.activeLanguage)
    (hcount : after.clarificationCount = 0)
    (hcalendar : after.calendarContextActive = true →
      before.calendarContextActive = true ∨ agent.calendarEnabled = true)
    (hgated : (decision unicode agent before message.transcript).action ≠ .allow → result ≠ .ok ()) :
    TurnMeets unicode coercions agent before message result after marks := by
  constructor
  case language => exact hlanguage
  case count => rw [hclear, if_neg Bool.false_ne_true, hcount]
  case calendar => exact hcalendar
  case gated => exact hgated
  case spoken =>
    intro hunclear
    rw [hclear] at hunclear
    cases hunclear

/-- An unclear turn is counted and answered, and changes nothing else. -/
theorem TurnMeets.of_unclear {before : TurnState} {message : UserMessage} {result : Except TurnExit Unit}
    {marks : List (Mark turns)} (hunclear : unclear unicode agent before message = true)
    (hrequest : allowedRequest unicode agent message.transcript = none)
    (hstops : StopsWith (clarificationResponse coercions agent before.activeLanguage (before.clarificationCount + 1))
      result marks) :
    TurnMeets unicode coercions agent before message result
      { before with clarificationCount := before.clarificationCount + 1 } marks := by
  constructor
  case language => rw [hrequest, Option.getD_none]
  case count => rw [hunclear, if_pos rfl]
  case calendar => exact .inl
  case gated => exact fun _ => hstops.stops
  case spoken => exact fun _ => hstops

/-- A text that is said before `StopResponse` is raised. -/
theorem safe_sayAndStop {text : String} (h : ∀ result marks, StopsWith text result marks → post result state marks) :
    (sayScripted agent text >>= fun _ => stopResponse).Safe (alone turns) post state [] := by
  rw [safe_bind]
  apply safe_sayScripted
  intro result marks hspeaks
  have honly : OnlySays text marks := hspeaks.only fun _ hmark => nomatch hmark
  cases result with
  | ok value => exact h _ _ ⟨nofun, honly, fun hreturned => ⟨rfl, (hspeaks.said hreturned).2⟩⟩
  | error error => exact h _ _ ⟨nofun, honly, fun hreturned => nomatch (hspeaks.said hreturned).1⟩

theorem safe_answerClarify (h : ∀ result marks,
      StopsWith (clarificationResponse coercions agent state.activeLanguage (state.clarificationCount + 1)) result marks →
        post result { state with clarificationCount := state.clarificationCount + 1 } marks) :
    (answerClarify coercions agent).Safe (alone turns) post state [] := by
  unfold answerClarify nextClarificationResponse
  rw [safe_bind, safe_modify_bind]
  exact ⟨trivial, safe_sayAndStop h⟩

theorem safe_answerRedirect {reason : TurnReason} (h : ∀ result marks, result ≠ .ok () →
      post result { state with clarificationCount := 0, calendarContextActive := false } marks) :
    (answerRedirect agent reason).Safe (alone turns) post state [] := by
  unfold answerRedirect
  rw [safe_modify_bind]
  refine ⟨trivial, ?_⟩
  rw [safe_get_bind]
  exact safe_sayAndStop fun result marks hstops => h result marks hstops.stops

theorem safe_letThrough {decision : ScopeDecision} {transcript : String} (h : ∀ result context marks, post result
      { state with
        clarificationCount := 0, calendarContextActive := decision.calendarContextActive, turnFactContext := context }
      marks) :
    (letThrough agent decision transcript).Safe (alone turns) post state [] := by
  unfold letThrough
  rw [safe_modify_bind]
  refine ⟨trivial, ?_⟩
  rw [safe_get_bind]
  split
  · exact safe_focusCompanyFact fun result context marks => h result context marks
  · split
    · exact safe_focusCompanyFact fun result context marks => h result context marks
    · exact h _ state.turnFactContext _

/-- A switch to an allowed language. -/
theorem safe_answerLanguageRequest {requested : Language} (hallowed : requested ∈ agent.allowedLanguages)
    (h : ∀ result marks, result ≠ .ok () → post result
      { state with activeLanguage := requested, clarificationCount := 0, turnFactContext := "" } marks) :
    (answerLanguageRequest coercions agent requested).Safe (alone turns) post state [] := by
  unfold answerLanguageRequest
  rw [if_pos hallowed, safe_bind]
  apply safe_switchLanguage
  intro result marks
  cases result with
  | error error => exact h _ _ nofun
  | ok value =>
      show (get >>= _).Safe _ _ _ _
      rw [safe_get_bind, safe_bind]
      apply safe_sayScripted
      intro result marks' _
      cases result with
      | ok value => exact h _ _ nofun
      | error error => exact h _ _ nofun

/-- What the handler of a turn does. -/
theorem safe_onUserTurnCompleted (message : UserMessage) : (onUserTurnCompleted unicode coercions agent message).Safe
    (alone turns) (TurnMeets unicode coercions agent state message) state [] := by
  unfold onUserTurnCompleted
  rw [safe_get_bind]
  cases hdetect : detectExplicitLanguageSwitch unicode message.transcript with
  | some requested =>
      by_cases hallowed : requested ∈ agent.allowedLanguages
      · have hclear : unclear unicode agent state message = false := by
          rw [unclear_of_requested hdetect, decide_eq_false (not_not_intro hallowed)]
        have hrequest : allowedRequest unicode agent message.transcript = some requested := by
          rw [allowedRequest_of_some hdetect, if_pos hallowed]
        apply safe_answerLanguageRequest hallowed
        intro result marks hstops
        apply TurnMeets.of_clear hclear
        · rw [hrequest, Option.getD_some]
        · rfl
        · exact .inl
        · exact fun _ => hstops
      · have hunclear : unclear unicode agent state message = true := by
          rw [unclear_of_requested hdetect, decide_eq_true hallowed]
        have hrequest : allowedRequest unicode agent message.transcript = none := by
          rw [allowedRequest_of_some hdetect, if_neg hallowed]
        -- the answer is that to an unclear turn
        have hbody : answerLanguageRequest coercions agent requested = answerClarify coercions agent := if_neg hallowed
        dsimp only
        rw [hbody]
        apply safe_answerClarify
        intro result marks hstops
        exact .of_unclear hunclear hrequest hstops
  | none =>
      have hrequest : allowedRequest unicode agent message.transcript = none := allowedRequest_of_none hdetect
      dsimp only
      cases haction : (decision unicode agent state message.transcript).action with
      | clarify =>
          have hunclear : unclear unicode agent state message = true := unclear_of_decided hdetect haction
          apply safe_answerClarify
          intro result marks hstops
          exact .of_unclear hunclear hrequest hstops
      | redirect =>
          have hclear : unclear unicode agent state message = false := unclear_of_decided hdetect haction
          apply safe_answerRedirect
          intro result marks hstops
          apply TurnMeets.of_clear hclear
          · rw [hrequest, Option.getD_none]
          · rfl
          · intro hactive
            cases hactive
          · exact fun _ => hstops
      | allow =>
          have hclear : unclear unicode agent state message = false := unclear_of_decided hdetect haction
          apply safe_letThrough
          intro result context marks
          apply TurnMeets.of_clear hclear
          · rw [hrequest, Option.getD_none]
          · rfl
          · exact calendarContext_of_classify unicode agent.companyFact
          · exact fun hgated => absurd haction hgated

end Turns

/-! ## Sequences of turns -/

/-- A turn of the user, with the answers to the calls that are made in it. -/
structure UserTurn where
  message : UserMessage
  respond : List (Mark turns) → AgentCall → Except TurnExit Unit

section Runs

variable (unicode : Unicode) (coercions : Coercions) (agent : VoiceBotAgent)

/-- How a turn ends, the state after it, and the calls that are made. -/
def takeTurn (state : TurnState) (turn : UserTurn) : Except TurnExit Unit × TurnState × List (Mark turns) :=
  (onUserTurnCompleted unicode coercions agent turn.message).execute turn.respond state []

def stateAfterTurns (state : TurnState) (userTurns : List UserTurn) : TurnState :=
  userTurns.foldl (fun state turn => (takeTurn unicode coercions agent state turn).2.1) state

/-- The state of an agent after turns from its start. -/
def stateAfter (userTurns : List UserTurn) : TurnState :=
  stateAfterTurns unicode coercions agent agent.start userTurns

/-- Every one of some turns is unclear, in the state that it meets. -/
def AllUnclear : TurnState → List UserTurn → Prop
  | _, [] => True
  | state, turn :: rest => unclear unicode agent state turn.message = true ∧
      AllUnclear (takeTurn unicode coercions agent state turn).2.1 rest

/-- What holds of a turn that follows others. -/
structure GateHolds (earlier : List UserTurn) (turn : UserTurn) : Prop where
  /-- The active language is allowed. -/
  allowed : (stateAfter unicode coercions agent earlier).activeLanguage ∈ agent.allowedLanguages
  /-- It changes only if the text asks for the new one, which is allowed. -/
  changes : (stateAfter unicode coercions agent (earlier ++ [turn])).activeLanguage ≠
      (stateAfter unicode coercions agent earlier).activeLanguage →
    detectExplicitLanguageSwitch unicode turn.message.transcript =
        some (stateAfter unicode coercions agent (earlier ++ [turn])).activeLanguage ∧
      (stateAfter unicode coercions agent (earlier ++ [turn])).activeLanguage ∈ agent.allowedLanguages
  /-- The context of the calendar is active only where the calendar is enabled. -/
  calendar : (stateAfter unicode coercions agent earlier).calendarContextActive = true → agent.calendarEnabled = true
  /-- A turn that is not allowed does not go on to the model. -/
  gated : (decision unicode agent (stateAfter unicode coercions agent earlier) turn.message.transcript).action ≠ .allow →
    (takeTurn unicode coercions agent (stateAfter unicode coercions agent earlier) turn).1 ≠ .ok ()
  /-- The third and every later one of unclear turns in a row is answered with the support response. -/
  support : ∀ before unclearTurns, earlier = before ++ unclearTurns → 2 ≤ unclearTurns.length →
    AllUnclear unicode coercions agent (stateAfter unicode coercions agent before) (unclearTurns ++ [turn]) →
      StopsWith (supportResponse coercions agent (stateAfter unicode coercions agent earlier).activeLanguage)
        (takeTurn unicode coercions agent (stateAfter unicode coercions agent earlier) turn).1
        (takeTurn unicode coercions agent (stateAfter unicode coercions agent earlier) turn).2.2

variable {unicode} {coercions} {agent}

theorem takeTurn_meets (state : TurnState) (turn : UserTurn) : TurnMeets unicode coercions agent state turn.message
    (takeTurn unicode coercions agent state turn).1 (takeTurn unicode coercions agent state turn).2.1
    (takeTurn unicode coercions agent state turn).2.2 :=
  (safe_onUserTurnCompleted turn.message).execute turn.respond

theorem stateAfterTurns_append (state : TurnState) (first second : List UserTurn) :
    stateAfterTurns unicode coercions agent state (first ++ second) =
      stateAfterTurns unicode coercions agent (stateAfterTurns unicode coercions agent state first) second :=
  List.foldl_append

/-- What holds in every state of an agent. -/
structure GateInvariant (agent : VoiceBotAgent) (state : TurnState) : Prop where
  language : state.activeLanguage ∈ agent.allowedLanguages
  calendar : state.calendarContextActive = true → agent.calendarEnabled = true

theorem gateInvariant_start : GateInvariant agent agent.start := by
  constructor
  case language => exact agent.start_allowed
  case calendar =>
    intro hactive
    cases hactive

theorem mem_of_allowedRequest {transcript : String} {language : Language}
    (h : allowedRequest unicode agent transcript = some language) :
    detectExplicitLanguageSwitch unicode transcript = some language ∧ language ∈ agent.allowedLanguages := by
  obtain ⟨hdetect, hallowed⟩ := Option.filter_eq_some_iff.mp h
  exact ⟨hdetect, of_decide_eq_true hallowed⟩

/-- A turn keeps the invariant. -/
theorem gateInvariant_takeTurn {state : TurnState} {turn : UserTurn} (h : GateInvariant agent state) :
    GateInvariant agent (takeTurn unicode coercions agent state turn).2.1 := by
  have hmeets : TurnMeets unicode coercions agent state turn.message _ _ _ := takeTurn_meets state turn
  constructor
  case language =>
    rw [hmeets.language]
    cases hrequest : allowedRequest unicode agent turn.message.transcript with
    | none => exact h.language
    | some language => exact (mem_of_allowedRequest hrequest).2
  case calendar =>
    intro hactive
    rcases hmeets.calendar hactive with hbefore | henabled
    · exact h.calendar hbefore
    · exact henabled

theorem gateInvariant_stateAfterTurns {state : TurnState} (h : GateInvariant agent state) (userTurns : List UserTurn) :
    GateInvariant agent (stateAfterTurns unicode coercions agent state userTurns) := by
  induction userTurns generalizing state with
  | nil => exact h
  | cons turn rest ih => exact ih (gateInvariant_takeTurn h)

/-- Every unclear turn in a row is counted. -/
theorem count_of_allUnclear {state : TurnState} {userTurns : List UserTurn}
    (h : AllUnclear unicode coercions agent state userTurns) :
    (stateAfterTurns unicode coercions agent state userTurns).clarificationCount =
      state.clarificationCount + userTurns.length := by
  induction userTurns generalizing state with
  | nil => rfl
  | cons turn rest ih =>
      obtain ⟨hunclear, hrest⟩ := h
      have hcount : (takeTurn unicode coercions agent state turn).2.1.clarificationCount = state.clarificationCount + 1 := by
        rw [(takeTurn_meets state turn).count, if_pos hunclear]
      have hafter := ih hrest
      rw [hcount] at hafter
      show (stateAfterTurns unicode coercions agent (takeTurn unicode coercions agent state turn).2.1
        rest).clarificationCount = _
      rw [hafter, List.length_cons]
      omega

theorem allUnclear_append {state : TurnState} {first second : List UserTurn}
    (h : AllUnclear unicode coercions agent state (first ++ second)) :
    AllUnclear unicode coercions agent state first ∧
      AllUnclear unicode coercions agent (stateAfterTurns unicode coercions agent state first) second := by
  induction first generalizing state with
  | nil => exact ⟨trivial, h⟩
  | cons turn rest ih =>
      obtain ⟨hunclear, hrest⟩ := h
      obtain ⟨hfirst, hsecond⟩ := ih hrest
      exact ⟨⟨hunclear, hfirst⟩, hsecond⟩

theorem clarificationResponse_of_three {language : Language} {count : Nat} (h : 3 ≤ count) :
    clarificationResponse coercions agent language count = supportResponse coercions agent language := by
  unfold clarificationResponse
  rw [if_neg (by omega), if_neg (by omega)]

/-- In every sequence of turns of every agent the active language is allowed and changes only on an explicit request for an
allowed one, the context of the calendar is active only where the calendar is enabled, a turn that is not allowed does not
reach the model, and from the third unclear turn in a row on the answer is the support response. -/
theorem turn_gate (unicode : Unicode) (coercions : Coercions) (parameters : AgentParameters) (earlier : List UserTurn)
    (turn : UserTurn) : GateHolds unicode coercions parameters.construct earlier turn := by
  have hinvariant : GateInvariant parameters.construct (stateAfter unicode coercions parameters.construct earlier) :=
    gateInvariant_stateAfterTurns gateInvariant_start earlier
  have hmeets : TurnMeets unicode coercions parameters.construct (stateAfter unicode coercions parameters.construct earlier)
      turn.message _ _ _ := takeTurn_meets _ turn
  have hnext : stateAfter unicode coercions parameters.construct (earlier ++ [turn]) =
      (takeTurn unicode coercions parameters.construct (stateAfter unicode coercions parameters.construct earlier)
        turn).2.1 := by
    rw [stateAfter, stateAfterTurns_append]
    simp only [stateAfter, stateAfterTurns, List.foldl_cons, List.foldl_nil]
  constructor
  case allowed => exact hinvariant.language
  case changes =>
    rw [hnext, hmeets.language]
    intro hchanged
    cases hrequest : allowedRequest unicode parameters.construct turn.message.transcript with
    | none =>
        rw [hrequest] at hchanged
        exact absurd rfl hchanged
    | some language => exact mem_of_allowedRequest hrequest
  case calendar => exact hinvariant.calendar
  case gated => exact hmeets.gated
  case support =>
    intro before unclearTurns hearlier htwo hall
    obtain ⟨hunclearTurns, hturn, -⟩ := allUnclear_append hall
    have hstate : stateAfterTurns unicode coercions parameters.construct
        (stateAfter unicode coercions parameters.construct before) unclearTurns =
          stateAfter unicode coercions parameters.construct earlier := by
      rw [hearlier]
      exact (stateAfterTurns_append _ before unclearTurns).symm
    rw [hstate] at hturn
    have hcount := count_of_allUnclear hunclearTurns
    rw [hstate] at hcount
    have hspoken := hmeets.spoken hturn
    rwa [clarificationResponse_of_three (by omega)] at hspoken

end Runs

end VoiceBot
end VoiceAssistants
