import VoiceAssistants.Async.Keeping
import VoiceAssistants.Async.Trace
import VoiceAssistants.Backend.ToolDispatch

/-!
# Whose calls a request makes

A request to the dispatcher acts for the company of its verified header and for no other, whatever its body says: every
call of every trace carries that company, a tool begins only if the bound version of the profile grants it, and the body's
own `user_id` and `session_context` are without effect.

`profiles` is what is stored under a company and a version, which does not change once it is there.  Other requests share
the cache of the profiles; they keep it sound (`Sound`), as every request does when the store's answers are what it holds
(`Truthful`).
-/

namespace VoiceAssistants
namespace ToolDispatch

open Async Collections Python
open Db (BookingStatus)
open Backend (ToolName ToolParams ToolExecutionResponse ReleaseReason validateToolParams)
open ReadCache (mem_of_mem_moveToEnd mem_of_mem_trim)
open SessionContext (InternalSessionContext)

/-! ## What is asked of a call -/

/-- The call carries the company: the stores take the text, the broker and the queue the canonical one. -/
def Call.Carries (companyId : String) : Call → Prop
  | getPublishedAgentProfile company _ | getCompanyProfile company => company = companyId
  | issueConfirmationToken userId .. | consumeConfirmationToken _ userId .. | acquireIdempotencyLock _ userId _
  | commitIdempotencyLock _ _ userId | releaseIdempotencyLock _ userId => userId = some companyId
  | brokerPost _ payload =>
      ∃ id, Uuid.parse companyId = some id ∧ (Json.obj payload).member? "company_id" = some (.str id.text)
  | createBookingRequest userId .. => ∃ id, Uuid.parse companyId = some id ∧ userId = id.text

/-- The call is one of the tool's own. -/
def Call.MadeBy (toolName : ToolName) : Call → Prop
  | brokerPost path _ => path = brokerPath toolName
  | createBookingRequest .. => toolName = .bookEvent
  | _ => False

/-- The call is one that the tools make. -/
def Call.OfTool (call : Call) : Prop :=
  ∃ toolName, call.MadeBy toolName

/-- The version of the company's profile allows the tool. -/
def Grants (profiles : String → Int → Option Json) (companyId : String) (version : Int) (toolName : ToolName) : Prop :=
  ∃ policy names, profiles companyId version = some policy ∧ allowedTools policy = .ok names ∧ toolName.value ∈ names

/-- The answers of the store of profiles are what it holds. -/
def Truthful (profiles : String → Int → Option Json) (marks : List (Mark tools)) : Prop :=
  ∀ mark ∈ marks, ∀ companyId version policy,
    mark.event = .answered (.getPublishedAgentProfile companyId version) (.ok (some policy)) →
      profiles companyId version = some policy

/-- So is what the cache holds. -/
def Sound (profiles : String → Int → Option Json) (cache : ProfileCache) : Prop :=
  ∀ companyId version policy, cache.get (companyId, version) = some policy → profiles companyId version = some policy

/-- What the other requests do to the cache. -/
def KeepsSound (profiles : String → Int → Option Json) (cache cache' : ProfileCache) : Prop :=
  Sound profiles cache → Sound profiles cache'

/-- A tool to which the call belongs has begun. -/
def Began (call : Call) (marks : List (Mark tools)) : Prop :=
  ∃ state start, ⟨state, .emitted start⟩ ∈ marks ∧ call.MadeBy start.toolName

/-- The context's version allows the tool, if the context is bound to one. -/
def Granted (profiles : String → Int → Option Json) (context : InternalSessionContext) (toolName : ToolName)
    (marks : List (Mark tools)) : Prop :=
  Truthful profiles marks → ∀ version, context.profileVersion = some version →
    Grants profiles context.companyId version toolName

/-- What a request under a context is held to. -/
def tenantContract (profiles : String → Int → Option Json) (context : InternalSessionContext) : Contract tools where
  rely := KeepsSound profiles
  writes own cache cache' := Truthful profiles own → Sound profiles cache → Sound profiles cache'
  events own _
    | .called call => call.Carries context.companyId ∧ (call.OfTool → Began call own)
    | .emitted start =>
        (Json.obj start.arguments).member? "user_id" = some (.str context.companyId) ∧
          Granted profiles context start.toolName own
    | .answered _ _ => True
  suspends _ _ := True

section Contract

variable {profiles : String → Int → Option Json} {context : InternalSessionContext}

theorem Truthful.of_append {first second : List (Mark tools)} (h : Truthful profiles (first ++ second)) :
    Truthful profiles first :=
  fun mark hmem => h mark (List.mem_append_left _ hmem)

theorem lasting_granted (toolName : ToolName) : Lasting (Granted profiles context toolName) :=
  fun _ _ hgranted htruthful => hgranted htruthful.of_append

/-- The tool has begun, and is granted. -/
def Running (profiles : String → Int → Option Json) (context : InternalSessionContext) (toolName : ToolName)
    (marks : List (Mark tools)) : Prop :=
  Granted profiles context toolName marks ∧
    ∃ state start, ⟨state, .emitted start⟩ ∈ marks ∧ start.toolName = toolName

theorem lasting_running (toolName : ToolName) : Lasting (Running profiles context toolName) := by
  rintro own mark ⟨hgranted, state, start, hmem, htool⟩
  constructor
  · exact lasting_granted toolName own mark hgranted
  · exact ⟨state, start, List.mem_append_left _ hmem, htool⟩

/-- A call to a store. -/
theorem keeps_perform {J : List (Mark tools) → Prop} (call : Call) (hJ : Lasting J)
    (hcarries : call.Carries context.companyId) (hstore : ¬ call.OfTool) :
    Program.Keeps (tenantContract profiles context) J (fun _ => True) (perform call) := by
  apply Program.keeps_request hJ
  case hevent =>
    intro _ _ _
    exact ⟨hcarries, fun htool => absurd htool hstore⟩
  case hsuspends => exact fun _ _ => trivial

theorem keeps_store {J : List (Mark tools) → Prop} (call : Call) (hJ : Lasting J)
    (hcarries : call.Carries context.companyId) (hstore : ¬ call.OfTool) :
    Handler.Keeps (tenantContract profiles context) J (fun _ => True)
      (Handler.lift (perform call) : Step call.Answer) :=
  Handler.keeps_lift (keeps_perform call hJ hcarries hstore)

/-- A call of the tool that is running. -/
theorem keeps_perform_tool {toolName : ToolName} (call : Call) (hcarries : call.Carries context.companyId)
    (hmade : call.MadeBy toolName) :
    Program.Keeps (tenantContract profiles context) (Running profiles context toolName) (fun _ => True)
      (perform call) := by
  apply Program.keeps_request (lasting_running toolName)
  case hevent =>
    rintro _ own ⟨-, state, start, hmem, rfl⟩
    exact ⟨hcarries, fun _ => ⟨state, start, hmem, hmade⟩⟩
  case hsuspends => exact fun _ _ => trivial

theorem keeps_ofOption {α : Type} {J : List (Mark tools) → Prop} {Q : α → Prop} {value? : Option α}
    (h : ∀ value, value? = some value → Q value) :
    Program.Keeps (tenantContract profiles context) J Q (ofOption value?) := by
  cases value? with
  | some value => exact Program.keeps_pure (h value rfl)
  | none => exact Program.keeps_error _

end Contract

/-! ## The tools -/

section Tools

variable {library : Library} {profiles : String → Int → Option Json} {context : InternalSessionContext}
  {arguments : Dict} {J : List (Mark tools) → Prop}

/-- The arguments name the company of the context. -/
def Identified (context : InternalSessionContext) (arguments : Dict) : Prop :=
  (Json.obj arguments).member? "user_id" = some (.str context.companyId)

theorem keeps_argument (name : String) :
    Program.Keeps (tenantContract profiles context) J
      (fun value => (Json.obj arguments).member? name = some value) (argument arguments name) :=
  keeps_ofOption fun _ h => h

theorem keeps_companyUuid :
    Program.Keeps (tenantContract profiles context) J
      (fun text => ∃ id, Uuid.parse context.companyId = some id ∧ text = id.text)
      (companyUuid library (.str context.companyId)) := by
  unfold companyUuid
  split
  · apply keeps_ofOption
    intro text htext
    obtain ⟨id, hparse, htext⟩ := Option.map_eq_some_iff.mp htext
    exact ⟨id, hparse, htext.symm⟩
  · exact Program.keeps_error _

/-- What each tool does first: the company of its arguments is the context's. -/
theorem keeps_company {α : Type} {Q : α → Prop} {next : Json → Operation α} (harguments : Identified context arguments)
    (h : Program.Keeps (tenantContract profiles context) J Q (next (.str context.companyId))) :
    Program.Keeps (tenantContract profiles context) J Q (argument arguments "user_id" >>= next) := by
  apply Program.keeps_bind (keeps_argument "user_id")
  intro value hvalue
  obtain rfl := Option.some.inj (harguments.symm.trans hvalue)
  exact h

theorem keeps_brokerPost (toolName : ToolName) {id : Uuid} {rest : Dict}
    (hparse : Uuid.parse context.companyId = some id) :
    Program.Keeps (tenantContract profiles context) (Running profiles context toolName) (fun _ => True)
      (brokerPost (brokerPath toolName) (("company_id", .str id.text) :: rest)) :=
  keeps_perform_tool (.brokerPost _ _) ⟨id, hparse, rfl⟩ rfl

theorem keeps_getCalendarAvailability (harguments : Identified context arguments) :
    Program.Keeps (tenantContract profiles context) (Running profiles context .getCalendarAvailability) (fun _ => True)
      (getCalendarAvailability library arguments) := by
  unfold getCalendarAvailability
  apply keeps_company harguments
  apply Program.keeps_bind keeps_companyUuid
  rintro text ⟨id, hparse, rfl⟩
  apply Program.keeps_bind (keeps_brokerPost .getCalendarAvailability hparse)
  intro result _
  dsimp only
  split
  · exact Program.keeps_pure trivial
  · exact Program.keeps_pure trivial

theorem keeps_listEvents (harguments : Identified context arguments) :
    Program.Keeps (tenantContract profiles context) (Running profiles context .listEvents) (fun _ => True)
      (listEvents library arguments) := by
  unfold listEvents
  apply keeps_company harguments
  apply Program.keeps_bind keeps_companyUuid
  rintro text ⟨id, hparse, rfl⟩
  exact keeps_brokerPost .listEvents hparse

theorem keeps_cancelEvent (harguments : Identified context arguments) :
    Program.Keeps (tenantContract profiles context) (Running profiles context .cancelEvent) (fun _ => True)
      (cancelEvent library arguments) := by
  unfold cancelEvent
  apply keeps_company harguments
  apply Program.keeps_bind (keeps_argument "event_id")
  intro event _
  dsimp only
  split
  · apply Program.keeps_bind keeps_companyUuid
    rintro text ⟨id, hparse, rfl⟩
    apply Program.keeps_bind (keeps_brokerPost .cancelEvent hparse)
    intro answer _
    exact Program.keeps_pure trivial
  · exact Program.keeps_pure trivial

/-- The booking is queued for whom it was posted. -/
theorem keeps_afterBooking {answer : JsonObject} {store : BookingStatus → String → Operation (Uuid × BookingStatus)}
    (hstore : ∀ status message, Program.Keeps (tenantContract profiles context) J (fun _ => True) (store status message)) :
    Program.Keeps (tenantContract profiles context) J (fun _ => True) (afterBooking answer store) := by
  unfold afterBooking
  split
  · apply Program.keeps_bind (hstore _ _)
    intro request _
    exact Program.keeps_pure trivial
  · split
    · apply Program.keeps_bind (hstore _ _)
      intro request _
      exact Program.keeps_pure trivial
    · split
      · exact Program.keeps_pure trivial
      · exact Program.keeps_pure trivial

theorem keeps_bookEvent (harguments : Identified context arguments) :
    Program.Keeps (tenantContract profiles context) (Running profiles context .bookEvent) (fun _ => True)
      (bookEvent library arguments) := by
  unfold bookEvent
  apply keeps_company harguments
  apply Program.keeps_bind (keeps_argument "title")
  intro title _
  apply Program.keeps_bind (keeps_argument "start_time")
  intro startTime _
  apply Program.keeps_bind keeps_companyUuid
  rintro text ⟨id, hparse, rfl⟩
  apply Program.keeps_bind (Q := fun _ => True) (keeps_ofOption fun _ _ => trivial)
  intro start _
  apply Program.keeps_bind (Q := fun _ => True)
  · apply Program.keeps_settleThen (keeps_brokerPost .bookEvent hparse)
    intro result _
    split
    · exact Program.keeps_pure trivial
    · split
      · exact Program.keeps_error _
      · exact Program.keeps_pure trivial
    · exact Program.keeps_error _
  · intro answer _
    apply keeps_afterBooking
    intro status message
    exact keeps_perform_tool (.createBookingRequest _ _ _ _ _ _) ⟨id, hparse, rfl⟩ rfl

theorem keeps_toolFunc (toolName : ToolName) (harguments : Identified context arguments) :
    Program.Keeps (tenantContract profiles context) (Running profiles context toolName) (fun _ => True)
      (toolFunc library toolName arguments) := by
  cases toolName with
  | getCalendarAvailability => exact keeps_getCalendarAvailability harguments
  | bookEvent => exact keeps_bookEvent harguments
  | cancelEvent => exact keeps_cancelEvent harguments
  | listEvents => exact keeps_listEvents harguments

end Tools

/-! ## The arguments -/

section Arguments

variable {library : Library} {context : InternalSessionContext} {request : ToolExecutionRequest} {kwargs : Dict}

/-- The request has been given the context's identity. -/
def ToolExecutionRequest.Of (request : ToolExecutionRequest) (context : InternalSessionContext) : Prop :=
  request.userId = some context.companyId

/-- No parameter is a `user_id`. -/
def Anonymous (kwargs : Dict) : Prop :=
  (Json.obj kwargs).member? "user_id" = none

theorem anonymous_of_all (h : kwargs.all (fun member => member.1 != "user_id") = true) : Anonymous kwargs := by
  unfold Anonymous Json.member?
  rw [Option.map_eq_none_iff, List.find?_eq_none]
  intro member hmem hname
  have hother := List.all_eq_true.mp h member hmem
  simp only [bne_iff_ne, ne_eq] at hother
  exact hother (of_decide_eq_true hname)

theorem all_present {name : String} {value : Option Json} (h : name ≠ "user_id") :
    (present name value).all (fun member => member.1 != "user_id") = true := by
  cases value with
  | none => rfl
  | some value => simp [present, h]

/-- The schema of a tool has no field for it. -/
theorem anonymous_modelDump (params : ToolParams) : Anonymous (modelDump params) := by
  apply anonymous_of_all
  cases params <;> simp [modelDump, List.all_append, all_present]

theorem Anonymous.set {name : String} {value : Json} (h : Anonymous kwargs) (hname : name ≠ "user_id") :
    Anonymous (Json.setMember name value kwargs) := by
  unfold Anonymous
  rw [Json.member?_setMember, if_neg (Ne.symm hname)]
  exact h

theorem Identified.set {name : String} {value : Json} (h : Identified context kwargs) (hname : name ≠ "user_id") :
    Identified context (Json.setMember name value kwargs) := by
  unfold Identified
  rw [Json.member?_setMember, if_neg (Ne.symm hname)]
  exact h

/-- Every tool takes it. -/
theorem user_id_mem_signature (toolName : ToolName) : (signature toolName).contains "user_id" = true := by
  cases toolName <;> decide

theorem Identified.filter (toolName : ToolName) (h : Identified context kwargs) :
    Identified context (kwargs.filter fun member => (signature toolName).contains member.1) := by
  unfold Identified Json.member? at *
  dsimp only at *
  rw [List.find?_filter]
  have hpredicate : (fun member : String × Json => decide ((signature toolName).contains member.1 = true ∧
      decide (member.1 = "user_id") = true)) = fun member => decide (member.1 = "user_id") := by
    funext member
    by_cases hname : member.1 = "user_id"
    · simp only [hname, user_id_mem_signature, decide_true, and_self]
    · simp [hname]
  rw [hpredicate]
  exact h

/-- What is set besides the identity leaves it. -/
theorem identified_withBusinessHours {profile : Option Json} {kwargs' : Dict} (h : Identified context kwargs)
    (hours : withBusinessHours profile kwargs = .ok kwargs') : Identified context kwargs' := by
  cases profile with
  | none =>
      obtain rfl := Except.ok.inj hours
      exact h
  | some policy =>
      simp only [withBusinessHours, bind, Except.bind] at hours
      cases hrules : getMember (either policy (.obj [])) "businessRules" with
      | error raised => simp [hrules] at hours
      | ok rules =>
          simp only [hrules] at hours
          cases hfound : getMember (either (rules.getD .null) (.obj [])) "business_hours" with
          | error raised => simp [hfound] at hours
          | ok found =>
              simp only [hfound] at hours
              split at hours
              · obtain rfl := Except.ok.inj hours
                exact h.set (by decide)
              · obtain rfl := Except.ok.inj hours
                exact h

/-- `tool_kwargs.get("user_id") or request.user_id` is the company of the context. -/
theorem identified_injected {toolName : ToolName} {profile : Option Json} {kwargs' : Dict}
    (hrequest : request.Of context) (hkwargs : Anonymous kwargs)
    (h : injected request toolName profile kwargs = .ok kwargs') : Identified context kwargs' := by
  have hidentity : Identified context
      (Json.setMember "user_id" (either (keyword kwargs "user_id" .null) (optionalText request.userId)) kwargs) := by
    unfold Identified
    rw [Json.member?_setMember, if_pos rfl, keyword, hkwargs, hrequest]
    rfl
  unfold injected at h
  dsimp only at h
  cases toolName with
  | getCalendarAvailability => exact identified_withBusinessHours hidentity h
  | bookEvent => exact identified_withBusinessHours ((hidentity.set (by decide)).set (by decide)) h
  | cancelEvent | listEvents =>
      obtain rfl := Except.ok.inj h
      exact hidentity

end Arguments

/-! ## The steps -/

section Steps

variable {library : Library} {profiles : String → Int → Option Json} {context : InternalSessionContext}
  {request : ToolExecutionRequest} {toolName : ToolName} {kwargs : Dict} {J : List (Mark tools) → Prop}

/-- A store is no tool's. -/
theorem not_ofTool {call : Call} (h : ∀ toolName, ¬ call.MadeBy toolName) : ¬ call.OfTool := by
  rintro ⟨toolName, hmade⟩
  exact h toolName hmade

theorem keeps_injected {profile : Option Json} (hrequest : request.Of context) (hkwargs : Anonymous kwargs) :
    Program.Keeps (tenantContract profiles context) J (Identified context)
      (ofExcept (injected request toolName profile kwargs)) := by
  apply keeps_ofOption
  intro kwargs' h
  cases hinjected : injected request toolName profile kwargs with
  | error raised =>
      rw [hinjected] at h
      cases h
  | ok injected =>
      rw [hinjected] at h
      obtain rfl := Option.some.inj h
      exact identified_injected hrequest hkwargs hinjected

theorem keeps_resolveCompanyTimezone (hJ : Lasting J) :
    Program.Keeps (tenantContract profiles context) J (fun _ => True)
      (resolveCompanyTimezone library context.companyId context.timezone) := by
  have hchecked (name : String) : Program.Keeps (tenantContract profiles context) J (fun _ => True)
      (if Backend.isZone library.dates name then pure name else raise .raised : Operation String) := by
    split
    · exact Program.keeps_pure trivial
    · exact Program.keeps_error _
  unfold resolveCompanyTimezone
  dsimp only
  split
  · apply Program.keeps_bind
    · apply keeps_perform _ hJ
      case hcarries => rfl
      case hstore => exact not_ofTool fun _ h => h
    · intro timezone _
      exact hchecked _
  · exact hchecked _

theorem keeps_validated {parameters : Dict} :
    Handler.Keeps (tenantContract profiles context) J Anonymous (validated library toolName parameters) := by
  unfold validated
  split
  · exact Handler.keeps_pure (anonymous_modelDump _)
  · exact Handler.keeps_returns _

theorem keeps_requireKey :
    Handler.Keeps (tenantContract profiles context) J (fun _ => True) (requireKey request toolName kwargs) := by
  unfold requireKey
  split
  · exact Handler.keeps_returns _
  · exact Handler.keeps_pure trivial

theorem keeps_withTimezone (hJ : Lasting J) (hkwargs : Anonymous kwargs) :
    Handler.Keeps (tenantContract profiles context) J Anonymous (withTimezone library context toolName kwargs) := by
  unfold withTimezone
  split
  · apply Handler.keeps_bind
    · apply Handler.keeps_lift
      apply Program.keeps_attempt
      exact keeps_resolveCompanyTimezone hJ
    · intro resolved _
      cases resolved with
      | ok zone => exact Handler.keeps_pure (hkwargs.set (by decide))
      | error failure => exact Handler.keeps_returns _
  · exact Handler.keeps_pure hkwargs

theorem keeps_intercept (hJ : Lasting J) (hrequest : request.Of context) :
    Handler.Keeps (tenantContract profiles context) J (fun _ => True)
      (intercept library request toolName kwargs) := by
  unfold intercept
  split
  · split
    · split
      · exact Handler.keeps_pure trivial
      · exact Handler.keeps_returns _
    · apply Handler.keeps_bind
      · apply keeps_store _ hJ
        case hcarries => exact hrequest
        case hstore => exact not_ofTool fun _ h => h
      · intro token _
        exact Handler.keeps_returns _
  · exact Handler.keeps_pure trivial

theorem keeps_acquireLock (hJ : Lasting J) (hrequest : request.Of context) :
    Handler.Keeps (tenantContract profiles context) J (fun _ => True) (acquireLock request toolName) := by
  unfold acquireLock
  split
  · exact Handler.keeps_pure trivial
  · apply Handler.keeps_bind
    · apply keeps_store _ hJ
      case hcarries => exact hrequest
      case hstore => exact not_ofTool fun _ h => h
    · intro acquisition _
      split
      · exact Handler.keeps_pure trivial
      · split
        · exact Handler.keeps_returns _
        · exact Handler.keeps_returns _

theorem keeps_releaseLock (hJ : Lasting J) (hrequest : request.Of context) :
    Program.Keeps (tenantContract profiles context) J (fun _ => True) (releaseLock request) := by
  unfold releaseLock
  split
  · exact Program.keeps_pure trivial
  · exact keeps_perform (.releaseIdempotencyLock _ _) hJ hrequest (not_ofTool fun _ h => h)

theorem keeps_consumeToken (hJ : Lasting J) (hrequest : request.Of context) :
    Handler.Keeps (tenantContract profiles context) J (fun _ => True)
      (consumeToken library request toolName kwargs) := by
  unfold consumeToken
  split
  · apply Handler.keeps_bind
    · apply keeps_store _ hJ
      case hcarries => exact hrequest
      case hstore => exact not_ofTool fun _ h => h
    · intro result _
      split
      · exact Handler.keeps_pure trivial
      · apply Handler.keeps_bind (Handler.keeps_lift (keeps_releaseLock hJ hrequest))
        intro _ _
        exact Handler.keeps_returns _
  · exact Handler.keeps_pure trivial

theorem keeps_settled (hJ : Lasting J) (hrequest : request.Of context) {result : JsonObject} :
    Program.Keeps (tenantContract profiles context) J (fun _ => True) (settled request result) := by
  unfold settled
  split
  · apply Program.keeps_bind (keeps_releaseLock hJ hrequest)
    intro _ _
    exact Program.keeps_pure trivial
  · split
    · exact Program.keeps_pure trivial
    · split
      · apply Program.keeps_bind
        · exact keeps_perform (.commitIdempotencyLock _ _ _) hJ hrequest (not_ofTool fun _ h => h)
        · intro _ _
          exact Program.keeps_pure trivial
      · exact Program.keeps_pure trivial

/-- The tool begins with the company of the context, and only then makes its calls. -/
theorem keeps_execute (hrequest : request.Of context) (hkwargs : Identified context kwargs) :
    Program.Keeps (tenantContract profiles context) (Granted profiles context toolName) (fun _ => True)
      (execute library request toolName kwargs) := by
  constructor
  intro cache own hgranted
  unfold execute
  dsimp only
  rw [Program.safe_settleThen, Program.safe_output_bind]
  constructor
  · exact ⟨hkwargs.filter toolName, hgranted⟩
  · have hrunning : Running profiles context toolName (own ++ [⟨cache, .emitted ⟨toolName,
        kwargs.filter fun member => (signature toolName).contains member.1⟩⟩]) := by
      constructor
      · exact lasting_granted toolName _ _ hgranted
      · exact ⟨cache, _, List.mem_append_right _ List.mem_cons_self, rfl⟩
    have hattempted : Program.Keeps (tenantContract profiles context) (Running profiles context toolName)
        (fun _ => True) (toolFunc library toolName (kwargs.filter fun member =>
          (signature toolName).contains member.1) >>= settled request) := by
      apply Program.keeps_bind (keeps_toolFunc toolName (hkwargs.filter toolName))
      intro result _
      exact keeps_settled (lasting_running toolName) hrequest
    have hreleased : Program.Keeps (tenantContract profiles context) (Running profiles context toolName)
        (fun _ => True) (releaseLock request >>= fun _ => pure ReleaseReason.executionError.response) := by
      apply Program.keeps_bind (keeps_releaseLock (lasting_running toolName) hrequest)
      intro _ _
      exact Program.keeps_pure trivial
    apply (hattempted.safe _ _ hrunning).imp
    rintro result state' own' ⟨hrunning', -⟩
    cases result with
    | ok response => exact ⟨hrunning'.1, fun _ _ => trivial⟩
    | error failure =>
        apply (hreleased.safe _ _ hrunning').imp
        rintro result state'' own'' ⟨hrunning'', -⟩
        exact ⟨hrunning''.1, fun _ _ => trivial⟩

end Steps

/-! ## The grant -/

section Grant

variable {library : Library} {profiles : String → Int → Option Json} {context : InternalSessionContext}
  {cache : ProfileCache} {own : List (Mark tools)} {toolName : ToolName}

theorem Sound.of_entries {cache' : ProfileCache} (h : Sound profiles cache)
    (hentries : ∀ entry ∈ cache'.entries, entry ∈ cache.entries) : Sound profiles cache' := by
  intro companyId version policy hget
  exact h _ _ _ (OrderedMap.mem_entries.mp (hentries _ (OrderedMap.mem_entries.mpr hget)))

/-- Storing what the store holds. -/
theorem Sound.set {companyId : String} {version : Int} {policy : Json} (h : Sound profiles cache)
    (hstored : profiles companyId version = some policy) :
    Sound profiles (cache.set (companyId, version) policy) := by
  intro companyId' version' policy' hget
  rw [OrderedMap.get_set] at hget
  split at hget
  · rename_i hkey
    obtain ⟨rfl, rfl⟩ := Prod.mk.inj hkey
    exact hstored.trans hget
  · exact h _ _ _ hget

/-- The profile that a request is given, from the cache or from the store, is the one of its company and version. -/
theorem safe_getCachedPublishedAgentProfile {version : Int} (hsound : Sound profiles cache) :
    (getCachedPublishedAgentProfile context.companyId version).Safe (tenantContract profiles context)
      (fun result _ own => ∀ policy, result = .ok (some policy) → Truthful profiles own →
        profiles context.companyId version = some policy) cache own := by
  unfold getCachedPublishedAgentProfile
  rw [Program.safe_get_bind]
  cases hget : OrderedMap.get cache (context.companyId, version) with
  | some policy =>
      dsimp only
      rw [Program.safe_modify_bind]
      constructor
      · exact fun _ h => h.of_entries fun _ => mem_of_mem_moveToEnd
      · intro policy' hpolicy _
        obtain rfl := Option.some.inj (Except.ok.inj hpolicy)
        exact hsound _ _ _ hget
  | none =>
      dsimp only
      rw [Program.safe_bind]
      constructor
      · constructor
        · rfl
        · rintro ⟨toolName, hmade⟩
          exact hmade.elim
      · constructor
        · trivial
        · intro cache' hkeeps answer
          -- what a truthful store answers is what it holds
          have hanswered (policy : Json) (hanswer : answer = .ok (some policy))
              (htruthful : Truthful profiles (own ++
                [⟨cache, .called (.getPublishedAgentProfile context.companyId version)⟩] ++
                [⟨cache', .answered (.getPublishedAgentProfile context.companyId version) answer⟩])) :
              profiles context.companyId version = some policy := by
            subst hanswer
            exact htruthful _ (List.mem_append_right _ List.mem_cons_self) _ _ _ rfl
          cases answer with
          | error failure =>
              intro policy hpolicy
              cases hpolicy
          | ok result =>
              cases result with
              | none =>
                  intro policy hpolicy
                  cases Except.ok.inj hpolicy
              | some policy =>
                  constructor
                  · intro htruthful hcache
                    apply (hcache.set (hanswered policy rfl htruthful)).of_entries
                    exact fun _ hmem => mem_of_mem_moveToEnd (mem_of_mem_trim hmem)
                  · intro policy' hpolicy htruthful
                    obtain rfl := Option.some.inj (Except.ok.inj hpolicy)
                    exact hanswered _ rfl htruthful

theorem names_of_granted {name : String} {policy : Json} (h : isToolGrantedByProfile name (some policy) = .ok true) :
    ∃ names, allowedTools policy = .ok names ∧ name ∈ names := by
  unfold isToolGrantedByProfile at h
  dsimp only at h
  cases hnames : allowedTools policy with
  | error raised =>
      rw [hnames] at h
      cases h
  | ok names =>
      rw [hnames] at h
      exact ⟨names, rfl, List.contains_iff_mem.mp (Except.ok.inj h)⟩

/-- Where the request goes on, its tool is granted. -/
theorem safe_authorize (hsound : Sound profiles cache) :
    (authorize context toolName).Safe (tenantContract profiles context)
      (fun _ _ own => Granted profiles context toolName own) cache own := by
  unfold authorize
  cases hversion : context.profileVersion with
  | none =>
      apply Handler.safe_pure
      intro _ version heq
      rw [hversion] at heq
      cases heq
  | some version =>
      dsimp only
      apply Handler.safe_bind
      apply Handler.safe_lift
      apply (safe_getCachedPublishedAgentProfile hsound).imp
      intro result cache' own' hprofile profile hresult
      apply Handler.safe_bind
      apply Handler.safe_lift
      cases hgranted : isToolGrantedByProfile toolName.value profile with
      | error raised =>
          intro granted heq
          cases heq
      | ok granted =>
          intro granted' heq
          obtain rfl := Except.ok.inj heq
          cases granted with
          | false => exact Handler.safe_returns _
          | true =>
              apply Handler.safe_pure
              intro htruthful version' heq'
              obtain rfl := Option.some.inj (hversion.symm.trans heq')
              cases profile with
              | none => cases hgranted
              | some policy =>
                  obtain ⟨names, hnames, hmem⟩ := names_of_granted hgranted
                  exact ⟨policy, names, hprofile policy hresult htruthful, hnames, hmem⟩

end Grant

/-! ## A request -/

section Request

variable {K : Type} [Ring K] [LinearOrder K] {library : Library} {profiles : String → Int → Option Json}
  {context : InternalSessionContext} {now : K} {header : Option String} {body : ToolExecutionRequest}
  {cache : ProfileCache}

theorem safe_dispatch (hsound : Sound profiles cache) :
    (dispatch library body context).Safe (tenantContract profiles context) (fun _ _ _ => True) cache [] := by
  have hrequest : (body.identified context).Of context := rfl
  unfold dispatch
  apply Handler.safe_bind
  unfold registeredTool
  split
  · rename_i toolName _
    apply Handler.safe_pure
    apply Handler.safe_bind
    unfold requireActive
    split
    · apply Handler.safe_pure
      apply Handler.safe_bind
      apply (safe_authorize hsound).imp
      intro profile cache' own hgranted
      have hlasting : Lasting (Granted profiles context toolName) := lasting_granted toolName
      -- from here on the tool is granted
      suffices hrest : Handler.Keeps (tenantContract profiles context) (Granted profiles context toolName)
          (fun _ => True) _ from (hrest.safe cache' own hgranted).imp fun _ _ _ _ => trivial
      apply Handler.keeps_bind keeps_validated
      intro kwargs hkwargs
      apply Handler.keeps_bind keeps_requireKey
      intro _ _
      apply Handler.keeps_bind (keeps_withTimezone hlasting hkwargs)
      intro kwargs hkwargs
      apply Handler.keeps_bind (keeps_intercept hlasting hrequest)
      intro _ _
      apply Handler.keeps_bind (keeps_acquireLock hlasting hrequest)
      intro _ _
      apply Handler.keeps_bind (keeps_consumeToken hlasting hrequest)
      intro _ _
      apply Handler.keeps_bind (Handler.keeps_lift (keeps_injected hrequest hkwargs))
      intro kwargs hkwargs
      exact Handler.keeps_lift (keeps_execute hrequest hkwargs)
    · exact Handler.safe_returns _
  · apply Handler.safe_lift
    intro value heq
    cases heq

/-- `verify_session_context` of the header. -/
def Verified (library : Library) (now : K) (header : Option String) (context : InternalSessionContext) : Prop :=
  library.settings.verifySessionContext now (header.map fun header => .text header.toList) = .ok (some context)

theorem executeTool_verified (h : Verified library now header context) :
    executeTool library now header body = Handler.respond (dispatch library body context) := by
  unfold executeTool verifiedContext
  rw [h]
  rfl

/-- Without a verified context a request does nothing. -/
theorem executeTool_unverified (h : ∀ context, ¬ Verified library now header context) :
    ∃ result, executeTool library now header body = .done result := by
  unfold executeTool verifiedContext
  cases hresult : library.settings.verifySessionContext now (header.map fun header => .text header.toList) with
  | error raised => exact ⟨_, rfl⟩
  | ok verified =>
      cases verified with
      | none => exact ⟨_, rfl⟩
      | some context => exact absurd hresult (h context)

/-- What a trace of a request shows: all its calls are made for the company of the verified header, the broker and the
queue are called by tools that have begun, a tool begins if the context's version allows it, and the cache stays sound. -/
structure ForTenant (library : Library) (profiles : String → Int → Option Json) (now : K) (header : Option String)
    (marks : List (Mark tools)) (cache' : ProfileCache) : Prop where
  calls : ∀ mark ∈ marks, ∀ call, mark.event = .called call →
    ∃ context, Verified library now header context ∧ call.Carries context.companyId ∧ (call.OfTool → Began call marks)
  tools : ∀ mark ∈ marks, ∀ start, mark.event = .emitted start →
    ∃ context, Verified library now header context ∧ Identified context start.arguments ∧
      (Truthful profiles marks → ∀ version, context.profileVersion = some version →
        Grants profiles context.companyId version start.toolName)
  cache : Truthful profiles marks → Sound profiles cache'

theorem forTenant_nil (h : Sound profiles cache) : ForTenant library profiles now header [] cache where
  calls _ hmem := absurd hmem List.not_mem_nil
  tools _ hmem := absurd hmem List.not_mem_nil
  cache _ := h

/-- A request acts for the company of its verified header, and the body's own identity is without effect. -/
theorem tenant_not_caller_selectable (library : Library) (profiles : String → Int → Option Json) (now : K)
    (header : Option String) (body : ToolExecutionRequest) :
    (∀ cache marks cache', Sound profiles cache →
      Trace (KeepsSound profiles) (executeTool library now header body) cache marks cache' →
        ForTenant library profiles now header marks cache') ∧
    ∀ userId sessionContext, executeTool library now header { body with userId, sessionContext } =
      executeTool library now header body := by
  constructor
  · intro cache marks cache' hsound htrace
    by_cases hverified : ∃ context, Verified library now header context
    · obtain ⟨context, hcontext⟩ := hverified
      rw [executeTool_verified hcontext] at htrace
      have hsafe : (Handler.respond (dispatch library body context)).Safe (tenantContract profiles context)
          (fun _ _ _ => True) cache [] := Handler.safe_respond (safe_dispatch hsound)
      obtain ⟨hkept, hpreserved⟩ := hsafe.trace htrace
      constructor
      case calls =>
        intro mark hmem call hevent
        obtain ⟨before, after, rfl, hobligation⟩ := hkept.event hmem (by simp [hevent])
        rw [hevent] at hobligation
        obtain ⟨hcarries, hbegan⟩ := hobligation
        refine ⟨context, hcontext, hcarries, fun htool => ?_⟩
        obtain ⟨state, start, hstart, hmade⟩ := hbegan htool
        exact ⟨state, start, List.mem_append_left _ hstart, hmade⟩
      case tools =>
        intro mark hmem start hevent
        obtain ⟨before, after, rfl, hobligation⟩ := hkept.event hmem (by simp [hevent])
        rw [hevent] at hobligation
        obtain ⟨hidentified, hgranted⟩ := hobligation
        exact ⟨context, hcontext, hidentified, fun htruthful => hgranted htruthful.of_append⟩
      case cache =>
        apply hpreserved (fun own cache => Truthful profiles own → Sound profiles cache)
        · constructor
          case marks => exact fun own mark cache h htruthful => h htruthful.of_append
          case writes => exact fun own cache cache' hwrites h htruthful => hwrites htruthful (h htruthful)
          case rely => exact fun own cache cache' hrely h htruthful => hrely (h htruthful)
        · exact fun _ => hsound
    · obtain ⟨result, hdone⟩ := executeTool_unverified fun context h => hverified ⟨context, h⟩
      rw [hdone] at htrace
      cases htrace
      exact forTenant_nil hsound
  · intro userId sessionContext
    rfl

end Request

def sampleCompany : String := "11111111-1111-4111-8111-111111111111"

/-- A context that is bound to the third version of its company's profile. -/
def sampleTenant : SessionContext.VerifiedSessionContext :=
  SessionContext.sampleSettings.issued ⟨"session-1", sampleCompany, "user-1", some 3, some "Indian/Mauritius"⟩ 1000

def sampleLibrary : Library where
  settings := SessionContext.sampleSettings
  lax := Backend.sampleLax
  dates := Backend.sampleZones
  errorHints _ _ := ""
  formatUtc _ _ := some "2026-10-01T06:00:00Z"
  uuid4 := "22222222-2222-4222-8222-222222222222"

/-- The third version allows one tool. -/
def sampleProfiles (companyId : String) (version : Int) : Option Json :=
  if companyId = sampleCompany ∧ version = 3 then some (.obj [("allowedTools", .arr [.str "list_events"])]) else none

/-- The store of profiles answers what it holds, and the broker has no events. -/
def sampleRespond : (call : Call) → Except Failure call.Answer
  | .getPublishedAgentProfile companyId version => .ok (sampleProfiles companyId version)
  | .brokerPost _ _ => .ok (.ofPairs [("source", .text "google_calendar_live")])
  | .getCompanyProfile _ | .issueConfirmationToken .. | .consumeConfirmationToken .. | .acquireIdempotencyLock ..
  | .commitIdempotencyLock .. | .releaseIdempotencyLock .. | .createBookingRequest .. => .error .raised

/-- A list of events for which the body names another company. -/
def sampleListing : ToolExecutionRequest :=
  ⟨"list_events", [("start_date", .str "2026-10-01")], some "33333333-3333-4333-8333-333333333333", none, none, none⟩

def sampleHeader : String :=
  String.ofList sampleTenant.signedMetadata

def sampleMarks : List (Mark tools) :=
  (executeTool sampleLibrary (1000 : ℤ) (some sampleHeader) sampleListing).play sampleRespond .empty

/-- The mark is a call of the broker. -/
def isPost (mark : Mark tools) : Bool :=
  match mark.event with
  | .called (.brokerPost _ _) => true
  | _ => false

theorem verified_sample :
    Verified sampleLibrary (1000 : ℤ) (some sampleHeader) sampleTenant.toInternalSessionContext := by
  have hverified : SessionContext.sampleSettings.verifySessionContext (1000 : ℤ)
      (some (.text sampleTenant.signedMetadata)) = .ok (some sampleTenant.toInternalSessionContext) :=
    SessionContext.verify_signedMetadata sampleTenant (by decide) SessionContext.admits_sample (by decide +kernel)
      (by decide +kernel) (by decide +kernel) (by decide +kernel) (SessionContext.signed_issued _ _ _)
  unfold Verified sampleHeader
  rw [Option.map_some, String.toList_ofList]
  exact hverified

theorem trace_sample : ∃ cache', Trace (KeepsSound sampleProfiles)
    (executeTool sampleLibrary (1000 : ℤ) (some sampleHeader) sampleListing) .empty sampleMarks cache' := by
  unfold sampleMarks
  have hkeeps (cache : ProfileCache) : KeepsSound sampleProfiles cache cache := id
  have htrace := Program.trace_play hkeeps sampleRespond
    (executeTool sampleLibrary (1000 : ℤ) (some sampleHeader) sampleListing) .empty
  exact htrace

theorem tenant_not_caller_selectable_listing :
    sampleMarks.any isPost = true ∧
      ∀ mark ∈ sampleMarks, ∀ call, mark.event = .called call → call.Carries sampleCompany := by
  constructor
  · unfold sampleMarks
    rw [executeTool_verified verified_sample]
    decide +kernel
  · intro mark hmem call hevent
    have hsound : Sound sampleProfiles .empty := by
      intro companyId version policy hget
      cases hget
    obtain ⟨cache', htrace⟩ := trace_sample
    have hrun := (tenant_not_caller_selectable sampleLibrary sampleProfiles (1000 : ℤ) (some sampleHeader)
      sampleListing).1 .empty sampleMarks cache' hsound htrace
    obtain ⟨context, hcontext, hcarries, -⟩ := hrun.calls mark hmem call hevent
    obtain rfl := Option.some.inj (Except.ok.inj (hcontext.symm.trans verified_sample))
    exact hcarries

end ToolDispatch
end VoiceAssistants
