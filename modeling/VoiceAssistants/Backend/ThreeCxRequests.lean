import VoiceAssistants.Db.ThreeCxIntegrations
import VoiceAssistants.Python.Coercions
import VoiceAssistants.Python.Pydantic

/-!
# Saving a 3CX integration (`api/integrations.py`, `credential_broker/main.py`)

`ThreeCXRequest` of the API and `ThreeCXPayload` of the broker read the same fields in the same way.  The API sends the
broker what it has read; the broker reads it again, probes the PBX and saves the integration.

* `ThreeCXRequest.accepted_of_read` — what the API's model promises of a request.
* `put3cx_stored` — what is stored are the fields of that request, although three functions check and rewrite them.

Who may ask, how often, and the encryption of the client secret are outside.  `none` is a `ValidationError` or another
exception.
-/

namespace VoiceAssistants
namespace Backend

open Db Python

/-- The fields of `ThreeCXRequest`, which `ThreeCXPayload` has as well. -/
structure ThreeCXRequest where
  connectionName : String
  pbxUrl : String
  appId : String
  routePointDn : String
  clientSecret : String
  dids : List String
  transferDestinations : List String
  failureAction : String
  failureDestination : Option String
  deriving DecidableEq, Repr

structure ThreeCXPayload extends ThreeCXRequest where
  companyId : Uuid
  deriving DecidableEq, Repr

/-! ## The fields -/

/-- `str`; these models do not strip. -/
def readPlain (check : String → Bool) : Json → Option String
  | .str value => if check value then some value else none
  | _ => none

/-- `list[str]` with `max_length`. -/
def readPlains (maxLength : Nat) : Json → Option (List String)
  | .arr items => if items.length ≤ maxLength then items.mapM (readPlain fun _ => true) else none
  | _ => none

/-- `url.startswith("http://") or url.startswith("https://")` -/
def hasScheme (url : String) : Bool :=
  "http://".toList.isPrefixOf url.toList || "https://".toList.isPrefixOf url.toList

section Normalize

variable (coercions : Coercions) (members : List (String × Json))

def normalizePbxUrl : List (String × Json) :=
  let url := strip (((Json.obj members).member? "pbx_url").elim "" coercions.str)
  if url ≠ "" ∧ !hasScheme url then Json.setMember "pbx_url" (.str ("https://" ++ url)) members else members

def normalizeConnectionName : List (String × Json) :=
  match ((Json.obj members).member? "connection_name").filter Json.truthy with
  | some name =>
      if strip (coercions.str name) = "" then Json.setMember "connection_name" (.str "3CX PBX Connection") members
      else members
  | none => Json.setMember "connection_name" (.str "3CX PBX Connection") members

def normalizeFailureAction : List (String × Json) :=
  if (((Json.obj members).member? "failure_action").filter Json.truthy).isSome then members
  else Json.setMember "failure_action" (.str "disconnect") members

end Normalize

/-- `normalize_input` -/
def normalizeInput (coercions : Coercions) : Json → Json
  | .obj members =>
      .obj (normalizeFailureAction (normalizeConnectionName coercions (normalizePbxUrl coercions members)))
  | data => data

/-- `validate_failure_policy` -/
def ThreeCXRequest.validateFailurePolicy (fields : ThreeCXRequest) : Option ThreeCXRequest :=
  let routePointDn :=
    if fields.routePointDn = "" ∨ strip fields.routePointDn = "" then strip fields.appId else fields.routePointDn
  let transferDestinations := stripped fields.transferDestinations
  let destination := (fields.failureDestination.filter (· ≠ "")).map strip
  let approved := destination.any fun destination => destination ≠ "" && transferDestinations.contains destination
  if fields.failureAction = "transfer" ∧ !approved then none
  else if fields.failureAction = "disconnect" ∧ destination ≠ none then none
  else some { fields with routePointDn, transferDestinations, failureDestination := destination }

/-- The fields of both models. -/
def readThreeCX (coercions : Coercions) (raw : Json) : Option ThreeCXRequest := do
  let data := normalizeInput coercions raw
  let connectionName ← defaulted (readPlain (lengthIn 0 255)) "3CX PBX Connection" data "connection_name"
  let pbxUrl ← required (readPlain (lengthIn 3 255)) data "pbx_url"
  let appId ← required (readPlain (lengthIn 1 255)) data "app_id"
  let routePointDn ← defaulted (readPlain (lengthIn 0 128)) "" data "route_point_dn"
  let clientSecret ← required (readPlain (lengthIn 4 4096)) data "client_secret"
  let dids ← defaulted (readPlains 100) [] data "dids"
  let transferDestinations ← defaulted (readPlains 100) [] data "transfer_destinations"
  let failureAction ← defaulted (readPlain fun action => action = "disconnect" || action = "transfer") "disconnect" data
    "failure_action"
  let failureDestination ← defaulted (nullable (readPlain (lengthIn 0 128))) none data "failure_destination"
  ThreeCXRequest.validateFailurePolicy
    { connectionName, pbxUrl, appId, routePointDn, clientSecret, dids, transferDestinations, failureAction,
      failureDestination }

/-- `ThreeCXRequest` -/
def ThreeCXRequest.read (coercions : Coercions) (body : Json) : Option ThreeCXRequest :=
  readThreeCX coercions body

/-- `ThreeCXPayload` -/
def ThreeCXPayload.read (coercions : Coercions) (readUuid : String → Option Uuid) (payload : Json) :
    Option ThreeCXPayload := do
  let company ← required (readPlain fun _ => true) payload "company_id"
  let companyId ← readUuid company
  let fields ← readThreeCX coercions payload
  return { fields with companyId }

/-! ## The routes -/

/-- `{"company_id": company_id, **payload.model_dump()}` -/
def ThreeCXRequest.dump (companyId : String) (request : ThreeCXRequest) : Json :=
  .obj [("company_id", .str companyId), ("connection_name", .str request.connectionName),
    ("pbx_url", .str request.pbxUrl), ("app_id", .str request.appId), ("route_point_dn", .str request.routePointDn),
    ("client_secret", .str request.clientSecret), ("dids", .arr (request.dids.map .str)),
    ("transfer_destinations", .arr (request.transferDestinations.map .str)),
    ("failure_action", .str request.failureAction),
    ("failure_destination", request.failureDestination.elim .null .str)]

/-- What the broker does not decide itself. -/
structure ThreeCxBroker where
  coercions : Coercions
  /-- How pydantic reads a text as a UUID. -/
  readUuid : String → Option Uuid
  /-- The host of the PBX, when the probe succeeds. -/
  probePbx : (pbxUrl appId clientSecret : String) → Option String

/-- `threecx_save` -/
def threecxSave (broker : ThreeCxBroker) (now : Int) (payload : Json) (table : List StoredIntegration) :
    Option (StoredIntegration × List StoredIntegration) := do
  let request ← ThreeCXPayload.read broker.coercions broker.readUuid payload
  let host ← broker.probePbx request.pbxUrl request.appId request.clientSecret
  saveThreecxIntegration
    { companyId := request.companyId, connectionName := request.connectionName, pbxHostname := host,
      appId := request.appId, routePointDn := request.routePointDn, dids := request.dids,
      transferDestinations := request.transferDestinations, failureAction := request.failureAction,
      failureDestination := request.failureDestination } now table

/-- `put_3cx` for a company, with the request that its model has accepted. -/
def put3cx (broker : ThreeCxBroker) (now : Int) (companyId : String) (request : ThreeCXRequest)
    (table : List StoredIntegration) : Option (StoredIntegration × List StoredIntegration) :=
  threecxSave broker now (request.dump companyId) table

/-! ## What the models promise -/

/-- What holds of the fields after `validate_failure_policy`. -/
structure ThreeCXRequest.Accepted (request : ThreeCXRequest) : Prop where
  action : request.failureAction = "disconnect" ∨ request.failureAction = "transfer"
  destinations : stripped request.transferDestinations = request.transferDestinations
  routePoint : strip request.routePointDn = "" → request.routePointDn = "" ∧ strip request.appId = ""
  disconnect : request.failureAction = "disconnect" → request.failureDestination = none
  transfer : request.failureAction = "transfer" → ∃ destination, request.failureDestination = some destination ∧
    destination ≠ "" ∧ strip destination = destination ∧ destination ∈ request.transferDestinations

theorem mem_stripped {values : List String} {value : String} (h : value ∈ stripped values) :
    strip value = value ∧ value ≠ "" := by
  obtain ⟨hmem, hne⟩ := List.mem_filter.mp h
  obtain ⟨original, -, rfl⟩ := List.mem_map.mp hmem
  exact ⟨strip_strip original, of_decide_eq_true hne⟩

theorem stripped_eq_self {values : List String} (h : ∀ value ∈ values, strip value = value ∧ value ≠ "") :
    stripped values = values := by
  have hmap : values.map strip = values := (List.map_congr_left fun value hvalue => (h value hvalue).1).trans (List.map_id _)
  rw [stripped, hmap, List.filter_eq_self]
  exact fun value hvalue => decide_eq_true (h value hvalue).2

section Accepted

variable {coercions : Coercions} {fields request : ThreeCXRequest}

theorem readPlain_check {check : String → Bool} {value : Json} {text : String}
    (h : readPlain check value = some text) : check text = true := by
  unfold readPlain at h
  split at h
  · split at h
    · rename_i hcheck
      rwa [← Option.some.inj h]
    · cases h
  · cases h

/-- The validator leaves fields that keep its promises. -/
theorem accepted_of_validate (haction : fields.failureAction = "disconnect" ∨ fields.failureAction = "transfer")
    (h : fields.validateFailurePolicy = some request) : request.Accepted := by
  unfold ThreeCXRequest.validateFailurePolicy at h
  simp only at h
  split at h
  · cases h
  · rename_i htransfer
    split at h
    · cases h
    · rename_i hdisconnect
      obtain rfl := Option.some.inj h
      constructor
      case action => exact haction
      case destinations => exact stripped_eq_self fun value => mem_stripped
      case routePoint =>
        intro hblank
        dsimp only at hblank ⊢
        split at hblank
        · rename_i hmissing
          rw [strip_strip] at hblank
          rw [if_pos hmissing]
          exact ⟨hblank, hblank⟩
        · rename_i hgiven
          exact absurd (.inr hblank) hgiven
      case disconnect =>
        intro hdis
        by_contra hsome
        exact hdisconnect ⟨hdis, hsome⟩
      case transfer =>
        intro htra
        have happroved := not_and.mp htransfer htra
        simp only [Bool.not_eq_true', Bool.not_eq_false, Option.any_eq_true, Option.map_eq_some_iff] at happroved
        obtain ⟨destination, ⟨text, htext, rfl⟩, hmem⟩ := happroved
        simp only [Bool.and_eq_true, decide_eq_true_eq, List.contains_iff_mem] at hmem
        refine ⟨strip text, ?_, hmem.1, strip_strip text, hmem.2⟩
        simp only [htext, Option.map_some]

/-- What is read of the fields before `validate_failure_policy`, but for the connection's name, the URL and the secret. -/
structure Reads (data : Json) (fields : ThreeCXRequest) : Prop where
  appId : required (readPlain (lengthIn 1 255)) data "app_id" = some fields.appId
  routePointDn : defaulted (readPlain (lengthIn 0 128)) "" data "route_point_dn" = some fields.routePointDn
  dids : defaulted (readPlains 100) [] data "dids" = some fields.dids
  transferDestinations : defaulted (readPlains 100) [] data "transfer_destinations" = some fields.transferDestinations
  failureAction : defaulted (readPlain fun action => action = "disconnect" || action = "transfer") "disconnect" data
    "failure_action" = some fields.failureAction
  failureDestination : defaulted (nullable (readPlain (lengthIn 0 128))) none data "failure_destination" =
    some fields.failureDestination

theorem readThreeCX_eq_some {raw : Json} (h : readThreeCX coercions raw = some request) :
    ∃ fields, Reads (normalizeInput coercions raw) fields ∧ fields.validateFailurePolicy = some request := by
  unfold readThreeCX at h
  generalize normalizeInput coercions raw = data at h
  obtain ⟨connectionName, -, h⟩ := Option.bind_eq_some_iff.mp h
  obtain ⟨pbxUrl, -, h⟩ := Option.bind_eq_some_iff.mp h
  obtain ⟨appId, happ, h⟩ := Option.bind_eq_some_iff.mp h
  obtain ⟨routePointDn, hroute, h⟩ := Option.bind_eq_some_iff.mp h
  obtain ⟨clientSecret, -, h⟩ := Option.bind_eq_some_iff.mp h
  obtain ⟨dids, hdids, h⟩ := Option.bind_eq_some_iff.mp h
  obtain ⟨transferDestinations, htransfer, h⟩ := Option.bind_eq_some_iff.mp h
  obtain ⟨failureAction, haction, h⟩ := Option.bind_eq_some_iff.mp h
  obtain ⟨failureDestination, hdestination, h⟩ := Option.bind_eq_some_iff.mp h
  exact ⟨_, ⟨happ, hroute, hdids, htransfer, haction, hdestination⟩, h⟩

/-- What the API promises of a request that it accepts. -/
theorem ThreeCXRequest.accepted_of_read {body : Json} (h : ThreeCXRequest.read coercions body = some request) :
    request.Accepted := by
  obtain ⟨fields, hreads, hvalidate⟩ := readThreeCX_eq_some h
  apply accepted_of_validate _ hvalidate
  have haction := hreads.failureAction
  unfold defaulted at haction
  split at haction
  · exact .inl (Option.some.inj haction).symm
  · simpa using readPlain_check haction

end Accepted

/-! ## What is stored -/

section Stored

variable {coercions : Coercions} {request : ThreeCXRequest}

theorem mapM_readPlain (texts : List String) : (texts.map Json.str).mapM (readPlain fun _ => true) = some texts := by
  induction texts with
  | nil => rfl
  | cons text texts ih =>
      rw [List.map_cons, List.mapM_cons, ih]
      rfl

/-- What has been read as texts is the field's texts. -/
theorem readPlains_strs {maxLength : Nat} {texts values : List String}
    (h : readPlains maxLength (.arr (texts.map .str)) = some values) : values = texts := by
  rw [readPlains] at h
  split at h
  · rw [mapM_readPlain] at h
    exact (Option.some.inj h).symm
  · cases h

theorem readPlain_str {check : String → Bool} {text value : String}
    (h : readPlain check (.str text) = some value) : value = text := by
  rw [readPlain] at h
  split at h
  · exact (Option.some.inj h).symm
  · cases h

/-! Normalising leaves the members that it does not name. -/

theorem member?_setMember_ne {members : List (String × Json)} {key name : String} {value : Json} (hne : name ≠ key) :
    (Json.obj (Json.setMember key value members)).member? name = (Json.obj members).member? name := by
  rw [Json.member?_setMember, if_neg hne]

theorem member?_normalizePbxUrl (coercions : Coercions) {members : List (String × Json)} {name : String} (hne : name ≠ "pbx_url") :
    (Json.obj (normalizePbxUrl coercions members)).member? name = (Json.obj members).member? name := by
  unfold normalizePbxUrl
  dsimp only
  split
  · exact member?_setMember_ne hne
  · rfl

theorem member?_normalizeConnectionName (coercions : Coercions) {members : List (String × Json)} {name : String}
    (hne : name ≠ "connection_name") :
    (Json.obj (normalizeConnectionName coercions members)).member? name = (Json.obj members).member? name := by
  unfold normalizeConnectionName
  split
  · split
    · exact member?_setMember_ne hne
    · rfl
  · exact member?_setMember_ne hne

theorem member?_normalizeInput {members : List (String × Json)} {name : String} (hurl : name ≠ "pbx_url")
    (hname : name ≠ "connection_name") (haction : name ≠ "failure_action") :
    (normalizeInput coercions (.obj members)).member? name = (Json.obj members).member? name := by
  have hbefore : (Json.obj (normalizeConnectionName coercions (normalizePbxUrl coercions members))).member? name =
      (Json.obj members).member? name :=
    (member?_normalizeConnectionName coercions hname).trans (member?_normalizePbxUrl coercions hurl)
  rw [normalizeInput, normalizeFailureAction]
  split
  · exact hbefore
  · exact (member?_setMember_ne haction).trans hbefore

/-- A failure action that is given stays. -/
theorem member?_failureAction {members : List (String × Json)} {action : Json} (htruthy : action.truthy = true)
    (haction : (Json.obj members).member? "failure_action" = some action) :
    (normalizeInput coercions (.obj members)).member? "failure_action" = some action := by
  have hbefore := (member?_normalizeConnectionName coercions (by decide)).trans
    ((member?_normalizePbxUrl coercions (by decide)).trans haction)
  have hgiven : (((Json.obj (normalizeConnectionName coercions (normalizePbxUrl coercions members))).member?
      "failure_action").filter Json.truthy).isSome := by
    rw [hbefore, Option.filter_some_pos htruthy]
    rfl
  rw [normalizeInput, normalizeFailureAction, if_pos hgiven]
  exact hbefore

theorem defaulted_of_member {T : Type} {read : Json → Option T} {default : T} {raw value : Json} {name : String}
    (h : raw.member? name = some value) : defaulted read default raw name = read value := by
  rw [defaulted, h]

/-- The broker has the fields of the request that the API has accepted. -/
structure ThreeCXRequest.SentAs (request fields : ThreeCXRequest) : Prop where
  appId : fields.appId = request.appId
  routePointDn : fields.routePointDn = request.routePointDn
  dids : fields.dids = request.dids
  transferDestinations : fields.transferDestinations = request.transferDestinations
  failureAction : fields.failureAction = request.failureAction
  failureDestination : fields.failureDestination = request.failureDestination
  routePointDn_length : request.routePointDn.length ≤ 128
  failureDestination_length : ∀ destination, request.failureDestination = some destination → destination.length ≤ 128

/-- What the broker reads of a request before `validate_failure_policy`. -/
theorem sentAs_of_reads {companyId : String} {fields : ThreeCXRequest} (haccepted : request.Accepted)
    (h : Reads (normalizeInput coercions (request.dump companyId)) fields) : request.SentAs fields := by
  have hkept : ∀ {name : String} {value : Json}, name ≠ "pbx_url" → name ≠ "connection_name" →
      name ≠ "failure_action" → (request.dump companyId).member? name = some value →
      (normalizeInput coercions (request.dump companyId)).member? name = some value := by
    intro name value hurl hname haction hmember
    rw [ThreeCXRequest.dump, member?_normalizeInput hurl hname haction]
    exact hmember
  have happ := h.appId
  have hroute := h.routePointDn
  have hdids := h.dids
  have htransfer := h.transferDestinations
  have hdestination := h.failureDestination
  rw [required, hkept (by decide) (by decide) (by decide) rfl] at happ
  rw [defaulted_of_member (hkept (by decide) (by decide) (by decide) rfl)] at hroute hdids htransfer hdestination
  constructor
  case appId => exact readPlain_str happ
  case routePointDn => exact readPlain_str hroute
  case dids => exact readPlains_strs hdids
  case transferDestinations => exact readPlains_strs htransfer
  case failureAction =>
    have haction := h.failureAction
    have htruthy : (Json.str request.failureAction).truthy = true := by
      rcases haccepted.action with hdisconnect | htransfer
      · rw [hdisconnect]
        decide
      · rw [htransfer]
        decide
    rw [ThreeCXRequest.dump, defaulted_of_member (member?_failureAction htruthy rfl)] at haction
    exact readPlain_str haction
  case failureDestination =>
    cases hgiven : request.failureDestination with
    | none =>
        rw [hgiven] at hdestination
        exact (Option.some.inj hdestination).symm
    | some destination =>
        rw [hgiven] at hdestination
        obtain ⟨read, hread, hsome⟩ := Option.map_eq_some_iff.mp hdestination
        rw [← hsome, readPlain_str hread]
  case routePointDn_length =>
    have hbound := readPlain_check hroute
    rw [readPlain_str hroute, lengthIn_zero] at hbound
    exact of_decide_eq_true hbound
  case failureDestination_length =>
    intro destination hgiven
    rw [hgiven] at hdestination
    obtain ⟨read, hread, -⟩ := Option.map_eq_some_iff.mp hdestination
    have hbound := readPlain_check hread
    rw [readPlain_str hread, lengthIn_zero] at hbound
    exact of_decide_eq_true hbound

/-- Validating again what has been accepted changes nothing. -/
theorem sentAs_of_validate {fields validated : ThreeCXRequest} (haccepted : request.Accepted)
    (hsent : request.SentAs fields) (h : fields.validateFailurePolicy = some validated) : request.SentAs validated := by
  unfold ThreeCXRequest.validateFailurePolicy at h
  simp only at h
  split at h
  · cases h
  split at h
  · cases h
  obtain rfl := Option.some.inj h
  constructor
  case appId => exact hsent.appId
  case dids => exact hsent.dids
  case failureAction => exact hsent.failureAction
  case routePointDn_length => exact hsent.routePointDn_length
  case failureDestination_length => exact hsent.failureDestination_length
  case routePointDn =>
    dsimp only
    rw [hsent.routePointDn, hsent.appId]
    split
    · -- a route point is blank only where the app id is
      rename_i hmissing
      have hblank : strip request.routePointDn = "" := by
        rcases hmissing with hempty | hblank
        · rw [hempty]
          rfl
        · exact hblank
      obtain ⟨hempty, happBlank⟩ := haccepted.routePoint hblank
      rw [hempty, happBlank]
    · rfl
  case transferDestinations =>
    dsimp only
    rw [hsent.transferDestinations, haccepted.destinations]
  case failureDestination =>
    dsimp only
    rw [hsent.failureDestination]
    rcases haccepted.action with hdis | htra
    · rw [haccepted.disconnect hdis]
      rfl
    · obtain ⟨destination, hsome, hne, hstrip, -⟩ := haccepted.transfer htra
      simp [hsome, hne, hstrip]

/-- The stored row has the fields of the request. -/
structure ThreeCXRequest.StoredAs (request : ThreeCXRequest) (row : StoredIntegration) : Prop where
  routePointDn : row.routePointDn = request.routePointDn
  dids : row.dids = request.dids
  transferDestinations : row.transferDestinations = request.transferDestinations
  failureAction : row.failureAction = some request.failureAction
  failureDestination : row.failureDestination = request.failureDestination
  state : row.state = .active

/-- The policy of the repository admits what the models have accepted, as it is. -/
theorem failurePolicy_accepted (haccepted : request.Accepted) :
    failurePolicy request.failureAction request.failureDestination (stripped request.transferDestinations) =
      some request.failureDestination := by
  rcases haccepted.action with hdis | htra
  · rw [hdis, haccepted.disconnect hdis]
    rfl
  · obtain ⟨destination, hsome, hne, hstrip, hmem⟩ := haccepted.transfer htra
    rw [htra, hsome, haccepted.destinations]
    simp [failurePolicy, hne, hstrip, hmem]

/-- What `put_3cx` stores are the fields that the API has accepted, as an active integration. -/
theorem put3cx_stored {broker : ThreeCxBroker} {now : Int} {companyId : String} {table table' : List StoredIntegration}
    {row : StoredIntegration} (haccepted : request.Accepted)
    (h : put3cx broker now companyId request table = some (row, table')) :
    request.StoredAs row ∧ row ∈ table' := by
  obtain ⟨payload, hpayload, h⟩ := Option.bind_eq_some_iff.mp h
  obtain ⟨host, -, hsaved⟩ := Option.bind_eq_some_iff.mp h
  obtain ⟨hrow, hmem⟩ := saveThreecxIntegration_eq_some hsaved
  refine ⟨?_, hmem⟩
  simp only [ThreeCXPayload.read, Option.bind_eq_bind, Option.bind_eq_some_iff, Option.pure_def] at hpayload
  obtain ⟨company, -, companyUuid, -, validated, hread, hpayload⟩ := hpayload
  obtain rfl := Option.some.inj hpayload
  obtain ⟨fields, hreads, hvalidate⟩ := readThreeCX_eq_some hread
  have hsent := sentAs_of_validate haccepted (sentAs_of_reads haccepted hreads) hvalidate
  have hpolicy := failurePolicy_accepted haccepted
  have hroute : validated.routePointDn.length ≤ 128 := by
    rw [hsent.routePointDn]
    exact hsent.routePointDn_length
  have haction : validated.failureAction.length ≤ 16 := by
    rw [hsent.failureAction]
    rcases haccepted.action with hdis | htra
    · rw [hdis]
      decide
    · rw [htra]
      decide
  obtain ⟨hrowRoute, hrowDids, hrowTransfer, hrowAction, hrowState, hrowPolicy⟩ :=
    IntegrationInput.row_eq_some hroute haction (by
      intro destination hsome
      dsimp only at hsome
      rw [hsent.failureAction, hsent.failureDestination, hsent.transferDestinations, hpolicy] at hsome
      exact hsent.failureDestination_length destination (Option.some.inj hsome)) hrow
  dsimp only at hrowPolicy
  rw [hsent.failureAction, hsent.failureDestination, hsent.transferDestinations, hpolicy] at hrowPolicy
  constructor
  case routePointDn => rw [hrowRoute, hsent.routePointDn]
  case dids => rw [hrowDids, hsent.dids]
  case transferDestinations => rw [hrowTransfer, hsent.transferDestinations, haccepted.destinations]
  case failureAction => rw [hrowAction, hsent.failureAction]
  case failureDestination => exact (Option.some.inj hrowPolicy).symm
  case state => exact hrowState

end Stored

end Backend
end VoiceAssistants
