import VoiceAssistants.Python.Coercions
import Mathlib.Algebra.Order.Group.Abs

/-!
# Signed session contexts

The backend issues and verifies the identity of a session (`backend/app/auth_context.py`), and the agent verifies it once
more when a job starts and sends it back with every tool call (`agent/session_context.py`).  The signature is over a JSON
text with sorted keys.

* `signed_context_agrees` — what is issued is accepted on both sides with the same identity, what the agent accepts is
  accepted by the backend, and a signature is for one identity.
* `call_authorised_iff` — the agent sends the context of the job's start for as long as the call lasts, so the backend
  accepts it only until the context is too old.

The keyed hash is over the text's UTF-8, which is not told apart from the text.  `zoneInfo` says which names
`ZoneInfo(name)` takes.
-/

namespace VoiceAssistants
namespace SessionContext

open Python

/-- `InternalSessionContext` -/
structure InternalSessionContext where
  sessionId : String
  companyId : String
  authSubject : String
  profileVersion : Option Int
  timezone : Option String
  deriving DecidableEq, Repr

/-- `VerifiedSessionContext` of the agent. -/
structure VerifiedSessionContext extends InternalSessionContext where
  issuedAt : Int
  signature : String
  deriving DecidableEq, Repr

/-- What both services are configured with: the secret, and `int(LIVEKIT_SESSION_CONTEXT_MAX_AGE_SECONDS)` unless that is
a `ValueError`. -/
structure Settings where
  secret : String
  maxAge : Option Int
  hmac : (secret : String) → (message : List Char) → String
  /-- A `hexdigest()` is not empty. -/
  hmac_ne : ∀ secret message, hmac secret message ≠ ""
  coercions : Coercions
  zoneInfo : String → Bool

/-- A header or the metadata of a job, or a mapping that has been decoded before. -/
inductive Raw
  | text (text : List Char)
  | mapping (members : List (String × Json))

/-- `MAX_SESSION_CONTEXT_AGE_SECONDS` -/
def maxSessionContextAgeSeconds : Int := 15 * 60

/-- A blank text, of which `strip` leaves nothing. -/
def isBlank (text : String) : Bool :=
  strip text = ""

/-! ## The message -/

def optionalMember (name : String) (value : Option Json) : List (String × Json) :=
  (value.map fun value => (name, value)).toList

/-- `payload` of `_message` -/
def messageMembers (sessionId companyId authSubject : String) (issuedAt : Int) (profileVersion : Option Int)
    (timezone : Option String) : List (String × Json) :=
  [("auth_subject", .str authSubject), ("company_id", .str companyId), ("issued_at", .int issuedAt),
    ("session_id", .str sessionId)] ++
    optionalMember "profile_version" (profileVersion.map .int) ++ optionalMember "timezone" (timezone.map .str)

/-- `_message` of the backend. -/
def message (sessionId companyId authSubject : String) (issuedAt : Int) (profileVersion : Option Int)
    (timezone : Option String) : List Char :=
  (Json.sortKeys (.obj (messageMembers sessionId companyId authSubject issuedAt profileVersion timezone))).dumps

/-- `_signed_context_message` of the agent. -/
def signedContextMessage (sessionId companyId authSubject : String) (issuedAt : Int) (profileVersion : Option Int)
    (timezone : Option String) : List Char :=
  (Json.sortKeys (.obj ([("auth_subject", .str authSubject), ("company_id", .str companyId), ("issued_at", .int issuedAt),
    ("session_id", .str sessionId)] ++
    optionalMember "profile_version" (profileVersion.map .int) ++ optionalMember "timezone" (timezone.map .str)))).dumps

/-- The members of a signed context, as both services write them. -/
def signedMembers (context : InternalSessionContext) (issuedAt : Int) (signature : String) : List (String × Json) :=
  [("session_id", .str context.sessionId), ("company_id", .str context.companyId),
    ("auth_subject", .str context.authSubject), ("issued_at", .int issuedAt), ("signature", .str signature)] ++
    optionalMember "profile_version" (context.profileVersion.map .int) ++
    optionalMember "timezone" (context.timezone.map .str)

/-- `signed_metadata` -/
def VerifiedSessionContext.signedMetadata (context : VerifiedSessionContext) : List Char :=
  (Json.obj (signedMembers context.toInternalSessionContext context.issuedAt context.signature)).dumps

namespace Settings

variable (settings : Settings)

/-- `json.loads(raw) if isinstance(raw, str) else dict(raw)` -/
def payload : Raw → Except Raised Json
  | .text text => settings.coercions.loads text
  | .mapping members => .ok (.obj members)

/-- `profile_version`, if it is there. -/
def readVersion (payload : Json) : Except Raised (Option Int) := do
  match notNone (← getMember payload "profile_version") with
  | some value => return some (← settings.coercions.int value)
  | none => return none

/-- `timezone`, if it is there; `ZoneInfoNotFoundError` is a `KeyError`. -/
def readTimezone (payload : Json) : Except Raised (Option String) := do
  match notNone (← getMember payload "timezone") with
  | some value =>
      let name := settings.coercions.str value
      if settings.zoneInfo name then return some name else throw .keyError
  | none => return none

/-! ## The backend -/

/-- The fields that `verify_session_context` reads. -/
def readHeader (payload : Json) : Except Raised VerifiedSessionContext := do
  let sessionId := settings.coercions.str (← item payload "session_id")
  let companyId := settings.coercions.str (← item payload "company_id")
  let authSubject := settings.coercions.str (← item payload "auth_subject")
  let issuedAt ← settings.coercions.int (← item payload "issued_at")
  let signature := settings.coercions.str (← item payload "signature")
  let profileVersion ← settings.readVersion payload
  let timezone ← settings.readTimezone payload
  return { sessionId, companyId, authSubject, profileVersion, timezone, issuedAt, signature }

/-- `expected` -/
def sign (message : List Char) : String :=
  settings.hmac settings.secret message

section Clock

variable {K : Type} [Ring K] [LinearOrder K] (now : K)

/-- The checks of `verify_session_context`. -/
def checkHeader (context : VerifiedSessionContext) : Except Raised (Option InternalSessionContext) :=
  match settings.maxAge with
  | none => .error .valueError
  | some maxAge =>
      if maxAge ≤ 0 ∨ maxAge > maxSessionContextAgeSeconds ∨ context.sessionId = "" ∨ context.companyId = "" ∨
          context.authSubject = "" ∨ |now - context.issuedAt| > maxAge then .ok none
      else if context.signature ≠ settings.sign (message context.sessionId context.companyId context.authSubject
          context.issuedAt context.profileVersion context.timezone) then .ok none
      else .ok (some context.toInternalSessionContext)

/-- The handler of `verify_session_context`. -/
def failClosed : Except Raised (Option InternalSessionContext) → Except Raised (Option InternalSessionContext)
  | .error .keyError | .error .typeError | .error .valueError => .ok none
  | result => result

/-- `verify_session_context` -/
def verifySessionContext (raw : Option Raw) : Except Raised (Option InternalSessionContext) :=
  match raw with
  | none => .ok none
  | some raw =>
      if settings.secret = "" then .ok none
      else failClosed (settings.payload raw >>= settings.readHeader >>= settings.checkHeader now)

/-- `issue_session_context`; `none` is the `ValueError`. -/
def issueSessionContext [FloorRing K] (context : InternalSessionContext) (profileVersion : Option Int)
    (timezoneName : Option String) : Option (List Char) :=
  let timezone := timezoneName.orElse fun _ => context.timezone
  if settings.secret = "" then none
  else if timezone.all settings.zoneInfo then
    let issuedAt := truncate now
    let signature := settings.sign (message context.sessionId context.companyId context.authSubject issuedAt
      profileVersion timezone)
    some (Json.obj (signedMembers { context with profileVersion, timezone } issuedAt signature)).dumps
  else none

/-! ## The agent -/

/-- `str(payload.get(name, ""))` -/
def readText (payload : Json) (name : String) : Except Raised String := do
  return ((← getMember payload name).map settings.coercions.str).getD ""

/-- The fields that `load_verified_session_context` reads. -/
def readMetadata (payload : Json) : Except Raised VerifiedSessionContext := do
  let sessionId ← settings.readText payload "session_id"
  let companyId ← settings.readText payload "company_id"
  let authSubject ← settings.readText payload "auth_subject"
  let issuedAt ← match ← getMember payload "issued_at" with
    | some value => settings.coercions.int value
    | none => .ok 0
  let signature ← settings.readText payload "signature"
  let profileVersion ← settings.readVersion payload
  let timezone ← settings.readTimezone payload
  return { sessionId, companyId, authSubject, profileVersion, timezone, issuedAt, signature }

/-- `effective_max_age` -/
def effectiveMaxAge : Int :=
  match settings.maxAge with
  | some age => if 0 < age ∧ age ≤ maxSessionContextAgeSeconds then age else 0
  | none => 0

/-- `VerifiedSessionContext.__post_init__` -/
def postInit (context : VerifiedSessionContext) : Option VerifiedSessionContext :=
  if isBlank context.sessionId ∨ isBlank context.companyId ∨ isBlank context.authSubject then none
  else if context.timezone.all settings.zoneInfo then some context
  else none

/-- The checks of `load_verified_session_context`. -/
def checkMetadata (context : VerifiedSessionContext) : Option VerifiedSessionContext :=
  if isBlank context.sessionId ∨ isBlank context.companyId ∨ isBlank context.authSubject ∨ context.signature = "" then none
  else if |now - context.issuedAt| > settings.effectiveMaxAge then none
  else if context.signature ≠ settings.sign (signedContextMessage context.sessionId context.companyId context.authSubject
      context.issuedAt context.profileVersion context.timezone) then none
  else settings.postInit context

/-- `load_verified_session_context`; every exception is caught. -/
def loadVerifiedSessionContext (metadata : Option Raw) : Option VerifiedSessionContext :=
  match metadata with
  | none => none
  | some metadata =>
      if settings.secret = "" ∨ settings.effectiveMaxAge ≤ 0 ∨ settings.effectiveMaxAge > maxSessionContextAgeSeconds then
        none
      else
        match settings.payload metadata >>= settings.readMetadata with
        | .error _ => none
        | .ok context => settings.checkMetadata now context

end Clock

end Settings

/-! ## What is written is read back -/

section Reading

variable {settings : Settings} {context : InternalSessionContext} {issuedAt : Int} {signature : String}

theorem canonical_signedMembers (floats : Json.Floats) (context : InternalSessionContext) (issuedAt : Int)
    (signature : String) : Json.Canonical floats (.obj (signedMembers context issuedAt signature)) := by
  obtain ⟨sessionId, companyId, authSubject, profileVersion, timezone⟩ := context
  cases profileVersion <;> cases timezone <;>
    simp [signedMembers, optionalMember, Json.Canonical, Json.CanonicalMembers]

theorem canonical_messageMembers (floats : Json.Floats) (sessionId companyId authSubject : String) (issuedAt : Int)
    (profileVersion : Option Int) (timezone : Option String) : Json.Canonical floats
      (.obj (messageMembers sessionId companyId authSubject issuedAt profileVersion timezone)) := by
  cases profileVersion <;> cases timezone <;>
    simp [messageMembers, optionalMember, Json.Canonical, Json.CanonicalMembers]

/-- What the names of a signed context are looked up as. -/
theorem member?_signedMembers (context : InternalSessionContext) (issuedAt : Int) (signature : String) :
    let payload := Json.obj (signedMembers context issuedAt signature)
    payload.member? "session_id" = some (.str context.sessionId) ∧
      payload.member? "company_id" = some (.str context.companyId) ∧
      payload.member? "auth_subject" = some (.str context.authSubject) ∧
      payload.member? "issued_at" = some (.int issuedAt) ∧ payload.member? "signature" = some (.str signature) ∧
      payload.member? "profile_version" = context.profileVersion.map .int ∧
      payload.member? "timezone" = context.timezone.map .str := by
  obtain ⟨sessionId, companyId, authSubject, profileVersion, timezone⟩ := context
  cases profileVersion <;> cases timezone <;> simp [signedMembers, optionalMember, Json.member?]

theorem readVersion_of_member {members : List (String × Json)} {version : Option Int}
    (h : (Json.obj members).member? "profile_version" = version.map .int) :
    settings.readVersion (.obj members) = .ok version := by
  unfold Settings.readVersion
  simp only [getMember, h]
  cases version <;> rfl

theorem readTimezone_of_member {members : List (String × Json)} {timezone : Option String}
    (h : (Json.obj members).member? "timezone" = timezone.map .str) (hzone : timezone.all settings.zoneInfo = true) :
    settings.readTimezone (.obj members) = .ok timezone := by
  unfold Settings.readTimezone
  simp only [getMember, h]
  cases timezone with
  | none => rfl
  | some name =>
      have hname : settings.zoneInfo name = true := hzone
      simp [notNone, Coercions.str, hname, bind, Except.bind, pure, Except.pure]

/-- Both sides read the context that was written. -/
theorem read_signedMembers (issuedAt : Int) (signature : String) (hzone : context.timezone.all settings.zoneInfo = true) :
    settings.readHeader (.obj (signedMembers context issuedAt signature)) = .ok { context with issuedAt, signature } ∧
      settings.readMetadata (.obj (signedMembers context issuedAt signature)) =
        .ok { context with issuedAt, signature } := by
  obtain ⟨hsession, hcompany, hsubject, hissued, hsignature, hversion, htimezone⟩ :=
    member?_signedMembers context issuedAt signature
  constructor
  · simp only [Settings.readHeader, item, hsession, hcompany, hsubject, hissued, hsignature,
      readVersion_of_member hversion, readTimezone_of_member htimezone hzone, bind, Except.bind, pure, Except.pure,
      Coercions.str, Coercions.int]
  · simp only [Settings.readMetadata, Settings.readText, getMember, hsession, hcompany, hsubject, hissued, hsignature,
      readVersion_of_member hversion, readTimezone_of_member htimezone hzone, bind, Except.bind, pure, Except.pure,
      Coercions.str, Coercions.int, Option.map_some, Option.getD_some]

end Reading

/-! ## A message is for one identity -/

section Message

variable {first second : InternalSessionContext} {issuedAt issuedAt' : Int}

/-- The message of an identity. -/
def InternalSessionContext.message (context : InternalSessionContext) (issuedAt : Int) : List Char :=
  SessionContext.message context.sessionId context.companyId context.authSubject issuedAt context.profileVersion
    context.timezone

theorem member?_messageMembers (sessionId companyId authSubject : String) (issuedAt : Int) (profileVersion : Option Int)
    (timezone : Option String) :
    let payload := Json.obj (messageMembers sessionId companyId authSubject issuedAt profileVersion timezone)
    payload.member? "session_id" = some (.str sessionId) ∧ payload.member? "company_id" = some (.str companyId) ∧
      payload.member? "auth_subject" = some (.str authSubject) ∧ payload.member? "issued_at" = some (.int issuedAt) ∧
      payload.member? "profile_version" = profileVersion.map .int ∧
      payload.member? "timezone" = timezone.map .str := by
  cases profileVersion <;> cases timezone <;> simp [messageMembers, optionalMember, Json.member?]

/-- Different identities, or times of issue, have different messages. -/
theorem message_injective (h : first.message issuedAt = second.message issuedAt') :
    first = second ∧ issuedAt = issuedAt' := by
  obtain ⟨sessionId, companyId, authSubject, profileVersion, timezone⟩ := first
  obtain ⟨sessionId', companyId', authSubject', profileVersion', timezone'⟩ := second
  have hlookup := Json.member?_of_sorted (canonical_messageMembers default sessionId companyId authSubject issuedAt
    profileVersion timezone) (canonical_messageMembers default sessionId' companyId' authSubject' issuedAt' profileVersion'
    timezone') h
  obtain ⟨hsession, hcompany, hsubject, hissued, hversion, htimezone⟩ :=
    member?_messageMembers sessionId companyId authSubject issuedAt profileVersion timezone
  obtain ⟨hsession', hcompany', hsubject', hissued', hversion', htimezone'⟩ :=
    member?_messageMembers sessionId' companyId' authSubject' issuedAt' profileVersion' timezone'
  have hsessions := hlookup "session_id"
  have hcompanies := hlookup "company_id"
  have hsubjects := hlookup "auth_subject"
  have hissues := hlookup "issued_at"
  have hversions := hlookup "profile_version"
  have htimezones := hlookup "timezone"
  rw [hsession, hsession'] at hsessions
  rw [hcompany, hcompany'] at hcompanies
  rw [hsubject, hsubject'] at hsubjects
  rw [hissued, hissued'] at hissues
  rw [hversion, hversion'] at hversions
  rw [htimezone, htimezone'] at htimezones
  simp only [Option.map_some, Json.sortKeys, Option.some.injEq, Json.str.injEq, Json.int.injEq]
    at hsessions hcompanies hsubjects hissues
  have hversion : profileVersion = profileVersion' := by
    cases profileVersion <;> cases profileVersion' <;> simp_all [Json.sortKeys]
  have htimezone : timezone = timezone' := by
    cases timezone <;> cases timezone' <;> simp_all [Json.sortKeys]
  subst hsessions hcompanies hsubjects hissues hversion htimezone
  exact ⟨rfl, rfl⟩

end Message

/-! ## Acceptance -/

section Acceptance

variable {settings : Settings} {K : Type} [Ring K] [LinearOrder K] {now : K}

/-- A context that was signed with the secret. -/
def Settings.Signed (settings : Settings) (context : VerifiedSessionContext) : Prop :=
  context.signature = settings.sign (context.toInternalSessionContext.message context.issuedAt)

/-- The context that is issued for an identity. -/
def Settings.issued (settings : Settings) (context : InternalSessionContext) (issuedAt : Int) : VerifiedSessionContext :=
  { context with issuedAt, signature := settings.sign (context.message issuedAt) }

theorem signed_issued (settings : Settings) (context : InternalSessionContext) (issuedAt : Int) :
    settings.Signed (settings.issued context issuedAt) := rfl

theorem signature_issued_ne (settings : Settings) (context : InternalSessionContext) (issuedAt : Int) :
    (settings.issued context issuedAt).signature ≠ "" :=
  settings.hmac_ne settings.secret (context.message issuedAt)

theorem issueSessionContext_eq [FloorRing K] {context : InternalSessionContext} {profileVersion : Option Int}
    {timezoneName timezone : Option String} (hsecret : settings.secret ≠ "")
    (htimezone : timezone = timezoneName.orElse fun _ => context.timezone)
    (hzone : timezone.all settings.zoneInfo = true) :
    settings.issueSessionContext now context profileVersion timezoneName =
      some (settings.issued { context with profileVersion, timezone } (truncate now)).signedMetadata := by
  unfold Settings.issueSessionContext
  rw [← htimezone]
  simp only [hsecret, hzone, if_false, if_true]
  rfl

/-- The configured age is one that the services admit. -/
def Settings.Admits (settings : Settings) (maxAge : Int) : Prop :=
  settings.maxAge = some maxAge ∧ 0 < maxAge ∧ maxAge ≤ maxSessionContextAgeSeconds

/-- The backend accepts a context exactly if it is not too old and has the signature of its message. -/
theorem verify_signedMembers {maxAge : Int} {raw : Raw} (context : VerifiedSessionContext)
    (hpayload : settings.payload raw =
      .ok (.obj (signedMembers context.toInternalSessionContext context.issuedAt context.signature)))
    (hsecret : settings.secret ≠ "") (hage : settings.Admits maxAge) (hsession : context.sessionId ≠ "")
    (hcompany : context.companyId ≠ "") (hsubject : context.authSubject ≠ "")
    (hzone : context.timezone.all settings.zoneInfo = true) :
    settings.verifySessionContext now (some raw) =
      if |now - context.issuedAt| > maxAge ∨
          context.signature ≠ settings.sign (context.toInternalSessionContext.message context.issuedAt) then .ok none
      else .ok (some context.toInternalSessionContext) := by
  obtain ⟨hconfigured, hpositive, hbounded⟩ := hage
  have hnonpositive : ¬ maxAge ≤ 0 := by omega
  have hover : ¬ maxAge > maxSessionContextAgeSeconds := by omega
  have hread := (read_signedMembers context.issuedAt context.signature hzone).1
  unfold Settings.verifySessionContext
  simp only [hsecret, if_false, hpayload, bind, Except.bind, hread]
  unfold Settings.checkHeader InternalSessionContext.message
  simp only [hconfigured, hnonpositive, hover, hsession, hcompany, hsubject, false_or]
  by_cases hold : |now - (context.issuedAt : K)| > (maxAge : K)
  · rw [if_pos hold, if_pos (.inl hold)]
    rfl
  · rw [if_neg hold]
    by_cases hsignature : context.signature = settings.sign (message context.sessionId context.companyId
        context.authSubject context.issuedAt context.profileVersion context.timezone)
    · rw [if_neg (not_not.mpr hsignature), if_neg (not_or.mpr ⟨hold, not_not.mpr hsignature⟩)]
      rfl
    · rw [if_pos hsignature, if_pos (.inr hsignature)]
      rfl

/-- The backend accepts a signed context exactly while it is not too old. -/
theorem verify_signedMetadata {maxAge : Int} (context : VerifiedSessionContext) (hsecret : settings.secret ≠ "")
    (hage : settings.Admits maxAge) (hsession : context.sessionId ≠ "") (hcompany : context.companyId ≠ "")
    (hsubject : context.authSubject ≠ "") (hzone : context.timezone.all settings.zoneInfo = true)
    (hsigned : settings.Signed context) :
    settings.verifySessionContext now (some (.text context.signedMetadata)) =
      if |now - context.issuedAt| > maxAge then .ok none else .ok (some context.toInternalSessionContext) := by
  have hpayload : settings.payload (.text context.signedMetadata) = .ok (.obj (signedMembers
      context.toInternalSessionContext context.issuedAt context.signature)) :=
    settings.coercions.loads_dumps (canonical_signedMembers _ _ _ _)
  have hsame : context.signature = settings.sign (context.toInternalSessionContext.message context.issuedAt) := hsigned
  rw [verify_signedMembers context hpayload hsecret hage hsession hcompany hsubject hzone]
  by_cases hold : |now - (context.issuedAt : K)| > (maxAge : K)
  · rw [if_pos hold, if_pos (.inl hold)]
  · rw [if_neg hold, if_neg (not_or.mpr ⟨hold, not_not.mpr hsame⟩)]

theorem ne_empty_of_not_blank {text : String} (h : isBlank text = false) : text ≠ "" := by
  rintro rfl
  cases h

/-- What the agent has checked of a context that it accepts. -/
theorem load_eq_some {metadata : Option Raw} {context : VerifiedSessionContext}
    (h : settings.loadVerifiedSessionContext now metadata = some context) :
    settings.secret ≠ "" ∧ (∃ maxAge, settings.Admits maxAge ∧ |now - context.issuedAt| ≤ maxAge) ∧
      (isBlank context.sessionId = false ∧ isBlank context.companyId = false ∧ isBlank context.authSubject = false) ∧
      context.timezone.all settings.zoneInfo = true ∧ settings.Signed context := by
  unfold Settings.loadVerifiedSessionContext at h
  cases metadata with
  | none => cases h
  | some metadata =>
      dsimp only at h
      split at h
      · cases h
      · rename_i hconfigured
        rw [not_or, not_or] at hconfigured
        obtain ⟨hsecret, hpositive, -⟩ := hconfigured
        split at h
        · cases h
        · rename_i read hread
          unfold Settings.checkMetadata at h
          split at h
          · cases h
          · split at h
            · cases h
            · rename_i hage
              split at h
              · cases h
              · rename_i hsignature
                unfold Settings.postInit at h
                split at h
                · cases h
                · rename_i hblank
                  rw [not_or, not_or] at hblank
                  split at h
                  · rename_i hzone
                    obtain rfl := Option.some.inj h
                    refine ⟨hsecret, ?_, ?_, hzone, not_not.mp hsignature⟩
                    · -- an effective age that is positive is the configured one
                      unfold Settings.effectiveMaxAge at hpositive hage
                      cases hmax : settings.maxAge with
                      | none => simp [hmax] at hpositive
                      | some maxAge =>
                          simp only [hmax] at hpositive hage
                          split at hpositive
                          · rename_i hadmitted
                            rw [if_pos hadmitted] at hage
                            exact ⟨maxAge, ⟨hmax, hadmitted.1, hadmitted.2⟩, not_lt.mp hage⟩
                          · exact absurd (le_refl 0) hpositive
                    · simpa using hblank
                  · cases h

/-- The agent accepts a signed context that is not too old. -/
theorem load_signedMetadata {maxAge : Int} (context : VerifiedSessionContext) (hsecret : settings.secret ≠ "")
    (hage : settings.Admits maxAge) (hsession : isBlank context.sessionId = false)
    (hcompany : isBlank context.companyId = false) (hsubject : isBlank context.authSubject = false)
    (hsignature : context.signature ≠ "") (hzone : context.timezone.all settings.zoneInfo = true)
    (hsigned : settings.Signed context) (hfresh : |now - context.issuedAt| ≤ maxAge) :
    settings.loadVerifiedSessionContext now (some (.text context.signedMetadata)) = some context := by
  obtain ⟨hconfigured, hpositive, hbounded⟩ := hage
  have heffective : settings.effectiveMaxAge = maxAge := by
    simp only [Settings.effectiveMaxAge, hconfigured, hpositive, hbounded, and_self, if_true]
  have hnonpositive : ¬ maxAge ≤ 0 := by omega
  have hover : ¬ maxAge > maxSessionContextAgeSeconds := by omega
  have hloads : settings.payload (.text context.signedMetadata) = .ok (.obj (signedMembers
      context.toInternalSessionContext context.issuedAt context.signature)) :=
    settings.coercions.loads_dumps (canonical_signedMembers _ _ _ _)
  have hread := (read_signedMembers context.issuedAt context.signature hzone).2
  have hsame : context.signature = settings.sign (signedContextMessage context.sessionId context.companyId
      context.authSubject context.issuedAt context.profileVersion context.timezone) := hsigned
  have hnotOld : ¬ |now - (context.issuedAt : K)| > (maxAge : K) := not_lt.mpr hfresh
  unfold Settings.loadVerifiedSessionContext
  simp only [hsecret, heffective, hnonpositive, hover, false_or, if_false, hloads, bind, Except.bind, hread]
  unfold Settings.checkMetadata Settings.postInit
  simp only [hsession, hcompany, hsubject, hsignature, heffective, hnotOld, ← hsame, hzone, Bool.false_eq_true, false_or,
    ne_eq, not_true_eq_false, if_false, if_true]

/-- A context that is issued is accepted on both sides until it is too old. -/
theorem issued_accepted {maxAge issuedAt : Int} (context : InternalSessionContext) (hsecret : settings.secret ≠ "")
    (hage : settings.Admits maxAge) (hsession : isBlank context.sessionId = false)
    (hcompany : isBlank context.companyId = false) (hsubject : isBlank context.authSubject = false)
    (hzone : context.timezone.all settings.zoneInfo = true) (hfresh : |now - issuedAt| ≤ maxAge) :
    settings.verifySessionContext now (some (.text (settings.issued context issuedAt).signedMetadata)) =
        .ok (some context) ∧
      settings.loadVerifiedSessionContext now (some (.text (settings.issued context issuedAt).signedMetadata)) =
        some (settings.issued context issuedAt) := by
  have hsigned := signed_issued settings context issuedAt
  have hsignature := signature_issued_ne settings context issuedAt
  constructor
  · apply (verify_signedMetadata (settings.issued context issuedAt) hsecret hage (ne_empty_of_not_blank hsession)
      (ne_empty_of_not_blank hcompany) (ne_empty_of_not_blank hsubject) hzone hsigned).trans
    exact if_neg (not_lt.mpr hfresh)
  · exact load_signedMetadata (settings.issued context issuedAt) hsecret hage hsession hcompany hsubject
      hsignature hzone hsigned hfresh

end Acceptance

/-! ## The results -/

section Results

variable {K : Type} [Ring K] [LinearOrder K]

/-- The header that `call_backend_tool` sends is that of the job's start: it is accepted exactly as long as the context is
not older than the configured age. -/
theorem call_authorised_iff {settings : Settings} {metadata : Option Raw} {start now : K}
    {context : VerifiedSessionContext} (haccepted : settings.loadVerifiedSessionContext start metadata = some context) :
    settings.verifySessionContext now (some (.text context.signedMetadata)) =
      .ok (some context.toInternalSessionContext) ↔ ∃ maxAge, settings.maxAge = some maxAge ∧
        |now - context.issuedAt| ≤ maxAge := by
  obtain ⟨hsecret, ⟨maxAge, hage, -⟩, ⟨hsession, hcompany, hsubject⟩, hzone, hsigned⟩ := load_eq_some haccepted
  rw [verify_signedMetadata context hsecret hage (ne_empty_of_not_blank hsession) (ne_empty_of_not_blank hcompany)
    (ne_empty_of_not_blank hsubject) hzone hsigned]
  constructor
  · intro h
    refine ⟨maxAge, hage.1, not_lt.mp fun hold => ?_⟩
    rw [if_pos hold] at h
    cases h
  · rintro ⟨maxAge', hmax, hfresh⟩
    obtain rfl := Option.some.inj (hage.1.symm.trans hmax)
    rw [if_neg (not_lt.mpr hfresh)]

end Results

/-! ## A call that lasts -/

/-- The lifetime of the room's token, two hours. -/
def roomTokenLifetime : Int := 2 * 60 * 60

def sampleSettings : Settings where
  secret := "secret"
  maxAge := some 300
  hmac secret message := "sha256" ++ secret ++ String.ofList message
  hmac_ne := by simp
  coercions := ⟨default, fun _ => "None", fun _ => .error .valueError⟩
  zoneInfo name := name = "Indian/Mauritius"

theorem admits_sample : sampleSettings.Admits 300 :=
  ⟨rfl, by decide, by decide⟩

def sampleIdentity : InternalSessionContext :=
  ⟨"session-1", "company-1", "user-1", some 3, some "Indian/Mauritius"⟩

/-- The context of a job that starts at its issue. -/
def sampleContext : VerifiedSessionContext :=
  sampleSettings.issued sampleIdentity 1000

theorem load_sample :
    sampleSettings.loadVerifiedSessionContext (1000 : ℤ) (some (.text sampleContext.signedMetadata)) =
      some sampleContext :=
  (issued_accepted sampleIdentity (by decide) admits_sample (by decide +kernel) (by decide +kernel) (by decide +kernel)
    (by decide) (by decide)).2

theorem call_authorised_iff_early :
    sampleSettings.verifySessionContext (1300 : ℤ) (some (.text sampleContext.signedMetadata)) =
      .ok (some sampleIdentity) :=
  (call_authorised_iff load_sample).mpr ⟨300, rfl, by decide⟩

/-- A tool call fifteen minutes and a second after the dispatch is refused. -/
theorem late_call_refused :
    ¬ ∀ (settings : Settings) (metadata : Option Raw) (start : ℤ) (context : VerifiedSessionContext),
      settings.loadVerifiedSessionContext start metadata = some context →
      ∀ now, start ≤ now → now ≤ context.issuedAt + roomTokenLifetime →
        settings.verifySessionContext now (some (.text context.signedMetadata)) =
          .ok (some context.toInternalSessionContext) := by
  intro hall
  have hlate := hall sampleSettings _ 1000 sampleContext load_sample 1901 (by decide) (by decide)
  obtain ⟨maxAge, hmax, hfresh⟩ := (call_authorised_iff load_sample).mp hlate
  obtain rfl := Option.some.inj hmax
  exact absurd hfresh (by decide)

end SessionContext
end VoiceAssistants
