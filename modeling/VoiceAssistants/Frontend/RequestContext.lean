import VoiceAssistants.Backend.SessionContext
import VoiceAssistants.JavaScript.JsonText
import Mathlib.Data.Rat.Init

/-!
# The context of a browser's request

The front end signs the identity of a request (`frontend/src/lib/sessionContext.ts`) and the backend verifies it
(`verify_session_context`).  The one signs the text of `JSON.stringify`, the other that of `json.dumps`.

* `verify_contextHeader_iff` — the backend accepts the header exactly if the user id is of ASCII without the delete
  character.

What the authentication service answers, `Date.parse` and SHA-256 are parameters.
-/

namespace VoiceAssistants
namespace RequestContext

open JavaScript
open SessionContext (Settings InternalSessionContext)

/-! ## The authenticated user -/

/-- `a || b` of texts that may be missing. -/
def either (first second : Option String) : Option String :=
  (first.filter (· ≠ "")).orElse fun _ => second

/-- The truthy ones of the texts. -/
def truthy (text : Option String) : Option String :=
  text.filter (· ≠ "")

/-- `createdAt` of a session. -/
inductive CreatedAt
  | number (value : ℚ)
  | text (value : String)

/-- `NeonAuthResponse`. -/
structure NeonAuthResponse where
  userId : Option String
  sessionUserId : Option String
  sessionId : Option String
  createdAt : Option CreatedAt

structure AuthSession where
  userId : String
  sessionId : String
  sessionCreatedAt : Option ℚ

/-- `sessionCreatedAt` of `readNeonSession`, from a time in milliseconds or in seconds. -/
def sessionCreatedAt (dateParse : String → Option ℚ) (createdAt : Option CreatedAt) : Option ℚ :=
  let parsed := createdAt.bind fun
    | .number value => some value
    | .text value => dateParse value
  parsed.map fun parsed => if parsed > 10000000000 then parsed else parsed * 1000

/-- `readNeonSession` of a response; a response that is not `ok` is `none`. -/
def readNeonSession (dateParse : String → Option ℚ) (response : Option NeonAuthResponse) : Option AuthSession := do
  let payload ← response
  let userId ← truthy (either payload.userId payload.sessionUserId)
  let sessionId ← truthy payload.sessionId
  return { userId, sessionId, sessionCreatedAt := sessionCreatedAt dateParse payload.createdAt }

/-! ## The environment -/

structure Environment where
  /-- `LIVEKIT_SESSION_CONTEXT_SECRET` -/
  secret : Option String
  /-- `NODE_ENV === "development"` -/
  development : Bool
  /-- `ALLOW_DEV_LOCAL_AUTH === "true"` -/
  allowDevLocalAuth : Bool
  /-- `MOCK_MODE === "true"` -/
  mockMode : Bool

/-- `signingSecret`; `none` is the error of `required`. -/
def Environment.signingSecret (environment : Environment) : Option String :=
  either environment.secret
    (if environment.development || environment.mockMode then some "mock-dev-secret-12345678" else none)

/-- SHA-256, as the hexadecimal digits that `digest("hex")` writes. -/
structure Digest where
  sha256 : (text : String) → List Char
  sha256_hex : ∀ text, ∀ c ∈ sha256 text, c ∈ "0123456789abcdef".toList

/-- `text.slice(first, last)` -/
def slice (text : List Char) (first last : Nat) : List Char :=
  (text.take last).drop first

/-- `number.toString(16).padStart(2, "0")` -/
def twoDigits (number : Nat) : List Char :=
  let digits := Nat.toDigits 16 number
  List.replicate (2 - digits.length) '0' ++ digits

/-- `stableCompanyId` -/
def stableCompanyId (digest : Digest) (userId : String) : String :=
  let hex := slice (digest.sha256 ("company:" ++ userId)) 0 32
  let variant := twoDigits ((((hexValue (slice hex 16 18)).getD 0) &&& 0x3f) ||| 0x80)
  String.ofList (slice hex 0 8 ++ ['-'] ++ slice hex 8 12 ++ ['-', '4'] ++ slice hex 13 16 ++ ['-'] ++ variant ++
    slice hex 18 20 ++ ['-'] ++ hex.drop 20)

/-! ## The request's context -/

structure VerifiedRequestContext where
  sessionId : String
  companyId : String
  authSubject : String
  issuedAt : Int
  signature : String
  sessionCreatedAt : Option ℚ

/-- A character of `[A-Za-z0-9._:-]`. -/
def isSessionChar (c : Char) : Bool :=
  ('A' ≤ c && c ≤ 'Z') || ('a' ≤ c && c ≤ 'z') || ('0' ≤ c && c ≤ '9') || c == '.' || c == '_' || c == ':' || c == '-'

/-- `/^[A-Za-z0-9._:-]{8,128}$/` -/
def acceptsSessionId (sessionId : String) : Bool :=
  decide (8 ≤ sessionId.toList.length) && decide (sessionId.toList.length ≤ 128) && sessionId.toList.all isSessionChar

/-- The members of the text that is signed. -/
def signedText (authSubject companyId : String) (issuedAt : Int) (sessionId : String) : List Char :=
  stringify [("auth_subject", .text authSubject), ("company_id", .text companyId), ("issued_at", .int issuedAt),
    ("session_id", .text sessionId)]

/-- The user of a request: the authenticated one, or the one of local development. -/
def authenticated (environment : Environment) (auth : Option AuthSession) (nowMs : Int) : Option AuthSession :=
  match auth with
  | some auth => some auth
  | none =>
      if environment.development || environment.allowDevLocalAuth then
        some { userId := "local-dev-user", sessionId := "local-dev-session", sessionCreatedAt := some nowMs }
      else none

/-- `getVerifiedRequestContext` of a request whose cookie authenticates `auth`, at a time in milliseconds. -/
def getVerifiedRequestContext (environment : Environment) (digest : Digest)
    (hmac : (secret : String) → (message : List Char) → String) (auth : Option AuthSession)
    (requestedSession : Option String) (nowMs : Int) : Option VerifiedRequestContext := do
  let auth ← authenticated environment auth nowMs
  let sessionId := (truthy requestedSession).getD auth.sessionId
  if acceptsSessionId sessionId then
    let companyId := stableCompanyId digest auth.userId
    let issuedAt := nowMs / 1000
    let message := signedText auth.userId companyId issuedAt sessionId
    let signingSecret ← environment.signingSecret
    return { sessionId, companyId, authSubject := auth.userId, issuedAt, signature := hmac signingSecret message,
             sessionCreatedAt := auth.sessionCreatedAt }
  else none

/-- `contextHeader` -/
def contextHeader (context : VerifiedRequestContext) : List Char :=
  stringify [("session_id", .text context.sessionId), ("company_id", .text context.companyId),
    ("auth_subject", .text context.authSubject), ("issued_at", .int context.issuedAt),
    ("signature", .text context.signature)]

/-! ## What the header holds -/

section Header

variable {environment : Environment} {digest : Digest} {hmac : String → List Char → String} {auth : Option AuthSession}
  {requestedSession : Option String} {nowMs : Int} {context : VerifiedRequestContext}

theorem truthy_eq_some {text : Option String} {value : String} (h : truthy text = some value) : value ≠ "" := by
  simpa using (Option.filter_eq_some_iff.mp h).2

/-- A secret that signs is not empty. -/
theorem signingSecret_ne {secret : String} (h : environment.signingSecret = some secret) : secret ≠ "" := by
  unfold Environment.signingSecret either at h
  cases hown : environment.secret.filter (· ≠ "") with
  | some own =>
      rw [hown] at h
      obtain rfl := Option.some.inj h
      exact truthy_eq_some hown
  | none =>
      rw [hown] at h
      change (if environment.development || environment.mockMode then some "mock-dev-secret-12345678" else none) =
        some secret at h
      split at h
      · obtain rfl := Option.some.inj h
        decide
      · cases h

/-- Nobody is authenticated with an empty id. -/
theorem authenticated_userId {dateParse : String → Option ℚ} {response : Option NeonAuthResponse} {session : AuthSession}
    (h : authenticated environment (readNeonSession dateParse response) nowMs = some session) : session.userId ≠ "" := by
  unfold authenticated at h
  cases hread : readNeonSession dateParse response with
  | some read =>
      rw [hread] at h
      obtain rfl := Option.some.inj h
      simp only [readNeonSession, Option.bind_eq_bind, Option.bind_eq_some_iff, Option.pure_def, Option.some.injEq]
        at hread
      obtain ⟨payload, -, userId, huser, sessionId, -, rfl⟩ := hread
      exact truthy_eq_some huser
  | none =>
      rw [hread] at h
      dsimp only at h
      split at h
      · obtain rfl := Option.some.inj h
        show "local-dev-user" ≠ ""
        decide
      · cases h

/-- What a context that is signed consists of. -/
theorem getVerifiedRequestContext_eq_some
    (h : getVerifiedRequestContext environment digest hmac auth requestedSession nowMs = some context) :
    ∃ session secret, authenticated environment auth nowMs = some session ∧ environment.signingSecret = some secret ∧
      acceptsSessionId context.sessionId = true ∧ context.authSubject = session.userId ∧
      context.companyId = stableCompanyId digest session.userId ∧
      context.signature =
        hmac secret (signedText context.authSubject context.companyId context.issuedAt context.sessionId) := by
  unfold getVerifiedRequestContext at h
  obtain ⟨session, hsession, h⟩ := Option.bind_eq_some_iff.mp h
  dsimp only at h
  split at h
  · rename_i haccepts
    obtain ⟨secret, hsecret, h⟩ := Option.bind_eq_some_iff.mp h
    obtain rfl := Option.some.inj h
    exact ⟨session, secret, hsession, hsecret, haccepts, rfl, rfl, rfl⟩
  · cases h

theorem toNat_le {first second : Char} (h : first ≤ second) : first.toNat ≤ second.toNat :=
  UInt32.le_iff_toNat_le.mp h

theorem isSessionChar_lt {c : Char} (h : isSessionChar c = true) : c.toNat < 0x7f := by
  have hupper : 'Z'.toNat = 0x5a := rfl
  have hlower : 'z'.toNat = 0x7a := rfl
  have hdigit : '9'.toNat = 0x39 := rfl
  simp only [isSessionChar, Bool.or_eq_true, Bool.and_eq_true, decide_eq_true_eq, beq_iff_eq] at h
  rcases h with ((((((⟨-, h⟩ | ⟨-, h⟩) | ⟨-, h⟩) | rfl) | rfl) | rfl) | rfl)
  case inl.inl.inl.inl.inl.inl | inl.inl.inl.inl.inl.inr | inl.inl.inl.inl.inr =>
    have hle := toNat_le h
    omega
  all_goals decide

theorem plain_sessionId {sessionId : String} (h : acceptsSessionId sessionId = true) :
    Plain sessionId ∧ sessionId ≠ "" := by
  simp only [acceptsSessionId, Bool.and_eq_true, decide_eq_true_eq] at h
  obtain ⟨⟨hlength, -⟩, hchars⟩ := h
  constructor
  · intro c hc
    exact isSessionChar_lt (List.all_eq_true.mp hchars c hc)
  · rintro rfl
    exact absurd hlength (by decide)

/-- A byte is written with two digits. -/
theorem twoDigits_lt {number : Nat} (h : number < 256) : ∀ c ∈ twoDigits number, c.toNat < 0x7f := by
  have hall : ∀ number < 256, (twoDigits number).all (fun c => decide (c.toNat < 0x7f)) = true := by decide +kernel
  intro c hc
  exact of_decide_eq_true (List.all_eq_true.mp (hall number h) c hc)

theorem mem_of_mem_slice {text : List Char} {first last : Nat} {c : Char} (h : c ∈ slice text first last) : c ∈ text :=
  List.mem_of_mem_take (List.mem_of_mem_drop h)

/-- The id of a company consists of hexadecimal digits and hyphens. -/
theorem plain_stableCompanyId (digest : Digest) (userId : String) :
    Plain (stableCompanyId digest userId) ∧ stableCompanyId digest userId ≠ "" := by
  have hdigest : ∀ c ∈ slice (digest.sha256 ("company:" ++ userId)) 0 32, c.toNat < 0x7f := by
    intro c hc
    have hdigits : ("0123456789abcdef".toList).all (fun c => decide (c.toNat < 0x7f)) = true := by decide
    exact of_decide_eq_true (List.all_eq_true.mp hdigits c (digest.sha256_hex _ c (mem_of_mem_slice hc)))
  constructor
  · intro c hc
    unfold stableCompanyId at hc
    rw [String.toList_ofList] at hc
    have hvariant : ((hexValue (slice (slice (digest.sha256 ("company:" ++ userId)) 0 32) 16 18)).getD 0 &&& 0x3f) |||
        0x80 < 256 :=
      Nat.or_lt_two_pow (n := 8) (Nat.and_lt_two_pow _ (by decide)) (by decide)
    simp only [List.mem_append, List.mem_cons, List.not_mem_nil, or_false] at hc
    -- the groups of the digest, and what stands between them
    rcases hc with ((((((((h | rfl) | h) | rfl | rfl) | h) | rfl) | h) | h) | rfl) | h
    · exact hdigest c (mem_of_mem_slice h)
    · decide
    · exact hdigest c (mem_of_mem_slice h)
    · decide
    · decide
    · exact hdigest c (mem_of_mem_slice h)
    · decide
    · exact twoDigits_lt hvariant c h
    · exact hdigest c (mem_of_mem_slice h)
    · decide
    · exact hdigest c (List.mem_of_mem_drop h)
  · intro hempty
    have hlength := congrArg String.length hempty
    simp [stableCompanyId] at hlength

/-- The two services sign the same text exactly if the user id is plain. -/
theorem signedText_eq_iff {authSubject companyId sessionId : String} {issuedAt : Int} (hcompany : Plain companyId)
    (hsession : Plain sessionId) :
    signedText authSubject companyId issuedAt sessionId =
        SessionContext.message sessionId companyId authSubject issuedAt none none ↔ Plain authSubject := by
  have hsorted : Python.Json.sortKeys
      (.obj (SessionContext.messageMembers sessionId companyId authSubject issuedAt none none)) =
      .obj (jsonMembers [("auth_subject", .text authSubject), ("company_id", .text companyId),
        ("issued_at", .int issuedAt), ("session_id", .text sessionId)]) := by
    have hfirst : "auth_subject" ≤ "company_id" := by decide
    have hsecond : "company_id" ≤ "issued_at" := by decide
    have hthird : "issued_at" ≤ "session_id" := by decide
    simp [SessionContext.messageMembers, SessionContext.optionalMember, Python.Json.sortKeys,
      Python.Json.sortValues, Python.Json.sortMembers, jsonMembers, Scalar.json, hfirst, hsecond, hthird]
  rw [SessionContext.message, hsorted, signedText, stringify_eq_dumps_iff]
  constructor
  · intro hplain
    exact (plainMembers_cons.mp hplain).1.2
  · intro hsubject
    have hlast : PlainMembers [("issued_at", .int issuedAt), ("session_id", .text sessionId)] :=
      plainMembers_cons.mpr ⟨⟨by decide, trivial⟩, plainMembers_cons.mpr ⟨⟨by decide, hsession⟩, plainMembers_nil⟩⟩
    exact plainMembers_cons.mpr ⟨⟨by decide, hsubject⟩, plainMembers_cons.mpr ⟨⟨by decide, hcompany⟩, hlast⟩⟩

end Header

/-! ## The result -/

/-- The context that the backend reads from the header. -/
def VerifiedRequestContext.verified (context : VerifiedRequestContext) : InternalSessionContext :=
  ⟨context.sessionId, context.companyId, context.authSubject, none, none⟩

/-- A header that is not too old is accepted, with the session, the company and the subject that were signed, exactly if
the user id is of ASCII without the delete character. -/
theorem verify_contextHeader_iff {K : Type} [Ring K] [LinearOrder K] {environment : Environment} {digest : Digest}
    {settings : Settings} {dateParse : String → Option ℚ} {response : Option NeonAuthResponse}
    {requestedSession : Option String} {nowMs maxAge : Int} {now : K} {context : VerifiedRequestContext}
    (hsecret : environment.signingSecret = some settings.secret) (hage : settings.Admits maxAge)
    (hcontext : getVerifiedRequestContext environment digest settings.hmac (readNeonSession dateParse response)
      requestedSession nowMs = some context)
    (hfresh : |now - context.issuedAt| ≤ maxAge)
    -- the keyed hash has no collision between the two texts
    (hcollision : settings.sign (signedText context.authSubject context.companyId context.issuedAt context.sessionId) =
        settings.sign (context.verified.message context.issuedAt) →
      signedText context.authSubject context.companyId context.issuedAt context.sessionId =
        context.verified.message context.issuedAt) :
    settings.verifySessionContext now (some (.text (contextHeader context))) = .ok (some context.verified) ↔
      Plain context.authSubject := by
  obtain ⟨session, secret, hsession, hsigning, haccepts, hsubject, hcompany, hsignature⟩ :=
    getVerifiedRequestContext_eq_some hcontext
  obtain rfl := Option.some.inj (hsecret.symm.trans hsigning)
  obtain ⟨hplainSession, hsessionNe⟩ := plain_sessionId haccepts
  obtain ⟨hplainCompany, hcompanyNe⟩ := plain_stableCompanyId digest session.userId
  rw [← hcompany] at hplainCompany hcompanyNe
  have hsubjectNe : context.authSubject ≠ "" := by
    rw [hsubject]
    exact authenticated_userId hsession
  -- Python reads the header as the members of a signed context
  have hpayload : settings.payload (.text (contextHeader context)) =
      .ok (.obj (SessionContext.signedMembers context.verified context.issuedAt context.signature)) := by
    have hloads : Python.Json.loads settings.coercions.floats (contextHeader context) = some (.obj (jsonMembers
        [("session_id", .text context.sessionId), ("company_id", .text context.companyId),
          ("auth_subject", .text context.authSubject), ("issued_at", .int context.issuedAt),
          ("signature", .text context.signature)])) :=
      loads_stringify (by simp)
    show settings.coercions.loads (contextHeader context) = _
    rw [Python.Coercions.loads, hloads]
    rfl
  have hverify : settings.verifySessionContext now (some (.text (contextHeader context))) = _ :=
    SessionContext.verify_signedMembers
      { context.verified with issuedAt := context.issuedAt, signature := context.signature } hpayload
      (signingSecret_ne hsigning) hage hsessionNe hcompanyNe hsubjectNe rfl
  rw [hverify, hsignature]
  dsimp only
  have hnotOld : ¬ |now - (context.issuedAt : K)| > (maxAge : K) := not_lt.mpr hfresh
  have htext : signedText context.authSubject context.companyId context.issuedAt context.sessionId =
      context.verified.message context.issuedAt ↔ Plain context.authSubject :=
    signedText_eq_iff hplainCompany hplainSession
  by_cases hplain : Plain context.authSubject
  · have hsame := htext.mpr hplain
    have haccepted : ¬ (|now - (context.issuedAt : K)| > (maxAge : K) ∨
        settings.hmac settings.secret (signedText context.authSubject context.companyId context.issuedAt
          context.sessionId) ≠ settings.sign (context.verified.message context.issuedAt)) :=
      not_or.mpr ⟨hnotOld, not_not.mpr (congrArg settings.sign hsame)⟩
    rw [if_neg haccepted]
    exact iff_of_true rfl hplain
  · have hdifferent : settings.hmac settings.secret (signedText context.authSubject context.companyId context.issuedAt
        context.sessionId) ≠ settings.sign (context.verified.message context.issuedAt) :=
      fun hsame => hplain (htext.mp (hcollision hsame))
    rw [if_pos (.inr hdifferent)]
    exact iff_of_false (by simp) hplain

/-! ## A user id that is not of ASCII -/

def sampleEnvironment : Environment :=
  { secret := some "secret", development := false, allowDevLocalAuth := false, mockMode := false }

def sampleDigest : Digest where
  sha256 _ := List.replicate 64 'a'
  sha256_hex := by
    intro _ c hc
    obtain rfl := List.eq_of_mem_replicate hc
    decide

def response (userId : String) : Option NeonAuthResponse :=
  some { userId := some userId, sessionUserId := none, sessionId := some "session-1", createdAt := none }

/-- The context of a user at the second 1000. -/
def sampleContext (userId : String) : VerifiedRequestContext :=
  let companyId := stableCompanyId sampleDigest userId
  { sessionId := "session-1", companyId, authSubject := userId, issuedAt := 1000,
    signature := SessionContext.sampleSettings.hmac "secret" (signedText userId companyId 1000 "session-1"),
    sessionCreatedAt := none }

theorem signingSecret_sample : sampleEnvironment.signingSecret = some SessionContext.sampleSettings.secret := rfl

theorem getVerifiedRequestContext_sample (userId : String) (h : userId ≠ "") :
    getVerifiedRequestContext sampleEnvironment sampleDigest SessionContext.sampleSettings.hmac
      (readNeonSession (fun _ => none) (response userId)) none 1000500 = some (sampleContext userId) := by
  have haccepts : acceptsSessionId "session-1" = true := by decide
  have hread : readNeonSession (fun _ => none) (response userId) =
      some { userId, sessionId := "session-1", sessionCreatedAt := none } := by
    have htruthy : truthy (some userId) = some userId := by simp [truthy, Option.filter, h]
    have heither : either (some userId) none = some userId := by simp [either, Option.filter, h]
    have hsession : truthy (some "session-1") = some "session-1" := by decide
    simp [readNeonSession, response, htruthy, heither, hsession, sessionCreatedAt]
  rw [hread]
  simp only [getVerifiedRequestContext, authenticated, truthy, Option.bind_eq_bind, Option.bind_some, Option.filter_none,
    Option.getD_none, haccepts, if_true]
  rfl

/-- The sample's keyed hash has no collisions. -/
theorem sign_injective {first second : List Char}
    (h : SessionContext.sampleSettings.sign first = SessionContext.sampleSettings.sign second) : first = second := by
  have htexts := congrArg String.toList h
  simpa [SessionContext.sampleSettings, Settings.sign] using htexts

theorem verify_contextHeader_iff_sample :
    SessionContext.sampleSettings.verifySessionContext (1100 : ℤ) (some (.text (contextHeader (sampleContext "user-1")))) =
      .ok (some (sampleContext "user-1").verified) :=
  (verify_contextHeader_iff signingSecret_sample SessionContext.admits_sample
    (getVerifiedRequestContext_sample "user-1" (by decide)) (by decide) sign_injective).mpr (by decide)

/-- The context of an authenticated user whose id has an accent is refused. -/
theorem accented_user_refused :
    ¬ ∀ (environment : Environment) (digest : Digest) (settings : Settings) (dateParse : String → Option ℚ)
        (response : Option NeonAuthResponse) (requestedSession : Option String) (nowMs maxAge now : Int)
        (context : VerifiedRequestContext),
      environment.signingSecret = some settings.secret → settings.Admits maxAge →
      getVerifiedRequestContext environment digest settings.hmac (readNeonSession dateParse response) requestedSession
        nowMs = some context →
      |now - context.issuedAt| ≤ maxAge →
      settings.verifySessionContext now (some (.text (contextHeader context))) = .ok (some context.verified) := by
  intro hall
  have hcontext := getVerifiedRequestContext_sample "Zoé" (by decide)
  have haccepted := hall sampleEnvironment sampleDigest SessionContext.sampleSettings (fun _ => none) (response "Zoé") none
    1000500 300 1000 (sampleContext "Zoé") signingSecret_sample SessionContext.admits_sample hcontext (by decide)
  have hplain := (verify_contextHeader_iff signingSecret_sample SessionContext.admits_sample hcontext
    (by decide) sign_injective).mp haccepted
  exact absurd hplain (by decide)

end RequestContext
end VoiceAssistants
