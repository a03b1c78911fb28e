import VoiceAssistants.Python.Decoder
import VoiceAssistants.Python.Percent
import VoiceAssistants.Backend.OAuthState
import VoiceAssistants.Backend.SessionContext

/-!
# Input that nobody has signed

`verify_session_context` and `verify_authorization_state` read a JSON value of the caller before they compare its
signature, and catch a fixed list of exceptions.  Here both are taken with every exception that a value can raise, for
any text: strings with lone surrogates, integers that no float holds, infinite floats, and nesting that uses up the stack.

The `Ending` of a text says, field after field, whether reading it returns, raises what is caught, or raises what is not.
`unsigned_input_fails_closed_iff` is the result: an unsigned text is answered with `None` exactly where nothing escapes.

What `consume_oauth_state` does is a parameter; it is called for signed states only.
-/

namespace VoiceAssistants
namespace UnsignedInput

open Exceptions Python
open OAuth (StoredState lifetime)
open SessionContext (maxSessionContextAgeSeconds)

/-- Why `ZoneInfo(name)` raises. -/
inductive ZoneFailure
  | notFound
  | badKey
  /-- The name is that of a directory, or too long for a file. -/
  | osError
  deriving DecidableEq, Repr

/-- `ZoneInfoNotFoundError` is a `KeyError`. -/
def ZoneFailure.thrown : ZoneFailure → Thrown
  | .notFound => .raised .keyError
  | .badKey => .raised .valueError
  | .osError => .osError

/-- What the two functions run in. -/
structure Environment where
  interpreter : Interpreter
  hmac : (secret : String) → (message : List Char) → String
  zoneInfo : List Nat → Option ZoneFailure
  /-- `LIVEKIT_SESSION_CONTEXT_SECRET` -/
  sessionSecret : String
  /-- `int(LIVEKIT_SESSION_CONTEXT_MAX_AGE_SECONDS)` unless that is a `ValueError`. -/
  maxAge : Option Int
  /-- `google_oauth_state_secret` -/
  stateSecret : String
  consumeOAuthState : (nonce companyId : List Nat) → Except Thrown (Option StoredState)

/-- `except (KeyError, TypeError, ValueError, …)`; the other two are subclasses of these. -/
def catches : Thrown → Bool
  | .raised .keyError | .raised .typeError | .raised .valueError => true
  | .raised .attributeError | .raised .overflowError | .recursionError | .osError => false

/-- The least number that rounds to no float. -/
def floatLimit : Int :=
  2 ^ 1024 - 2 ^ 970

/-- `value[name]` -/
def item (value : Decoded) (name : String) : Except Thrown Decoded :=
  match value with
  | .obj _ =>
      match value.member? name with
      | some member => .ok member
      | none => .error (.raised .keyError)
  | _ => .error (.raised .typeError)

/-- `value.get(name)` -/
def getMember (value : Decoded) (name : String) : Except Thrown (Option Decoded) :=
  match value with
  | .obj _ => .ok (value.member? name)
  | _ => .error (.raised .attributeError)

/-- `hmac.compare_digest(signature, expected)`, where `expected` is hexadecimal. -/
def compareDigest (signature : List Nat) (expected : String) : Except Thrown Bool :=
  if signature.all (· < 0x80) then .ok (signature = codesOf expected) else .error (.raised .typeError)

/-- `InternalSessionContext` -/
structure InternalSessionContext where
  sessionId : List Nat
  companyId : List Nat
  authSubject : List Nat
  profileVersion : Option Int
  timezone : Option (List Nat)
  deriving DecidableEq, Repr

/-- What `verify_session_context` reads. -/
structure Header extends InternalSessionContext where
  issuedAt : Int
  signature : List Nat
  deriving DecidableEq, Repr

def optionalMember (name : String) (value : Option Decoded) : List (List Nat × Decoded) :=
  (value.map fun value => (codesOf name, value)).toList

/-- `_message` -/
def Header.message (header : Header) : List Char :=
  (Decoded.obj
    ([(codesOf "auth_subject", .str header.authSubject), (codesOf "company_id", .str header.companyId),
      (codesOf "issued_at", .int header.issuedAt), (codesOf "session_id", .str header.sessionId)] ++
      optionalMember "profile_version" (header.profileVersion.map .int) ++
      optionalMember "timezone" (header.timezone.map .str))).sortKeys.dumps

namespace Environment

variable (env : Environment)

/-- `str(value[name])` -/
def readStr (value : Decoded) (name : String) : Except Thrown (List Nat) := do
  env.interpreter.str (← item value name)

/-- `int(value[name])` -/
def readInt (value : Decoded) (name : String) : Except Thrown Int := do
  env.interpreter.int (← item value name)

/-! ## The session context -/

/-- `int(value.get(name))` unless it is `None`. -/
def readVersion (value : Decoded) : Except Thrown (Option Int) := do
  match Decoded.notNone (← getMember value "profile_version") with
  | some member => return some (← env.interpreter.int member)
  | none => return none

def readTimezone (value : Decoded) : Except Thrown (Option (List Nat)) := do
  match Decoded.notNone (← getMember value "timezone") with
  | some member =>
      let name ← env.interpreter.str member
      match env.zoneInfo name with
      | none => return some name
      | some failure => throw failure.thrown
  | none => return none

def readHeader (payload : Decoded) : Except Thrown Header := do
  let sessionId ← env.readStr payload "session_id"
  let companyId ← env.readStr payload "company_id"
  let authSubject ← env.readStr payload "auth_subject"
  let issuedAt ← env.readInt payload "issued_at"
  let signature ← env.readStr payload "signature"
  let profileVersion ← env.readVersion payload
  let timezone ← env.readTimezone payload
  return { sessionId, companyId, authSubject, profileVersion, timezone, issuedAt, signature }

section Clock

variable {K : Type} [Ring K] [LinearOrder K] (now : K)

/-- `abs(time.time() - issued_at)` -/
def elapsed (issuedAt : Int) : Except Thrown K :=
  if floatLimit ≤ |issuedAt| then .error (.raised .overflowError) else .ok |now - issuedAt|

/-- The checks of `verify_session_context`. -/
def checkHeader (header : Header) : Except Thrown (Option InternalSessionContext) :=
  match env.maxAge with
  | none => .error (.raised .valueError)
  | some maxAge =>
      if maxAge ≤ 0 ∨ maxAge > maxSessionContextAgeSeconds ∨ header.sessionId = [] ∨ header.companyId = [] ∨
          header.authSubject = [] then .ok none
      else do
        let age ← elapsed now header.issuedAt
        if age > maxAge then return none
        let valid ← compareDigest header.signature (env.hmac env.sessionSecret header.message)
        return if valid then some header.toInternalSessionContext else none

/-- `verify_session_context(raw)` of a text or of `None`. -/
def verifySessionContext (raw : Option (List Char)) : Except Thrown (Option InternalSessionContext) :=
  match raw with
  | none => .ok none
  | some text =>
      if env.sessionSecret = "" then .ok none
      else handle catches none (env.interpreter.loads text >>= env.readHeader >>= env.checkHeader now)

/-! ## The OAuth state -/

/-- `payload.pop("signature")`: the rest of the payload, and the signature.  A list takes no name, and the values but
lists and dictionaries have no `pop`. -/
def popSignature (payload : Decoded) : Except Thrown (Decoded × Decoded) :=
  match payload with
  | .obj members =>
      match payload.member? "signature" with
      | some signature => .ok (.obj (members.filter (·.1 ≠ codesOf "signature")), signature)
      | none => .error (.raised .keyError)
  | .arr _ => .error (.raised .typeError)
  | _ => .error (.raised .attributeError)

/-- The payload of a state without its signature, and the text of the signature. -/
def openState (state : List Char) : Except Thrown (Decoded × List Nat) := do
  let payload ← env.interpreter.loads (unquote state)
  let popped ← popSignature payload
  let signature ← env.interpreter.str popped.2
  return (popped.1, signature)

/-- Whether the signature of a payload is right. -/
def checkSignature (payload : Decoded) (signature : List Nat) : Except Thrown Bool := do
  let message ← env.interpreter.dumps payload
  compareDigest signature (env.hmac env.stateSecret message)

/-- The part of `verify_authorization_state` before the query: the payload, once its signature is right. -/
def authenticate (state : List Char) : Except Thrown (Option Decoded) := do
  let opened ← env.openState state
  let issuedAt ← env.readInt opened.1 "issued_at"
  let age ← elapsed now issuedAt
  if age > lifetime then return none
  let valid ← env.checkSignature opened.1 opened.2
  return if valid then some opened.1 else none

/-- The query and the comparisons after it. -/
def redeem (payload : Decoded) : Except Thrown (Option StoredState) := do
  let nonce ← env.readStr payload "nonce"
  let companyId ← env.readStr payload "company_id"
  match ← env.consumeOAuthState nonce companyId with
  | none => return none
  | some stored =>
      if codesOf stored.companyId ≠ (← env.readStr payload "company_id") then return none
      else if codesOf stored.sessionId ≠ (← env.readStr payload "session_id") then return none
      else return some stored

/-- `verify_authorization_state(state)` -/
def verifyAuthorizationState (state : List Char) : Except Thrown (Option StoredState) :=
  if env.stateSecret = "" ∨ state = [] then .ok none
  else
    handle catches none (env.authenticate now state >>= fun
      | none => .ok none
      | some payload => env.redeem payload)

end Clock

/-! ## Signatures -/

/-- A text whose fields can be read, with the signature of these fields. -/
def SessionSigned (raw : Option (List Char)) : Prop :=
  ∃ text header, raw = some text ∧ env.interpreter.loads text >>= env.readHeader = .ok header ∧
    header.signature = codesOf (env.hmac env.sessionSecret header.message)

/-- A state with the signature of its other members. -/
def StateSigned (state : List Char) : Prop :=
  ∃ opened message, env.openState state = .ok opened ∧ env.interpreter.dumps opened.1 = .ok message ∧
    opened.2 = codesOf (env.hmac env.stateSecret message)

/-! ## What becomes of a field -/

/-- The text of `str(value)`. -/
def textOf : Decoded → List Nat
  | .str codes => codes
  | value => codesOf (env.interpreter.repr value)

/-- The text of a member that is there. -/
def textAt (payload : Decoded) (name : String) : List Nat :=
  ((payload.member? name).map env.textOf).getD []

/-- `str` of a member. -/
def textEnding : Option Decoded → Ending
  | none => .caught
  | some (.str _) => .returned
  | some value => if env.interpreter.reprTooDeep value then .escaped else .returned

/-- The number of a member that is one. -/
def intOf : Decoded → Int
  | .int number => number
  | .bool value => if value then 1 else 0
  | .float text => env.interpreter.truncated text
  | .str codes => (env.interpreter.parse codes).getD 0
  | .null | .arr _ | .obj _ => 0

def intAt (payload : Decoded) (name : String) : Int :=
  ((payload.member? name).map env.intOf).getD 0

/-- `int` of a member: a text need be that of an integer, and a float may be neither infinite nor `NaN`. -/
def intEnding : Option Decoded → Ending
  | some (.int _) | some (.bool _) => .returned
  | some (.float text) =>
      if text = "NaN" then .caught else if text = "Infinity" ∨ text = "-Infinity" then .escaped else .returned
  | some (.str codes) => if (env.interpreter.parse codes).isSome then .returned else .caught
  | none | some .null | some (.arr _) | some (.obj _) => .caught

/-- `int` of a member that may be missing. -/
def versionEnding (member : Option Decoded) : Ending :=
  match Decoded.notNone member with
  | some value => env.intEnding (some value)
  | none => .returned

/-- The zone of a name. -/
def zoneEnding (name : List Nat) : Ending :=
  match env.zoneInfo name with
  | none => .returned
  | some .notFound | some .badKey => .caught
  | some .osError => .escaped

def timezoneEnding (member : Option Decoded) : Ending :=
  match Decoded.notNone member with
  | some value => (env.textEnding (some value)).andThen (env.zoneEnding (env.textOf value))
  | none => .returned

/-- The age of a header, once its fields are read. -/
def ageEnding (payload : Decoded) : Ending :=
  match env.maxAge with
  | none => .caught
  | some maxAge =>
      if maxAge ≤ 0 ∨ maxAge > maxSessionContextAgeSeconds ∨ env.textAt payload "session_id" = [] ∨
          env.textAt payload "company_id" = [] ∨ env.textAt payload "auth_subject" = [] then .returned
      else if floatLimit ≤ |env.intAt payload "issued_at"| then .escaped else .returned

/-- The fields of a session context, in the order in which they are read. -/
def headerEnding (payload : Decoded) : Ending :=
  (env.textEnding (payload.member? "session_id")).andThen <|
    (env.textEnding (payload.member? "company_id")).andThen <|
    (env.textEnding (payload.member? "auth_subject")).andThen <|
    (env.intEnding (payload.member? "issued_at")).andThen <|
    (env.textEnding (payload.member? "signature")).andThen <|
    (env.versionEnding (payload.member? "profile_version")).andThen <|
    (env.timezoneEnding (payload.member? "timezone")).andThen <|
    env.ageEnding payload

/-- A text, with what becomes of its value. -/
def textualEnding (text : List Char) (rest : Decoded → Ending) : Ending :=
  match Decoded.scanText env.interpreter text with
  | .ok payload => rest payload
  | .error .invalid => .caught
  | .error .tooDeep => .escaped

def sessionEnding : Option (List Char) → Ending
  | none => .returned
  | some text => if env.sessionSecret = "" then .returned else env.textualEnding text env.headerEnding

section Clock

variable {K : Type} [Ring K] [LinearOrder K] (now : K)

/-- The fields of a state without its signature, for a signature that is there. -/
def fieldsEnding (signature payload : Decoded) : Ending :=
  (env.textEnding (some signature)).andThen <|
    (env.intEnding (payload.member? "issued_at")).andThen <|
    if floatLimit ≤ |env.intAt payload "issued_at"| then .escaped
    else if |now - env.intAt payload "issued_at"| > lifetime then .returned
    else if env.interpreter.dumpsTooDeep payload then .escaped else .returned

/-- A state that is no object is caught if it is a list only. -/
def payloadEnding (payload : Decoded) : Ending :=
  match payload with
  | .obj members =>
      match payload.member? "signature" with
      | some signature => env.fieldsEnding now signature (.obj (members.filter (·.1 ≠ codesOf "signature")))
      | none => .caught
  | .arr _ => .caught
  | .null | .bool _ | .int _ | .float _ | .str _ => .escaped

def stateEnding (state : List Char) : Ending :=
  if env.stateSecret = "" ∨ state = [] then .returned
  else env.textualEnding (unquote state) (env.payloadEnding now)

end Clock

/-! ## One field -/

section Fields

variable {env : Environment} {value : Decoded} {name : String}

theorem item_of_member {member : Decoded} (h : value.member? name = some member) : item value name = .ok member := by
  cases value with
  | obj members =>
      unfold item
      rw [h]
  | null | bool _ | int _ | float _ | str _ | arr _ => cases h

/-- A member that is not there is a `KeyError`, or a `TypeError` of a value that has no members. -/
theorem ending_item_of_none (h : value.member? name = none) : ending catches (item value name) = .caught := by
  cases value with
  | obj members =>
      unfold item
      rw [h]
      rfl
  | null | bool _ | int _ | float _ | str _ | arr _ => rfl

theorem ending_str : ending catches (env.interpreter.str value) = env.textEnding (some value) := by
  cases value with
  | str codes => rfl
  | null | bool _ | int _ | float _ | arr _ | obj _ =>
      unfold Interpreter.str textEnding
      dsimp only
      split
      · rfl
      · rfl

theorem ending_int : ending catches (env.interpreter.int value) = env.intEnding (some value) := by
  cases value with
  | int number => rfl
  | bool value => rfl
  | float text =>
      unfold Interpreter.int intEnding
      dsimp only
      split
      · rfl
      · split
        · rfl
        · rfl
  | str codes =>
      unfold Interpreter.int intEnding
      dsimp only
      cases env.interpreter.parse codes with
      | none => rfl
      | some number => rfl
  | null | arr _ | obj _ => rfl

/-- A reader of a member that is there, under the handler. -/
theorem ending_item_bind {α : Type} {read : Decoded → Except Thrown α} {last : Option Decoded → Ending}
    (hnone : last none = .caught) (hsome : ∀ member, ending catches (read member) = last (some member)) :
    ending catches (item value name >>= read) = last (value.member? name) := by
  cases hmember : value.member? name with
  | some member =>
      rw [item_of_member hmember]
      exact hsome member
  | none =>
      have hcaught := ending_item_of_none hmember
      rw [hnone]
      cases hitem : item value name with
      | ok member =>
          rw [hitem] at hcaught
          cases hcaught
      | error exception =>
          rw [hitem] at hcaught
          exact hcaught

theorem ending_readStr : ending catches (env.readStr value name) = env.textEnding (value.member? name) :=
  ending_item_bind rfl fun _ => ending_str

theorem ending_readInt : ending catches (env.readInt value name) = env.intEnding (value.member? name) :=
  ending_item_bind rfl fun _ => ending_int

theorem item_eq_ok {member : Decoded} (h : item value name = .ok member) : value.member? name = some member := by
  cases hmember : value.member? name with
  | some found =>
      have hitem := item_of_member hmember
      rw [h] at hitem
      exact congrArg some (Except.ok.inj hitem).symm
  | none =>
      have hcaught := ending_item_of_none hmember
      rw [h] at hcaught
      cases hcaught

theorem str_eq_ok {codes : List Nat} (h : env.interpreter.str value = .ok codes) : codes = env.textOf value := by
  cases value with
  | str text => exact (Except.ok.inj h).symm
  | null | bool _ | int _ | float _ | arr _ | obj _ =>
      unfold Interpreter.str at h
      dsimp only at h
      split at h
      · cases h
      · exact (Except.ok.inj h).symm

theorem int_eq_ok {number : Int} (h : env.interpreter.int value = .ok number) : number = env.intOf value := by
  cases value with
  | int given => exact (Except.ok.inj h).symm
  | bool given => exact (Except.ok.inj h).symm
  | float text =>
      unfold Interpreter.int at h
      dsimp only at h
      split at h
      · cases h
      · split at h
        · cases h
        · exact (Except.ok.inj h).symm
  | str codes =>
      unfold Interpreter.int at h
      dsimp only at h
      show number = (env.interpreter.parse codes).getD 0
      cases hparsed : env.interpreter.parse codes with
      | none =>
          rw [hparsed] at h
          cases h
      | some given =>
          rw [hparsed] at h
          exact (Except.ok.inj h).symm
  | null | arr _ | obj _ => cases h

theorem readStr_eq_ok {codes : List Nat} (h : env.readStr value name = .ok codes) : codes = env.textAt value name := by
  obtain ⟨member, hmember, hcodes⟩ := bind_eq_ok.mp h
  rw [textAt, item_eq_ok hmember, str_eq_ok hcodes]
  rfl

theorem readInt_eq_ok {number : Int} (h : env.readInt value name = .ok number) : number = env.intAt value name := by
  obtain ⟨member, hmember, hnumber⟩ := bind_eq_ok.mp h
  rw [intAt, item_eq_ok hmember, int_eq_ok hnumber]
  rfl

/-- A value of which a member was read is a dictionary. -/
theorem getMember_of_readStr {codes : List Nat} (h : env.readStr value name = .ok codes) (other : String) :
    getMember value other = .ok (value.member? other) := by
  obtain ⟨member, hmember, -⟩ := bind_eq_ok.mp h
  cases value with
  | obj members => rfl
  | null | bool _ | int _ | float _ | str _ | arr _ => cases hmember

theorem ending_readVersion (h : getMember value "profile_version" = .ok (value.member? "profile_version")) :
    ending catches (env.readVersion value) = env.versionEnding (value.member? "profile_version") := by
  unfold readVersion versionEnding
  rw [h]
  show ending catches (match Decoded.notNone (value.member? "profile_version") with | some member => _ | none => _) = _
  cases Decoded.notNone (value.member? "profile_version") with
  | none => rfl
  | some member =>
      dsimp only
      rw [← ending_int]
      cases env.interpreter.int member with
      | ok number => rfl
      | error exception => rfl

theorem ending_readTimezone (h : getMember value "timezone" = .ok (value.member? "timezone")) :
    ending catches (env.readTimezone value) = env.timezoneEnding (value.member? "timezone") := by
  unfold readTimezone timezoneEnding
  rw [h]
  show ending catches (match Decoded.notNone (value.member? "timezone") with | some member => _ | none => _) = _
  cases Decoded.notNone (value.member? "timezone") with
  | none => rfl
  | some member =>
      dsimp only
      rw [← ending_str]
      cases hname : env.interpreter.str member with
      | error exception =>
          exact (ending_error_andThen exception _).symm
      | ok name =>
          rw [← str_eq_ok hname]
          show ending catches (match env.zoneInfo name with | none => _ | some failure => _) = env.zoneEnding name
          unfold zoneEnding
          cases env.zoneInfo name with
          | none => rfl
          | some failure => cases failure <;> rfl

end Fields

/-! ## The session context -/

section Session

variable {env : Environment} {K : Type} [Ring K] [LinearOrder K] {now : K}

theorem ending_compareDigest_ne {α : Type} (signature : List Nat) (expected : String) (result : Bool → α) :
    ending catches (compareDigest signature expected >>= fun valid => .ok (result valid)) ≠ .escaped := by
  unfold compareDigest
  split
  · exact Ending.noConfusion
  · exact Ending.noConfusion

theorem eq_of_compareDigest {signature : List Nat} {expected : String} (h : compareDigest signature expected = .ok true) :
    signature = codesOf expected := by
  unfold compareDigest at h
  split at h
  · exact of_decide_eq_true (Except.ok.inj h)
  · cases h

theorem escapes_checkHeader {payload : Decoded} {header : Header}
    (hsession : header.sessionId = env.textAt payload "session_id")
    (hcompany : header.companyId = env.textAt payload "company_id")
    (hsubject : header.authSubject = env.textAt payload "auth_subject")
    (hissued : header.issuedAt = env.intAt payload "issued_at") :
    ending catches (env.checkHeader now header) = .escaped ↔ env.ageEnding payload = .escaped := by
  unfold checkHeader ageEnding
  cases env.maxAge with
  | none => exact Iff.rfl
  | some maxAge =>
      dsimp only
      rw [hsession, hcompany, hsubject, hissued]
      split
      · exact Iff.rfl
      · unfold elapsed
        by_cases hfloat : floatLimit ≤ |env.intAt payload "issued_at"|
        · rw [if_pos hfloat, if_pos hfloat]
          exact Iff.rfl
        · rw [if_neg hfloat, if_neg hfloat]
          constructor
          · intro hescaped
            -- what is left is the comparison, whose `TypeError` is caught
            exfalso
            change ending catches (if |now - env.intAt payload "issued_at"| > (maxAge : K) then _ else _) = .escaped
              at hescaped
            split at hescaped
            · cases hescaped
            · exact ending_compareDigest_ne _ _ _ hescaped
          · intro hescaped
            cases hescaped

/-- The whole reading of a session context, field after field. -/
theorem escapes_header (payload : Decoded) :
    ending catches (env.readHeader payload >>= env.checkHeader now) = .escaped ↔
      env.headerEnding payload = .escaped := by
  unfold readHeader headerEnding
  simp only [bind_assoc, pure_bind]
  rw [← ending_readStr]
  apply escapes_bind
  intro sessionId hsession
  have hget := getMember_of_readStr hsession
  rw [← ending_readStr]
  apply escapes_bind
  intro companyId hcompany
  rw [← ending_readStr]
  apply escapes_bind
  intro authSubject hsubject
  rw [← ending_readInt]
  apply escapes_bind
  intro issuedAt hissued
  rw [← ending_readStr]
  apply escapes_bind
  intro signature _
  rw [← ending_readVersion (hget "profile_version")]
  apply escapes_bind
  intro profileVersion _
  rw [← ending_readTimezone (hget "timezone")]
  apply escapes_bind
  intro timezone _
  exact escapes_checkHeader (readStr_eq_ok hsession) (readStr_eq_ok hcompany) (readStr_eq_ok hsubject)
    (readInt_eq_ok hissued)

/-- Decoding a text, and what is done with its value. -/
theorem escapes_loads {α : Type} {text : List Char} {next : Decoded → Except Thrown α} {rest : Decoded → Ending}
    (h : ∀ payload, ending catches (next payload) = .escaped ↔ rest payload = .escaped) :
    ending catches (env.interpreter.loads text >>= next) = .escaped ↔ env.textualEnding text rest = .escaped := by
  unfold Interpreter.loads textualEnding
  cases Decoded.scanText env.interpreter text with
  | ok payload => exact h payload
  | error failure =>
      cases failure with
      | invalid => exact Iff.rfl
      | tooDeep => exact Iff.rfl

/-- What is accepted has been signed. -/
theorem signed_of_checkHeader {header : Header} {context : InternalSessionContext}
    (h : env.checkHeader now header = .ok (some context)) :
    header.signature = codesOf (env.hmac env.sessionSecret header.message) := by
  unfold checkHeader at h
  cases hage : env.maxAge with
  | none =>
      rw [hage] at h
      cases h
  | some maxAge =>
      rw [hage] at h
      dsimp only at h
      split at h
      · cases h
      · obtain ⟨age, -, h⟩ := bind_eq_ok.mp h
        split at h
        · cases h
        · obtain ⟨valid, hvalid, h⟩ := bind_eq_ok.mp h
          cases valid with
          | true => exact eq_of_compareDigest hvalid
          | false => cases h

/-- A text that is not signed is answered with `None` exactly where no exception escapes. -/
theorem session_fails_closed_iff (raw : Option (List Char)) :
    (¬env.SessionSigned raw → env.verifySessionContext now raw = .ok none) ↔
      env.SessionSigned raw ∨ env.sessionEnding raw ≠ .escaped := by
  cases raw with
  | none => exact ⟨fun _ => .inr Ending.noConfusion, fun _ _ => rfl⟩
  | some text =>
      unfold verifySessionContext sessionEnding
      dsimp only
      by_cases hsecret : env.sessionSecret = ""
      · rw [if_pos hsecret, if_pos hsecret]
        exact ⟨fun _ => .inr Ending.noConfusion, fun _ _ => rfl⟩
      · rw [if_neg hsecret, if_neg hsecret]
        have hending : ending catches (env.interpreter.loads text >>= env.readHeader >>= env.checkHeader now) = .escaped ↔
            env.textualEnding text env.headerEnding = .escaped := by
          rw [bind_assoc]
          exact escapes_loads escapes_header
        rw [Ne, ← not_congr hending]
        apply failsClosed_iff
        intro context h
        obtain ⟨header, hheader, hcontext⟩ := bind_eq_ok.mp h
        exact ⟨text, header, rfl, hheader, signed_of_checkHeader hcontext⟩

end Session

/-! ## The OAuth state -/

section State

variable {env : Environment} {K : Type} [Ring K] [LinearOrder K] {now : K}

theorem escapes_fields (signature payload : Decoded) :
    ending catches (do
      let signature ← env.interpreter.str signature
      let issuedAt ← env.readInt payload "issued_at"
      let age ← elapsed now issuedAt
      if age > lifetime then return none
      let valid ← env.checkSignature payload signature
      return if valid then some payload else none) = .escaped ↔
      env.fieldsEnding now signature payload = .escaped := by
  unfold fieldsEnding
  rw [← ending_str]
  apply escapes_bind
  intro text _
  rw [← ending_readInt]
  apply escapes_bind
  intro issuedAt hissued
  rw [readInt_eq_ok hissued]
  unfold elapsed
  by_cases hfloat : floatLimit ≤ |env.intAt payload "issued_at"|
  · rw [if_pos hfloat, if_pos hfloat]
    exact Iff.rfl
  rw [if_neg hfloat, if_neg hfloat]
  change ending catches (if |now - env.intAt payload "issued_at"| > (lifetime : K) then _ else _) = .escaped ↔ _
  split
  · exact Iff.rfl
  · unfold checkSignature Interpreter.dumps
    split
    · exact Iff.rfl
    · constructor
      · intro hescaped
        exact absurd hescaped (ending_compareDigest_ne _ _ _)
      · intro hescaped
        cases hescaped

/-- The reading of a state, up to its signature. -/
theorem escapes_authenticate (now : K) (state : List Char) :
    ending catches (env.authenticate now state) = .escaped ↔
      env.textualEnding (unquote state) (env.payloadEnding now) = .escaped := by
  unfold authenticate openState
  simp only [bind_assoc, pure_bind]
  apply escapes_loads
  intro payload
  cases payload with
  | obj members =>
      unfold popSignature payloadEnding
      dsimp only
      cases (Decoded.obj members).member? "signature" with
      | none => exact Iff.rfl
      | some signature => exact escapes_fields signature _
  | null | bool _ | int _ | float _ | str _ | arr _ => exact Iff.rfl

/-- A payload that the query is made for has been signed. -/
theorem signed_of_authenticate {state : List Char} {payload : Decoded}
    (h : env.authenticate now state = .ok (some payload)) : env.StateSigned state := by
  obtain ⟨opened, hopened, h⟩ := bind_eq_ok.mp h
  obtain ⟨issuedAt, -, h⟩ := bind_eq_ok.mp h
  obtain ⟨age, -, h⟩ := bind_eq_ok.mp h
  split at h
  · cases h
  · obtain ⟨valid, hvalid, h⟩ := bind_eq_ok.mp h
    obtain ⟨message, hmessage, hcompared⟩ := bind_eq_ok.mp hvalid
    cases valid with
    | true => exact ⟨opened, message, hopened, hmessage, eq_of_compareDigest hcompared⟩
    | false => cases h

/-- A state that is not signed is answered with `None` exactly where no exception escapes. -/
theorem state_fails_closed_iff (state : List Char) :
    (¬env.StateSigned state → env.verifyAuthorizationState now state = .ok none) ↔
      env.StateSigned state ∨ env.stateEnding now state ≠ .escaped := by
  unfold verifyAuthorizationState stateEnding
  by_cases hempty : env.stateSecret = "" ∨ state = []
  · rw [if_pos hempty, if_pos hempty]
    exact ⟨fun _ => .inr Ending.noConfusion, fun _ _ => rfl⟩
  rw [if_neg hempty, if_neg hempty]
  by_cases hsigned : env.StateSigned state
  · exact ⟨fun _ => .inl hsigned, fun _ hnot => absurd hsigned hnot⟩
  -- the query is not reached
  have hnone : (env.authenticate now state >>= fun
      | none => .ok none
      | some payload => env.redeem payload) =
      (env.authenticate now state >>= fun _ => .ok none : Except Thrown (Option StoredState)) := by
    cases houtcome : env.authenticate now state with
    | error exception => rfl
    | ok result =>
        cases result with
        | none => rfl
        | some payload => exact absurd (signed_of_authenticate houtcome) hsigned
  have hending : ending catches
      (env.authenticate now state >>= fun _ => .ok none : Except Thrown (Option StoredState)) = .escaped ↔
      env.textualEnding (unquote state) (env.payloadEnding now) = .escaped := by
    rw [← escapes_authenticate now]
    cases env.authenticate now state with
    | error exception => exact Iff.rfl
    | ok result => exact Iff.rfl
  rw [hnone, Ne, ← not_congr hending]
  apply failsClosed_iff
  intro stored h
  obtain ⟨result, -, h⟩ := bind_eq_ok.mp h
  cases h

end State

end Environment

/-! ## The result -/

/-- Both functions answer an unsigned text with `None` exactly where no exception escapes the reading of its fields. -/
theorem unsigned_input_fails_closed_iff {K : Type} [Ring K] [LinearOrder K] (env : Environment) (now : K) :
    (∀ raw, (¬env.SessionSigned raw → env.verifySessionContext now raw = .ok none) ↔
      env.SessionSigned raw ∨ env.sessionEnding raw ≠ .escaped) ∧
      ∀ state, (¬env.StateSigned state → env.verifyAuthorizationState now state = .ok none) ↔
        env.StateSigned state ∨ env.stateEnding now state ≠ .escaped := by
  constructor
  · exact env.session_fails_closed_iff
  · exact env.state_fails_closed_iff

/-! ## Two inputs -/

/-- A server with both secrets, and a stack for sixteen levels. -/
def sampleEnvironment : Environment where
  interpreter :=
    { floats := default
      truncated := fun _ => 0
      repr := fun _ => ""
      reprTooDeep := fun _ => false
      dumpsTooDeep := fun _ => false
      scanDepth := 16
      maxStrDigits := 4300 }
  hmac := fun _ _ => "5ea1"
  zoneInfo := fun _ => none
  sessionSecret := "secret"
  maxAge := some 300
  stateSecret := "secret"
  consumeOAuthState := fun _ _ => .ok none

/-- A session context whose time is `Infinity`. -/
def endlessHeader : List Char :=
  ("\x7b\"session_id\":\"s\",\"company_id\":\"c\",\"auth_subject\":\"a\",\"issued_at\":Infinity," ++
    "\"signature\":\"\"\x7d").toList

theorem endlessHeader_raises :
    sampleEnvironment.verifySessionContext (0 : Int) (some endlessHeader) = .error (.raised .overflowError) ∧
      (sampleEnvironment.interpreter.loads endlessHeader >>= sampleEnvironment.readHeader) =
        .error (.raised .overflowError) := by
  decide +kernel

/-- The state `5` has no `pop`. -/
theorem number_raises :
    sampleEnvironment.verifyAuthorizationState (0 : Int) ['5'] = .error (.raised .attributeError) :=
  rfl

/-- Neither input is signed, and both make the functions raise. -/
theorem unsigned_input_raises :
    ¬((∀ raw, ¬sampleEnvironment.SessionSigned raw →
        sampleEnvironment.verifySessionContext (0 : Int) raw = .ok none) ∨
      ∀ state, ¬sampleEnvironment.StateSigned state →
        sampleEnvironment.verifyAuthorizationState (0 : Int) state = .ok none) := by
  rintro (hsession | hstate)
  · have hunsigned : ¬sampleEnvironment.SessionSigned (some endlessHeader) := by
      rintro ⟨text, header, htext, hheader, -⟩
      obtain rfl := Option.some.inj htext
      rw [endlessHeader_raises.2] at hheader
      cases hheader
    have hnone := hsession _ hunsigned
    rw [endlessHeader_raises.1] at hnone
    cases hnone
  · have hunsigned : ¬sampleEnvironment.StateSigned ['5'] := by
      rintro ⟨opened, message, hopened, -, -⟩
      cases hopened
    have hnone := hstate _ hunsigned
    rw [number_raises] at hnone
    cases hnone

end UnsignedInput
end VoiceAssistants
