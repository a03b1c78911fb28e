import VoiceAssistants.Python.JsonRoundTrip
import VoiceAssistants.Python.Percent
import VoiceAssistants.Python.Integers
import VoiceAssistants.Backend.ToolExecution
import Mathlib.Data.Rat.Floor

/-!
# The OAuth state (`get_authorization_url`, `verify_authorization_state`, `db/oauth_states.py`)

A state is a JSON object with the company, the session, the second of its issue, a nonce and the signature of the other
members, percent-encoded.  Its PKCE verifier is stored under the nonce.  A state that comes back is decoded, its time and
its signature are checked, and its row is marked as used by one `UPDATE`.

Any number of issues and verifications are at one of their awaits, and the steps come in any order and after any time.
`Assumed` is what the protocol rests on: nonces are distinct, and a text with a valid signature carries what has been
signed for a state that was returned.

* `OAuthInvariant` — a returned state has its row, and what waits for its row carries what was signed.
* `state_accepted_at_most_once` — the results: what is accepted is what was issued, once; and a state is accepted when it
  is presented within its lifetime, if the database stores the company and the session as they are.

An accepted text need not be the state as it was returned: another spelling of the same object is accepted in its place
(`respelled_state_accepted`), and a state for a company id in capitals never is.

The keyed hash, the S256 challenge, and Python's `str` and `int` of values that are neither texts nor integers are
parameters.
-/

namespace VoiceAssistants
namespace OAuth

open Sql Async Python Db
open Backend (Delivery)

/-! ## The stored state -/

/-- How asyncpg reads a text as a UUID: 32 hexadecimal digits between which hyphens may stand. -/
def postgresUuid (text : String) : Option Uuid :=
  let digits := text.toList.filter (· != '-')
  if digits.length = 32 then (hexValue digits).map (BitVec.ofNat 128) else none

/-- A row of `oauth_states`. -/
structure OAuthRow (K : Type) where
  nonce : String
  companyId : Uuid
  sessionId : String
  codeVerifier : String
  expiresAt : K
  used : Bool
  deriving DecidableEq

/-- What `consume_oauth_state` returns, and `verify_authorization_state` after it. -/
structure StoredState where
  companyId : String
  sessionId : String
  codeVerifier : String
  deriving DecidableEq, Repr

section Clock

variable {K : Type} [Ring K] [LinearOrder K]

/-- The transaction of `save_oauth_state`; `none` is an exception. -/
def saveOAuthState (nonce companyId sessionId codeVerifier : String) (expiresAt : K) (rows : List (OAuthRow K)) :
    Option (List (OAuthRow K)) := do
  let storedNonce ← varchar 255 nonce
  let company ← postgresUuid companyId
  let storedSession ← varchar 128 sessionId
  let storedVerifier ← varchar 128 codeVerifier
  insertAbsent OAuthRow.nonce ⟨storedNonce, company, storedSession, storedVerifier, expiresAt, false⟩ rows

/-- The condition of the `UPDATE`. -/
def OAuthRow.consumable (nonce : String) (company : Uuid) (now : K) (row : OAuthRow K) : Bool :=
  row.nonce = nonce && row.companyId = company && !row.used && now < row.expiresAt

/-- The row as it is returned. -/
def OAuthRow.stored (row : OAuthRow K) : StoredState :=
  ⟨row.companyId.text, row.sessionId, row.codeVerifier⟩

def OAuthRow.use (row : OAuthRow K) : OAuthRow K :=
  { row with used := true }

/-- The transaction of `consume_oauth_state`: the row that was marked, and the table. -/
def consumeOAuthState (nonce : String) (company : Uuid) (now : K) (rows : List (OAuthRow K)) :
    Option StoredState × List (OAuthRow K) :=
  ((rows.find? (OAuthRow.consumable nonce company now)).map OAuthRow.stored,
    updateWhere (OAuthRow.consumable nonce company now) OAuthRow.use rows)

/-! ## The state -/

/-- `int(value)`. -/
inductive IntResult
  | value (number : Int)
  | rejected
  /-- The `OverflowError` of an infinite float, which nothing catches. -/
  | raised
  deriving DecidableEq, Repr

/-- What the state is built on. -/
structure Settings where
  stateSecret : String
  hmac : (secret : String) → (message : List Char) → String
  challenge : (codeVerifier : String) → String
  floats : Json.Floats
  /-- `str(value)` of a value that is no text. -/
  str : Json → String
  /-- `int(value)` of a float. -/
  floatInt : String → IntResult

def Settings.text (settings : Settings) : Json → String
  | .str value => value
  | value => settings.str value

def Settings.int (settings : Settings) : Json → IntResult
  | .int number => .value number
  | .bool value => .value (if value then 1 else 0)
  | .str text => match parseInt text with
      | some number => .value number
      | none => .rejected
  | .float repr => settings.floatInt repr
  | .null | .arr _ | .obj _ => .rejected

/-- `state_payload` before it is signed. -/
structure StatePayload where
  companyId : String
  sessionId : String
  issuedAt : Int
  nonce : String
  deriving DecidableEq, Repr

def StatePayload.members (payload : StatePayload) : List (String × Json) :=
  [("company_id", .str payload.companyId), ("session_id", .str payload.sessionId),
    ("issued_at", .int payload.issuedAt), ("nonce", .str payload.nonce)]

/-- `json.dumps(payload, sort_keys=True, separators=(",", ":"))`. -/
def message (members : List (String × Json)) : List Char :=
  (Json.sortKeys (.obj members)).dumps

def Settings.signature (settings : Settings) (members : List (String × Json)) : String :=
  settings.hmac settings.stateSecret (message members)

/-- `quote(json.dumps(state_payload))` of the signed payload. -/
def Settings.state (settings : Settings) (payload : StatePayload) : String :=
  String.ofList (quote (Json.dumps
    (.obj (payload.members ++ [("signature", .str (settings.signature payload.members))]))))

/-- The parameters of the authorization URL that depend on the request. -/
structure AuthorizationUrl where
  state : String
  codeChallenge : String
  codeChallengeMethod : String
  deriving DecidableEq, Repr

/-! ## The system -/

/-- An issue that is not saved yet, with its expiry once that is computed. -/
structure Draft (K : Type) where
  payload : StatePayload
  codeVerifier : String
  expiresAt : Option K
  deriving DecidableEq

/-- A state that was returned. -/
structure Issue (K : Type) where
  payload : StatePayload
  codeVerifier : String
  expiresAt : K
  url : AuthorizationUrl
  deriving DecidableEq

/-- A presented text that waits for its row: the payload without its signature, the texts of the query, and the time
that the row is compared with once that is read. -/
structure Verification (K : Type) where
  presented : String
  members : List (String × Json)
  nonce : String
  companyId : String
  now : Option K

/-- How a verification ends. -/
inductive Verdict
  | rejected
  | raised
  | accepted (stored : StoredState)
  deriving DecidableEq, Repr

/-- An acceptance. -/
structure Acceptance where
  presented : String
  nonce : String
  stored : StoredState
  deriving DecidableEq, Repr

structure State (K : Type) where
  clock : K
  rows : List (OAuthRow K)
  drafts : List (Draft K)
  issued : List (Issue K)
  waiting : List (Verification K)
  /-- What was accepted, newest first. -/
  accepted : List Acceptance

def initial (time : K) : State K :=
  ⟨time, [], [], [], [], []⟩

/-- Ten minutes. -/
def lifetime : Int := 600

/-- `payload.pop("signature")` of a decoded state: the other members, and the text of the signature. -/
def Settings.opened (settings : Settings) (presented : String) : Option (List (String × Json) × String) :=
  match Json.loads settings.floats (unquote presented.toList) with
  | some (.obj members) => ((Json.obj members).member? "signature").map fun signature =>
      (members.filter (·.1 ≠ "signature"), settings.text signature)
  | _ => none

/-- The texts that the query is made with; `none` is a `KeyError`. -/
def Settings.lookup (settings : Settings) (members : List (String × Json)) : Option (String × String) := do
  let nonce ← (Json.obj members).member? "nonce"
  let companyId ← (Json.obj members).member? "company_id"
  return (settings.text nonce, settings.text companyId)

/-- The time and the signature of a payload. -/
def Settings.checkPayload (settings : Settings) (now : K) (presented : String) (members : List (String × Json))
    (signature : String) : Except Verdict (Verification K) :=
  match ((Json.obj members).member? "issued_at").map settings.int with
  | none | some .rejected => .error .rejected
  | some .raised => .error .raised
  | some (.value issuedAt) =>
      if |now - issuedAt| > lifetime then .error .rejected
      else if signature ≠ settings.signature members then .error .rejected
      else
        match settings.lookup members with
        | none => .error .rejected
        | some (nonce, companyId) => .ok ⟨presented, members, nonce, companyId, none⟩

/-- A presented text, up to the query. -/
def Settings.check (settings : Settings) (now : K) (presented : String) : Except Verdict (Verification K) :=
  if settings.stateSecret = "" ∨ presented = "" then .error .rejected
  else
    match Json.loads settings.floats (unquote presented.toList) with
    -- a list has another `pop`, the values but lists and objects have none
    | none | some (.arr _) => .error .rejected
    | some .null | some (.bool _) | some (.int _) | some (.float _) | some (.str _) => .error .raised
    | some (.obj _) =>
        match settings.opened presented with
        | none => .error .rejected
        | some (members, signature) => settings.checkPayload now presented members signature

/-- What is made of the row that was marked. -/
def Settings.judge (settings : Settings) (verification : Verification K) : Option StoredState → Verdict
  | none => .rejected
  | some stored =>
      if stored.companyId ≠ verification.companyId then .rejected
      else
        match (Json.obj verification.members).member? "session_id" with
        | none => .rejected
        | some sessionId => if stored.sessionId ≠ settings.text sessionId then .rejected else .accepted stored

inductive Action (K : Type)
  | pass (time : K)
  /-- The texts of `secrets.token_urlsafe(18)` and `secrets.token_urlsafe(64)`. -/
  | begin (companyId sessionId nonce codeVerifier : String)
  | expire (index : Nat)
  | save (index : Nat) (delivery : Delivery)
  | present (presented : String)
  | read (index : Nat)
  | consume (index : Nat) (delivery : Delivery)

/-- The URL of a draft. -/
def Settings.url (settings : Settings) (payload : StatePayload) (codeVerifier : String) : AuthorizationUrl :=
  ⟨settings.state payload, settings.challenge codeVerifier, "S256"⟩

/-- The end of a draft. -/
def State.save (settings : Settings) (s : State K) (index : Nat) (draft : Draft K) (expiresAt : K)
    (delivery : Delivery) : State K :=
  let rest := { s with drafts := s.drafts.eraseIdx index }
  match saveOAuthState draft.payload.nonce draft.payload.companyId draft.payload.sessionId draft.codeVerifier expiresAt
      s.rows, delivery with
  | some rows, .answered =>
      let url := settings.url draft.payload draft.codeVerifier
      { rest with rows := rows, issued := ⟨draft.payload, draft.codeVerifier, expiresAt, url⟩ :: s.issued }
  | some rows, .lost => { rest with rows := rows }
  | some _, .failed | none, _ => rest

/-- The end of a verification. -/
def State.consume (settings : Settings) (s : State K) (index : Nat) (verification : Verification K) (now : K)
    (delivery : Delivery) : State K :=
  let rest := { s with waiting := s.waiting.eraseIdx index }
  match postgresUuid verification.companyId, delivery with
  -- an id that is no UUID is rejected before the query, as a `ValueError`
  | none, _ | some _, .failed => rest
  | some company, .lost => { rest with rows := (consumeOAuthState verification.nonce company now s.rows).2 }
  | some company, .answered =>
      let consumed := consumeOAuthState verification.nonce company now s.rows
      match settings.judge verification consumed.1 with
      | .accepted stored =>
          let acceptance := ⟨verification.presented, verification.nonce, stored⟩
          { rest with rows := consumed.2, accepted := acceptance :: s.accepted }
      | .rejected | .raised => { rest with rows := consumed.2 }

def step [FloorRing K] (settings : Settings) (s : State K) : Action K → Option (State K)
  | .pass time => if s.clock ≤ time then some { s with clock := time } else none
  | .begin companyId sessionId nonce codeVerifier =>
      if settings.stateSecret ≠ "" ∧ nonce.length = 24 ∧ codeVerifier.length = 86 then
        let payload : StatePayload := ⟨companyId, sessionId, truncate s.clock, nonce⟩
        some { s with drafts := s.drafts ++ [⟨payload, codeVerifier, none⟩] }
      else none
  | .expire index =>
      match s.drafts[index]? with
      | some ⟨payload, codeVerifier, none⟩ =>
          some { s with drafts := s.drafts.set index ⟨payload, codeVerifier, some (s.clock + lifetime)⟩ }
      | _ => none
  | .save index delivery =>
      match s.drafts[index]? with
      | some ⟨payload, codeVerifier, some expiresAt⟩ =>
          some (s.save settings index ⟨payload, codeVerifier, some expiresAt⟩ expiresAt delivery)
      | _ => none
  | .present presented =>
      match settings.check s.clock presented with
      | .ok verification => some { s with waiting := s.waiting ++ [verification] }
      | .error _ => some s
  | .read index =>
      match s.waiting[index]? with
      | some ⟨presented, members, nonce, companyId, none⟩ =>
          some { s with waiting := s.waiting.set index ⟨presented, members, nonce, companyId, some s.clock⟩ }
      | _ => none
  | .consume index delivery =>
      match s.waiting[index]? with
      | some ⟨presented, members, nonce, companyId, some now⟩ =>
          some (s.consume settings index ⟨presented, members, nonce, companyId, some now⟩ now delivery)
      | _ => none

/-- What is assumed of the keyed hash: a text with a valid signature carries the message of a state that was returned. -/
def Assumed (settings : Settings) (s : State K) : Action K → Prop
  | .present presented => ∀ opened ∈ settings.opened presented, opened.2 = settings.signature opened.1 →
      ∃ issue ∈ s.issued, message opened.1 = message issue.payload.members
  | .pass _ | .begin .. | .expire _ | .save .. | .read _ | .consume .. => True

instance (settings : Settings) (s : State K) (action : Action K) : Decidable (Assumed settings s action) :=
  match action with
  | .present presented => inferInstanceAs (Decidable (∀ opened ∈ settings.opened presented, _))
  | .pass _ | .begin .. | .expire _ | .save .. | .read _ | .consume .. => .isTrue trivial

/-! ## The round trip of a state -/

section RoundTrip

variable {settings : Settings} {payload : StatePayload}

theorem canonical_members (floats : Json.Floats) (payload : StatePayload) :
    Json.Canonical floats (.obj payload.members) := by
  have hnames : ["company_id", "session_id", "issued_at", "nonce"].Nodup := by decide
  refine ⟨hnames, Json.canonicalMembers_iff.mpr fun member hmem => ?_⟩
  simp only [StatePayload.members, List.mem_cons, List.not_mem_nil, or_false] at hmem
  rcases hmem with rfl | rfl | rfl | rfl <;> trivial

/-- The signed payload. -/
def Settings.signed (settings : Settings) (payload : StatePayload) : Json :=
  .obj (payload.members ++ [("signature", .str (settings.signature payload.members))])

theorem canonical_signed : Json.Canonical settings.floats (settings.signed payload) := by
  have hnames : ["company_id", "session_id", "issued_at", "nonce", "signature"].Nodup := by decide
  refine ⟨hnames, Json.canonicalMembers_iff.mpr fun member hmem => ?_⟩
  simp only [StatePayload.members, List.cons_append, List.nil_append, List.mem_cons, List.not_mem_nil, or_false] at hmem
  rcases hmem with rfl | rfl | rfl | rfl | rfl <;> trivial

/-- A state decodes to its signed payload. -/
theorem loads_state : Json.loads settings.floats (unquote (settings.state payload).toList) =
    some (settings.signed payload) := by
  have hascii : IsAscii (settings.signed payload).dumps := fun c hc => Json.isAscii_dumps canonical_signed c hc
  have htext : unquote (settings.state payload).toList = (settings.signed payload).dumps := by
    rw [Settings.state, String.toList_ofList]
    exact unquote_quote hascii
  rw [htext, Json.loads_dumps canonical_signed]

theorem opened_of_loads {presented : String}
    (h : Json.loads settings.floats (unquote presented.toList) = some (settings.signed payload)) :
    settings.opened presented = some (payload.members, settings.signature payload.members) := by
  rw [Settings.opened, h]
  rfl

theorem state_ne_empty : settings.state payload ≠ "" := by
  intro h
  have hlist : (settings.state payload).toList = [] := by rw [h]; rfl
  rw [Settings.state, String.toList_ofList] at hlist
  revert hlist
  exact List.cons_ne_nil _ _

end RoundTrip

/-! ## What a step does -/

section Steps

variable {settings : Settings} {s t : State K} {action : Action K}

inductive Stepped [FloorRing K] (settings : Settings) (s : State K) : Action K → State K → Prop
  | passed (time : K) (later : s.clock ≤ time) : Stepped settings s (.pass time) { s with clock := time }
  | begun (companyId sessionId nonce codeVerifier : String) (secret : settings.stateSecret ≠ "")
      (nonceLength : nonce.length = 24) (verifierLength : codeVerifier.length = 86) :
      Stepped settings s (.begin companyId sessionId nonce codeVerifier)
        { s with drafts := s.drafts ++ [⟨⟨companyId, sessionId, truncate s.clock, nonce⟩, codeVerifier, none⟩] }
  | expires (index : Nat) (payload : StatePayload) (codeVerifier : String)
      (found : s.drafts[index]? = some ⟨payload, codeVerifier, none⟩) :
      Stepped settings s (.expire index)
        { s with drafts := s.drafts.set index ⟨payload, codeVerifier, some (s.clock + lifetime)⟩ }
  | saved (index : Nat) (delivery : Delivery) (payload : StatePayload) (codeVerifier : String) (expiresAt : K)
      (found : s.drafts[index]? = some ⟨payload, codeVerifier, some expiresAt⟩) :
      Stepped settings s (.save index delivery)
        (s.save settings index ⟨payload, codeVerifier, some expiresAt⟩ expiresAt delivery)
  | refused (presented : String) : Stepped settings s (.present presented) s
  | presented (presented : String) (verification : Verification K)
      (checked : settings.check s.clock presented = .ok verification) :
      Stepped settings s (.present presented) { s with waiting := s.waiting ++ [verification] }
  | reads (index : Nat) (verification : Verification K) (found : s.waiting[index]? = some verification) :
      Stepped settings s (.read index)
        { s with waiting := s.waiting.set index { verification with now := some s.clock } }
  | consumed (index : Nat) (delivery : Delivery) (verification : Verification K) (now : K)
      (found : s.waiting[index]? = some verification) :
      Stepped settings s (.consume index delivery) (s.consume settings index verification now delivery)

theorem step_cases [FloorRing K] (h : step settings s action = some t) : Stepped settings s action t := by
  cases action with
  | pass time =>
      simp only [step] at h
      split at h
      · rename_i hlater
        obtain rfl := Option.some.inj h
        exact .passed time hlater
      · cases h
  | begin companyId sessionId nonce codeVerifier =>
      simp only [step] at h
      split at h
      · rename_i hbegins
        obtain rfl := Option.some.inj h
        exact .begun companyId sessionId nonce codeVerifier hbegins.1 hbegins.2.1 hbegins.2.2
      · cases h
  | expire index =>
      simp only [step] at h
      split at h
      · rename_i payload codeVerifier hfound
        obtain rfl := Option.some.inj h
        exact .expires index payload codeVerifier hfound
      · cases h
  | save index delivery =>
      simp only [step] at h
      split at h
      · rename_i payload codeVerifier expiresAt hfound
        obtain rfl := Option.some.inj h
        exact .saved index delivery payload codeVerifier expiresAt hfound
      · cases h
  | present presented =>
      simp only [step] at h
      split at h
      · rename_i verification hchecked
        obtain rfl := Option.some.inj h
        exact .presented presented verification hchecked
      · obtain rfl := Option.some.inj h
        exact .refused presented
  | read index =>
      simp only [step] at h
      split at h
      · rename_i presented members nonce companyId hfound
        obtain rfl := Option.some.inj h
        exact .reads index _ hfound
      · cases h
  | consume index delivery =>
      simp only [step] at h
      split at h
      · rename_i presented members nonce companyId now hfound
        obtain rfl := Option.some.inj h
        exact .consumed index delivery _ now hfound
      · cases h

/-- What a text that passes the check is. -/
theorem check_ok {now : K} {presented : String} {verification : Verification K}
    (h : settings.check now presented = .ok verification) :
    ∃ members, settings.opened presented = some (members, settings.signature members) ∧
      Json.Canonical settings.floats (.obj members) ∧
      settings.lookup members = some (verification.nonce, verification.companyId) ∧
      verification.presented = presented ∧ verification.members = members := by
  unfold Settings.check at h
  split at h
  · cases h
  · split at h
    · cases h
    · cases h
    · cases h
    · cases h
    · cases h
    · cases h
    · cases h
    · rename_i all hloads
      have hopened : settings.opened presented = ((Json.obj all).member? "signature").map fun signature =>
          (all.filter (·.1 ≠ "signature"), settings.text signature) := by
        rw [Settings.opened, hloads]
      split at h
      · cases h
      · rename_i members signature hpair
        have hmembers : all.filter (·.1 ≠ "signature") = members := by
          rw [hopened] at hpair
          obtain ⟨value, -, heq⟩ := Option.map_eq_some_iff.mp hpair
          exact (Prod.mk.inj heq).1
        have hcanonical : Json.Canonical settings.floats (.obj members) := by
          rw [← hmembers]
          exact Json.canonical_filter (Json.canonical_loads hloads) _
        unfold Settings.checkPayload at h
        split at h
        · cases h
        · cases h
        · cases h
        · split at h
          · cases h
          · split at h
            · cases h
            · rename_i hsignature
              split at h
              · cases h
              · rename_i nonce companyId hlookup
                cases h
                have hsigned : signature = settings.signature members := Decidable.not_not.mp hsignature
                exact ⟨members, hsigned ▸ hpair, hcanonical, hlookup, rfl, rfl⟩

end Steps

/-! ## What is signed for a returned state -/

section Carried

variable {settings : Settings} {issue : Issue K} {verification : Verification K}

/-- The text carries what was signed for the state: it need not be the state's own text. -/
def Settings.Spells (settings : Settings) (presented : String) (issue : Issue K) : Prop :=
  ∃ members, settings.opened presented = some (members, settings.signature issue.payload.members) ∧
    message members = message issue.payload.members

/-- A verification whose row is the one of the state. -/
structure Settings.Carries (settings : Settings) (verification : Verification K) (issue : Issue K) : Prop where
  spells : settings.Spells verification.presented issue
  nonce : verification.nonce = issue.payload.nonce
  companyId : verification.companyId = issue.payload.companyId
  sessionId : (Json.obj verification.members).member? "session_id" = some (.str issue.payload.sessionId)

/-- A text with the message of a state has the members of that state. -/
theorem carries_of_message {now : K} {presented : String} (hcheck : settings.check now presented = .ok verification)
    (hmessage : ∀ opened ∈ settings.opened presented, opened.2 = settings.signature opened.1 →
      message opened.1 = message issue.payload.members) : settings.Carries verification issue := by
  obtain ⟨members, hopened, hcanonical, hlookup, rfl, hmembers⟩ := check_ok hcheck
  have hsame : message members = message issue.payload.members := hmessage _ hopened rfl
  have htext : ∀ key text, (Json.obj issue.payload.members).member? key = some (.str text) →
      (Json.obj members).member? key = some (.str text) := fun key text =>
    Json.member?_of_sorted_text hcanonical (canonical_members settings.floats issue.payload) hsame
  have hnonce := htext "nonce" issue.payload.nonce rfl
  have hcompany := htext "company_id" issue.payload.companyId rfl
  have hkeys : settings.lookup members = some (issue.payload.nonce, issue.payload.companyId) := by
    rw [Settings.lookup, hnonce, hcompany]
    rfl
  rw [hkeys] at hlookup
  obtain ⟨hnonce', hcompany'⟩ := Prod.mk.inj (Option.some.inj hlookup)
  have hsignature : settings.signature members = settings.signature issue.payload.members := by
    rw [Settings.signature, hsame, Settings.signature]
  constructor
  · exact ⟨members, hsignature ▸ hopened, hsame⟩
  · exact hnonce'.symm
  · exact hcompany'.symm
  · rw [hmembers]
    exact htext "session_id" issue.payload.sessionId rfl

/-- The row of a state. -/
structure OAuthRow.Backs (row : OAuthRow K) (issue : Issue K) : Prop where
  nonce : row.nonce = issue.payload.nonce
  companyId : postgresUuid issue.payload.companyId = some row.companyId
  sessionId : varchar 128 issue.payload.sessionId = some row.sessionId
  codeVerifier : row.codeVerifier = issue.codeVerifier
  expiresAt : row.expiresAt = issue.expiresAt

/-- The company, the session and the verifier of a state. -/
def Issue.stored (issue : Issue K) : StoredState :=
  ⟨issue.payload.companyId, issue.payload.sessionId, issue.codeVerifier⟩

/-- An acceptance of a state. -/
structure Settings.Genuine (settings : Settings) (acceptance : Acceptance) (issue : Issue K) : Prop where
  spells : settings.Spells acceptance.presented issue
  nonce : acceptance.nonce = issue.payload.nonce
  stored : acceptance.stored = issue.stored

omit [Ring K] [LinearOrder K] in
/-- What is accepted from the row of a state is the state. -/
theorem stored_of_accepted {row : OAuthRow K} {stored : StoredState} (hcarries : settings.Carries verification issue)
    (hbacks : row.Backs issue) (h : settings.judge verification (some row.stored) = .accepted stored) :
    stored = issue.stored := by
  unfold Settings.judge at h
  simp only [hcarries.sessionId] at h
  split at h
  · cases h
  · rename_i hcompany
    split at h
    · cases h
    · rename_i hsession
      obtain rfl : row.stored = stored := Verdict.accepted.inj h
      have hcompany' : row.companyId.text = issue.payload.companyId :=
        (Decidable.not_not.mp hcompany).trans hcarries.companyId
      have hsession' : row.sessionId = issue.payload.sessionId := Decidable.not_not.mp hsession
      simp only [OAuthRow.stored, Issue.stored, hcompany', hsession', hbacks.codeVerifier]

end Carried

end Clock

/-! ## The invariant -/

section Invariant

variable {K : Type} {settings : Settings} {s t : State K}

/-- Every returned state has its row, what waits for a row carries what was signed for a returned state, and what was
accepted is a returned state whose row is used. -/
structure OAuthInvariant (settings : Settings) (s : State K) : Prop where
  keyed : Keyed OAuthRow.nonce s.rows
  drafted : ∀ draft ∈ s.drafts, settings.stateSecret ≠ "" ∧ draft.payload.nonce.length = 24 ∧
    draft.codeVerifier.length = 86
  secret : ∀ issue ∈ s.issued, settings.stateSecret ≠ ""
  returned : ∀ issue ∈ s.issued, issue.url = settings.url issue.payload issue.codeVerifier
  backed : ∀ issue ∈ s.issued, ∃ row ∈ s.rows, row.Backs issue
  carried : ∀ verification ∈ s.waiting, ∃ issue ∈ s.issued, settings.Carries verification issue
  genuine : ∀ acceptance ∈ s.accepted, ∃ issue ∈ s.issued, settings.Genuine acceptance issue
  used : ∀ acceptance ∈ s.accepted, ∃ row ∈ s.rows, row.nonce = acceptance.nonce ∧ row.used = true
  once : (s.accepted.map Acceptance.nonce).Nodup

theorem oauthInvariant_initial (time : K) : OAuthInvariant settings (initial time) where
  keyed := List.nodup_nil
  drafted := by simp [initial]
  secret := by simp [initial]
  returned := by simp [initial]
  backed := by simp [initial]
  carried := by simp [initial]
  genuine := by simp [initial]
  used := by simp [initial]
  once := List.nodup_nil

/-! ### Saving -/

/-- A row that is saved is new, unused and keeps the nonce and the verifier. -/
theorem saveOAuthState_eq_some {nonce companyId sessionId codeVerifier : String} {expiresAt : K}
    {rows rows' : List (OAuthRow K)} (hnonce : nonce.length = 24) (hverifier : codeVerifier.length = 86)
    (h : saveOAuthState nonce companyId sessionId codeVerifier expiresAt rows = some rows') :
    ∃ company session, postgresUuid companyId = some company ∧ varchar 128 sessionId = some session ∧
      (∀ row ∈ rows, row.nonce ≠ nonce) ∧ rows' = rows ++ [⟨nonce, company, session, codeVerifier, expiresAt, false⟩] := by
  have hstoredNonce : varchar 255 nonce = some nonce := varchar_of_length_le (by omega)
  have hstoredVerifier : varchar 128 codeVerifier = some codeVerifier := varchar_of_length_le (by omega)
  simp only [saveOAuthState, hstoredNonce, hstoredVerifier, Option.bind_eq_bind, Option.bind_some,
    Option.bind_eq_some_iff] at h
  obtain ⟨company, hcompany, session, hsession, hinsert⟩ := h
  obtain ⟨hnew, rfl⟩ := insertAbsent_eq_some hinsert
  exact ⟨company, session, hcompany, hsession, hnew, rfl⟩

/-- A draft that leaves without a trace. -/
theorem OAuthInvariant.dropDraft (h : OAuthInvariant settings s) (index : Nat) :
    OAuthInvariant settings { s with drafts := s.drafts.eraseIdx index } :=
  { h with drafted := fun draft hmem => h.drafted draft (List.mem_of_mem_eraseIdx hmem) }

/-- A row under a new nonce. -/
theorem OAuthInvariant.addRow (h : OAuthInvariant settings s) {row : OAuthRow K}
    (hnew : ∀ other ∈ s.rows, other.nonce ≠ row.nonce) :
    OAuthInvariant settings { s with rows := s.rows ++ [row] } where
  keyed := keyed_append h.keyed hnew
  drafted := h.drafted
  secret := h.secret
  returned := h.returned
  backed := fun issue hissue => by
    obtain ⟨other, hmem, hbacks⟩ := h.backed issue hissue
    exact ⟨other, List.mem_append_left _ hmem, hbacks⟩
  carried := h.carried
  genuine := h.genuine
  used := fun acceptance hacceptance => by
    obtain ⟨other, hmem, hused⟩ := h.used acceptance hacceptance
    exact ⟨other, List.mem_append_left _ hmem, hused⟩
  once := h.once

/-- A state that is returned once its row is there. -/
theorem OAuthInvariant.addIssue (h : OAuthInvariant settings s) {issue : Issue K} (hsecret : settings.stateSecret ≠ "")
    (hurl : issue.url = settings.url issue.payload issue.codeVerifier) (hbacked : ∃ row ∈ s.rows, row.Backs issue) :
    OAuthInvariant settings { s with issued := issue :: s.issued } where
  keyed := h.keyed
  drafted := h.drafted
  secret := fun other hmem => hsecret
  returned := fun other hmem => by
    rcases List.mem_cons.mp hmem with rfl | hold
    · exact hurl
    · exact h.returned other hold
  backed := fun other hmem => by
    rcases List.mem_cons.mp hmem with rfl | hold
    · exact hbacked
    · exact h.backed other hold
  carried := fun verification hmem => by
    obtain ⟨other, hother, hcarries⟩ := h.carried verification hmem
    exact ⟨other, List.mem_cons_of_mem _ hother, hcarries⟩
  genuine := fun acceptance hmem => by
    obtain ⟨other, hother, hgenuine⟩ := h.genuine acceptance hmem
    exact ⟨other, List.mem_cons_of_mem _ hother, hgenuine⟩
  used := h.used
  once := h.once

theorem OAuthInvariant.save (h : OAuthInvariant settings s) {index : Nat} {payload : StatePayload}
    {codeVerifier : String} {expiresAt : K} (delivery : Delivery)
    (hfound : s.drafts[index]? = some ⟨payload, codeVerifier, some expiresAt⟩) :
    OAuthInvariant settings (s.save settings index ⟨payload, codeVerifier, some expiresAt⟩ expiresAt delivery) := by
  obtain ⟨hsecret, hnonce, hverifier⟩ := h.drafted _ (List.mem_of_getElem? hfound)
  have hrest := h.dropDraft index
  unfold State.save
  cases hsave : saveOAuthState payload.nonce payload.companyId payload.sessionId codeVerifier expiresAt s.rows with
  | none => exact hrest
  | some rows =>
      obtain ⟨company, session, hcompany, hsession, hnew, rfl⟩ := saveOAuthState_eq_some hnonce hverifier hsave
      have hsaved : OAuthInvariant settings { s with
          drafts := s.drafts.eraseIdx index
          rows := s.rows ++ [⟨payload.nonce, company, session, codeVerifier, expiresAt, false⟩] } := hrest.addRow hnew
      cases delivery with
      | failed => exact hrest
      | lost => exact hsaved
      | answered =>
          exact hsaved.addIssue hsecret rfl
            ⟨_, List.mem_append_right _ List.mem_cons_self, rfl, hcompany, hsession, rfl, rfl⟩

/-! ### Consuming -/

/-- A verification that leaves without a trace. -/
theorem OAuthInvariant.dropVerification (h : OAuthInvariant settings s) (index : Nat) :
    OAuthInvariant settings { s with waiting := s.waiting.eraseIdx index } :=
  { h with carried := fun verification hmem => h.carried verification (List.mem_of_mem_eraseIdx hmem) }

variable [LinearOrder K]

/-- The `UPDATE` keeps the rows as far as the states and the used ones are concerned. -/
theorem mem_consumeOAuthState (nonce : String) (company : Uuid) (now : K) {rows : List (OAuthRow K)} {row : OAuthRow K}
    (hmem : row ∈ rows) : ∃ row' ∈ (consumeOAuthState nonce company now rows).2,
      { row' with used := row.used } = row ∧ (row.used = true → row'.used = true) := by
  cases hconsumable : row.consumable nonce company now with
  | false =>
      refine ⟨row, ?_, rfl, id⟩
      have hkept : (if row.consumable nonce company now then row.use else row) ∈
          updateWhere (OAuthRow.consumable nonce company now) OAuthRow.use rows := List.mem_map_of_mem hmem
      rw [hconsumable] at hkept
      exact hkept
  | true => exact ⟨row.use, change_mem_updateWhere hmem hconsumable, rfl, fun _ => rfl⟩

/-- The invariant after the `UPDATE`. -/
theorem OAuthInvariant.mark (h : OAuthInvariant settings s) (nonce : String) (company : Uuid) (now : K) :
    OAuthInvariant settings { s with rows := (consumeOAuthState nonce company now s.rows).2 } where
  keyed := keyed_updateWhere (fun _ => rfl) h.keyed
  drafted := h.drafted
  secret := h.secret
  returned := h.returned
  backed := fun issue hissue => by
    obtain ⟨row, hmem, hbacks⟩ := h.backed issue hissue
    obtain ⟨row', hmem', hsame, -⟩ := mem_consumeOAuthState nonce company now hmem
    obtain ⟨hnonce, hcompany, hsession, hverifier, hexpires⟩ := hbacks
    refine ⟨row', hmem', ?_⟩
    rw [← hsame] at hnonce hcompany hsession hverifier hexpires
    exact ⟨hnonce, hcompany, hsession, hverifier, hexpires⟩
  carried := h.carried
  genuine := h.genuine
  used := fun acceptance hacceptance => by
    obtain ⟨row, hmem, hnonce, hused⟩ := h.used acceptance hacceptance
    obtain ⟨row', hmem', hsame, hused'⟩ := mem_consumeOAuthState nonce company now hmem
    exact ⟨row', hmem', by rw [← hnonce, ← hsame], hused' hused⟩
  once := h.once

/-- A row that is returned was unused, and is used from then on. -/
theorem OAuthInvariant.found (h : OAuthInvariant settings s) {nonce : String} {company : Uuid} {now : K}
    {stored : StoredState} (hfound : (consumeOAuthState nonce company now s.rows).1 = some stored) :
    ∃ row ∈ s.rows, row.nonce = nonce ∧ row.stored = stored ∧
      row.use ∈ (consumeOAuthState nonce company now s.rows).2 ∧ nonce ∉ s.accepted.map Acceptance.nonce := by
  obtain ⟨row, hrow, hstored⟩ := Option.map_eq_some_iff.mp hfound
  have hmem : row ∈ s.rows := List.mem_of_find?_eq_some hrow
  have hconsumable : row.consumable nonce company now = true := List.find?_some hrow
  have hfields := hconsumable
  simp only [OAuthRow.consumable, Bool.and_eq_true, decide_eq_true_eq, Bool.not_eq_true'] at hfields
  obtain ⟨⟨⟨hnonce, -⟩, hunused⟩, -⟩ := hfields
  refine ⟨row, hmem, hnonce, hstored, change_mem_updateWhere hmem hconsumable, ?_⟩
  intro haccepted
  obtain ⟨acceptance, hacceptance, heq⟩ := List.mem_map.mp haccepted
  obtain ⟨other, hother, hothernonce, hused⟩ := h.used acceptance hacceptance
  have hsame : other = row := h.keyed.eq_of_key hother hmem (by rw [hothernonce, heq, hnonce])
  rw [hsame, hunused] at hused
  cases hused

theorem OAuthInvariant.consume (h : OAuthInvariant settings s) {index : Nat} {verification : Verification K}
    (now : K) (delivery : Delivery) (hfound : s.waiting[index]? = some verification) :
    OAuthInvariant settings (s.consume settings index verification now delivery) := by
  obtain ⟨issue, hissue, hcarries⟩ := h.carried verification (List.mem_of_getElem? hfound)
  have hrest := h.dropVerification index
  unfold State.consume
  cases hcompany : postgresUuid verification.companyId with
  | none => exact hrest
  | some company =>
      have hmarked := hrest.mark verification.nonce company now
      cases delivery with
      | failed => exact hrest
      | lost => exact hmarked
      | answered =>
          simp only
          cases hjudge : settings.judge verification (consumeOAuthState verification.nonce company now s.rows).1 with
          | rejected => exact hmarked
          | raised => exact hmarked
          | accepted stored =>
              cases hstored : (consumeOAuthState verification.nonce company now s.rows).1 with
              | none =>
                  rw [hstored] at hjudge
                  cases hjudge
              | some found =>
                  obtain ⟨row, hrow, hnonce, rfl, huse, hfresh⟩ := h.found hstored
                  rw [hstored] at hjudge
                  -- the row that was marked is the row of the state
                  obtain ⟨backing, hbacking, hbacks⟩ := h.backed issue hissue
                  have hsame : row = backing := h.keyed.eq_of_key hrow hbacking
                    (by rw [hnonce, hcarries.nonce, hbacks.nonce])
                  subst hsame
                  have hresult : stored = issue.stored := stored_of_accepted hcarries hbacks hjudge
                  refine { hmarked with genuine := ?_, used := ?_, once := ?_ }
                  · intro acceptance hmem
                    rcases List.mem_cons.mp hmem with rfl | hold
                    · exact ⟨issue, hissue, hcarries.spells, hcarries.nonce, hresult⟩
                    · exact hmarked.genuine acceptance hold
                  · intro acceptance hmem
                    rcases List.mem_cons.mp hmem with rfl | hold
                    · exact ⟨row.use, huse, hnonce, rfl⟩
                    · exact hmarked.used acceptance hold
                  · exact List.nodup_cons.mpr ⟨hfresh, h.once⟩

theorem OAuthInvariant.step [Ring K] [FloorRing K] {action : Action K} (h : OAuthInvariant settings s)
    (hassumed : Assumed settings s action) (hstep : step settings s action = some t) : OAuthInvariant settings t := by
  cases step_cases hstep with
  | passed time later => exact { h with }
  | begun companyId sessionId nonce codeVerifier hsecret hnonce hverifier =>
      refine { h with drafted := ?_ }
      intro draft hmem
      rcases List.mem_append.mp hmem with hold | hnew
      · exact h.drafted draft hold
      · obtain rfl := List.mem_singleton.mp hnew
        exact ⟨hsecret, hnonce, hverifier⟩
  | expires index payload codeVerifier hfound =>
      refine { h with drafted := ?_ }
      intro draft hmem
      rcases List.mem_or_eq_of_mem_set hmem with hold | rfl
      · exact h.drafted draft hold
      · have hdraft := h.drafted _ (List.mem_of_getElem? hfound)
        exact hdraft
  | saved index delivery payload codeVerifier expiresAt hfound => exact h.save delivery hfound
  | refused presented => exact h
  | presented presented verification hchecked =>
      refine { h with carried := ?_ }
      intro other hmem
      rcases List.mem_append.mp hmem with hold | hnew
      · exact h.carried other hold
      · obtain rfl := List.mem_singleton.mp hnew
        -- the signature is valid, so the message is one of a returned state
        obtain ⟨members, hopened, -⟩ := check_ok hchecked
        obtain ⟨issue, hissue, hmessage⟩ := hassumed _ hopened rfl
        refine ⟨issue, hissue, carries_of_message hchecked fun opened hmem _ => ?_⟩
        obtain rfl : opened = (members, settings.signature members) := by
          have hmem' : settings.opened presented = some opened := hmem
          rw [hopened] at hmem'
          exact (Option.some.inj hmem').symm
        exact hmessage
  | reads index verification hfound =>
      refine { h with carried := ?_ }
      intro other hmem
      rcases List.mem_or_eq_of_mem_set hmem with hold | rfl
      · exact h.carried other hold
      · obtain ⟨issue, hissue, hcarries⟩ := h.carried _ (List.mem_of_getElem? hfound)
        exact ⟨issue, hissue, hcarries.spells, hcarries.nonce, hcarries.companyId, hcarries.sessionId⟩
  | consumed index delivery verification now hfound => exact h.consume now delivery hfound

end Invariant

/-! ## The results -/

section Results

variable {K : Type} [Ring K] [LinearOrder K] [FloorRing K] {settings : Settings} {s : State K}

/-- The verification of the state as it was returned. -/
def Issue.verification (issue : Issue K) (now : Option K) : Verification K :=
  ⟨issue.url.state, issue.payload.members, issue.payload.nonce, issue.payload.companyId, now⟩

/-- The database stores the company and the session as they are: the company id is in the form in which PostgreSQL
writes it, and no spaces are cut off the session id. -/
def Issue.StoredAsGiven (issue : Issue K) : Prop :=
  (postgresUuid issue.payload.companyId).map Uuid.text = some issue.payload.companyId ∧
    varchar 128 issue.payload.sessionId = some issue.payload.sessionId

/-- No row of the nonce is used. -/
def State.Unused (s : State K) (nonce : String) : Prop :=
  ∀ row ∈ s.rows, row.nonce = nonce → row.used = false

/-- The state, presented unmodified, is accepted when its query is answered before its expiry. -/
def Accepts (settings : Settings) (s : State K) (issue : Issue K) : Prop :=
  s.Unused issue.payload.nonce → ∀ index now, s.waiting[index]? = some (issue.verification (some now)) →
    now < issue.expiresAt → ∃ t, step settings s (.consume index .answered) = some t ∧
      t.accepted = ⟨issue.url.state, issue.payload.nonce, issue.stored⟩ :: s.accepted

/-- Only states that were returned are accepted, as they were returned. -/
def Verbatim (s : State K) : Prop :=
  ∀ acceptance ∈ s.accepted, ∃ issue ∈ s.issued, acceptance.presented = issue.url.state

/-- What holds of every reached state. -/
structure SingleUse (settings : Settings) (s : State K) : Prop where
  /-- What is accepted carries what was signed for a state returned before, and gives its company, session and verifier. -/
  genuine : ∀ acceptance ∈ s.accepted, ∃ issue ∈ s.issued, settings.Genuine acceptance issue
  /-- Every state is accepted at most once. -/
  once : ∀ issue ∈ s.issued, s.accepted.countP (fun acceptance => acceptance.nonce = issue.payload.nonce) ≤ 1
  /-- The URL carries the state and the challenge of the verifier. -/
  challenged : ∀ issue ∈ s.issued, issue.url = settings.url issue.payload issue.codeVerifier
  /-- Within its lifetime the state passes the check. -/
  presented : ∀ issue ∈ s.issued, |s.clock - issue.payload.issuedAt| ≤ lifetime →
    step settings s (.present issue.url.state) = some { s with waiting := s.waiting ++ [issue.verification none] }
  /-- And it is accepted. -/
  accepts : ∀ issue ∈ s.issued, issue.StoredAsGiven → Accepts settings s issue

omit [FloorRing K] in
/-- The check of a text that decodes to a signed payload, within the lifetime of that. -/
theorem check_of_loads {now : K} {presented : String} {payload : StatePayload} (hsecret : settings.stateSecret ≠ "")
    (hpresented : presented ≠ "")
    (hloads : Json.loads settings.floats (unquote presented.toList) = some (settings.signed payload))
    (hwithin : |now - payload.issuedAt| ≤ lifetime) :
    settings.check now presented = .ok ⟨presented, payload.members, payload.nonce, payload.companyId, none⟩ := by
  have hnotlate : ¬ |now - payload.issuedAt| > lifetime := not_lt.mpr hwithin
  have hempty : ¬ (settings.stateSecret = "" ∨ presented = "") := not_or.mpr ⟨hsecret, hpresented⟩
  have hissued : ((Json.obj payload.members).member? "issued_at").map settings.int = some (.value payload.issuedAt) := rfl
  have hlookup : settings.lookup payload.members = some (payload.nonce, payload.companyId) := rfl
  rw [Settings.check, if_neg hempty, hloads]
  simp only [Settings.signed, opened_of_loads hloads, Settings.checkPayload, hissued, hnotlate, if_false, ne_eq,
    not_true_eq_false, hlookup]

omit [FloorRing K] in
/-- The check of a returned state within its lifetime. -/
theorem check_state {issue : Issue K} (hsecret : settings.stateSecret ≠ "")
    (hurl : issue.url = settings.url issue.payload issue.codeVerifier)
    (hwithin : |s.clock - issue.payload.issuedAt| ≤ lifetime) :
    settings.check s.clock issue.url.state = .ok (issue.verification none) := by
  have hstate : issue.url.state = settings.state issue.payload := by rw [hurl]; rfl
  rw [Issue.verification, hstate]
  exact check_of_loads hsecret state_ne_empty loads_state hwithin

omit [Ring K] [FloorRing K] in
/-- A row that backs a state is the one that the query finds. -/
theorem consumeOAuthState_of_backs {issue : Issue K} {row : OAuthRow K} {company : Uuid} {now : K}
    (hkeyed : Keyed OAuthRow.nonce s.rows) (hmem : row ∈ s.rows) (hbacks : row.Backs issue)
    (hcompany : postgresUuid issue.payload.companyId = some company) (hunused : row.used = false)
    (hnow : now < issue.expiresAt) :
    (consumeOAuthState issue.payload.nonce company now s.rows).1 = some row.stored := by
  have hsame : row.companyId = company := Option.some.inj (hbacks.companyId.symm.trans hcompany)
  have hexpires : now < row.expiresAt := by rw [hbacks.expiresAt]; exact hnow
  have hconsumable : row.consumable issue.payload.nonce company now = true := by
    simp [OAuthRow.consumable, hbacks.nonce, hsame, hunused, hexpires]
  cases hfind : s.rows.find? (OAuthRow.consumable issue.payload.nonce company now) with
  | none =>
      have hnone := List.find?_eq_none.mp hfind row hmem
      exact absurd hconsumable hnone
  | some other =>
      have hother : other.consumable issue.payload.nonce company now = true := List.find?_some hfind
      have hnonce : other.nonce = issue.payload.nonce := by
        simp only [OAuthRow.consumable, Bool.and_eq_true, decide_eq_true_eq] at hother
        exact hother.1.1.1
      have heq : other = row := hkeyed.eq_of_key (List.mem_of_find?_eq_some hfind) hmem (by rw [hnonce, hbacks.nonce])
      rw [consumeOAuthState, hfind, heq]
      rfl

theorem accepts_of_invariant {issue : Issue K} (h : OAuthInvariant settings s) (hissue : issue ∈ s.issued)
    (hgiven : issue.StoredAsGiven) : Accepts settings s issue := by
  intro hunused index now hwaiting hnow
  obtain ⟨row, hrow, hbacks⟩ := h.backed issue hissue
  have hcompany : row.companyId.text = issue.payload.companyId := by
    have htext := hgiven.1
    rw [hbacks.companyId] at htext
    exact Option.some.inj htext
  have hsession : row.sessionId = issue.payload.sessionId :=
    Option.some.inj (hbacks.sessionId.symm.trans hgiven.2)
  have hstored : row.stored = issue.stored := by
    simp only [OAuthRow.stored, Issue.stored, hcompany, hsession, hbacks.codeVerifier]
  have hconsumed : (consumeOAuthState issue.payload.nonce row.companyId now s.rows).1 = some issue.stored :=
    hstored ▸ consumeOAuthState_of_backs h.keyed hrow hbacks hbacks.companyId (hunused row hrow hbacks.nonce) hnow
  have hjudge : settings.judge (issue.verification (some now)) (some issue.stored) = .accepted issue.stored := by
    have hmember : (Json.obj (issue.verification (some now)).members).member? "session_id" =
        some (.str issue.payload.sessionId) := rfl
    have hid : issue.stored.companyId = (issue.verification (some now)).companyId := rfl
    have htext : issue.stored.sessionId = settings.text (.str issue.payload.sessionId) := rfl
    simp only [Settings.judge, hmember, hid, htext, ne_eq, not_true_eq_false, if_false]
  refine ⟨s.consume settings index (issue.verification (some now)) now .answered, ?_, ?_⟩
  · simp only [step, hwaiting, Issue.verification]
  · have hcompanyId : postgresUuid (issue.verification (some now)).companyId = some row.companyId := hbacks.companyId
    have hnonce : (issue.verification (some now)).nonce = issue.payload.nonce := rfl
    simp only [State.consume, hcompanyId, hnonce, hconsumed, hjudge]
    rfl

/-- Every state is single-use and bound to its company and session. -/
theorem state_accepted_at_most_once {time : K} (h : Reaches (step settings) (Assumed settings) (initial time) s) :
    SingleUse settings s := by
  have hinv : OAuthInvariant settings s :=
    h.invariant (oauthInvariant_initial time) fun _ _ _ hinv hassumed hstep => hinv.step hassumed hstep
  constructor
  · exact hinv.genuine
  · intro issue _
    have hcount := List.nodup_iff_count_le_one.mp hinv.once issue.payload.nonce
    rw [List.count, List.countP_map] at hcount
    exact hcount
  · exact hinv.returned
  · intro issue hissue hwithin
    simp only [step, check_state (hinv.secret issue hissue) (hinv.returned issue hissue) hwithin]
  · exact fun issue hissue hgiven => accepts_of_invariant hinv hissue hgiven

end Results

/-! ## Sample runs -/

section Samples

def sampleSettings : Settings where
  stateSecret := "a state secret"
  hmac _ _ := "signature"
  challenge codeVerifier := codeVerifier
  floats := ⟨fun _ => "NaN", fun _ => .inl (by decide)⟩
  str _ := "None"
  floatInt _ := .rejected

def sampleNonce : String := "nnnnnnnnnnnnnnnnnnnnnnnn"

def sampleVerifier : String := 
  "vvvvvvvvvvvvvvvvvvvvvvvvvvvvvvvvvvvvvvvvvvvvvvvvvvvvvvvvvvvvvvvvvvvvvvvvvvvvvvvvvvvvvv"

def sampleCompany : String := "aaaaaaaa-1111-4111-8111-111111111111"

def capitalCompany : String := "AAAAAAAA-1111-4111-8111-111111111111"

/-- Issued at the time 0. -/
def samplePayload (companyId : String) : StatePayload :=
  ⟨companyId, "s", 0, sampleNonce⟩

/-- The state of the company as it is returned. -/
def sampleState (companyId : String) : String :=
  sampleSettings.state (samplePayload companyId)

/-- The same object without percent encoding. -/
def respelledState (companyId : String) : String :=
  String.ofList (sampleSettings.signed (samplePayload companyId)).dumps

def sampleIssue (companyId : String) : Issue ℚ :=
  ⟨samplePayload companyId, sampleVerifier, 0 + lifetime, sampleSettings.url (samplePayload companyId) sampleVerifier⟩

def issueActions (companyId : String) : List (Action ℚ) :=
  [.begin companyId "s" sampleNonce sampleVerifier, .expire 0, .save 0 .answered]

def sampleUuid : Uuid := 0xaaaaaaaa111141118111111111111111#128

/-- A state for the company is issued. -/
def issuedRun (companyId : String) : State ℚ :=
  ⟨0, [⟨sampleNonce, sampleUuid, "s", sampleVerifier, 0 + lifetime, false⟩], [], [sampleIssue companyId], [], []⟩

/-- A text with the payload of the company is about to be compared with its row. -/
def sampleVerification (companyId presented : String) (now : Option ℚ) : Verification ℚ :=
  ⟨presented, (samplePayload companyId).members, sampleNonce, companyId, now⟩

def presentedRun (companyId presented : String) : State ℚ :=
  { issuedRun companyId with waiting := [sampleVerification companyId presented (some 0)] }

def consumedRun (companyId presented : String) : State ℚ :=
  (presentedRun companyId presented).consume sampleSettings 0 (sampleVerification companyId presented (some 0)) 0 .answered

def SampleReaches (s : State ℚ) : Prop :=
  Reaches (step sampleSettings) (Assumed sampleSettings) (initial 0) s

theorem reaches_issuedRun {companyId : String}
    (h : execute (step sampleSettings) (initial 0) (issueActions companyId) = some (issuedRun companyId)) :
    SampleReaches (issuedRun companyId) := by
  apply Reaches.of_execute_allowed ?_ h
  intro action hmem s
  simp only [issueActions, List.mem_cons, List.not_mem_nil, or_false] at hmem
  rcases hmem with rfl | rfl | rfl <;> trivial

theorem reaches_sampleCompany : SampleReaches (issuedRun sampleCompany) :=
  reaches_issuedRun rfl

theorem reaches_capitalCompany : SampleReaches (issuedRun capitalCompany) :=
  reaches_issuedRun rfl

/-- A text that decodes to the payload of the company gets to its row. -/
theorem reaches_presentedRun {companyId presented : String} (h : SampleReaches (issuedRun companyId)) (hpresented : presented ≠ "")
    (hloads : Json.loads sampleSettings.floats (unquote presented.toList) =
      some (sampleSettings.signed (samplePayload companyId))) :
    SampleReaches (presentedRun companyId presented) := by
  have hsecret : sampleSettings.stateSecret ≠ "" := by decide
  have hzero : |(0 : ℚ) - ((0 : Int) : ℚ)| ≤ (lifetime : ℚ) := by decide +kernel
  have hwithin : |(issuedRun companyId).clock - ((samplePayload companyId).issuedAt : ℚ)| ≤ (lifetime : ℚ) :=
    hzero
  have hchecked := check_of_loads hsecret hpresented hloads hwithin
  have hsent : SampleReaches
      { issuedRun companyId with waiting := [sampleVerification companyId presented none] } := by
    apply Reaches.tail (a := .present presented) h
    · -- the text is signed, and its state was returned
      intro opened hmem _
      have hopened : sampleSettings.opened presented = some opened := hmem
      rw [opened_of_loads hloads] at hopened
      obtain rfl := Option.some.inj hopened
      exact ⟨sampleIssue companyId, List.mem_singleton_self _, rfl⟩
    · simp only [step, hchecked]
      rfl
  apply Reaches.tail (a := .read 0) hsent
  · trivial
  · rfl

theorem loads_respelledState : Json.loads sampleSettings.floats (unquote (respelledState sampleCompany).toList) =
    some (sampleSettings.signed (samplePayload sampleCompany)) := by
  have hplain : '%' ∉ (sampleSettings.signed (samplePayload sampleCompany)).dumps := by decide +kernel
  rw [respelledState, String.toList_ofList, unquote_of_plain (Json.isAscii_dumps canonical_signed) hplain,
    Json.loads_dumps canonical_signed]

theorem reaches_consumedRun {companyId presented : String} (h : SampleReaches (presentedRun companyId presented)) :
    SampleReaches (consumedRun companyId presented) :=
  h.tail (a := .consume 0 .answered) trivial rfl

/-- A text that decodes to the payload of the company is accepted. -/
theorem accepted_consumedRun (presented : String) :
    (consumedRun sampleCompany presented).accepted =
      [⟨presented, sampleNonce, ⟨sampleCompany, "s", sampleVerifier⟩⟩] := by
  have hcompany : postgresUuid sampleCompany = some sampleUuid := by decide +kernel
  have hfound : (consumeOAuthState sampleNonce sampleUuid 0 (issuedRun sampleCompany).rows).1 =
      some ⟨sampleCompany, "s", sampleVerifier⟩ := by decide +kernel
  have hjudge : sampleSettings.judge (sampleVerification sampleCompany presented (some 0))
      (some ⟨sampleCompany, "s", sampleVerifier⟩) = .accepted ⟨sampleCompany, "s", sampleVerifier⟩ := rfl
  simp only [sampleVerification] at hjudge
  simp only [consumedRun, State.consume, presentedRun, sampleVerification, hcompany, hfound, hjudge]
  rfl

theorem issued_consume {K : Type} [Ring K] [LinearOrder K] (settings : Settings) (s : State K) (index : Nat)
    (verification : Verification K) (now : K) (delivery : Delivery) :
    (s.consume settings index verification now delivery).issued = s.issued := by
  unfold State.consume
  cases postgresUuid verification.companyId with
  | none => rfl
  | some company =>
      cases delivery with
      | failed => rfl
      | lost => rfl
      | answered =>
          simp only
          cases settings.judge verification (consumeOAuthState verification.nonce company now s.rows).1 <;> rfl

/-- The row has the company id in lower case, the payload in capitals. -/
theorem accepted_consumedRun_capitalCompany (presented : String) :
    (consumedRun capitalCompany presented).accepted = [] := by
  have hcompany : postgresUuid capitalCompany = some sampleUuid := by decide +kernel
  have hfound : (consumeOAuthState sampleNonce sampleUuid 0 (issuedRun capitalCompany).rows).1 =
      some ⟨sampleCompany, "s", sampleVerifier⟩ := by decide +kernel
  have hjudge : sampleSettings.judge (sampleVerification capitalCompany presented (some 0))
      (some ⟨sampleCompany, "s", sampleVerifier⟩) = .rejected := rfl
  simp only [sampleVerification] at hjudge
  simp only [consumedRun, State.consume, presentedRun, sampleVerification, hcompany, hfound, hjudge]
  rfl

/-- The one begins with a brace, the other with its percent encoding. -/
theorem respelledState_ne : respelledState sampleCompany ≠ sampleState sampleCompany ∧ respelledState sampleCompany ≠ "" := by
  have hrespelled : (respelledState sampleCompany).toList.head? = some '\x7b' := by
    rw [respelledState, String.toList_ofList]
    rfl
  have hstate : (sampleState sampleCompany).toList.head? = some '%' := by
    rw [sampleState, Settings.state, String.toList_ofList]
    rfl
  constructor
  · intro h
    rw [h, hstate] at hrespelled
    revert hrespelled
    decide
  · intro h
    rw [h] at hrespelled
    revert hrespelled
    decide

/-- A state that comes back is accepted. -/
theorem state_accepted_at_most_once_consumedRun :
    SingleUse sampleSettings (consumedRun sampleCompany (sampleState sampleCompany)) :=
  state_accepted_at_most_once
    (reaches_consumedRun (reaches_presentedRun reaches_sampleCompany state_ne_empty loads_state))

/-- Another spelling of a returned state is accepted, and a state for a company id in capitals is not. -/
theorem respelled_state_accepted :
    ¬ (∀ s : State ℚ, Reaches (step sampleSettings) (Assumed sampleSettings) (initial 0) s → Verbatim s) ∧
      ¬ (∀ s : State ℚ, Reaches (step sampleSettings) (Assumed sampleSettings) (initial 0) s →
          ∀ issue ∈ s.issued, Accepts sampleSettings s issue) := by
  constructor
  · intro hverbatim
    have hreaches := reaches_consumedRun
      (reaches_presentedRun reaches_sampleCompany respelledState_ne.2 loads_respelledState)
    have haccepted := accepted_consumedRun (respelledState sampleCompany)
    obtain ⟨issue, hissue, hspelled⟩ := hverbatim _ hreaches
      ⟨respelledState sampleCompany, sampleNonce, ⟨sampleCompany, "s", sampleVerifier⟩⟩
      (by rw [haccepted]; exact List.mem_singleton_self _)
    have hissued : (consumedRun sampleCompany (respelledState sampleCompany)).issued =
        [sampleIssue sampleCompany] := by
      rw [consumedRun, issued_consume]
      rfl
    rw [hissued, List.mem_singleton] at hissue
    subst hissue
    exact respelledState_ne.1 hspelled
  · intro haccepts
    have hreaches : SampleReaches (presentedRun capitalCompany (sampleState capitalCompany)) :=
      reaches_presentedRun reaches_capitalCompany state_ne_empty loads_state
    have hissue : sampleIssue capitalCompany ∈
        (presentedRun capitalCompany (sampleState capitalCompany)).issued := List.mem_singleton_self _
    have hunused : (presentedRun capitalCompany (sampleState capitalCompany)).Unused sampleNonce := by
      intro row hrow _
      obtain rfl := List.mem_singleton.mp hrow
      rfl
    have hexpires : (0 : ℚ) < (sampleIssue capitalCompany).expiresAt := by
      show (0 : ℚ) < 0 + ((600 : Int) : ℚ)
      decide +kernel
    obtain ⟨t, hstep, haccepted⟩ := haccepts _ hreaches _ hissue hunused 0 0 rfl hexpires
    have hnone := accepted_consumedRun_capitalCompany (sampleState capitalCompany)
    obtain rfl : consumedRun capitalCompany (sampleState capitalCompany) = t := Option.some.inj hstep
    rw [hnone] at haccepted
    exact List.cons_ne_nil _ _ haccepted.symm

end Samples

end OAuth
end VoiceAssistants
