import VoiceAssistants.Python.Integers
import VoiceAssistants.Sql.Table
import VoiceAssistants.Backend.ToolExecution
import Mathlib.Data.Rat.Floor

/-!
# Replay protection of the credential broker

`verify_broker_request` (`backend/app/services/credential_broker_protocol.py`) with the ledger of used nonces under it
(`db/credential_broker.py`).  Any number of requests are verified at once: each is checked against the clock when it
arrives, and later its transaction on the ledger begins and takes effect, in any order and after any time.

The check of the time truncates the clock, so that a request passes until the second after its timestamp plus 30 is
over, while the row of its nonce is pruned as soon as that time is past.  A request is accepted again in between
(`replayed_within_the_second`).  `accepted_at_most_once` is what remains: a request whose transactions take effect by
its expiry is accepted at most once.

The clock is one for the process and the database, over any ordered ring with a floor.  A transaction may fail without
effect, or take effect while its caller sees an exception.  The hash, the keyed hash and what `json.loads` reads from the
body are parameters.
-/

namespace VoiceAssistants
namespace Broker

open Sql Async
open Backend (Delivery)

/-! ## The check of a request -/

/-- What the protocol is built on: the shared secret, `sha256(body).hexdigest()`, `hmac.new(secret, message, sha256)
.hexdigest()`, and `str(json.loads(body)["company_id"])` with `none` for an exception. -/
structure Protocol where
  secret : String
  sha256 : List UInt8 → String
  hmac : (secret message : String) → String
  companyId : (body : List UInt8) → Option String

/-- A request with the headers that are read. -/
structure BrokerRequest where
  method : String
  path : String
  timestamp : Option String
  nonce : Option String
  signature : Option String
  body : List UInt8
  deriving DecidableEq, Repr

def maxClockSkewSeconds : Int := 30

/-- `canonical_request`. -/
def canonicalRequest (protocol : Protocol) (method path timestamp nonce : String) (body : List UInt8) : String :=
  String.ofList (method.toList.map Char.toUpper) ++ "\n" ++ path ++ "\n" ++ timestamp ++ "\n" ++ nonce ++ "\n" ++
    protocol.sha256 body

/-- `sign_broker_request`. -/
def signBrokerRequest (protocol : Protocol) (method path timestamp nonce : String) (body : List UInt8) : String :=
  protocol.hmac protocol.secret (canonicalRequest protocol method path timestamp nonce body)

/-- What a signed request is identified by. -/
structure Ticket where
  companyId : Uuid
  nonce : Uuid
  timestamp : Int
  deriving DecidableEq, Repr

section Clock

variable {K : Type} [Ring K] [LinearOrder K]

/-- `datetime.fromtimestamp(timestamp) + timedelta(seconds=MAX_CLOCK_SKEW_SECONDS)`. -/
def Ticket.expiresAt (ticket : Ticket) : K :=
  ((ticket.timestamp + maxClockSkewSeconds : Int) : K)

/-- The first half of `verify_broker_request`, which does not touch the ledger; `none` is the answer 401. -/
def authorize [FloorRing K] (protocol : Protocol) (now : K) (request : BrokerRequest) : Option Ticket := do
  guard (32 ≤ protocol.secret.length)
  let timestamp ← request.timestamp
  let nonceText ← request.nonce
  let signature ← request.signature
  let timestampValue ← Python.parseInt timestamp
  let nonce ← Uuid.parse nonceText
  guard ((Python.truncate now - timestampValue).natAbs ≤ maxClockSkewSeconds.natAbs)
  guard (signature = signBrokerRequest protocol request.method request.path timestamp nonceText request.body)
  let companyId ← (protocol.companyId request.body).bind Uuid.parse
  return ⟨companyId, nonce, timestampValue⟩

/-! ## The ledger -/

/-- A row of `credential_broker_nonces`. -/
structure NonceRow (K : Type) where
  companyId : Uuid
  nonce : Uuid
  expiresAt : K
  deriving DecidableEq

/-- The primary key. -/
def NonceRow.key (row : NonceRow K) : Uuid × Uuid :=
  (row.companyId, row.nonce)

/-- `DELETE … WHERE company_id = $1 AND expires_at < NOW()`. -/
def prune (companyId : Uuid) (now : K) (ledger : List (NonceRow K)) : List (NonceRow K) :=
  ledger.filter fun row => !(row.companyId = companyId && row.expiresAt < now)

/-- The row of a ticket. -/
def Ticket.row (ticket : Ticket) : NonceRow K :=
  ⟨ticket.companyId, ticket.nonce, ticket.expiresAt⟩

/-- The transaction of `consume_broker_nonce`: whether a row came back, and the ledger. -/
def consumeBrokerNonce (ticket : Ticket) (now : K) (ledger : List (NonceRow K)) : Bool × List (NonceRow K) :=
  match insertAbsent NonceRow.key ticket.row (prune ticket.companyId now ledger) with
  | some ledger' => (true, ledger')
  | none => (false, prune ticket.companyId now ledger)

/-! ## The broker -/

/-- A request that has passed the check, with the `NOW()` of its transaction once that has begun. -/
structure Verification (K : Type) where
  ticket : Ticket
  startedAt : Option K
  deriving DecidableEq

structure State (K : Type) where
  clock : K
  ledger : List (NonceRow K)
  waiting : List (Verification K)
  /-- The requests that were accepted, newest first. -/
  accepted : List Ticket
  deriving DecidableEq

inductive Action (K : Type)
  | pass (time : K)
  | arrive (request : BrokerRequest)
  | start (index : Nat)
  | consume (index : Nat) (delivery : Delivery)

/-- The broker before its first request. -/
def initial (time : K) : State K :=
  ⟨time, [], [], []⟩

/-- A transaction on the ledger with what its caller makes of it. -/
def State.settle (s : State K) (index : Nat) (ticket : Ticket) (startedAt : K) (delivery : Delivery) : State K :=
  let rest := { s with waiting := s.waiting.eraseIdx index }
  let (consumed, ledger) := consumeBrokerNonce ticket startedAt s.ledger
  match delivery with
  | .failed => rest
  | .lost => { rest with ledger := ledger }
  | .answered =>
      if consumed then { rest with ledger := ledger, accepted := ticket :: s.accepted }
      else { rest with ledger := ledger }

def step [FloorRing K] (protocol : Protocol) (s : State K) : Action K → Option (State K)
  | .pass time => if s.clock ≤ time then some { s with clock := time } else none
  | .arrive request =>
      match authorize protocol s.clock request with
      | some ticket => some { s with waiting := s.waiting ++ [⟨ticket, none⟩] }
      | none => some s
  | .start index =>
      match s.waiting[index]? with
      | some ⟨ticket, none⟩ => some { s with waiting := s.waiting.set index ⟨ticket, some s.clock⟩ }
      | _ => none
  | .consume index delivery =>
      match s.waiting[index]? with
      | some ⟨ticket, some startedAt⟩ => some (s.settle index ticket startedAt delivery)
      | _ => none

/-- Every transaction takes effect by the expiry of its request. -/
def WithinExpiry (s : State K) : Action K → Prop
  | .consume index _ => ∀ verification ∈ s.waiting[index]?, s.clock ≤ verification.ticket.expiresAt
  | .pass _ | .arrive _ | .start _ => True

instance (s : State K) (action : Action K) : Decidable (WithinExpiry s action) :=
  match action with
  | .consume index _ => inferInstanceAs (Decidable (∀ verification ∈ s.waiting[index]?, _))
  | .pass _ | .arrive _ | .start _ => .isTrue trivial

/-- Every signed request is accepted at most once. -/
def AcceptedAtMostOnce (s : State K) : Prop :=
  ∀ ticket, s.accepted.count ticket ≤ 1

/-! ## The ledger blocks a replay -/

section Ledger

omit [Ring K] in
/-- A row that has not expired is not pruned. -/
theorem mem_prune {row : NonceRow K} {ledger : List (NonceRow K)} {now : K} {companyId : Uuid} (hmem : row ∈ ledger)
    (hlives : now ≤ row.expiresAt) : row ∈ prune companyId now ledger := by
  have hkept : ¬ row.expiresAt < now := not_lt.mpr hlives
  simp [prune, hmem, hkept]

variable {ticket : Ticket} {now : K} {ledger : List (NonceRow K)} {row : NonceRow K}

/-- A row that has not expired survives the transaction. -/
theorem mem_consumeBrokerNonce (hmem : row ∈ ledger) (hlives : now ≤ row.expiresAt) :
    row ∈ (consumeBrokerNonce ticket now ledger).2 := by
  have hkept : row ∈ prune ticket.companyId now ledger := mem_prune hmem hlives
  unfold consumeBrokerNonce
  cases hinsert : insertAbsent NonceRow.key ticket.row (prune ticket.companyId now ledger) with
  | none => exact hkept
  | some ledger' =>
      obtain ⟨-, rfl⟩ := insertAbsent_eq_some hinsert
      exact List.mem_append_left _ hkept

/-- A nonce that is consumed has its row from then on. -/
theorem row_mem_of_consumed (h : (consumeBrokerNonce ticket now ledger).1 = true) :
    ticket.row ∈ (consumeBrokerNonce ticket now ledger).2 := by
  unfold consumeBrokerNonce at *
  cases hinsert : insertAbsent NonceRow.key ticket.row (prune ticket.companyId now ledger) with
  | none =>
      rw [hinsert] at h
      cases h
  | some ledger' =>
      obtain ⟨-, rfl⟩ := insertAbsent_eq_some hinsert
      exact List.mem_append_right _ List.mem_cons_self

/-- While its row has not expired, a nonce cannot be consumed. -/
theorem not_consumed_of_row (hmem : ticket.row ∈ ledger) (hlives : now ≤ ticket.expiresAt) :
    (consumeBrokerNonce ticket now ledger).1 = false := by
  have hkept : ticket.row ∈ prune ticket.companyId now ledger := mem_prune hmem hlives
  unfold consumeBrokerNonce
  cases hinsert : insertAbsent NonceRow.key ticket.row (prune ticket.companyId now ledger) with
  | none => rfl
  | some ledger' => exact absurd rfl ((insertAbsent_eq_some hinsert).1 _ hkept)

end Ledger

/-! ## Runs -/

section Runs

variable {s t : State K}

/-- A transaction leaves the clock, keeps the rows that have not expired, and accepts its ticket if at all, with its
row. -/
theorem settle_effect (s : State K) (index : Nat) (ticket : Ticket) (startedAt : K) (delivery : Delivery) :
    (s.settle index ticket startedAt delivery).clock = s.clock ∧
      (s.settle index ticket startedAt delivery).waiting = s.waiting.eraseIdx index ∧
      (∀ row ∈ s.ledger, startedAt ≤ row.expiresAt → row ∈ (s.settle index ticket startedAt delivery).ledger) ∧
      ((s.settle index ticket startedAt delivery).accepted = s.accepted ∨
        (s.settle index ticket startedAt delivery).accepted = ticket :: s.accepted ∧
          (consumeBrokerNonce ticket startedAt s.ledger).1 = true ∧
          ticket.row ∈ (s.settle index ticket startedAt delivery).ledger) := by
  cases delivery with
  | failed => exact ⟨rfl, rfl, fun row hmem _ => hmem, .inl rfl⟩
  | lost => exact ⟨rfl, rfl, fun row hmem hlives => mem_consumeBrokerNonce hmem hlives, .inl rfl⟩
  | answered =>
      cases hconsumed : (consumeBrokerNonce ticket startedAt s.ledger).1 with
      | false =>
          simp only [State.settle, hconsumed, Bool.false_eq_true, if_false]
          exact ⟨trivial, trivial, fun row hmem hlives => mem_consumeBrokerNonce hmem hlives, .inl trivial⟩
      | true =>
          have hrow : ticket.row ∈ (consumeBrokerNonce ticket startedAt s.ledger).2 := row_mem_of_consumed hconsumed
          simp only [State.settle, hconsumed, if_true]
          exact ⟨trivial, trivial, fun row hmem hlives => mem_consumeBrokerNonce hmem hlives,
            .inr ⟨trivial, trivial, hrow⟩⟩

/-- No transaction has begun in the future, and an accepted request has its row until its expiry. -/
structure Guarded (s : State K) : Prop where
  begun : ∀ verification ∈ s.waiting, ∀ startedAt, verification.startedAt = some startedAt → startedAt ≤ s.clock
  recorded : ∀ ticket ∈ s.accepted, s.clock ≤ ticket.expiresAt → ticket.row ∈ s.ledger
  once : s.accepted.Nodup

theorem guarded_initial (time : K) : Guarded (initial time) where
  begun := by simp [initial]
  recorded := by simp [initial]
  once := by simp [initial]

/-- A transaction that takes effect by the expiry of its request keeps the invariant. -/
theorem Guarded.settle {index : Nat} {ticket : Ticket} {startedAt : K} {delivery : Delivery} (h : Guarded s)
    (hfound : s.waiting[index]? = some ⟨ticket, some startedAt⟩) (hexpiry : s.clock ≤ ticket.expiresAt) :
    Guarded (s.settle index ticket startedAt delivery) := by
  obtain ⟨hclock, hwaiting, hkeeps, haccepted⟩ := settle_effect s index ticket startedAt delivery
  have hstarted : startedAt ≤ s.clock := h.begun _ (List.mem_of_getElem? hfound) startedAt rfl
  have hrecorded : ∀ other ∈ s.accepted, s.clock ≤ other.expiresAt →
      other.row ∈ (s.settle index ticket startedAt delivery).ledger := by
    intro other hother hlives
    exact hkeeps _ (h.recorded other hother hlives) (hstarted.trans hlives)
  constructor
  · intro verification hmem
    rw [hclock]
    rw [hwaiting] at hmem
    exact h.begun verification (List.mem_of_mem_eraseIdx hmem)
  · intro other hother
    rw [hclock]
    rcases haccepted with hsame | ⟨hnew, -, hrow⟩
    · exact hrecorded other (hsame ▸ hother)
    · rcases List.mem_cons.mp (hnew ▸ hother) with rfl | hold
      · exact fun _ => hrow
      · exact hrecorded other hold
  · rcases haccepted with hsame | ⟨hnew, hconsumed, -⟩
    · rw [hsame]
      exact h.once
    · rw [hnew]
      -- a second acceptance would find the row of the first
      have hfresh : ticket ∉ s.accepted := by
        intro hmem
        rw [not_consumed_of_row (h.recorded ticket hmem hexpiry) (hstarted.trans hexpiry)] at hconsumed
        cases hconsumed
      exact List.nodup_cons.mpr ⟨hfresh, h.once⟩

variable [FloorRing K] {protocol : Protocol} {action : Action K}

/-- What a step does. -/
inductive Stepped (protocol : Protocol) (s : State K) : Action K → State K → Prop
  | passed (time : K) (later : s.clock ≤ time) : Stepped protocol s (.pass time) { s with clock := time }
  | refused (request : BrokerRequest) (unauthorized : authorize protocol s.clock request = none) :
      Stepped protocol s (.arrive request) s
  | checked (request : BrokerRequest) (ticket : Ticket) (authorized : authorize protocol s.clock request = some ticket) :
      Stepped protocol s (.arrive request) { s with waiting := s.waiting ++ [⟨ticket, none⟩] }
  | started (index : Nat) (ticket : Ticket) (found : s.waiting[index]? = some ⟨ticket, none⟩) :
      Stepped protocol s (.start index) { s with waiting := s.waiting.set index ⟨ticket, some s.clock⟩ }
  | settled (index : Nat) (delivery : Delivery) (ticket : Ticket) (startedAt : K)
      (found : s.waiting[index]? = some ⟨ticket, some startedAt⟩) :
      Stepped protocol s (.consume index delivery) (s.settle index ticket startedAt delivery)

theorem step_cases (h : step protocol s action = some t) : Stepped protocol s action t := by
  cases action with
  | pass time =>
      simp only [step] at h
      split at h
      · rename_i hlater
        obtain rfl := Option.some.inj h
        exact .passed time hlater
      · cases h
  | arrive request =>
      simp only [step] at h
      cases hauthorize : authorize protocol s.clock request with
      | none =>
          rw [hauthorize] at h
          obtain rfl := Option.some.inj h
          exact .refused request hauthorize
      | some ticket =>
          rw [hauthorize] at h
          obtain rfl := Option.some.inj h
          exact .checked request ticket hauthorize
  | start index =>
      simp only [step] at h
      split at h
      · rename_i ticket hfound
        obtain rfl := Option.some.inj h
        exact .started index ticket hfound
      · cases h
  | consume index delivery =>
      simp only [step] at h
      split at h
      · rename_i ticket startedAt hfound
        obtain rfl := Option.some.inj h
        exact .settled index delivery ticket startedAt hfound
      · cases h

theorem Guarded.step (h : Guarded s) (hallowed : WithinExpiry s action) (hstep : step protocol s action = some t) :
    Guarded t := by
  cases step_cases hstep with
  | passed time hlater =>
      constructor
      · intro verification hmem startedAt hstarted
        exact (h.begun verification hmem startedAt hstarted).trans hlater
      · intro ticket hmem hlives
        exact h.recorded ticket hmem (hlater.trans hlives)
      · exact h.once
  | refused request _ => exact h
  | checked request ticket _ =>
      refine { h with begun := ?_ }
      intro verification hmem startedAt hstarted
      rcases List.mem_append.mp hmem with hold | hnew
      · exact h.begun verification hold startedAt hstarted
      · obtain rfl := List.mem_singleton.mp hnew
        cases hstarted
  | started index ticket hfound =>
      refine { h with begun := ?_ }
      intro verification hmem startedAt hstarted
      rcases List.mem_or_eq_of_mem_set hmem with hold | rfl
      · exact h.begun verification hold startedAt hstarted
      · obtain rfl := Option.some.inj hstarted
        exact le_rfl
  | settled index delivery ticket startedAt hfound => exact h.settle hfound (hallowed _ hfound)

/-- If every transaction takes effect by the expiry of its request, every request is accepted at most once. -/
theorem accepted_at_most_once {time : K} (h : Reaches (step protocol) WithinExpiry (initial time) s) :
    AcceptedAtMostOnce s := by
  have hguarded : Guarded s :=
    h.invariant (guarded_initial time) fun _ _ _ hinv hallowed hstep => hinv.step hallowed hstep
  exact fun ticket => List.nodup_iff_count_le_one.mp hguarded.once ticket

end Runs

end Clock

/-! ## The replay -/

section Replay

def sampleProtocol : Protocol where
  secret := "a shared secret of 32 characters"
  sha256 _ := "hash"
  hmac _ message := message
  companyId _ := some "11111111-1111-4111-8111-111111111111"

def sampleNonce : String :=
  "22222222-2222-4222-8222-222222222222"

/-- A request that is signed at 100 s. -/
def sampleRequest : BrokerRequest where
  method := "POST"
  path := "/internal/v1/calendar/list"
  timestamp := some "100"
  nonce := some sampleNonce
  signature := some (signBrokerRequest sampleProtocol "POST" "/internal/v1/calendar/list" "100" sampleNonce [])
  body := []

/-- The request arrives at 100 s and again at 130.5 s. -/
def replay : List (Action ℚ) :=
  [.arrive sampleRequest, .start 0, .consume 0 .answered, .pass (261 / 2), .arrive sampleRequest, .start 0,
    .consume 0 .answered]

def replayed : State ℚ :=
  final (step sampleProtocol) (initial 100) replay

theorem reaches_replayed : Reaches (step sampleProtocol) Always (initial 100) replayed :=
  .of_execute (execute_final (by decide +kernel))

/-- Half a second after its expiry the request is accepted again. -/
theorem replayed_within_the_second :
    ¬ ∀ s, Reaches (step sampleProtocol) Always (initial (100 : ℚ)) s → AcceptedAtMostOnce s := by
  intro h
  have hcount : replayed.accepted.count ⟨0x11111111111141118111111111111111, 0x22222222222242228222222222222222, 100⟩ = 2 := by
    decide +kernel
  have honce := h replayed reaches_replayed ⟨0x11111111111141118111111111111111, 0x22222222222242228222222222222222, 100⟩
  omega

/-- Half a second earlier it is not. -/
def rejectedReplay : List (Action ℚ) :=
  [.arrive sampleRequest, .start 0, .consume 0 .answered, .pass 130, .arrive sampleRequest, .start 0,
    .consume 0 .answered]

theorem accepted_at_most_once_rejectedReplay :
    AcceptedAtMostOnce (final (step sampleProtocol) (initial 100) rejectedReplay) := by
  have hruns : execute (step sampleProtocol) (initial 100) rejectedReplay =
      some (final (step sampleProtocol) (initial 100) rejectedReplay) := execute_final (by decide +kernel)
  have hchecked : checked (step sampleProtocol) (fun s action => decide (WithinExpiry s action)) (initial 100)
      rejectedReplay = true := by
    decide +kernel
  exact accepted_at_most_once (.of_checked (fun _ _ _ hok => of_decide_eq_true hok) hchecked hruns)

end Replay

end Broker
end VoiceAssistants
