import VoiceAssistants.Text
import VoiceAssistants.Sql.Table
import VoiceAssistants.Db.Idempotency

/-!
# Confirmation tokens (`db/confirmation.py`, migrations 004 and 011)

The table `confirmation_tokens` and its two transactions.  A token is issued for one tenant, one tool, one event and
one reason, and it is consumed by an `UPDATE` that finds its unconsumed row and compares all of them.  The table holds
the hash of a token, not the token: `hash` stands for `hash_token`, the SHA-256 digest of the text.

`now` is the clock, in microseconds; the application's clock sets `expires_at` and the database's clock is compared
with it.  `none` is an exception, after which the transaction is rolled back.
-/

namespace VoiceAssistants
namespace Db

open Sql

/-- The JSON object that a token is bound to. -/
structure ConfirmationParameters where
  eventId : String
  reason : Option String
  deriving DecidableEq, Repr

/-- A row of `confirmation_tokens`. -/
structure ConfirmationRow where
  tokenHash : String
  userId : Uuid
  toolName : String
  eventId : String
  parameters : ConfirmationParameters
  expiresAt : Int
  consumedAt : Option Int
  deriving DecidableEq, Repr

section Transactions

variable (hash : String → String)

/-- `issue_confirmation_token`, whose token is `secrets.token_urlsafe(32)`. -/
def issueConfirmationToken (now : Int) (token userId toolName eventId : String) (parameters : ConfirmationParameters)
    (ttlSeconds : Int) (table : List ConfirmationRow) : Option (List ConfirmationRow) := do
  let user ← Uuid.parse userId
  let storedName ← varchar 64 toolName
  let storedEvent ← varchar 128 eventId
  insertAbsent ConfirmationRow.tokenHash
    ⟨hash token, user, storedName, storedEvent, parameters, now + ttlSeconds * 1000000, none⟩ table

/-- The condition of the `UPDATE`, as a tenant sees it under the row policy. -/
def ConfirmationRow.matching (now : Int) (token : String) (user : Uuid) (toolName eventId : String)
    (parameters : ConfirmationParameters) (row : ConfirmationRow) : Bool :=
  row.tokenHash = hash token && row.userId = user && row.toolName = toolName && row.eventId = eventId &&
    row.parameters = parameters && row.consumedAt = none && now < row.expiresAt

/-- `consume_confirmation_token`: whether the token is accepted, and the message. -/
def consumeConfirmationToken (now : Int) (token userId toolName eventId : String) (parameters : ConfirmationParameters)
    (table : List ConfirmationRow) : Option ((Bool × String) × List ConfirmationRow) := do
  let user ← Uuid.parse userId
  let condition := ConfirmationRow.matching hash now token user toolName eventId parameters
  let table' := updateWhere condition (fun row => { row with consumedAt := some now }) table
  if affected condition table = 0 then
    return ((false, "Confirmation token is invalid, expired, already used, or does not match the requested action."),
      table')
  else
    return ((true, "Confirmation accepted."), table')

variable {hash} {now : Int} {token userId toolName eventId : String} {parameters : ConfirmationParameters}
  {table table' : List ConfirmationRow}

theorem ConfirmationRow.matching_iff {user : Uuid} {row : ConfirmationRow} :
    row.matching hash now token user toolName eventId parameters = true ↔
      row.tokenHash = hash token ∧ row.userId = user ∧ row.toolName = toolName ∧ row.eventId = eventId ∧
        row.parameters = parameters ∧ row.consumedAt = none ∧ now < row.expiresAt := by
  simp [ConfirmationRow.matching, and_assoc]

/-- What an issue that does not raise has inserted. -/
theorem issueConfirmationToken_eq_some {ttlSeconds : Int}
    (h : issueConfirmationToken hash now token userId toolName eventId parameters ttlSeconds table = some table') :
    ∃ user storedName storedEvent, Uuid.parse userId = some user ∧ varchar 64 toolName = some storedName ∧
      (∀ row ∈ table, row.tokenHash ≠ hash token) ∧
      table' = table ++
        [⟨hash token, user, storedName, storedEvent, parameters, now + ttlSeconds * 1000000, none⟩] := by
  simp only [issueConfirmationToken, Option.bind_eq_bind, Option.bind_eq_some_iff] at h
  obtain ⟨user, hparse, storedName, hname, storedEvent, -, hinsert⟩ := h
  obtain ⟨habsent, rfl⟩ := insertAbsent_eq_some hinsert
  exact ⟨user, storedName, storedEvent, hparse, hname, habsent, rfl⟩

/-- What a consumption that does not raise has done. -/
theorem consumeConfirmationToken_eq_some {accepted : Bool} {message : String}
    (h : consumeConfirmationToken hash now token userId toolName eventId parameters table =
      some ((accepted, message), table')) :
    ∃ user, Uuid.parse userId = some user ∧
      table' = updateWhere (ConfirmationRow.matching hash now token user toolName eventId parameters)
        (fun row => { row with consumedAt := some now }) table ∧
      (accepted = true → ∃ row ∈ table, row.matching hash now token user toolName eventId parameters = true) := by
  simp only [consumeConfirmationToken, Option.bind_eq_bind, Option.bind_eq_some_iff] at h
  obtain ⟨user, hparse, hrest⟩ := h
  refine ⟨user, hparse, ?_⟩
  split at hrest
  · cases hrest
    exact ⟨rfl, fun h => by cases h⟩
  · rename_i hsome
    cases hrest
    exact ⟨rfl, fun _ => exists_of_affected hsome⟩

end Transactions

end Db
end VoiceAssistants
