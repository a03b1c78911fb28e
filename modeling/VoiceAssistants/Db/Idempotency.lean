import VoiceAssistants.Text
import VoiceAssistants.Sql.Table

/-!
# The idempotency engine (`db/idempotency.py`, migrations 001 and 011)

The table `idempotency_records` and its three transactions: acquire, commit and release.  A transaction sets
`app.company_id` to the caller's UUID, and the policy `idempotency_company_access` then hides the rows of
every other tenant, from `UPDATE` as from `SELECT`.  The primary key is not bound to a tenant, so an insert
conflicts with a hidden row too.

`now` is the clock of the process that calls; times are microseconds.  Every exception becomes the same
`RuntimeError`, and the transaction is rolled back.  A response payload is a JSON document; `none` is the
document `null`.
-/

namespace VoiceAssistants
namespace Db

open Sql

/-- The values of `idempotency_records.status`. -/
inductive IdempotencyStatus
  | acquired
  | committed
  | refunded
  deriving DecidableEq, Repr

/-- A Python value that `json.dumps` has written: an object's text, or `None`. -/
abbrev Payload := Option String

/-- A row of `idempotency_records`; the outer option of the payload is the column's `NULL`. -/
structure IdempotencyRow where
  key : String
  userId : Uuid
  toolName : String
  status : IdempotencyStatus
  responsePayload : Option Payload
  createdAt : Int
  expiresAt : Int
  deriving DecidableEq, Repr

/-- What is stored in a `VARCHAR(limit)` column: a longer value is an error, unless the excess characters are
all spaces, which are cut off. -/
def varchar (limit : Nat) (text : String) : Option String :=
  if text.length ≤ limit then some text
  else if (text.toList.drop limit).all (· = ' ') then some (String.ofList (text.toList.take limit))
  else none

/-- A nullable `VARCHAR(limit)` column. -/
def nullableVarchar (limit : Nat) : Option String → Option (Option String)
  | none => some none
  | some text => (varchar limit text).map some

theorem varchar_of_length_le {limit : Nat} {text : String} (h : text.length ≤ limit) :
    varchar limit text = some text := by
  simp [varchar, h]

theorem length_le_of_varchar {limit : Nat} {text stored : String} (h : varchar limit text = some stored) :
    stored.length ≤ limit := by
  unfold varchar at h
  split at h
  · obtain rfl := Option.some.inj h
    assumption
  · split at h
    · obtain rfl := Option.some.inj h
      rw [String.length_ofList, List.length_take]
      omega
    · cases h

/-- What has been stored is stored unchanged. -/
theorem varchar_varchar {limit : Nat} {text stored : String} (h : varchar limit text = some stored) :
    varchar limit stored = some stored :=
  varchar_of_length_le (length_le_of_varchar h)

/-- `WHERE key = $1` as a tenant sees it under the row policy. -/
def IdempotencyRow.visible (user : Uuid) (key : String) (row : IdempotencyRow) : Bool :=
  row.key = key && row.userId = user

@[simp] theorem IdempotencyRow.visible_iff {user : Uuid} {key : String} {row : IdempotencyRow} :
    row.visible user key = true ↔ row.key = key ∧ row.userId = user := by
  simp [IdempotencyRow.visible]

/-- What `acquire_idempotency_lock` returns. -/
structure Acquisition where
  isNew : Bool
  cached : Payload
  message : String
  deriving DecidableEq, Repr

/-- The `RuntimeError` of the three operations. -/
def serviceUnavailable : String :=
  "idempotency service unavailable"

/-- `UPDATE … SET status = 'acquired', response_payload = NULL, expires_at, created_at`. -/
def IdempotencyRow.reacquired (now expiresAt : Int) (row : IdempotencyRow) : IdempotencyRow :=
  { row with status := .acquired, responsePayload := none, expiresAt := expiresAt, createdAt := now }

/-- The row that a first acquisition inserts. -/
def acquiredRow (key : String) (user : Uuid) (toolName : String) (now expiresAt : Int) : IdempotencyRow where
  key := key
  userId := user
  toolName := toolName
  status := .acquired
  responsePayload := none
  createdAt := now
  expiresAt := expiresAt

/-- `acquire_idempotency_lock`: attempt to acquire the lock of a tool execution. -/
def acquireIdempotencyLock (now : Int) (key userId toolName : String) (ttlSeconds : Int)
    (table : List IdempotencyRow) : Except String (Acquisition × List IdempotencyRow) :=
  let expiresAt := now + ttlSeconds * 1000000
  match Uuid.parse userId with
  | none => .error serviceUnavailable
  | some user =>
      match table.find? (IdempotencyRow.visible user key) with
      | some row =>
          if row.status = .committed then
            .ok (⟨false, row.responsePayload.join, "Idempotent response retrieved from cache."⟩, table)
          else if row.status = .acquired ∧ now < row.expiresAt then
            .ok (⟨false, none, "Action is currently processing. Please wait."⟩, table)
          else
            .ok (⟨true, none, "Lock re-acquired after expiration or refund."⟩,
              updateWhere (IdempotencyRow.visible user key) (IdempotencyRow.reacquired now expiresAt) table)
      | none =>
          match varchar 128 key, varchar 64 toolName with
          | some storedKey, some storedName =>
              match insertAbsent IdempotencyRow.key (acquiredRow storedKey user storedName now expiresAt)
                  table with
              | none => .ok (⟨false, none, "Idempotency key is already owned by another tenant."⟩, table)
              | some table' => .ok (⟨true, none, "Lock acquired successfully."⟩, table')
          | _, _ => .error serviceUnavailable

/-- The `UPDATE … WHERE key = $3 AND user_id = $4` of commit and release. -/
def updateLock (key userId : String) (change : IdempotencyRow → IdempotencyRow)
    (table : List IdempotencyRow) : Except String (Unit × List IdempotencyRow) :=
  match Uuid.parse userId with
  | none => .error serviceUnavailable
  | some user => .ok ((), updateWhere (IdempotencyRow.visible user key) change table)

/-- `commit_idempotency_lock`: commit a lock with the response payload. -/
def commitIdempotencyLock (key : String) (responsePayload : Payload) (userId : String)
    (table : List IdempotencyRow) : Except String (Unit × List IdempotencyRow) :=
  updateLock key userId
    (fun row => { row with status := .committed, responsePayload := some responsePayload }) table

/-- `release_idempotency_lock`: release or refund a lock. -/
def releaseIdempotencyLock (key userId : String) (table : List IdempotencyRow) :
    Except String (Unit × List IdempotencyRow) :=
  updateLock key userId (fun row => { row with status := .refunded }) table

section Acquire

variable {now ttlSeconds : Int} {user : Uuid} {key userId toolName : String} {table table' : List IdempotencyRow}
  {acquisition : Acquisition}

/-- How a lock is granted: by taking over the visible row, which is not committed and, if it is acquired, has
expired; or by inserting a row under a key that no tenant uses. -/
inductive Grant (now : Int) (user : Uuid) (key : String) (table : List IdempotencyRow) :
    List IdempotencyRow → Prop
  | takeover (row : IdempotencyRow) (expiresAt : Int) (mem : row ∈ table)
      (visible : row.visible user key = true) (uncommitted : row.status ≠ .committed)
      (expired : row.status = .acquired → row.expiresAt ≤ now) :
      Grant now user key table
        (updateWhere (IdempotencyRow.visible user key) (IdempotencyRow.reacquired now expiresAt) table)
  | insert (storedKey storedName : String) (expiresAt : Int) (stored : varchar 128 key = some storedKey)
      (absent : ∀ row ∈ table, row.key ≠ storedKey) :
      Grant now user key table (table ++ [acquiredRow storedKey user storedName now expiresAt])

/-- What an acquisition that does not raise has done. -/
theorem acquireIdempotencyLock_cases
    (h : acquireIdempotencyLock now key userId toolName ttlSeconds table = .ok (acquisition, table')) :
    (acquisition.isNew = false ∧ table' = table) ∨
    (acquisition.isNew = true ∧ ∃ user, Uuid.parse userId = some user ∧ Grant now user key table table') := by
  unfold acquireIdempotencyLock at h
  cases hparse : Uuid.parse userId with
  | none => simp [hparse] at h
  | some user =>
      simp only [hparse] at h
      cases hfind : table.find? (IdempotencyRow.visible user key) with
      | some row =>
          simp only [hfind] at h
          have hmem := List.mem_of_find?_eq_some hfind
          have hvisible := List.find?_some hfind
          -- the three branches on the status of the visible row
          split at h
          · cases h
            exact .inl ⟨rfl, rfl⟩
          · rename_i huncommitted
            split at h
            · cases h
              exact .inl ⟨rfl, rfl⟩
            · rename_i hexpired
              cases h
              apply Or.inr
              refine ⟨rfl, user, rfl, .takeover row _ hmem hvisible huncommitted ?_⟩
              intro hacquired
              have hnot : ¬ now < row.expiresAt := fun hlt => hexpired ⟨hacquired, hlt⟩
              omega
      | none =>
          simp only [hfind] at h
          cases hkey : varchar 128 key with
          | none => simp [hkey] at h
          | some storedKey =>
              cases hname : varchar 64 toolName with
              | none => simp [hkey, hname] at h
              | some storedName =>
                  simp only [hkey, hname] at h
                  split at h
                  · cases h
                    exact .inl ⟨rfl, rfl⟩
                  · rename_i hinsert
                    cases h
                    obtain ⟨habsent, rfl⟩ := insertAbsent_eq_some hinsert
                    exact .inr ⟨rfl, user, rfl, .insert storedKey storedName _ hkey habsent⟩

/-- A cached payload is the one of a committed record. -/
theorem acquireIdempotencyLock_cached
    (h : acquireIdempotencyLock now key userId toolName ttlSeconds table = .ok (acquisition, table'))
    {payload : String} (hcached : acquisition.cached = some payload) :
    ∃ user row, Uuid.parse userId = some user ∧ row ∈ table ∧ row.visible user key = true ∧
      row.status = .committed ∧ row.responsePayload = some (some payload) := by
  unfold acquireIdempotencyLock at h
  cases hparse : Uuid.parse userId with
  | none => simp [hparse] at h
  | some user =>
      simp only [hparse] at h
      cases hfind : table.find? (IdempotencyRow.visible user key) with
      | some row =>
          simp only [hfind] at h
          split at h
          · rename_i hcommitted
            cases h
            exact ⟨user, row, rfl, List.mem_of_find?_eq_some hfind, List.find?_some hfind, hcommitted,
              Option.join_eq_some_iff.mp hcached⟩
          · split at h <;> cases h <;> cases hcached
      | none =>
          simp only [hfind] at h
          cases hkey : varchar 128 key with
          | none => simp [hkey] at h
          | some storedKey =>
              cases hname : varchar 64 toolName with
              | none => simp [hkey, hname] at h
              | some storedName =>
                  simp only [hkey, hname] at h
                  split at h <;> cases h <;> cases hcached

/-- A grant leaves every row's owner and key. -/
theorem Grant.keeps (h : Grant now user key table table') {row : IdempotencyRow} (hmem : row ∈ table) :
    ∃ row' ∈ table', (row'.userId, row'.key) = (row.userId, row.key) := by
  cases h with
  | takeover => exact exists_mem_updateWhere (fun _ => rfl) hmem
  | insert => exact ⟨row, List.mem_append_left _ hmem, rfl⟩

/-- The granted lock has a record. -/
theorem Grant.record (h : Grant now user key table table') (hstored : ∀ row ∈ table, varchar 128 row.key = some row.key) :
    ∃ row ∈ table', row.userId = user ∧ varchar 128 key = some row.key := by
  cases h with
  | takeover row expiresAt hmem hvisible =>
      obtain ⟨hkey, huser⟩ := IdempotencyRow.visible_iff.mp hvisible
      have hkept : ∃ row' ∈ updateWhere (IdempotencyRow.visible user key) (IdempotencyRow.reacquired now expiresAt)
          table, (row'.userId, row'.key) = (row.userId, row.key) := exists_mem_updateWhere (fun _ => rfl) hmem
      obtain ⟨row', hmem', hcolumns⟩ := hkept
      obtain ⟨huser', hkey'⟩ := Prod.mk.inj hcolumns
      refine ⟨row', hmem', huser'.trans huser, ?_⟩
      rw [hkey', ← hkey]
      exact hstored row hmem
  | insert storedKey storedName expiresAt hkey =>
      exact ⟨_, List.mem_append_right _ List.mem_cons_self, rfl, hkey⟩

/-- The rows after a grant are stored under their keys. -/
theorem Grant.stored (h : Grant now user key table table') (hstored : ∀ row ∈ table, varchar 128 row.key = some row.key) :
    ∀ row ∈ table', varchar 128 row.key = some row.key := by
  intro row hrow
  cases h with
  | takeover =>
      obtain ⟨old, hold, ⟨-, rfl⟩ | ⟨-, rfl⟩⟩ := mem_updateWhere hrow
      · exact hstored old hold
      · exact hstored _ hold
  | insert storedKey storedName expiresAt hkey =>
      rcases List.mem_append.mp hrow with hold | hnew
      · exact hstored row hold
      · obtain rfl := List.mem_singleton.mp hnew
        exact varchar_varchar hkey

/-- A committed record is never granted again: its tenant receives the cached payload. -/
theorem acquireIdempotencyLock_committed {row : IdempotencyRow}
    (hparse : Uuid.parse userId = some user)
    (hfind : table.find? (IdempotencyRow.visible user key) = some row) (hcommitted : row.status = .committed) :
    acquireIdempotencyLock now key userId toolName ttlSeconds table =
      .ok (⟨false, row.responsePayload.join, "Idempotent response retrieved from cache."⟩, table) := by
  simp [acquireIdempotencyLock, hparse, hfind, hcommitted]

end Acquire

/-- Inversion of `updateLock`. -/
theorem updateLock_eq_ok {key userId : String} {change : IdempotencyRow → IdempotencyRow}
    {table table' : List IdempotencyRow} (h : updateLock key userId change table = .ok ((), table')) :
    ∃ user, Uuid.parse userId = some user ∧
      table' = updateWhere (IdempotencyRow.visible user key) change table := by
  unfold updateLock at h
  cases hparse : Uuid.parse userId with
  | none => simp [hparse] at h
  | some user =>
      simp only [hparse] at h
      cases h
      exact ⟨user, rfl, rfl⟩

end Db
end VoiceAssistants
