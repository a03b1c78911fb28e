import VoiceAssistants.Async.Run
import VoiceAssistants.Db.Idempotency

/-!
# The company of an authenticated user (`db/companies.py`, migrations 007 and 014)

`ensure_company` provisions a company with its first member in one transaction.  `CompanyStore` is what is committed,
and the calls as they run against PostgreSQL at READ COMMITTED: a statement reads what is committed when it begins
together with its own changes, `SELECT … FOR UPDATE` and `DELETE` wait for the locks on their rows and look at them
again, `INSERT … ON CONFLICT DO NOTHING` waits for an index entry that another open transaction has made or removed,
and any statement can fail, which rolls the transaction back.

The policies of migration 007 hide the memberships of every other company from a call; the unique constraint on
`user_id` is not bound to a company.  `current_company_id()` is the `UUID` of the call's text, which PostgreSQL reads in
fewer spellings than Python: the statement that it refuses fails.
-/

namespace VoiceAssistants
namespace Db

open Sql Async

/-- The values of `companies.status`. -/
inductive CompanyStatus
  | active
  | suspended
  | deleted
  deriving DecidableEq, Repr

/-- A row of `companies`. -/
structure Company where
  id : Uuid
  displayName : String
  status : CompanyStatus
  deriving DecidableEq, Repr

/-- The values of `company_memberships.role`. -/
inductive MembershipRole
  | owner
  | admin
  | member
  deriving DecidableEq, Repr

/-- The values of `company_memberships.status`. -/
inductive MembershipStatus
  | active
  | invited
  | disabled
  deriving DecidableEq, Repr

/-- A row of `company_memberships`.  `tuple` is the row version: what is inserted again after a `DELETE` is another. -/
structure Membership where
  tuple : Nat
  companyId : Uuid
  userId : String
  role : MembershipRole
  status : MembershipStatus
  deriving DecidableEq, Repr

/-- The subject is an active member of the company. -/
def ActiveMember (memberships : List Membership) (company : Uuid) (subject : String) : Prop :=
  ∃ row ∈ memberships, row.companyId = company ∧ row.userId = subject ∧ row.status = .active

/-! ## A call -/

/-- The statement that a call is at; a `SELECT … FOR UPDATE` and a `DELETE` that have begun have seen a row or none. -/
inductive EnsurePhase
  | selecting (seen : Option (Option Nat))
  | creating
  | deleting (seen : Option (Option Nat))
  | joining
  | checking
  | committing
  | returned
  | raised
  deriving DecidableEq, Repr

def EnsurePhase.isOpen : EnsurePhase → Bool
  | returned | raised => false
  | _ => true

/-- A call of `ensure_company` with what its transaction has locked and changed. -/
structure EnsureCall where
  companyId : String
  authSubject : String
  displayName : String
  company : Uuid
  phase : EnsurePhase
  locked : Option Nat
  created : Option Company
  deleted : Option Nat
  inserted : Option Membership
  deriving DecidableEq, Repr

namespace EnsureCall

/-- A call up to its first statement. -/
def start (companyId authSubject displayName : String) : EnsureCall :=
  let called : EnsureCall :=
    { companyId, authSubject, displayName, company := 0, phase := .raised, locked := none, created := none,
      deleted := none, inserted := none }
  if strip authSubject = "" then called
  else
    match Uuid.parse companyId with
    | none => called
    | some company => { called with company, phase := .selecting none }

section Statements

variable (companies : List Company) (memberships : List Membership) (nextTuple : Nat) (others : List EnsureCall)
  (tx : EnsureCall)

def raise : EnsureCall :=
  { tx with phase := .raised }

/-- The policy `company_member_access`. -/
def sees (row : Membership) : Bool :=
  row.companyId = tx.company

/-- `WHERE user_id = …` on the committed rows. -/
def find (userId : String) : Option Membership :=
  memberships.find? fun row => tx.sees row && row.userId = userId

/-- The lock on a row. -/
def holds (tuple : Nat) : Bool :=
  tx.locked = some tuple || tx.deleted = some tuple

/-- The checks on a membership that is found. -/
def accepts (row : Membership) : Bool :=
  row.companyId = tx.company && row.status = .active

/-- `SELECT … FOR UPDATE` comes to the row that it has seen; `none` is waiting. -/
def lock (tuple : Nat) : Option EnsureCall :=
  if others.any fun other => other.holds tuple then none
  else
    match memberships.find? fun row => row.tuple = tuple with
    | none => some { tx with phase := .creating }
    | some row => if tx.accepts row then some { tx with locked := some tuple, phase := .creating } else some tx.raise

/-- `display_name[:255] or "New Company"` -/
def name : String :=
  let cut := String.ofList (tx.displayName.toList.take 255)
  if cut = "" then "New Company" else cut

/-- `INSERT INTO companies`; `none` is waiting. -/
def create : Option EnsureCall :=
  if others.any fun other => other.created.any fun row => row.id = tx.company then none
  else if companies.any fun row => row.id = tx.company then some { tx with phase := .deleting none }
  else some { tx with
    created := some { id := tx.company, displayName := tx.name, status := .active }, phase := .deleting none }

/-- `DELETE FROM company_memberships` comes to the row that it has seen; `none` is waiting. -/
def delete (tuple : Nat) : Option EnsureCall :=
  if others.any fun other => other.holds tuple then none
  else if memberships.any fun row => row.tuple = tuple then some { tx with deleted := some tuple, phase := .joining }
  else some { tx with phase := .joining }

/-- `INSERT INTO company_memberships`; `none` is waiting. -/
def join : Option EnsureCall :=
  match varchar 255 tx.authSubject with
  | none => some tx.raise
  | some userId =>
      if others.any fun other => (other.inserted.any fun row => row.userId = userId) ||
          memberships.any fun row => row.userId = userId && other.deleted = some row.tuple then none
      else if memberships.any fun row => row.userId = userId && tx.deleted ≠ some row.tuple then
        some { tx with phase := .checking }
      else some { tx with
        inserted := some { tuple := nextTuple, companyId := tx.company, userId, role := .owner, status := .active },
        phase := .checking }

/-- What the call reads, and what is committed after it. -/
def view : List Membership :=
  (memberships.filter fun row => tx.deleted ≠ some row.tuple) ++ tx.inserted.toList

/-- The last `SELECT` and its check. -/
def check : EnsureCall :=
  match tx.find (tx.view memberships) tx.authSubject with
  | none => tx.raise
  | some row => if tx.accepts row then { tx with phase := .committing } else tx.raise

/-- The next statement of a call before its COMMIT; `none` is waiting. -/
def next : Option EnsureCall :=
  match tx.phase with
  | .selecting none =>
      some { tx with phase := .selecting (some ((tx.find memberships tx.authSubject).map Membership.tuple)) }
  | .selecting (some none) => some { tx with phase := .creating }
  | .selecting (some (some tuple)) => tx.lock memberships others tuple
  | .creating => tx.create companies others
  | .deleting none =>
      some { tx with phase := .deleting (some ((tx.find memberships tx.companyId).map Membership.tuple)) }
  | .deleting (some none) => some { tx with phase := .joining }
  | .deleting (some (some tuple)) => tx.delete memberships others tuple
  | .joining => tx.join memberships nextTuple others
  | .checking => some (tx.check memberships)
  | .committing | .returned | .raised => none

end Statements

end EnsureCall

/-! ## The store -/

structure CompanyStore where
  companies : List Company
  memberships : List Membership
  nextTuple : Nat
  calls : List EnsureCall
  deriving DecidableEq, Repr

namespace CompanyStore

/-- The store before any call. -/
def initial (companies : List Company) (memberships : List Membership) (nextTuple : Nat) : CompanyStore :=
  ⟨companies, memberships, nextTuple, []⟩

inductive Action
  | start (companyId authSubject displayName : String)
  | statement (index : Nat)
  | commit (index : Nat)
  /-- A statement fails, or the connection. -/
  | fail (index : Nat)
  deriving DecidableEq, Repr

/-- The call that an action is about. -/
def Action.index (s : CompanyStore) : Action → Nat
  | start _ _ _ => s.calls.length
  | statement index | commit index | fail index => index

/-- The other transactions that are open. -/
def others (s : CompanyStore) (index : Nat) : List EnsureCall :=
  (s.calls.eraseIdx index).filter fun tx => tx.phase.isOpen

/-- A statement, which may have written a row version. -/
def replace (s : CompanyStore) (index : Nat) (tx : EnsureCall) : CompanyStore :=
  { s with nextTuple := s.nextTuple + 1, calls := s.calls.set index tx }

/-- COMMIT, and the return of the call. -/
def committed (s : CompanyStore) (index : Nat) (tx : EnsureCall) : CompanyStore where
  companies := s.companies ++ tx.created.toList
  memberships := tx.view s.memberships
  nextTuple := s.nextTuple
  calls := s.calls.set index { tx with phase := .returned }

def step (s : CompanyStore) : Action → Option CompanyStore
  | .start companyId authSubject displayName =>
      some { s with calls := s.calls ++ [.start companyId authSubject displayName] }
  | .statement index => do
      let tx ← s.calls[index]?
      let tx' ← tx.next s.companies s.memberships s.nextTuple (s.others index)
      return s.replace index tx'
  | .commit index => do
      let tx ← s.calls[index]?
      if tx.phase = .committing then some (s.committed index tx) else none
  | .fail index => do
      let tx ← s.calls[index]?
      if tx.phase.isOpen then some (s.replace index tx.raise) else none

end CompanyStore

end Db
end VoiceAssistants
