import VoiceAssistants.Db.Idempotency
import VoiceAssistants.JavaScript.JsonText

/-!
# 3CX integrations (`db/threecx.py`, migrations 007, 021 and 022)

The table `threecx_integrations`: how a company's row is saved, and how the active rows are listed for the connector.
Row-level security is forced on the table, and the listing sets no company; so what it gives depends on whether the
database role bypasses the policies.

The columns of the credential are left out, and so is the reference to `companies`.  `none` is an exception, after which
the transaction is rolled back.
-/

namespace VoiceAssistants
namespace Db

open Sql

/-- The values of `threecx_integrations.state`. -/
inductive IntegrationState
  | testing
  | active
  | degraded
  | disabled
  deriving DecidableEq, Repr

/-- A row of `threecx_integrations`. -/
structure StoredIntegration where
  companyId : Uuid
  connectionName : String
  pbxHostname : String
  appId : Option String
  routePointDn : String
  dids : List String
  transferDestinations : List String
  state : IntegrationState
  failureAction : Option String
  failureDestination : Option String
  /-- In microseconds. -/
  credentialUpdatedAt : Int
  deriving DecidableEq, Repr

/-- The arguments of `save_threecx_integration`. -/
structure IntegrationInput where
  companyId : Uuid
  connectionName : String
  pbxHostname : String
  appId : String
  routePointDn : String
  dids : List String
  transferDestinations : List String
  failureAction : String
  failureDestination : Option String
  state : IntegrationState := .active
  deriving DecidableEq, Repr

/-- The stripped values that are not blank. -/
def stripped (values : List String) : List String :=
  (values.map strip).filter (· ≠ "")

/-- The failure destination that the policy admits; `none` is the `ValueError`. -/
def failurePolicy (failureAction : String) (failureDestination : Option String) (transferDestinations : List String) :
    Option (Option String) :=
  if failureAction = "disconnect" then if failureDestination = none then some none else none
  else if failureAction = "transfer" then
    match failureDestination with
    | some destination =>
        if destination ≠ "" ∧ strip destination ∈ transferDestinations then some (some (strip destination)) else none
    | none => none
  else none

/-- A text without the character that PostgreSQL does not store. -/
def storable (text : String) : Bool :=
  !text.toList.contains '\x00'

/-- `threecx_failure_policy_valid` -/
def StoredIntegration.policyValid (row : StoredIntegration) : Bool :=
  match row.failureAction, row.failureDestination with
  | none, none => true
  | some action, none => action == "disconnect"
  | some action, some destination =>
      action == "transfer" && destination.toList.any (· ≠ ' ') && row.transferDestinations.contains destination
  | none, some _ => false

/-- The row that is inserted. -/
def IntegrationInput.row (input : IntegrationInput) (now : Int) : Option StoredIntegration := do
  let transferDestinations := stripped input.transferDestinations
  let failureDestination ← failurePolicy input.failureAction input.failureDestination transferDestinations
  let connectionName ← varchar 255 input.connectionName
  let pbxHostname ← varchar 255 input.pbxHostname
  let appId ← varchar 255 input.appId
  let routePointDn ← varchar 128 input.routePointDn
  let failureAction ← varchar 16 input.failureAction
  let failureDestination ← nullableVarchar 128 failureDestination
  let row : StoredIntegration :=
    { companyId := input.companyId, connectionName, pbxHostname, appId := some appId, routePointDn, dids := input.dids,
      transferDestinations, state := input.state, failureAction := some failureAction, failureDestination,
      credentialUpdatedAt := now }
  guard (([connectionName, pbxHostname, appId, routePointDn] ++ input.dids ++ transferDestinations).all storable)
  guard row.policyValid
  return row

/-- A row whose texts fit has the texts of its input. -/
theorem IntegrationInput.row_eq_some {input : IntegrationInput} {now : Int} {row : StoredIntegration}
    (hroute : input.routePointDn.length ≤ 128) (haction : input.failureAction.length ≤ 16)
    (hlength : ∀ destination, failurePolicy input.failureAction input.failureDestination
      (stripped input.transferDestinations) = some (some destination) → destination.length ≤ 128)
    (h : input.row now = some row) :
    row.routePointDn = input.routePointDn ∧ row.dids = input.dids ∧
      row.transferDestinations = stripped input.transferDestinations ∧
      row.failureAction = some input.failureAction ∧ row.state = input.state ∧
      failurePolicy input.failureAction input.failureDestination (stripped input.transferDestinations) =
        some row.failureDestination := by
  obtain ⟨policy, hpolicy, h⟩ := Option.bind_eq_some_iff.mp h
  obtain ⟨connectionName, -, h⟩ := Option.bind_eq_some_iff.mp h
  obtain ⟨pbxHostname, -, h⟩ := Option.bind_eq_some_iff.mp h
  obtain ⟨appId, -, h⟩ := Option.bind_eq_some_iff.mp h
  obtain ⟨routePointDn, hrouteVarchar, h⟩ := Option.bind_eq_some_iff.mp h
  obtain ⟨failureAction, hactionVarchar, h⟩ := Option.bind_eq_some_iff.mp h
  obtain ⟨failureDestination, hdestination, h⟩ := Option.bind_eq_some_iff.mp h
  obtain ⟨-, -, h⟩ := Option.bind_eq_some_iff.mp h
  obtain ⟨-, -, h⟩ := Option.bind_eq_some_iff.mp h
  obtain rfl := Option.some.inj h
  rw [varchar_of_length_le hroute] at hrouteVarchar
  rw [varchar_of_length_le haction] at hactionVarchar
  refine ⟨(Option.some.inj hrouteVarchar).symm, rfl, rfl, hactionVarchar.symm, rfl, ?_⟩
  rw [hpolicy]
  cases policy with
  | none => exact hdestination
  | some destination =>
      rw [nullableVarchar] at hdestination
      rwa [varchar_of_length_le (hlength destination hpolicy)] at hdestination

/-- `save_threecx_integration`: `ON CONFLICT (company_id) DO UPDATE`. -/
def saveThreecxIntegration (input : IntegrationInput) (now : Int) (table : List StoredIntegration) :
    Option (StoredIntegration × List StoredIntegration) := do
  let row ← input.row now
  match insertAbsent StoredIntegration.companyId row table with
  | some table => return (row, table)
  | none => return (row, updateWhere (fun stored => stored.companyId = row.companyId) (fun _ => row) table)

/-- `list_active_threecx_integrations`: without a current company the policy admits no row. -/
def listActiveThreecxIntegrations (bypassesRls : Bool) (table : List StoredIntegration) : List StoredIntegration :=
  if bypassesRls then
    (table.filter fun row => row.state = .active).insertionSort fun first second => first.companyId ≤ second.companyId
  else []

/-- The text of a `jsonb` column with a list of texts, which escapes what JSON requires. -/
def jsonbText (values : List String) : String :=
  "[" ++ ", ".intercalate (values.map fun value => String.ofList (JavaScript.stringifyString value)) ++ "]"

theorem jsonbText_ne (values : List String) : jsonbText values ≠ "" := by
  intro h
  have hlength := congrArg String.length h
  simp [jsonbText] at hlength

/-- A `jsonb` value in Python: its text, or the list where a codec is registered. -/
inductive JsonbColumn
  | text (value : String)
  | list (values : List String)
  deriving DecidableEq, Repr

/-- What asyncpg returns for a `jsonb` column of the pool, which registers no codec. -/
def fetchedJsonb (values : List String) : JsonbColumn :=
  .text (jsonbText values)

theorem mem_listActive {bypassesRls : Bool} {table : List StoredIntegration} {row : StoredIntegration} :
    row ∈ listActiveThreecxIntegrations bypassesRls table ↔
      bypassesRls = true ∧ row ∈ table ∧ row.state = .active := by
  unfold listActiveThreecxIntegrations
  cases bypassesRls with
  | false => simp
  | true => simp [List.mem_insertionSort]

/-- A saved row is the one that was asked for. -/
theorem saveThreecxIntegration_eq_some {input : IntegrationInput} {now : Int} {table table' : List StoredIntegration}
    {row : StoredIntegration} (h : saveThreecxIntegration input now table = some (row, table')) :
    input.row now = some row ∧ row ∈ table' := by
  obtain ⟨saved, hsaved, h⟩ := Option.bind_eq_some_iff.mp h
  cases hinsert : insertAbsent StoredIntegration.companyId saved table with
  | some inserted =>
      rw [hinsert] at h
      obtain ⟨rfl, rfl⟩ := Prod.mk.inj (Option.some.inj h)
      rw [(insertAbsent_eq_some hinsert).2]
      exact ⟨hsaved, List.mem_append_right _ List.mem_cons_self⟩
  | none =>
      rw [hinsert] at h
      obtain ⟨rfl, rfl⟩ := Prod.mk.inj (Option.some.inj h)
      obtain ⟨other, hother⟩ := insertAbsent_eq_none hinsert
      refine ⟨hsaved, List.mem_map.mpr ⟨other, selectKey_mem hother, ?_⟩⟩
      rw [if_pos (decide_eq_true (selectKey_key hother))]

end Db
end VoiceAssistants
