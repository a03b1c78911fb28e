import VoiceAssistants.Backend.CredentialEnvelope
import VoiceAssistants.Db.Idempotency
import VoiceAssistants.Sql.MergeUpsert

/-!
# The stored OAuth tokens of a company

`db/tokens.py`: `oauth_tokens` has a row for each company and provider, with two ciphertexts in columns of their own and
their envelopes as the members of one `jsonb` object.  A save without a refresh token keeps the old ciphertext with
`COALESCE` and the old envelope with `jsonb_set` under a `CASE`.

`stored_tokens_are_last_saved` says that the two merges fit each other: after any saves and deletions, of any companies,
what is read is the access token of the last save and the refresh token of the last save that had one.
-/

namespace VoiceAssistants
namespace Db

open Sql Credentials
open Python (Json Coercions)

/-! ## Rows -/

/-- A name for the column `provider VARCHAR(32)`; the only one in use is `google`. -/
structure TokenProvider where
  name : String
  fits : name.length ≤ 32
  deriving DecidableEq

/-- A row of `oauth_tokens`. -/
structure TokenRow where
  id : Uuid
  userId : Uuid
  provider : TokenProvider
  accessTokenCiphertext : Option String
  refreshTokenCiphertext : Option String
  encryptionEnvelope : Option Json
  googleSubject : Option String
  googleEmail : Option String
  tokenType : String
  scope : Option String
  expiresAt : Int

/-- The columns of `uq_oauth_user_provider`. -/
def TokenRow.key (row : TokenRow) : Uuid × TokenProvider :=
  (row.userId, row.provider)

/-- The parameters of `save_oauth_tokens`; `expires_at` is an instant. -/
structure TokenSave where
  userId : String
  provider : TokenProvider
  accessToken : String
  expiresAt : Int
  refreshToken : Option String
  tokenType : String
  scope : Option String
  googleSubject : Option String
  googleEmail : Option String

/-- A refresh token that is empty is none. -/
def TokenSave.supplied (save : TokenSave) : Option String :=
  save.refreshToken.filter fun token => token ≠ ""

/-- What a save has from its environment: the keys, the random bytes and `gen_random_uuid()`. -/
structure SaveEnvironment where
  settings : KeySettings
  accessNonce : Bytes
  refreshNonce : Bytes
  id : Uuid

/-- Who a token belongs to. -/
def tokenIdentity (company : Uuid) (provider : TokenProvider) (field : String) : SecretIdentity :=
  ⟨company.text, provider.name, field⟩

/-- `{"access_token": …, "refresh_token": …}`, with `None` for an envelope that is missing. -/
def tokenEnvelope (access : Json) (refresh : Option Json) : Json :=
  .obj [("access_token", access), ("refresh_token", refresh.getD .null)]

/-- `jsonb_set(target, '{name}', value)`, which is strict; `none` is an exception. -/
def jsonbSet (target : Option Json) (name : String) (value : Option Json) : Option (Option Json) :=
  match target, value with
  | some (.obj members), some value => some (some (.obj (Json.setMember name value members)))
  | some _, some _ => none
  | _, _ => some none

section Saving

variable (aes : Aesgcm) (environment : SaveEnvironment) (save : TokenSave)

/-- The refresh token of a save with its envelope; `none` inside is a save without one. -/
def refreshSecret (company : Uuid) : Option (Option (String × Json)) :=
  match save.supplied with
  | none => some none
  | some token =>
      (encryptSecret aes environment.settings environment.refreshNonce token
        (tokenIdentity company save.provider "refresh_token")).map some

/-- The row that `save_oauth_tokens` inserts. -/
def newTokenRow : Option TokenRow := do
  let company ← Uuid.parse save.userId
  let access ← encryptSecret aes environment.settings environment.accessNonce save.accessToken
    (tokenIdentity company save.provider "access_token")
  let refresh ← refreshSecret aes environment save company
  let subject ← nullableVarchar 255 save.googleSubject
  let email ← nullableVarchar 320 save.googleEmail
  let tokenType ← varchar 32 save.tokenType
  return {
    id := environment.id
    userId := company
    provider := save.provider
    accessTokenCiphertext := some access.1
    refreshTokenCiphertext := refresh.map Prod.fst
    encryptionEnvelope := some (tokenEnvelope access.2 (refresh.map Prod.snd))
    googleSubject := subject
    googleEmail := email
    tokenType := tokenType
    scope := save.scope
    expiresAt := save.expiresAt }

/-- `CASE WHEN EXCLUDED.refresh_token_ciphertext IS NULL THEN jsonb_set(…) ELSE EXCLUDED.encryption_envelope END` -/
def mergedEnvelope (excluded old : TokenRow) : Option (Option Json) :=
  if excluded.refreshTokenCiphertext = none then
    jsonbSet old.encryptionEnvelope "access_token" (excluded.encryptionEnvelope.bind (·.member? "access_token"))
  else some excluded.encryptionEnvelope

/-- `ON CONFLICT (user_id, provider) DO UPDATE SET …` -/
def mergeTokens (excluded old : TokenRow) : Option TokenRow := do
  let envelope ← mergedEnvelope excluded old
  return { old with
    accessTokenCiphertext := excluded.accessTokenCiphertext
    refreshTokenCiphertext := excluded.refreshTokenCiphertext <|> old.refreshTokenCiphertext
    encryptionEnvelope := envelope
    googleSubject := excluded.googleSubject <|> old.googleSubject
    googleEmail := excluded.googleEmail <|> old.googleEmail
    tokenType := excluded.tokenType
    scope := excluded.scope <|> old.scope
    expiresAt := excluded.expiresAt }

/-- `save_oauth_tokens`: the table after it; `none` is an exception. -/
def saveOauthTokens (table : List TokenRow) : Option (List TokenRow) := do
  let row ← newTokenRow aes environment save
  mergeUpsert TokenRow.id TokenRow.key row (mergeTokens row) table

end Saving

/-- `delete_oauth_tokens` -/
def deleteOauthTokens (userId : String) (provider : TokenProvider) (table : List TokenRow) : Option (List TokenRow) := do
  let company ← Uuid.parse userId
  return table.filter fun row => row.key ≠ (company, provider)

section Reading

variable (aes : Aesgcm) (coercions : Coercions) (settings : KeySettings)

/-- `row["encryption_envelope"]` as a dictionary. -/
def storedEnvelope : Option Json → Json
  | some (.obj members) => .obj members
  | _ => .obj []

/-- A token of a row; `none` is an exception. -/
def openToken (ciphertext : Option String) (envelope : Option Json) (identity : SecretIdentity) :
    Option (Option String) :=
  match ciphertext, envelope with
  | some ciphertext, some envelope =>
      if ciphertext ≠ "" ∧ envelope.truthy = true then
        (decryptSecret aes coercions settings ciphertext envelope identity).map some
      else some none
  | _, _ => some none

/-- What `get_oauth_tokens` returns: the row, with its tokens. -/
structure TokenRecord where
  row : TokenRow
  accessToken : Option String
  refreshToken : Option String

/-- The tokens of a row; `none` if one of them does not decrypt. -/
def openRow (company : Uuid) (provider : TokenProvider) (row : TokenRow) : Option TokenRecord := do
  let envelope := storedEnvelope row.encryptionEnvelope
  let accessToken ← openToken aes coercions settings row.accessTokenCiphertext (envelope.member? "access_token")
    (tokenIdentity company provider "access_token")
  let refreshToken ← openToken aes coercions settings row.refreshTokenCiphertext (envelope.member? "refresh_token")
    (tokenIdentity company provider "refresh_token")
  return ⟨row, accessToken, refreshToken⟩

/-- `get_oauth_tokens`; the outer `none` is the exception for a company that is no UUID. -/
def getOauthTokens (userId : String) (provider : TokenProvider) (table : List TokenRow) :
    Option (Option TokenRecord) := do
  let company ← Uuid.parse userId
  return (selectKey TokenRow.key (company, provider) table).bind (openRow aes coercions settings company provider)

end Reading

/-! ## Runs -/

/-- A call, with what it has from its environment. -/
inductive TokenCall
  | save (environment : SaveEnvironment) (save : TokenSave)
  | delete (userId : String) (provider : TokenProvider)

/-- A call that has returned. -/
inductive TokenEvent
  | saved (company : Uuid) (environment : SaveEnvironment) (save : TokenSave)
  | deleted (company : Uuid) (provider : TokenProvider)

structure TokenState where
  table : List TokenRow
  /-- The calls that have returned, the last of them first. -/
  history : List TokenEvent

/-- The state after a call; one that raises changes nothing. -/
def TokenState.after (aes : Aesgcm) (state : TokenState) : TokenCall → TokenState
  | .save environment save =>
      match Uuid.parse save.userId, saveOauthTokens aes environment save state.table with
      | some company, some table => ⟨table, .saved company environment save :: state.history⟩
      | _, _ => state
  | .delete userId provider =>
      match Uuid.parse userId, deleteOauthTokens userId provider state.table with
      | some company, some table => ⟨table, .deleted company provider :: state.history⟩
      | _, _ => state

/-- The state after some calls on a table. -/
def runTokenCalls (aes : Aesgcm) (table : List TokenRow) (calls : List TokenCall) : TokenState :=
  calls.foldl (TokenState.after aes) ⟨table, []⟩

section History

variable (company : Uuid) (provider : TokenProvider)

/-- The last save that counts for a company and a provider, since they were last deleted. -/
def latestSave (counts : TokenSave → Bool) : List TokenEvent → Option (SaveEnvironment × TokenSave)
  | [] => none
  | .saved user environment save :: earlier =>
      if (user, save.provider) = (company, provider) ∧ counts save = true then some (environment, save)
      else latestSave counts earlier
  | .deleted user stored :: earlier =>
      if (user, stored) = (company, provider) then none else latestSave counts earlier

/-- The last save. -/
def lastSave : List TokenEvent → Option (SaveEnvironment × TokenSave) :=
  latestSave company provider fun _ => true

/-- The last save with a refresh token. -/
def lastRefreshSave : List TokenEvent → Option (SaveEnvironment × TokenSave) :=
  latestSave company provider fun save => save.supplied.isSome

end History

/-! ## What a row holds -/

section Holding

variable {aes : Aesgcm} {company : Uuid} {provider : TokenProvider}

/-- A ciphertext and its envelope are what the encryption of a token gave. -/
def Sealed (aes : Aesgcm) (settings : KeySettings) (identity : SecretIdentity) (token : String)
    (ciphertext : Option String) (envelope : Option Json) : Prop :=
  ∃ nonce text header, encryptSecret aes settings nonce token identity = some (text, header) ∧
    ciphertext = some text ∧ envelope = some header

/-- A row has the access token of one save and the refresh token of another. -/
structure Holds (aes : Aesgcm) (company : Uuid) (provider : TokenProvider) (members : List (String × Json))
    (last : SaveEnvironment × TokenSave) (lastRefresh : Option (SaveEnvironment × TokenSave)) (row : TokenRow) : Prop where
  envelope : row.encryptionEnvelope = some (.obj members)
  access : Sealed aes last.1.settings (tokenIdentity company provider "access_token") last.2.accessToken
    row.accessTokenCiphertext ((Json.obj members).member? "access_token")
  refresh : ∀ saved, lastRefresh = some saved → ∃ token, saved.2.supplied = some token ∧
    Sealed aes saved.1.settings (tokenIdentity company provider "refresh_token") token row.refreshTokenCiphertext
      ((Json.obj members).member? "refresh_token")
  absent : lastRefresh = none → row.refreshTokenCiphertext = none

/-- The row of a company and a provider holds what their history says. -/
def Agrees (aes : Aesgcm) (company : Uuid) (provider : TokenProvider) (state : TokenState) : Prop :=
  (lastSave company provider state.history = none ∧ selectKey TokenRow.key (company, provider) state.table = none) ∨
    ∃ last members row, lastSave company provider state.history = some last ∧
      selectKey TokenRow.key (company, provider) state.table = some row ∧
        Holds aes company provider members last (lastRefreshSave company provider state.history) row

/-- What a sealed token opens to. -/
theorem openToken_of_sealed {coercions : Coercions} {now settings : KeySettings} {identity : SecretIdentity}
    {token : String} {ciphertext : Option String} {envelope : Option Json} (laws : aes.Lawful)
    (h : Sealed aes settings identity token ciphertext envelope) (hreads : now.Reads settings) :
    openToken aes coercions now ciphertext envelope identity = some (some token) := by
  obtain ⟨nonce, text, header, hencrypt, rfl, rfl⟩ := h
  unfold openToken
  dsimp only
  rw [if_pos (truthy_of_encryptSecret laws hencrypt), decryptSecret_encryptSecret laws hencrypt hreads]
  rfl

/-- A row opens to the tokens that it holds. -/
theorem openRow_of_holds {coercions : Coercions} {now : KeySettings} {members : List (String × Json)}
    {last : SaveEnvironment × TokenSave} {refresh : Option (SaveEnvironment × TokenSave)} {row : TokenRow}
    (laws : aes.Lawful) (h : Holds aes company provider members last refresh row) (hlast : now.Reads last.1.settings)
    (hrefresh : ∀ saved, refresh = some saved → now.Reads saved.1.settings) :
    openRow aes coercions now company provider row =
      some ⟨row, some last.2.accessToken, refresh.bind fun saved => saved.2.supplied⟩ := by
  have haccess : openToken aes coercions now row.accessTokenCiphertext ((Json.obj members).member? "access_token")
      (tokenIdentity company provider "access_token") = some (some last.2.accessToken) :=
    openToken_of_sealed laws h.access hlast
  have hopen : openToken aes coercions now row.refreshTokenCiphertext ((Json.obj members).member? "refresh_token")
      (tokenIdentity company provider "refresh_token") = some (refresh.bind fun saved => saved.2.supplied) := by
    cases hsaved : refresh with
    | none =>
        rw [h.absent hsaved]
        rfl
    | some saved =>
        obtain ⟨token, hsupplied, hsealed⟩ := h.refresh saved hsaved
        rw [openToken_of_sealed laws hsealed (hrefresh saved hsaved)]
        exact congrArg some hsupplied.symm
  unfold openRow
  rw [h.envelope]
  show (openToken aes coercions now row.accessTokenCiphertext ((Json.obj members).member? "access_token")
    (tokenIdentity company provider "access_token") >>= _) = _
  rw [haccess]
  show (openToken aes coercions now row.refreshTokenCiphertext ((Json.obj members).member? "refresh_token")
    (tokenIdentity company provider "refresh_token") >>= _) = _
  rw [hopen]
  rfl

end Holding

/-! ## What a call does -/

section Calls

variable {aes : Aesgcm} {environment : SaveEnvironment} {save : TokenSave} {company : Uuid} {provider : TokenProvider}

/-- The row that a save without a refresh token inserts, and one with a refresh token. -/
theorem newTokenRow_eq_some {row : TokenRow} (hcompany : Uuid.parse save.userId = some company)
    (h : newTokenRow aes environment save = some row) :
    row.key = (company, save.provider) ∧ ∃ access,
      Sealed aes environment.settings (tokenIdentity company save.provider "access_token") save.accessToken
        row.accessTokenCiphertext (some access) ∧
        ((save.supplied = none ∧ row.refreshTokenCiphertext = none ∧
            row.encryptionEnvelope = some (tokenEnvelope access none)) ∨
          ∃ token refresh, save.supplied = some token ∧
            Sealed aes environment.settings (tokenIdentity company save.provider "refresh_token") token
              row.refreshTokenCiphertext (some refresh) ∧
              row.encryptionEnvelope = some (tokenEnvelope access (some refresh))) := by
  unfold newTokenRow at h
  rw [hcompany] at h
  simp only [Option.bind_eq_bind, Option.bind_some, Option.bind_eq_some_iff] at h
  obtain ⟨access, haccess, refresh, hrefresh, subject, -, email, -, tokenType, -, hrow⟩ := h
  obtain rfl := Option.some.inj hrow
  refine ⟨rfl, access.2, ⟨_, _, _, haccess, rfl, rfl⟩, ?_⟩
  unfold refreshSecret at hrefresh
  cases hsupplied : save.supplied with
  | none =>
      rw [hsupplied] at hrefresh
      obtain rfl := Option.some.inj hrefresh
      exact .inl ⟨rfl, rfl, rfl⟩
  | some token =>
      rw [hsupplied] at hrefresh
      obtain ⟨sealed, hsealed, rfl⟩ := Option.map_eq_some_iff.mp hrefresh
      exact .inr ⟨token, sealed.2, rfl, ⟨_, _, _, hsealed, rfl, rfl⟩, rfl⟩

theorem key_mergeTokens {excluded old merged : TokenRow} (h : mergeTokens excluded old = some merged) :
    merged.key = old.key := by
  unfold mergeTokens at h
  obtain ⟨envelope, -, h⟩ := Option.bind_eq_some_iff.mp h
  obtain rfl := Option.some.inj h
  rfl

/-- A save with a refresh token leaves its own ciphertexts and envelope. -/
theorem mergeTokens_of_refresh {excluded old merged : TokenRow} {ciphertext : String}
    (hrefresh : excluded.refreshTokenCiphertext = some ciphertext) (h : mergeTokens excluded old = some merged) :
    merged.accessTokenCiphertext = excluded.accessTokenCiphertext ∧
      merged.refreshTokenCiphertext = excluded.refreshTokenCiphertext ∧
        merged.encryptionEnvelope = excluded.encryptionEnvelope := by
  unfold mergeTokens mergedEnvelope at h
  rw [hrefresh, if_neg (by simp)] at h
  obtain ⟨envelope, henvelope, h⟩ := Option.bind_eq_some_iff.mp h
  obtain rfl := Option.some.inj henvelope
  obtain rfl := Option.some.inj h
  rw [hrefresh]
  exact ⟨rfl, rfl, rfl⟩

/-- A save without one replaces the access token, in its column and in the envelope. -/
theorem mergeTokens_of_noRefresh {excluded old merged : TokenRow} {members : List (String × Json)} {access : Json}
    (hrefresh : excluded.refreshTokenCiphertext = none)
    (henvelope : excluded.encryptionEnvelope = some (tokenEnvelope access none))
    (hold : old.encryptionEnvelope = some (.obj members)) (h : mergeTokens excluded old = some merged) :
    merged.accessTokenCiphertext = excluded.accessTokenCiphertext ∧
      merged.refreshTokenCiphertext = old.refreshTokenCiphertext ∧
        merged.encryptionEnvelope = some (.obj (Json.setMember "access_token" access members)) := by
  unfold mergeTokens mergedEnvelope at h
  rw [hrefresh, henvelope, hold, if_pos rfl] at h
  obtain ⟨envelope, hset, h⟩ := Option.bind_eq_some_iff.mp h
  obtain rfl := Option.some.inj hset
  obtain rfl := Option.some.inj h
  exact ⟨rfl, rfl, rfl⟩

/-- The new row of a save holds its tokens. -/
theorem holds_newTokenRow {row : TokenRow} (hcompany : Uuid.parse save.userId = some company)
    (h : newTokenRow aes environment save = some row) : ∃ members,
      Holds aes company save.provider members (environment, save)
        (if save.supplied.isSome = true then some (environment, save) else none) row := by
  obtain ⟨-, access, haccess, ⟨hsupplied, hnone, henvelope⟩ | ⟨token, refresh, hsupplied, hrefresh, henvelope⟩⟩ :=
    newTokenRow_eq_some hcompany h
  · refine ⟨_, henvelope, haccess, ?_, fun _ => hnone⟩
    rw [hsupplied]
    rintro _ ⟨⟩
  · refine ⟨_, henvelope, haccess, ?_, ?_⟩
    · rw [hsupplied]
      rintro _ ⟨⟩
      exact ⟨token, hsupplied, hrefresh⟩
    · rw [hsupplied]
      rintro ⟨⟩

/-- What a save makes of a row holds its access token, and its refresh token if it has one. -/
theorem holds_mergeTokens {row old merged : TokenRow} {members : List (String × Json)}
    {last : SaveEnvironment × TokenSave} {lastRefresh : Option (SaveEnvironment × TokenSave)}
    (hcompany : Uuid.parse save.userId = some company) (hrow : newTokenRow aes environment save = some row)
    (hold : Holds aes company save.provider members last lastRefresh old) (h : mergeTokens row old = some merged) :
    ∃ members', Holds aes company save.provider members' (environment, save)
      (if save.supplied.isSome = true then some (environment, save) else lastRefresh) merged := by
  obtain ⟨-, access, haccess, ⟨hsupplied, hnone, henvelope⟩ | ⟨token, refresh, hsupplied, hrefresh, henvelope⟩⟩ :=
    newTokenRow_eq_some hcompany hrow
  · -- the old refresh token stays, with its member of the envelope
    obtain ⟨hciphertext, hkept, hmembers⟩ := mergeTokens_of_noRefresh hnone henvelope hold.envelope h
    have hset : (Json.obj (Json.setMember "access_token" access members)).member? "access_token" = some access := by
      rw [Json.member?_setMember, if_pos rfl]
    have hother : (Json.obj (Json.setMember "access_token" access members)).member? "refresh_token" =
        (Json.obj members).member? "refresh_token" := by
      rw [Json.member?_setMember, if_neg (by decide)]
    refine ⟨_, hmembers, ?_, ?_, ?_⟩
    · rw [hciphertext, hset]
      exact haccess
    · rw [hsupplied, hkept, hother]
      exact hold.refresh
    · rw [hsupplied, hkept]
      exact hold.absent
  · obtain ⟨nonce, text, header, hencrypt, htext, hheader⟩ := hrefresh
    obtain ⟨hciphertext, hkept, hmembers⟩ := mergeTokens_of_refresh htext h
    refine ⟨_, hmembers.trans henvelope, ?_, ?_, ?_⟩
    · rw [hciphertext]
      exact haccess
    · rw [hsupplied, hkept]
      rintro _ ⟨⟩
      exact ⟨token, hsupplied, nonce, text, header, hencrypt, htext, hheader⟩
    · rw [hsupplied]
      rintro ⟨⟩

end Calls

/-! ## Histories -/

section Runs

variable {aes : Aesgcm} {company : Uuid} {provider : TokenProvider}

/-- Without a save there is none that counts. -/
theorem lastRefreshSave_eq_none {history : List TokenEvent} (h : lastSave company provider history = none) :
    lastRefreshSave company provider history = none := by
  unfold lastSave at h
  unfold lastRefreshSave
  induction history with
  | nil => rfl
  | cons event earlier ih =>
      cases event with
      | saved user environment save =>
          by_cases hkey : (user, save.provider) = (company, provider)
          · rw [latestSave, if_pos ⟨hkey, rfl⟩] at h
            cases h
          · rw [latestSave, if_neg fun hboth => hkey hboth.1] at h ⊢
            exact ih h
      | deleted user stored =>
          by_cases hkey : (user, stored) = (company, provider)
          · rw [latestSave, if_pos hkey]
          · rw [latestSave, if_neg hkey] at h ⊢
            exact ih h

theorem latestSave_saved_ne {counts : TokenSave → Bool} {user : Uuid} {environment : SaveEnvironment} {save : TokenSave}
    {earlier : List TokenEvent} (h : (user, save.provider) ≠ (company, provider)) :
    latestSave company provider counts (.saved user environment save :: earlier) =
      latestSave company provider counts earlier := by
  rw [latestSave, if_neg fun hboth => h hboth.1]

theorem latestSave_saved_self {counts : TokenSave → Bool} {environment : SaveEnvironment} {save : TokenSave}
    {earlier : List TokenEvent} : latestSave company save.provider counts (.saved company environment save :: earlier) =
      if counts save = true then some (environment, save) else latestSave company save.provider counts earlier := by
  rw [latestSave]
  by_cases hcounts : counts save = true
  · rw [if_pos ⟨rfl, hcounts⟩, if_pos hcounts]
  · rw [if_neg fun hboth => hcounts hboth.2, if_neg hcounts]

/-- A save that returns keeps the rows of all companies and providers in agreement with their histories. -/
theorem agrees_saved {environment : SaveEnvironment} {save : TokenSave} {user : Uuid} {table : List TokenRow}
    {state : TokenState} (h : Agrees aes company provider state) (huser : Uuid.parse save.userId = some user)
    (hsave : saveOauthTokens aes environment save state.table = some table) :
    Agrees aes company provider ⟨table, .saved user environment save :: state.history⟩ := by
  obtain ⟨row, hrow, hupsert⟩ := Option.bind_eq_some_iff.mp hsave
  obtain ⟨hkey, -⟩ := newTokenRow_eq_some huser hrow
  obtain ⟨written, rfl, hwritten⟩ := mergeUpsert_eq_some hupsert
  have hwrittenKey : written.key = (user, save.provider) := by
    rcases hwritten with ⟨-, rfl⟩ | ⟨old, hfound, hmerged⟩
    · exact hkey
    · rw [key_mergeTokens hmerged, selectKey_key hfound, hkey]
  by_cases hsame : (user, save.provider) = (company, provider)
  · obtain ⟨rfl, rfl⟩ := Prod.mk.inj hsame
    have hlast : lastSave user save.provider (.saved user environment save :: state.history) = some (environment, save) :=
      latestSave_saved_self
    have hrefresh : lastRefreshSave user save.provider (.saved user environment save :: state.history) =
        if save.supplied.isSome = true then some (environment, save)
        else lastRefreshSave user save.provider state.history :=
      latestSave_saved_self
    have hstored : selectKey TokenRow.key (user, save.provider) (upsert TokenRow.key written state.table) = some written := by
      rw [← hwrittenKey]
      exact Change.selectKey_upsert_self written
    right
    rw [hkey] at hwritten
    rcases hwritten with ⟨hnone, rfl⟩ | ⟨old, hfound, hmerged⟩
    · -- the first save of the company for the provider
      rcases h with ⟨hnever, -⟩ | ⟨last, members, old, -, hfound, -⟩
      · obtain ⟨members, hholds⟩ := holds_newTokenRow huser hrow
        refine ⟨_, members, _, hlast, hstored, ?_⟩
        rw [hrefresh, lastRefreshSave_eq_none hnever]
        exact hholds
      · rw [hfound] at hnone
        cases hnone
    · rcases h with ⟨-, hnone⟩ | ⟨last, members, row', -, hfound', hholds⟩
      · rw [hnone] at hfound
        cases hfound
      · rw [hfound'] at hfound
        obtain rfl := Option.some.inj hfound
        obtain ⟨members', hholds'⟩ := holds_mergeTokens huser hrow hholds hmerged
        refine ⟨_, members', _, hlast, hstored, ?_⟩
        rw [hrefresh]
        exact hholds'
  · have hother : selectKey TokenRow.key (company, provider) (upsert TokenRow.key written state.table) =
        selectKey TokenRow.key (company, provider) state.table :=
      Change.selectKey_upsert_ne fun heq => hsame (hwrittenKey.symm.trans heq)
    unfold Agrees lastSave lastRefreshSave at *
    dsimp only
    rw [latestSave_saved_ne hsame, latestSave_saved_ne hsame, hother]
    exact h

/-- A deletion that returns does, too. -/
theorem agrees_deleted {userId : String} {stored : TokenProvider} {user : Uuid} {table : List TokenRow}
    {state : TokenState} (h : Agrees aes company provider state) (huser : Uuid.parse userId = some user)
    (hdelete : deleteOauthTokens userId stored state.table = some table) :
    Agrees aes company provider ⟨table, .deleted user stored :: state.history⟩ := by
  unfold deleteOauthTokens at hdelete
  rw [huser] at hdelete
  obtain rfl := Option.some.inj hdelete
  have hfound : selectKey TokenRow.key (company, provider) (state.table.filter fun row => row.key ≠ (user, stored)) =
      if (user, stored) = (company, provider) then none else selectKey TokenRow.key (company, provider) state.table :=
    Change.selectKey_apply (.remove (user, stored))
  by_cases hsame : (user, stored) = (company, provider)
  · left
    constructor
    · unfold lastSave
      rw [latestSave, if_pos hsame]
    · exact hfound.trans (if_pos hsame)
  · rw [if_neg hsame] at hfound
    unfold Agrees lastSave lastRefreshSave at *
    dsimp only
    rw [latestSave, if_neg hsame, latestSave, if_neg hsame, hfound]
    exact h

theorem agrees_after {state : TokenState} {call : TokenCall} (h : Agrees aes company provider state) :
    Agrees aes company provider (state.after aes call) := by
  cases call with
  | save environment save =>
      simp only [TokenState.after]
      split
      · rename_i user table huser hsave
        exact agrees_saved h huser hsave
      · exact h
  | delete userId stored =>
      simp only [TokenState.after]
      split
      · rename_i user table huser hdelete
        exact agrees_deleted h huser hdelete
      · exact h

theorem agrees_run {table : List TokenRow} (hnew : selectKey TokenRow.key (company, provider) table = none)
    (calls : List TokenCall) : Agrees aes company provider (runTokenCalls aes table calls) := by
  unfold runTokenCalls
  have hstart : Agrees aes company provider ⟨table, []⟩ := .inl ⟨rfl, hnew⟩
  revert hstart
  generalize (⟨table, []⟩ : TokenState) = state
  intro hstate
  induction calls generalizing state with
  | nil => exact hstate
  | cons call calls ih => exact ih _ (agrees_after hstate)

/-- After any calls, of any companies, on a table where a company has no row for a provider yet, `get_oauth_tokens` answers
with the access token of its last save and the refresh token of its last save that had one, if the keys of the two are
known. -/
theorem stored_tokens_are_last_saved (laws : aes.Lawful) (coercions : Coercions) {table : List TokenRow}
    (hnew : selectKey TokenRow.key (company, provider) table = none) (calls : List TokenCall) {userId : String}
    (huser : Uuid.parse userId = some company) {now : KeySettings}
    (hlast : ∀ last, lastSave company provider (runTokenCalls aes table calls).history = some last →
      now.Reads last.1.settings)
    (hrefresh : ∀ last, lastRefreshSave company provider (runTokenCalls aes table calls).history = some last →
      now.Reads last.1.settings) :
    ∃ answer, getOauthTokens aes coercions now userId provider (runTokenCalls aes table calls).table = some answer ∧
      answer.map (fun record => (record.accessToken, record.refreshToken)) =
        (lastSave company provider (runTokenCalls aes table calls).history).map fun last =>
          (some last.2.accessToken, (lastRefreshSave company provider (runTokenCalls aes table calls).history).bind
            fun saved => saved.2.supplied) := by
  unfold getOauthTokens
  rw [huser]
  refine ⟨_, rfl, ?_⟩
  have hagrees : Agrees aes company provider (runTokenCalls aes table calls) := agrees_run hnew calls
  rcases hagrees with ⟨hnever, hnone⟩ | ⟨last, members, row, hsaved, hfound, hholds⟩
  · rw [hnever, hnone]
    rfl
  · rw [hsaved, hfound, Option.bind_some, openRow_of_holds laws hholds (hlast last hsaved) hrefresh]
    rfl

end Runs

/-! ## One environment -/

section Keys

variable {aes : Aesgcm} {company : Uuid} {provider : TokenProvider}

theorem mem_of_latestSave {counts : TokenSave → Bool} {history : List TokenEvent} {last : SaveEnvironment × TokenSave}
    (h : latestSave company provider counts history = some last) :
    ∃ user, TokenEvent.saved user last.1 last.2 ∈ history := by
  induction history with
  | nil => cases h
  | cons event earlier ih =>
      cases event with
      | saved user environment save =>
          rw [latestSave] at h
          split at h
          · obtain rfl := Option.some.inj h
            exact ⟨user, List.mem_cons_self⟩
          · obtain ⟨user', hmem⟩ := ih h
            exact ⟨user', List.mem_cons_of_mem _ hmem⟩
      | deleted user stored =>
          rw [latestSave] at h
          split at h
          · cases h
          · obtain ⟨user', hmem⟩ := ih h
            exact ⟨user', List.mem_cons_of_mem _ hmem⟩

/-- The saves of a history were calls. -/
theorem call_of_saved {calls : List TokenCall} {state : TokenState} {user : Uuid} {environment : SaveEnvironment}
    {save : TokenSave} (h : .saved user environment save ∈ (calls.foldl (TokenState.after aes) state).history) :
    .saved user environment save ∈ state.history ∨ .save environment save ∈ calls := by
  induction calls generalizing state with
  | nil => exact .inl h
  | cons call calls ih =>
      rcases ih h with hmem | hmem
      · have hafter : .saved user environment save ∈ state.history ∨ call = .save environment save := by
          cases call with
          | save environment' save' =>
              simp only [TokenState.after] at hmem
              split at hmem
              · rcases List.mem_cons.mp hmem with heq | hmem
                · obtain ⟨-, rfl, rfl⟩ := TokenEvent.saved.inj heq
                  exact .inr rfl
                · exact .inl hmem
              · exact .inl hmem
          | delete userId stored =>
              simp only [TokenState.after] at hmem
              split at hmem
              · rcases List.mem_cons.mp hmem with heq | hmem
                · cases heq
                · exact .inl hmem
              · exact .inl hmem
        rcases hafter with hmem | rfl
        · exact .inl hmem
        · exact .inr List.mem_cons_self
      · exact .inr (List.mem_cons_of_mem _ hmem)

/-- Keys that are known for all calls are known for the last one that counts. -/
theorem reads_of_calls {table : List TokenRow} {calls : List TokenCall} {now : KeySettings} {counts : TokenSave → Bool}
    (h : ∀ environment save, .save environment save ∈ calls → now.Reads environment.settings)
    (last : SaveEnvironment × TokenSave)
    (hlast : latestSave company provider counts (runTokenCalls aes table calls).history = some last) :
    now.Reads last.1.settings := by
  obtain ⟨user, hmem⟩ := mem_of_latestSave hlast
  rcases call_of_saved hmem with hstart | hcall
  · cases hstart
  · exact h _ _ hcall

end Keys

/-! ## A save without a refresh token -/

/-- A cipher with a checksum for the tag. -/
def sampleTag (key nonce data associatedData : Bytes) : Bytes :=
  List.replicate 16 (UInt8.ofNat ((key ++ nonce ++ data ++ associatedData).foldl (fun total byte => total + byte.toNat) 0))

def sampleAes : Aesgcm where
  encrypt key nonce data associatedData := some (data ++ sampleTag key nonce data associatedData)
  decrypt key nonce ciphertext associatedData :=
    let data := ciphertext.take (ciphertext.length - 16)
    if ciphertext.drop (ciphertext.length - 16) = sampleTag key nonce data associatedData then some data else none

theorem lawful_sampleAes : sampleAes.Lawful := by
  constructor
  · rintro key nonce data associatedData _ ⟨⟩
    have hlength : (data ++ sampleTag key nonce data associatedData).length - 16 = data.length := by
      simp [sampleTag]
    simp only [sampleAes, hlength, List.take_left, List.drop_left, if_true]
  · rintro key nonce data associatedData _ ⟨⟩
    simp [sampleTag]

def sampleKeys : KeySettings :=
  ⟨"bGxsbGxsbGxsbGxsbGxsbGxsbGxsbGxsbGxsbGxsbGw=", "1", "", ""⟩

def google : TokenProvider :=
  ⟨"google", by decide⟩

/-- A save of a company. -/
def sampleSave (nonce : UInt8) (accessToken : String) (refreshToken : Option String) : TokenCall :=
  .save ⟨sampleKeys, List.replicate 12 nonce, List.replicate 12 (nonce + 1), 1⟩
    { userId := "11111111-1111-4111-8111-111111111111", provider := google, accessToken, expiresAt := 3600000000,
      refreshToken, tokenType := "Bearer", scope := none, googleSubject := none, googleEmail := none }

/-- A company connects, and its access token is replaced later. -/
def sampleCalls : List TokenCall :=
  [sampleSave 0 "access-1" (some "refresh-1"), sampleSave 2 "access-2" none]

def sampleTokenCompany : Uuid := 0x11111111111141118111111111111111

theorem reads_sampleCalls (environment : SaveEnvironment) (save : TokenSave) (h : .save environment save ∈ sampleCalls) :
    sampleKeys.Reads environment.settings := by
  simp only [sampleCalls, sampleSave, List.mem_cons, List.not_mem_nil, or_false, TokenCall.save.injEq] at h
  rcases h with ⟨rfl, -⟩ | ⟨rfl, -⟩
  · exact sampleKeys.reads_self
  · exact sampleKeys.reads_self

theorem stored_tokens_are_last_saved_kept : ∃ answer, getOauthTokens sampleAes ⟨default, fun _ => "None",
      fun _ => .error .valueError⟩ sampleKeys "11111111-1111-4111-8111-111111111111" google
      (runTokenCalls sampleAes [] sampleCalls).table = some answer ∧
    answer.map (fun record => (record.accessToken, record.refreshToken)) = some (some "access-2", some "refresh-1") := by
  have hnew : selectKey TokenRow.key (sampleTokenCompany, google) [] = none := rfl
  have hcompany : Uuid.parse "11111111-1111-4111-8111-111111111111" = some sampleTokenCompany := by decide +kernel
  obtain ⟨answer, hanswer, htokens⟩ := stored_tokens_are_last_saved lawful_sampleAes ⟨default, fun _ => "None",
    fun _ => .error .valueError⟩ hnew sampleCalls hcompany (reads_of_calls reads_sampleCalls)
    (reads_of_calls reads_sampleCalls)
  refine ⟨answer, hanswer, htokens.trans ?_⟩
  decide +kernel

end Db
end VoiceAssistants
