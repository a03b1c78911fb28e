import VoiceAssistants.Async.Run
import Mathlib.Algebra.Order.Ring.Int

/-!
# Google tokens of a company (`google_oauth.py`, `google_oauth_complete` and `db/tokens.py`)

The broker stores the credential of a company in one row of `oauth_tokens` and keeps its access token in memory.
`get_valid_access_token` answers from memory, or else, one call at a time, from the row, which it refreshes when less
than a minute is left.  An OAuth completion saves a row and caches its token.  `revoke_and_disconnect` drops the cached
token, revokes the credential and deletes the row.

Neither a completion nor a disconnect takes the lock of the calls, and every save is unconditional.  So a refresh brings
back a row that was deleted since it began, or overwrites a later credential (`refresh_undoes`).
`disconnect_is_final` is what remains when nothing has changed the row between a call's reading and its writing, and
nothing is cached between a disconnect's two deletions.

The steps of any number of calls, completions and disconnects of one company come in any order.  Every credential has
with it the number of the completion that it goes back to, which the code does not keep.  Encryption is left out: what
is stored is what is read, or cannot be read.
-/

namespace VoiceAssistants
namespace GoogleTokens

open Async

/-! ## The stored credential -/

/-- A row of `oauth_tokens`. -/
structure Credential (K : Type) where
  accessToken : String
  refreshToken : Option String
  tokenType : String
  scope : Option String
  googleSubject : Option String
  googleEmail : Option String
  expiresAt : K
  deriving DecidableEq

/-- With the number of the completion that it goes back to. -/
structure Stored (K : Type) where
  credential : Credential K
  epoch : Nat
  deriving DecidableEq

/-- Python's truth of a text. -/
def nonEmpty (text : Option String) : Option String :=
  text.filter (· ≠ "")

/-- The upsert of `save_oauth_tokens`. -/
def saveOAuthTokens {K : Type} (credential : Credential K) (row : Option (Credential K)) : Credential K :=
  let refreshToken := nonEmpty credential.refreshToken
  match row with
  | none => { credential with refreshToken := refreshToken }
  | some old =>
      { credential with
        refreshToken := refreshToken.or old.refreshToken
        scope := credential.scope.or old.scope
        googleSubject := credential.googleSubject.or old.googleSubject
        googleEmail := credential.googleEmail.or old.googleEmail }

/-- `_CachedAccessToken` -/
structure Cached (K : Type) where
  value : String
  expiresAt : K
  epoch : Nat
  deriving DecidableEq

/-! ## The calls -/

/-- How often the row was replaced by a completion, and deleted. -/
structure Version where
  completed : Nat
  deleted : Nat
  deriving DecidableEq, Repr

/-- The answer of Google's token endpoint. -/
structure Tokens (K : Type) where
  accessToken : String
  expiresIn : Option K
  refreshToken : Option String
  scope : Option String
  deriving DecidableEq

/-- Where a `get_valid_access_token` is.  All but the first hold the lock; `now` is the time at which it was taken. -/
inductive Phase (K : Type)
  | waiting
  | entered (now : K)
  | loaded (now : K) (stored : Option (Stored K)) (seen : Version)
  | refreshing (now : K) (stored : Stored K) (seen : Version)
  | refreshed (now : K) (stored : Stored K) (seen : Version) (tokens : Tokens K)
  | saved (token : Cached K) (seen : Version)
  deriving DecidableEq

/-- A completion whose row is saved, and how many deletions there had been. -/
structure Completion (K : Type) where
  token : Cached K
  deleted : Nat
  deriving DecidableEq

/-- What a call returned, and whether the company was disconnected at that time. -/
structure Answer where
  token : Option String
  disconnected : Bool
  deriving DecidableEq, Repr

structure State (K : Type) where
  clock : K
  row : Option (Stored K)
  cache : Option (Cached K)
  version : Version
  calls : List (Phase K)
  completions : List (Completion K)
  /-- The disconnects, with the number of completions at their deletion once that is done. -/
  disconnects : List (Option Nat)
  /-- A disconnect has returned, and no completion has saved a row since its deletion. -/
  disconnected : Bool
  answers : List Answer
  deriving DecidableEq

inductive Action (K : Type)
  | pass (time : K)
  | call
  | acquire (index : Nat)
  /-- The query of `get_oauth_tokens`; a row that fails its integrity check counts as none. -/
  | read (index : Nat) (readable : Bool)
  | resume (index : Nat)
  | refresh (index : Nat) (tokens : Option (Tokens K))
  | save (index : Nat)
  | finish (index : Nat)
  /-- An exception, or a cancellation, at whatever `await` a call is. -/
  | abort (index : Nat)
  /-- The transaction of a completion. -/
  | complete (tokens : Tokens K) (tokenType googleSubject googleEmail : String) (expiresIn : Int)
  | cacheCompleted (index : Nat)
  | abortCompletion (index : Nat)
  | disconnect
  | delete (index : Nat)
  | returnDisconnect (index : Nat)
  | abortDisconnect (index : Nat)
  /-- The entries of other companies push the cached token out. -/
  | evict
  deriving DecidableEq

section Clock

variable {K : Type} [Ring K] [LinearOrder K]

/-- More than a minute is left. -/
def fresh (now expiresAt : K) : Bool :=
  now + 60 < expiresAt

/-- The broker starts with an empty cache. -/
def initial (time : K) (credential : Option (Credential K)) : State K :=
  ⟨time, credential.map fun stored => ⟨stored, 0⟩, none, ⟨0, 0⟩, [], [], [], false, []⟩

/-- `cache_access_token` -/
def cacheAccessToken (token : Cached K) (cache : Option (Cached K)) : Option (Cached K) :=
  if token.value = "" then cache else some token

/-- The token that `_cached_access_token` leaves in the cache, and returns. -/
def State.cachedAccessToken (s : State K) : Option (Cached K) :=
  s.cache.filter fun cached => fresh s.clock cached.expiresAt

/-- A call returns. -/
def State.answer (s : State K) (index : Nat) (token : Option String) : State K :=
  { s with calls := s.calls.eraseIdx index, answers := ⟨token, s.disconnected⟩ :: s.answers }

/-- A call caches its token and returns it. -/
def State.answerCached (s : State K) (index : Nat) (token : Cached K) : State K :=
  { s with cache := cacheAccessToken token s.cache }.answer index (some token.value)

/-- A call goes on to its next phase. -/
def State.advance (s : State K) (index : Nat) (phase : Phase K) : State K :=
  { s with calls := s.calls.set index phase }

/-- `get_valid_access_token` after the query. -/
def State.resume (s : State K) (index : Nat) (now : K) (stored : Option (Stored K)) (seen : Version) : State K :=
  match stored with
  | none => s.answer index none
  | some stored =>
      if fresh now stored.credential.expiresAt then
        s.answerCached index ⟨stored.credential.accessToken, stored.credential.expiresAt, stored.epoch⟩
      else if (nonEmpty stored.credential.refreshToken).isNone then s.answer index none
      else s.advance index (.refreshing now stored seen)

/-- The credential that a refresh saves. -/
def refreshedCredential (now : K) (stored : Credential K) (tokens : Tokens K) : Credential K where
  accessToken := tokens.accessToken
  refreshToken := (nonEmpty tokens.refreshToken).or stored.refreshToken
  tokenType := "Bearer"
  scope := tokens.scope
  googleSubject := stored.googleSubject
  googleEmail := stored.googleEmail
  expiresAt := now + tokens.expiresIn.getD 3600

/-- A transaction that saves a credential. -/
def State.store (s : State K) (credential : Credential K) (epoch : Nat) : State K :=
  { s with row := some ⟨saveOAuthTokens credential (s.row.map Stored.credential), epoch⟩ }

/-- The save of a refresh. -/
def State.save (s : State K) (index : Nat) (now : K) (stored : Stored K) (seen : Version) (tokens : Tokens K) : State K :=
  let credential := refreshedCredential now stored.credential tokens
  (s.store credential stored.epoch).advance index
    (.saved ⟨credential.accessToken, credential.expiresAt, stored.epoch⟩ seen)

/-- The save of a completion. -/
def State.complete (s : State K) (tokens : Tokens K) (tokenType googleSubject googleEmail : String) (expiresIn : Int) :
    State K :=
  let credential : Credential K :=
    ⟨tokens.accessToken, tokens.refreshToken, tokenType, tokens.scope, some googleSubject, some googleEmail,
      s.clock + expiresIn⟩
  let epoch := s.version.completed + 1
  let completion := ⟨⟨credential.accessToken, credential.expiresAt, epoch⟩, s.version.deleted⟩
  { s.store credential epoch with
    version := { s.version with completed := epoch }
    completions := s.completions ++ [completion]
    disconnected := false }

def State.delete (s : State K) (index : Nat) : State K :=
  { s with
    row := none
    version := { s.version with deleted := s.version.deleted + 1 }
    disconnects := s.disconnects.set index (some s.version.completed) }

def Phase.isWaiting : Phase K → Bool
  | .waiting => true
  | .entered _ | .loaded .. | .refreshing .. | .refreshed .. | .saved .. => false

def step (s : State K) : Action K → Option (State K)
  | .pass time => if s.clock ≤ time then some { s with clock := time } else none
  | .call =>
      match s.cachedAccessToken with
      | some cached => some { s with answers := ⟨some cached.value, s.disconnected⟩ :: s.answers }
      | none => some { s with cache := none, calls := s.calls ++ [.waiting] }
  | .acquire index =>
      match s.calls[index]? with
      | some .waiting =>
          -- the lock is free
          if s.calls.all Phase.isWaiting then
            match s.cachedAccessToken with
            | some cached => some (s.answer index (some cached.value))
            | none => some ({ s with cache := none }.advance index (.entered s.clock))
          else none
      | _ => none
  | .read index readable =>
      match s.calls[index]? with
      | some (.entered now) =>
          some (s.advance index (.loaded now (if readable then s.row else none) s.version))
      | _ => none
  | .resume index =>
      match s.calls[index]? with
      | some (.loaded now stored seen) => some (s.resume index now stored seen)
      | _ => none
  | .refresh index tokens =>
      match s.calls[index]? with
      | some (.refreshing now stored seen) =>
          match tokens with
          | none => some (s.answer index none)
          | some tokens => some (s.advance index (.refreshed now stored seen tokens))
      | _ => none
  | .save index =>
      match s.calls[index]? with
      | some (.refreshed now stored seen tokens) => some (s.save index now stored seen tokens)
      | _ => none
  | .finish index =>
      match s.calls[index]? with
      | some (.saved token _) => some (s.answerCached index token)
      | _ => none
  | .abort index => some { s with calls := s.calls.eraseIdx index }
  | .complete tokens tokenType googleSubject googleEmail expiresIn =>
      -- answers without an access token, a subject or an email are refused
      if tokens.accessToken ≠ "" ∧ googleSubject ≠ "" ∧ googleEmail ≠ "" then
        some (s.complete tokens tokenType googleSubject googleEmail expiresIn)
      else none
  | .cacheCompleted index =>
      match s.completions[index]? with
      | some completion =>
          some { s with
            cache := cacheAccessToken completion.token s.cache
            completions := s.completions.eraseIdx index }
      | none => none
  | .abortCompletion index => some { s with completions := s.completions.eraseIdx index }
  | .disconnect => some { s with cache := none, disconnects := s.disconnects ++ [none] }
  | .delete index =>
      match s.disconnects[index]? with
      | some none => some (s.delete index)
      | _ => none
  | .returnDisconnect index =>
      match s.disconnects[index]? with
      | some (some completed) =>
          some { s with
            disconnects := s.disconnects.eraseIdx index
            disconnected := s.disconnected || completed = s.version.completed }
      | _ => none
  | .abortDisconnect index => some { s with disconnects := s.disconnects.eraseIdx index }
  | .evict => some { s with cache := none }

/-! ## What is promised, and when it holds -/

/-- What a call whose next step writes has seen of the row. -/
def Phase.writes : Phase K → Option Version
  | .loaded now (some stored) seen => if fresh now stored.credential.expiresAt then some seen else none
  | .refreshed _ _ seen _ | .saved _ seen => some seen
  | .waiting | .entered _ | .loaded _ none _ | .refreshing .. => none

/-- The row is the one that the call has read, or saved. -/
def State.Unchanged (s : State K) (index : Nat) : Prop :=
  ∀ phase ∈ s.calls[index]?, ∀ seen ∈ phase.writes, seen = s.version

/-- A call writes only if no completion has saved a row and none was deleted since it read its own; a completion caches
its token only if no row was deleted since it saved its own; and a row is deleted only while nothing usable is cached. -/
def Undisturbed (s : State K) : Action K → Prop
  | .resume index | .save index | .finish index => s.Unchanged index
  | .cacheCompleted index => ∀ completion ∈ s.completions[index]?, completion.deleted = s.version.deleted
  | .delete _ => s.cachedAccessToken = none
  | .pass _ | .call | .acquire _ | .read .. | .refresh .. | .abort _ | .complete .. | .abortCompletion _ | .disconnect
  | .returnDisconnect _ | .abortDisconnect _ | .evict => True

instance (s : State K) (index : Nat) : Decidable (s.Unchanged index) :=
  inferInstanceAs (Decidable (∀ phase ∈ s.calls[index]?, ∀ seen ∈ phase.writes, seen = s.version))

instance (s : State K) (action : Action K) : Decidable (Undisturbed s action) :=
  match action with
  | .resume index | .save index | .finish index => inferInstanceAs (Decidable (s.Unchanged index))
  | .cacheCompleted index => inferInstanceAs (Decidable (∀ completion ∈ s.completions[index]?, _))
  | .delete _ => inferInstanceAs (Decidable (s.cachedAccessToken = none))
  | .pass _ | .call | .acquire _ | .read .. | .refresh .. | .abort _ | .complete .. | .abortCompletion _ | .disconnect
  | .returnDisconnect _ | .abortDisconnect _ | .evict => .isTrue trivial

/-- A disconnect is final: there is no row, and no call has returned a token. -/
structure DisconnectFinal (s : State K) : Prop where
  noRow : s.disconnected = true → s.row = none
  noToken : ∀ answer ∈ s.answers, answer.disconnected = true → answer.token = none

/-- No credential takes the place of one of a later completion, neither in the row nor, unless a completion puts it there,
in the cache. -/
structure NoRollback (s : State K) (action : Action K) (t : State K) : Prop where
  row : ∀ stored ∈ s.row, ∀ stored' ∈ t.row, stored.epoch ≤ stored'.epoch
  cache : (∀ index, action ≠ .cacheCompleted index) →
    ∀ cached ∈ s.cache, ∀ cached' ∈ t.cache, cached.epoch ≤ cached'.epoch

/-! ## The invariant -/

/-- The credential of a call, and what the call has seen of the row. -/
def Phase.lineage : Phase K → Option (Nat × Version)
  | .loaded _ (some stored) seen | .refreshing _ stored seen | .refreshed _ stored seen _ => some (stored.epoch, seen)
  | .saved token seen => some (token.epoch, seen)
  | .waiting | .entered _ | .loaded _ none _ => none

/-- A credential is as old as the row that was seen, and while nothing has changed that row is there. -/
structure Traced (version : Version) (row : Option (Stored K)) (epoch : Nat) (seen : Version) : Prop where
  epoch : epoch = seen.completed
  completed : seen.completed ≤ version.completed
  deleted : seen.deleted ≤ version.deleted
  row : seen = version → row.isSome = true

/-- The row goes back to the last completion, and without a row nothing usable is cached. -/
structure TokenInvariant (s : State K) : Prop where
  row : ∀ stored ∈ s.row, stored.epoch = s.version.completed
  cache : ∀ cached ∈ s.cache, cached.epoch ≤ s.version.completed
  gone : s.row = none → s.cachedAccessToken = none
  final : s.disconnected = true → s.row = none
  calls : ∀ phase ∈ s.calls, ∀ lineage ∈ phase.lineage, Traced s.version s.row lineage.1 lineage.2
  completions : ∀ completion ∈ s.completions, completion.token.epoch ≤ s.version.completed ∧
    completion.deleted ≤ s.version.deleted ∧ (completion.deleted = s.version.deleted → s.row.isSome = true)
  disconnects : ∀ deletedAt ∈ s.disconnects, ∀ completed ∈ deletedAt, completed ≤ s.version.completed ∧
    (completed = s.version.completed → s.row = none)
  answered : ∀ answer ∈ s.answers, answer.disconnected = true → answer.token = none

theorem tokenInvariant_initial (time : K) (credential : Option (Credential K)) :
    TokenInvariant (initial time credential) where
  row := by
    intro stored hstored
    obtain ⟨original, -, rfl⟩ := Option.map_eq_some_iff.mp hstored
    rfl
  cache := by simp [initial]
  gone := fun _ => rfl
  final := by simp [initial]
  calls := by simp [initial]
  completions := by simp [initial]
  disconnects := by simp [initial]
  answered := by simp [initial]

section Invariant

variable {s t : State K} {index : Nat}

theorem cachedAccessToken_eq_none : s.cachedAccessToken = none ↔
    ∀ cached ∈ s.cache, fresh s.clock cached.expiresAt = false := by
  unfold State.cachedAccessToken
  cases s.cache with
  | none => simp
  | some cached => simp [Option.filter]

/-- A cached token that can be used has its row. -/
theorem TokenInvariant.row_of_cached (h : TokenInvariant s) {cached : Cached K} (hcached : s.cachedAccessToken = some cached) :
    s.row.isSome = true := by
  cases hrow : s.row with
  | none =>
      have hnone := h.gone hrow
      rw [hcached] at hnone
      cases hnone
  | some stored => rfl

/-- While there is a row, no company is disconnected. -/
theorem TokenInvariant.not_disconnected (h : TokenInvariant s) (hrow : s.row.isSome = true) : s.disconnected = false := by
  cases hdisconnected : s.disconnected with
  | false => rfl
  | true =>
      rw [h.final hdisconnected] at hrow
      cases hrow

theorem TokenInvariant.dropCache (h : TokenInvariant s) : TokenInvariant { s with cache := none } where
  row := h.row
  cache := fun _ hcached => nomatch hcached
  gone := fun _ => rfl
  final := h.final
  calls := h.calls
  completions := h.completions
  disconnects := h.disconnects
  answered := h.answered

theorem TokenInvariant.cacheToken (h : TokenInvariant s) {token : Cached K} (hepoch : token.epoch ≤ s.version.completed)
    (hrow : s.row.isSome = true) : TokenInvariant { s with cache := cacheAccessToken token s.cache } := by
  refine { h with cache := ?_, gone := ?_ }
  · intro cached hcached
    unfold cacheAccessToken at hcached
    split at hcached
    · exact h.cache cached hcached
    · obtain rfl := Option.some.inj hcached
      exact hepoch
  · intro hnone
    rw [hnone] at hrow
    cases hrow

/-- A token is returned only while there is a row. -/
theorem TokenInvariant.answer (h : TokenInvariant s) {token : Option String}
    (htoken : token ≠ none → s.row.isSome = true) : TokenInvariant (s.answer index token) := by
  refine { h with calls := ?_, answered := ?_ }
  · exact fun phase hphase => h.calls phase (List.mem_of_mem_eraseIdx hphase)
  · intro answer hanswer hdisconnected
    rcases List.mem_cons.mp hanswer with rfl | hold
    · cases token with
      | none => rfl
      | some value =>
          have hnot := h.not_disconnected (htoken (Option.some_ne_none value))
          exact absurd (hnot.symm.trans hdisconnected) Bool.false_ne_true
    · exact h.answered answer hold hdisconnected

theorem TokenInvariant.advance (h : TokenInvariant s) {phase : Phase K}
    (hphase : ∀ lineage ∈ phase.lineage, Traced s.version s.row lineage.1 lineage.2) :
    TokenInvariant (s.advance index phase) := by
  refine { h with calls := ?_ }
  intro other hother
  rcases List.mem_or_eq_of_mem_set hother with hold | rfl
  · exact h.calls other hold
  · exact hphase

/-- A call that has seen the row as it is caches its token and returns it. -/
theorem TokenInvariant.answerCached (h : TokenInvariant s) {token : Cached K}
    (htraced : Traced s.version s.row token.epoch s.version) : TokenInvariant (s.answerCached index token) := by
  have hrow : s.row.isSome = true := htraced.row rfl
  have hcached : TokenInvariant { s with cache := cacheAccessToken token s.cache } :=
    h.cacheToken (le_of_eq htraced.epoch) hrow
  exact hcached.answer fun _ => hrow

theorem TokenInvariant.resume (h : TokenInvariant s) {now : K} {stored : Option (Stored K)} {seen : Version}
    (hfound : s.calls[index]? = some (.loaded now stored seen)) (hunchanged : s.Unchanged index) :
    TokenInvariant (s.resume index now stored seen) := by
  have htraced := h.calls _ (List.mem_of_getElem? hfound)
  cases stored with
  | none => exact h.answer fun hne => absurd rfl hne
  | some stored =>
      simp only [State.resume]
      split
      · rename_i hfresh
        have hseen : seen = s.version := hunchanged _ hfound seen (if_pos hfresh)
        subst hseen
        exact h.answerCached (htraced (stored.epoch, s.version) rfl)
      · split
        · exact h.answer fun hne => absurd rfl hne
        · exact h.advance htraced

theorem TokenInvariant.save (h : TokenInvariant s) {now : K} {stored : Stored K} {seen : Version} {tokens : Tokens K}
    (hfound : s.calls[index]? = some (.refreshed now stored seen tokens)) (hunchanged : s.Unchanged index) :
    TokenInvariant (s.save index now stored seen tokens) := by
  have hseen : seen = s.version := hunchanged _ hfound seen rfl
  subst hseen
  have htraced := h.calls _ (List.mem_of_getElem? hfound) (stored.epoch, s.version) rfl
  have hrow : s.row.isSome = true := htraced.row rfl
  have hsome : ∀ epoch : Nat, ∀ credential : Credential K, (s.store credential epoch).row.isSome = true := fun _ _ => rfl
  have hstored : TokenInvariant (s.store (refreshedCredential now stored.credential tokens) stored.epoch) := by
    refine { h with row := ?_, gone := ?_, final := ?_, calls := ?_, completions := ?_, disconnects := ?_ }
    · intro saved hsaved
      obtain rfl := Option.some.inj hsaved
      exact htraced.epoch
    · exact fun hnone => nomatch hnone
    · intro hdisconnected
      have hnot := h.not_disconnected hrow
      exact absurd (hnot.symm.trans hdisconnected) Bool.false_ne_true
    · intro phase hphase lineage hlineage
      exact { h.calls phase hphase lineage hlineage with row := fun _ => rfl }
    · intro completion hcompletion
      obtain ⟨hepoch, hdeleted, -⟩ := h.completions completion hcompletion
      exact ⟨hepoch, hdeleted, fun _ => rfl⟩
    · intro deletedAt hmem completed hcompleted
      obtain ⟨hle, hgone⟩ := h.disconnects deletedAt hmem completed hcompleted
      refine ⟨hle, fun heq => ?_⟩
      rw [hgone heq] at hrow
      cases hrow
  apply hstored.advance
  intro lineage hlineage
  obtain rfl := Option.some.inj hlineage
  exact { htraced with row := fun _ => rfl }

theorem TokenInvariant.complete (h : TokenInvariant s) (tokens : Tokens K)
    (tokenType googleSubject googleEmail : String) (expiresIn : Int) :
    TokenInvariant (s.complete tokens tokenType googleSubject googleEmail expiresIn) where
  row := by
    intro stored hstored
    obtain rfl := Option.some.inj hstored
    rfl
  cache := fun cached hcached => Nat.le_succ_of_le (h.cache cached hcached)
  gone := fun hnone => nomatch hnone
  final := fun hdisconnected => nomatch hdisconnected
  calls := by
    intro phase hphase lineage hlineage
    obtain ⟨hepoch, hcompleted, hdeleted, -⟩ := h.calls phase hphase lineage hlineage
    exact ⟨hepoch, Nat.le_succ_of_le hcompleted, hdeleted, fun _ => rfl⟩
  completions := by
    intro completion hcompletion
    rcases List.mem_append.mp hcompletion with hold | hnew
    · obtain ⟨hepoch, hdeleted, -⟩ := h.completions completion hold
      exact ⟨Nat.le_succ_of_le hepoch, hdeleted, fun _ => rfl⟩
    · obtain rfl := List.mem_singleton.mp hnew
      exact ⟨Nat.le_refl _, Nat.le_refl _, fun _ => rfl⟩
  disconnects := by
    intro deletedAt hmem completed hcompleted
    obtain ⟨hle, -⟩ := h.disconnects deletedAt hmem completed hcompleted
    exact ⟨Nat.le_succ_of_le hle, fun heq => absurd (heq ▸ hle) (Nat.not_succ_le_self _)⟩
  answered := h.answered

theorem TokenInvariant.delete (h : TokenInvariant s) (hcache : s.cachedAccessToken = none) :
    TokenInvariant (s.delete index) where
  row := fun stored hstored => nomatch hstored
  cache := h.cache
  gone := fun _ => hcache
  final := fun _ => rfl
  calls := by
    intro phase hphase lineage hlineage
    obtain ⟨hepoch, hcompleted, hdeleted, -⟩ := h.calls phase hphase lineage hlineage
    refine ⟨hepoch, hcompleted, Nat.le_succ_of_le hdeleted, fun hseen => ?_⟩
    -- the row was seen before the deletion
    rw [hseen] at hdeleted
    exact absurd hdeleted (Nat.not_succ_le_self _)
  completions := by
    intro completion hcompletion
    obtain ⟨hepoch, hdeleted, -⟩ := h.completions completion hcompletion
    exact ⟨hepoch, Nat.le_succ_of_le hdeleted, fun heq => absurd (heq ▸ hdeleted) (Nat.not_succ_le_self _)⟩
  disconnects := by
    intro deletedAt hmem completed hcompleted
    rcases List.mem_or_eq_of_mem_set hmem with hold | rfl
    · exact ⟨(h.disconnects deletedAt hold completed hcompleted).1, fun _ => rfl⟩
    · obtain rfl := Option.some.inj hcompleted
      exact ⟨Nat.le_refl _, fun _ => rfl⟩
  answered := h.answered

end Invariant

/-! ## Every step -/

section Steps

variable {s t : State K} {action : Action K}

/-- What a step does. -/
inductive Stepped (s : State K) : Action K → State K → Prop
  | passed (time : K) (later : s.clock ≤ time) : Stepped s (.pass time) { s with clock := time }
  | hit (cached : Cached K) (found : s.cachedAccessToken = some cached) :
      Stepped s .call { s with answers := ⟨some cached.value, s.disconnected⟩ :: s.answers }
  | called : Stepped s .call { s with cache := none, calls := s.calls ++ [.waiting] }
  | coalesced (index : Nat) (cached : Cached K) (found : s.cachedAccessToken = some cached) :
      Stepped s (.acquire index) (s.answer index (some cached.value))
  | acquired (index : Nat) :
      Stepped s (.acquire index) ({ s with cache := none }.advance index (.entered s.clock))
  | read (index : Nat) (readable : Bool) (now : K) :
      Stepped s (.read index readable) (s.advance index (.loaded now (if readable then s.row else none) s.version))
  | resumed (index : Nat) (now : K) (stored : Option (Stored K)) (seen : Version)
      (found : s.calls[index]? = some (.loaded now stored seen)) :
      Stepped s (.resume index) (s.resume index now stored seen)
  | unrefreshed (index : Nat) : Stepped s (.refresh index none) (s.answer index none)
  | refreshed (index : Nat) (now : K) (stored : Stored K) (seen : Version) (tokens : Tokens K)
      (found : s.calls[index]? = some (.refreshing now stored seen)) :
      Stepped s (.refresh index (some tokens)) (s.advance index (.refreshed now stored seen tokens))
  | saved (index : Nat) (now : K) (stored : Stored K) (seen : Version) (tokens : Tokens K)
      (found : s.calls[index]? = some (.refreshed now stored seen tokens)) :
      Stepped s (.save index) (s.save index now stored seen tokens)
  | finished (index : Nat) (token : Cached K) (seen : Version) (found : s.calls[index]? = some (.saved token seen)) :
      Stepped s (.finish index) (s.answerCached index token)
  | aborted (index : Nat) : Stepped s (.abort index) { s with calls := s.calls.eraseIdx index }
  | completed (tokens : Tokens K) (tokenType googleSubject googleEmail : String) (expiresIn : Int) :
      Stepped s (.complete tokens tokenType googleSubject googleEmail expiresIn)
        (s.complete tokens tokenType googleSubject googleEmail expiresIn)
  | completionCached (index : Nat) (completion : Completion K) (found : s.completions[index]? = some completion) :
      Stepped s (.cacheCompleted index)
        { s with cache := cacheAccessToken completion.token s.cache, completions := s.completions.eraseIdx index }
  | completionAborted (index : Nat) :
      Stepped s (.abortCompletion index) { s with completions := s.completions.eraseIdx index }
  | disconnects : Stepped s .disconnect { s with cache := none, disconnects := s.disconnects ++ [none] }
  | deleted (index : Nat) : Stepped s (.delete index) (s.delete index)
  | returned (index completed : Nat) (found : s.disconnects[index]? = some (some completed)) :
      Stepped s (.returnDisconnect index)
        { s with
          disconnects := s.disconnects.eraseIdx index
          disconnected := s.disconnected || completed = s.version.completed }
  | disconnectAborted (index : Nat) :
      Stepped s (.abortDisconnect index) { s with disconnects := s.disconnects.eraseIdx index }
  | evicted : Stepped s .evict { s with cache := none }

theorem step_cases (h : step s action = some t) : Stepped s action t := by
  cases action with
  | pass time =>
      simp only [step] at h
      split at h
      · rename_i hlater
        obtain rfl := Option.some.inj h
        exact .passed time hlater
      · cases h
  | call =>
      simp only [step] at h
      split at h
      · rename_i cached hcached
        obtain rfl := Option.some.inj h
        exact .hit cached hcached
      · obtain rfl := Option.some.inj h
        exact .called
  | acquire index =>
      simp only [step] at h
      split at h
      · split at h
        · split at h
          · rename_i cached hcached
            obtain rfl := Option.some.inj h
            exact .coalesced index cached hcached
          · obtain rfl := Option.some.inj h
            exact .acquired index
        · cases h
      · cases h
  | read index readable =>
      simp only [step] at h
      split at h
      · rename_i now hfound
        obtain rfl := Option.some.inj h
        exact .read index readable now
      · cases h
  | resume index =>
      simp only [step] at h
      split at h
      · rename_i now stored seen hfound
        obtain rfl := Option.some.inj h
        exact .resumed index now stored seen hfound
      · cases h
  | refresh index tokens =>
      simp only [step] at h
      split at h
      · rename_i now stored seen hfound
        cases tokens with
        | none =>
            obtain rfl := Option.some.inj h
            exact .unrefreshed index
        | some tokens =>
            obtain rfl := Option.some.inj h
            exact .refreshed index now stored seen tokens hfound
      · cases h
  | save index =>
      simp only [step] at h
      split at h
      · rename_i now stored seen tokens hfound
        obtain rfl := Option.some.inj h
        exact .saved index now stored seen tokens hfound
      · cases h
  | finish index =>
      simp only [step] at h
      split at h
      · rename_i token seen hfound
        obtain rfl := Option.some.inj h
        exact .finished index token seen hfound
      · cases h
  | abort index =>
      obtain rfl := Option.some.inj h
      exact .aborted index
  | complete tokens tokenType googleSubject googleEmail expiresIn =>
      simp only [step] at h
      split at h
      · obtain rfl := Option.some.inj h
        exact .completed tokens tokenType googleSubject googleEmail expiresIn
      · cases h
  | cacheCompleted index =>
      simp only [step] at h
      split at h
      · rename_i completion hfound
        obtain rfl := Option.some.inj h
        exact .completionCached index completion hfound
      · cases h
  | abortCompletion index =>
      obtain rfl := Option.some.inj h
      exact .completionAborted index
  | disconnect =>
      obtain rfl := Option.some.inj h
      exact .disconnects
  | delete index =>
      simp only [step] at h
      split at h
      · obtain rfl := Option.some.inj h
        exact .deleted index
      · cases h
  | returnDisconnect index =>
      simp only [step] at h
      split at h
      · rename_i completed hfound
        obtain rfl := Option.some.inj h
        exact .returned index completed hfound
      · cases h
  | abortDisconnect index =>
      obtain rfl := Option.some.inj h
      exact .disconnectAborted index
  | evict =>
      obtain rfl := Option.some.inj h
      exact .evicted

/-- The steps that only end something. -/
theorem TokenInvariant.dropCall (h : TokenInvariant s) (index : Nat) :
    TokenInvariant { s with calls := s.calls.eraseIdx index } :=
  { h with calls := fun phase hphase => h.calls phase (List.mem_of_mem_eraseIdx hphase) }

theorem TokenInvariant.dropCompletion (h : TokenInvariant s) (index : Nat) :
    TokenInvariant { s with completions := s.completions.eraseIdx index } :=
  { h with completions := fun completion hmem => h.completions completion (List.mem_of_mem_eraseIdx hmem) }

theorem TokenInvariant.dropDisconnect (h : TokenInvariant s) (index : Nat) :
    TokenInvariant { s with disconnects := s.disconnects.eraseIdx index } :=
  { h with disconnects := fun deletedAt hmem => h.disconnects deletedAt (List.mem_of_mem_eraseIdx hmem) }

theorem TokenInvariant.step [IsStrictOrderedRing K] (h : TokenInvariant s) (hallowed : Undisturbed s action)
    (hstep : step s action = some t) : TokenInvariant t := by
  cases step_cases hstep with
  | passed time hlater =>
      refine { h with gone := ?_ }
      intro hrow
      have hnone := cachedAccessToken_eq_none.mp (h.gone hrow)
      apply cachedAccessToken_eq_none.mpr
      intro cached hcached
      have hexpired := hnone cached hcached
      simp only [fresh, decide_eq_false_iff_not, not_lt] at hexpired ⊢
      exact hexpired.trans (add_le_add_left hlater 60)
  | hit cached hcached =>
      refine { h with answered := ?_ }
      intro answer hanswer hdisconnected
      rcases List.mem_cons.mp hanswer with rfl | hold
      · have hnot := h.not_disconnected (h.row_of_cached hcached)
        exact absurd (hnot.symm.trans hdisconnected) Bool.false_ne_true
      · exact h.answered answer hold hdisconnected
  | called =>
      refine { h.dropCache with calls := ?_ }
      intro phase hphase lineage hlineage
      rcases List.mem_append.mp hphase with hold | hnew
      · exact h.calls phase hold lineage hlineage
      · obtain rfl := List.mem_singleton.mp hnew
        cases hlineage
  | coalesced index cached hcached => exact h.answer fun _ => h.row_of_cached hcached
  | acquired index => exact h.dropCache.advance fun lineage hlineage => nomatch hlineage
  | read index readable now =>
      apply h.advance
      intro lineage hlineage
      cases readable with
      | false => cases hlineage
      | true =>
          simp only [if_true] at hlineage
          cases hrow : s.row with
          | none =>
              rw [hrow] at hlineage
              cases hlineage
          | some stored =>
              rw [hrow] at hlineage
              obtain rfl := Option.some.inj hlineage
              exact ⟨h.row stored hrow, Nat.le_refl _, Nat.le_refl _, fun _ => rfl⟩
  | resumed index now stored seen hfound => exact h.resume hfound hallowed
  | unrefreshed index => exact h.answer fun hne => absurd rfl hne
  | refreshed index now stored seen tokens hfound =>
      have htraced := h.calls _ (List.mem_of_getElem? hfound)
      exact h.advance htraced
  | saved index now stored seen tokens hfound => exact h.save hfound hallowed
  | finished index token seen hfound =>
      have hseen : seen = s.version := hallowed _ hfound seen rfl
      subst hseen
      exact h.answerCached (h.calls _ (List.mem_of_getElem? hfound) (token.epoch, s.version) rfl)
  | aborted index => exact h.dropCall index
  | completed tokens tokenType googleSubject googleEmail expiresIn =>
      exact h.complete tokens tokenType googleSubject googleEmail expiresIn
  | completionCached index completion hfound =>
      obtain ⟨hepoch, -, hrow⟩ := h.completions completion (List.mem_of_getElem? hfound)
      exact (h.cacheToken hepoch (hrow (hallowed completion hfound))).dropCompletion index
  | completionAborted index => exact h.dropCompletion index
  | disconnects =>
      refine { h.dropCache with disconnects := ?_ }
      intro deletedAt hmem completed hcompleted
      rcases List.mem_append.mp hmem with hold | hnew
      · exact h.disconnects deletedAt hold completed hcompleted
      · obtain rfl := List.mem_singleton.mp hnew
        cases hcompleted
  | deleted index => exact h.delete hallowed
  | returned index completed hfound =>
      refine { h.dropDisconnect index with final := ?_ }
      intro hdisconnected
      rcases Bool.or_eq_true_iff.mp hdisconnected with hold | hnow
      · exact h.final hold
      · exact (h.disconnects _ (List.mem_of_getElem? hfound) completed rfl).2 (of_decide_eq_true hnow)
  | disconnectAborted index => exact h.dropDisconnect index
  | evicted => exact h.dropCache

/-- A step that keeps the credentials, or brings one of the last completion. -/
theorem noRollback_of_current (h : TokenInvariant s) (hrow : ∀ stored ∈ t.row, s.version.completed ≤ stored.epoch)
    (hcache : ∀ cached ∈ t.cache, cached ∈ s.cache ∨ s.version.completed ≤ cached.epoch) : NoRollback s action t where
  row := fun stored hstored stored' hstored' => (h.row stored hstored).le.trans (hrow stored' hstored')
  cache := by
    intro _ cached hcached cached' hcached'
    rcases hcache cached' hcached' with hsame | hcurrent
    · obtain rfl := Option.some.inj (hcached.symm.trans hsame)
      exact Nat.le_refl _
    · exact (h.cache cached hcached).trans hcurrent

omit [Ring K] [LinearOrder K] in
theorem mem_cacheAccessToken {token cached : Cached K} {cache : Option (Cached K)}
    (h : cached ∈ cacheAccessToken token cache) : cached ∈ cache ∨ cached = token := by
  unfold cacheAccessToken at h
  split at h
  · exact .inl h
  · exact .inr (Option.some.inj h).symm

/-- A call caches a token of the last completion. -/
theorem noRollback_answerCached (h : TokenInvariant s) {index : Nat} {token : Cached K}
    (hepoch : token.epoch = s.version.completed) : NoRollback s action (s.answerCached index token) := by
  refine noRollback_of_current h (fun stored hstored => (h.row stored hstored).ge) fun cached hcached => ?_
  rcases mem_cacheAccessToken hcached with hold | rfl
  · exact .inl hold
  · exact .inr hepoch.ge

/-- A call that goes on from the row caches at most the token of the row. -/
theorem noRollback_resume (h : TokenInvariant s) {index : Nat} {now : K} {stored : Option (Stored K)} {seen : Version}
    (hfound : s.calls[index]? = some (.loaded now stored seen)) (hunchanged : s.Unchanged index) :
    NoRollback s action (s.resume index now stored seen) := by
  have htraced := h.calls _ (List.mem_of_getElem? hfound)
  have hrow : ∀ stored ∈ s.row, s.version.completed ≤ stored.epoch := fun stored hstored => (h.row stored hstored).ge
  cases stored with
  | none => exact noRollback_of_current h hrow fun _ => .inl
  | some stored =>
      simp only [State.resume]
      split
      · rename_i hfresh
        have hseen : seen = s.version := hunchanged _ hfound seen (if_pos hfresh)
        subst hseen
        exact noRollback_answerCached h (htraced (stored.epoch, s.version) rfl).epoch
      · split
        · exact noRollback_of_current h hrow fun _ => .inl
        · exact noRollback_of_current h hrow fun _ => .inl

theorem noRollback_step (h : TokenInvariant s) (hallowed : Undisturbed s action) (hstep : step s action = some t) :
    NoRollback s action t := by
  have hrow : ∀ stored ∈ s.row, s.version.completed ≤ stored.epoch := fun stored hstored => (h.row stored hstored).ge
  cases step_cases hstep with
  | passed time hlater => exact noRollback_of_current h hrow fun _ => .inl
  | hit cached hcached => exact noRollback_of_current h hrow fun _ => .inl
  | called => exact noRollback_of_current h hrow fun _ hcached => nomatch hcached
  | coalesced index cached hcached => exact noRollback_of_current h hrow fun _ => .inl
  | acquired index => exact noRollback_of_current h hrow fun _ hcached => nomatch hcached
  | read index readable now => exact noRollback_of_current h hrow fun _ => .inl
  | resumed index now stored seen hfound => exact noRollback_resume h hfound hallowed
  | unrefreshed index => exact noRollback_of_current h hrow fun _ => .inl
  | refreshed index now stored seen tokens hfound => exact noRollback_of_current h hrow fun _ => .inl
  | saved index now stored seen tokens hfound =>
      have hseen : seen = s.version := hallowed _ hfound seen rfl
      subst hseen
      have htraced := h.calls _ (List.mem_of_getElem? hfound) (stored.epoch, s.version) rfl
      -- the refreshed credential goes back to the completion that the row goes back to
      refine noRollback_of_current h (fun saved hsaved => ?_) fun _ => .inl
      obtain rfl := Option.some.inj hsaved
      exact htraced.epoch.ge
  | finished index token seen hfound =>
      have hseen : seen = s.version := hallowed _ hfound seen rfl
      subst hseen
      have htraced := h.calls _ (List.mem_of_getElem? hfound) (token.epoch, s.version) rfl
      exact noRollback_answerCached h htraced.epoch
  | aborted index => exact noRollback_of_current h hrow fun _ => .inl
  | completed tokens tokenType googleSubject googleEmail expiresIn =>
      refine noRollback_of_current h (fun saved hsaved => ?_) fun _ => .inl
      obtain rfl := Option.some.inj hsaved
      exact Nat.le_succ _
  | completionCached index completion hfound =>
      constructor
      · exact fun stored hstored stored' hstored' => (h.row stored hstored).le.trans (hrow stored' hstored')
      · exact fun hnot => absurd rfl (hnot index)
  | completionAborted index => exact noRollback_of_current h hrow fun _ => .inl
  | disconnects => exact noRollback_of_current h hrow fun _ hcached => nomatch hcached
  | deleted index => exact noRollback_of_current h (fun _ hstored => nomatch hstored) fun _ => .inl
  | returned index completed hfound => exact noRollback_of_current h hrow fun _ => .inl
  | disconnectAborted index => exact noRollback_of_current h hrow fun _ => .inl
  | evicted => exact noRollback_of_current h hrow fun _ hcached => nomatch hcached

/-- If nothing comes between the readings of the calls and their writings, a disconnect is final and no refresh puts an
older credential in the place of a later one. -/
theorem disconnect_is_final [IsStrictOrderedRing K] {time : K} {credential : Option (Credential K)}
    (h : Reaches step Undisturbed (initial time credential) s) :
    DisconnectFinal s ∧ ∀ action t, Undisturbed s action → step s action = some t → NoRollback s action t := by
  have hinv : TokenInvariant s :=
    h.invariant (tokenInvariant_initial time credential) fun _ _ _ hinv hallowed hstep => hinv.step hallowed hstep
  exact ⟨⟨hinv.final, hinv.answered⟩, fun action t hallowed hstep => noRollback_step hinv hallowed hstep⟩

end Steps

end Clock

/-! ## A refresh in flight -/

section Refreshing

def sampleTokens (accessToken : String) : Tokens Int :=
  ⟨accessToken, some 3600, some "refresh", some "calendar"⟩

/-- A completion saves a row and caches its token. -/
def connect (accessToken : String) : List (Action Int) :=
  [.complete (sampleTokens accessToken) "Bearer" "subject" "person@example.com" 3600, .cacheCompleted 0]

/-- An hour later a call finds the token used up and asks Google for another. -/
def refreshing : List (Action Int) :=
  [.pass 3600, .call, .acquire 0, .read 0 true, .resume 0, .refresh 0 (some (sampleTokens "refreshed"))]

def writeBack : List (Action Int) :=
  [.save 0, .finish 0]

def disconnecting : List (Action Int) :=
  [.disconnect, .delete 0, .returnDisconnect 0]

/-- One after the other, and a call at the end. -/
def settledActions : List (Action Int) :=
  connect "first" ++ refreshing ++ writeBack ++ disconnecting ++ [.call, .acquire 0, .read 0 true, .resume 0]

def settledRun : State Int :=
  final step (initial 0 none) settledActions

/-- The company is disconnected while its token is being refreshed. -/
def disconnectedRun : State Int :=
  final step (initial 0 none) (connect "first" ++ refreshing ++ disconnecting ++ writeBack)

/-- The company is connected anew while its token is being refreshed. -/
def reconnectedRun : State Int :=
  final step (initial 0 none) (connect "first" ++ refreshing ++ connect "second")

theorem reaches_settledRun : Reaches step Undisturbed (initial 0 none) settledRun := by
  have hchecked : checked step (fun s action => decide (Undisturbed s action)) (initial (0 : Int) none)
      settledActions = true := by decide +kernel
  exact .of_checked (fun _ _ _ hok => of_decide_eq_true hok) hchecked (execute_final (by decide +kernel))

theorem disconnect_is_final_settledRun : DisconnectFinal settledRun ∧
    ∀ action t, Undisturbed settledRun action → step settledRun action = some t → NoRollback settledRun action t :=
  disconnect_is_final reaches_settledRun

/-- The refresh brings the row back, and returns and caches its token; and it overwrites the later credential. -/
theorem refresh_undoes :
    ¬ (∀ s : State Int, Reaches step Always (initial 0 none) s → DisconnectFinal s) ∧
      ¬ (∀ s : State Int, Reaches step Always (initial 0 none) s →
          ∀ action t, step s action = some t → NoRollback s action t) := by
  constructor
  · intro hfinal
    have hreaches : Reaches step Always (initial 0 none) disconnectedRun :=
      .of_execute (execute_final (by decide +kernel))
    have hrow : disconnectedRun.disconnected = true ∧ disconnectedRun.row ≠ none := by decide +kernel
    exact hrow.2 ((hfinal disconnectedRun hreaches).noRow hrow.1)
  · intro hkeeps
    have hreaches : Reaches step Always (initial 0 none) reconnectedRun :=
      .of_execute (execute_final (by decide +kernel))
    have hepochs : reconnectedRun.row.map Stored.epoch = some 2 ∧
        ((step reconnectedRun (.save 0)).bind State.row).map Stored.epoch = some 1 := by decide +kernel
    obtain ⟨stored, hstored, hlater⟩ := Option.map_eq_some_iff.mp hepochs.1
    obtain ⟨stored', hstored', hearlier⟩ := Option.map_eq_some_iff.mp hepochs.2
    obtain ⟨t, hstep, hrow⟩ := Option.bind_eq_some_iff.mp hstored'
    have hkept := (hkeeps reconnectedRun hreaches (.save 0) t hstep).row stored hstored stored' hrow
    rw [hlater, hearlier] at hkept
    exact absurd hkept (by decide)

end Refreshing

end GoogleTokens
end VoiceAssistants
