import VoiceAssistants.Backend.ReadCacheStaleness
import VoiceAssistants.Db.AgentProfileInvariants
import Mathlib.Data.List.Sort

/-!
# The cache of profile versions (`backend/app/services/profile_cache.py`)

`get_cached_published_agent_profile` answers for an exact version from its cache, or waits for the lookup of that version
that is in flight, or starts one; whoever gets the result of a lookup stores it.  What lies under the lock has no `await`,
so that a call is one step up to the lookup that it waits for and one step from there on.

The cache runs beside the store, whose operations come between any two of its steps.  An entry never expires, and the
rows that it shows may be superseded or published again.

* `cached_profile_agrees` — what was answered for a version is what the store has for it then and ever after, but for the
  state of the version and the time of its publication.
* `lookup_single` — the cache has 512 entries at most, and one lookup at most is in flight for a version.

`deepcopy`, logging and the decoding of `jsonb` are outside: `D` is the decoded value.
-/

namespace VoiceAssistants
namespace ProfileCache

open Async Collections Db Sql
open ReadCache (moveToEnd trim release mem_of_mem_moveToEnd mem_of_mem_trim mem_of_mem_release length_trim_le
  length_moveToEnd_le)

/-! ## The lookup in the store -/

/-- The columns that `get_published_agent_profile` selects. -/
structure Profile (D : Type) where
  version : Int
  lifecycleState : LifecycleState
  profile : D
  compiledPolicy : D
  policyVersion : Option String
  createdAt : Int
  publishedAt : Option Int
  deriving DecidableEq

section Lookup

variable {D : Type}

def Profile.ofRow (row : ProfileVersion D) : Profile D where
  version := row.version
  lifecycleState := row.lifecycleState
  profile := row.profile
  compiledPolicy := row.compiledPolicy
  policyVersion := row.policyVersion
  createdAt := row.createdAt
  publishedAt := row.publishedAt

/-- `WHERE company_id = $1 AND (($2::integer IS NULL AND lifecycle_state = 'published') OR version = $2)` -/
def selects (company : Uuid) (version : Option Int) (row : ProfileVersion D) : Bool :=
  row.companyId = company &&
    match version with
    | none => row.lifecycleState = .published
    | some version => row.version = version

/-- `ORDER BY version DESC LIMIT 1` -/
def newest (rows : List (ProfileVersion D)) : Option (ProfileVersion D) :=
  (rows.insertionSort fun row other => other.version ≤ row.version).head?

/-- `get_published_agent_profile`; the outer `none` is an exception, of `uuid.UUID` or for a version that is no
`integer`. -/
def getPublishedAgentProfile (rows : List (ProfileVersion D)) (companyId : String) (version : Option Int) :
    Option (Option (Profile D)) :=
  match Uuid.parse companyId with
  | none => none
  | some company =>
      if version.all isInteger then some ((newest (rows.filter (selects company version))).map .ofRow) else none

end Lookup

/-! ## The cache -/

/-- `(company_id, version)` -/
abbrev Key : Type := String × Int

/-- How far a lookup is. -/
inductive Lookup (D : Type)
  | running
  /-- It has read the row, and is not done yet. -/
  | selected (profile : Option (Profile D))
  | finished (profile : Option (Profile D))
  | failed

structure Task (D : Type) where
  key : Key
  lookup : Lookup D

/-- A call that waits for a task. -/
structure Call where
  key : Key
  task : Nat

/-- What a call returned. -/
structure Answer (D : Type) where
  companyId : String
  version : Option Int
  profile : Option (Profile D)
  deriving DecidableEq

structure Cache (D : Type) where
  entries : OrderedMap Key (Profile D)
  inflight : OrderedMap Key Nat
  tasks : List (Task D)
  waiting : List Call
  answers : List (Answer D)

/-- `_MAX_PROFILE_CACHE_ENTRIES` -/
def maxProfileCacheEntries : Nat := 512

namespace Lookup

variable {D : Type}

/-- `task.done()` -/
def done : Lookup D → Bool
  | finished _ | failed => true
  | running | selected _ => false

/-- The profile that it has found. -/
def profile? : Lookup D → Option (Profile D)
  | selected profile | finished profile => profile
  | running | failed => none

end Lookup

namespace Cache

variable {D : Type}

def empty : Cache D :=
  ⟨.empty, .empty, [], [], []⟩

def answer (cache : Cache D) (companyId : String) (version : Option Int) (profile : Option (Profile D)) : Cache D :=
  { cache with answers := ⟨companyId, version, profile⟩ :: cache.answers }

/-- Wait for the lookup in flight, or create one. -/
def join (cache : Cache D) (key : Key) : Cache D :=
  match cache.inflight.get key with
  | some task => { cache with waiting := cache.waiting ++ [⟨key, task⟩] }
  | none =>
      { cache with
        tasks := cache.tasks ++ [⟨key, .running⟩]
        inflight := cache.inflight.set key cache.tasks.length
        waiting := cache.waiting ++ [⟨key, cache.tasks.length⟩] }

/-- `get_cached_published_agent_profile` for an exact version, up to its first `await`. -/
def getCachedPublishedAgentProfile (cache : Cache D) (key : Key) : Cache D :=
  match cache.entries.get key with
  | some profile =>
      { cache with entries := moveToEnd cache.entries key }.answer key.1 (some key.2) (some profile)
  | none => cache.join key

/-- A call that leaves the cache when its task is done. -/
def leave (cache : Cache D) (index : Nat) (call : Call) : Cache D :=
  { cache with waiting := cache.waiting.eraseIdx index, inflight := release call.key call.task cache.inflight }

def store (cache : Cache D) (key : Key) (profile : Profile D) : Cache D :=
  { cache with entries := trim maxProfileCacheEntries (moveToEnd (cache.entries.set key profile) key) }

/-- `get_cached_published_agent_profile` from the result of its task on. -/
def settle (cache : Cache D) (index : Nat) (call : Call) : Option (Profile D) → Cache D
  | some profile =>
      ((cache.leave index call).store call.key profile).answer call.key.1 (some call.key.2) (some profile)
  | none => (cache.leave index call).answer call.key.1 (some call.key.2) none

/-- A waiting call that is cancelled. -/
def abandon (cache : Cache D) (index : Nat) (call : Call) (lookup : Lookup D) : Cache D :=
  if lookup.done then cache.leave index call else { cache with waiting := cache.waiting.eraseIdx index }

/-- A lookup goes on. -/
def proceed (cache : Cache D) (task : Nat) (key : Key) (lookup : Lookup D) : Cache D :=
  { cache with tasks := cache.tasks.set task ⟨key, lookup⟩ }

/-- `clear_profile_snapshot_cache` -/
def clear (cache : Cache D) : Cache D :=
  { cache with entries := .empty, inflight := .empty }

end Cache

/-- The cache and the store that it looks versions up in. -/
structure Service (D : Type) where
  store : ProfileStore D
  cache : Cache D

inductive Action (D : Type)
  | store (action : ProfileStore.Action D)
  | call (key : Key)
  /-- A call without a version bypasses the cache. -/
  | latest (companyId : String)
  /-- The `SELECT` of a lookup. -/
  | select (task : Nat)
  | finish (task : Nat)
  | fail (task : Nat)
  /-- A call whose task is done goes on. -/
  | wake (index : Nat)
  | cancel (index : Nat)
  | clear

namespace Service

variable {D H : Type} [DecidableEq H]

def initial (rows : List (ProfileVersion D)) (configs : Uuid → Option AssistantConfig) : Service D :=
  ⟨.initial rows configs, .empty⟩

/-- What the `SELECT` of a lookup makes of it. -/
def selected (s : Service D) (key : Key) : Lookup D :=
  match getPublishedAgentProfile s.store.rows key.1 (some key.2) with
  | some profile => .selected profile
  | none => .failed

def step (hash : String → H) (s : Service D) : Action D → Option (Service D)
  | .store action => (s.store.step hash action).map fun store => { s with store }
  | .call key => some { s with cache := s.cache.getCachedPublishedAgentProfile key }
  | .latest companyId =>
      (getPublishedAgentProfile s.store.rows companyId none).map fun profile =>
        { s with cache := s.cache.answer companyId none profile }
  | .select task =>
      match s.cache.tasks[task]? with
      | some ⟨key, .running⟩ => some { s with cache := s.cache.proceed task key (s.selected key) }
      | _ => none
  | .finish task =>
      match s.cache.tasks[task]? with
      | some ⟨key, .selected profile⟩ => some { s with cache := s.cache.proceed task key (.finished profile) }
      | _ => none
  | .fail task =>
      match s.cache.tasks[task]? with
      | some ⟨key, .running⟩ | some ⟨key, .selected _⟩ => some { s with cache := s.cache.proceed task key .failed }
      | _ => none
  | .wake index => do
      let call ← s.cache.waiting[index]?
      let task ← s.cache.tasks[call.task]?
      match task.lookup with
      | .finished profile => return { s with cache := s.cache.settle index call profile }
      | .failed => return { s with cache := s.cache.leave index call }
      | .running | .selected _ => none
  | .cancel index => do
      let call ← s.cache.waiting[index]?
      let task ← s.cache.tasks[call.task]?
      return { s with cache := s.cache.abandon index call task.lookup }
  | .clear => some { s with cache := s.cache.clear }

/-- Only saves, publications and rollbacks are started in the store. -/
def Allowed (s : Service D) : Action D → Prop
  | .store action => ProfileStore.Listed s.store action
  | _ => True

/-- The cache is not cleared. -/
def Uncleared (_ : Service D) : Action D → Prop
  | .clear => False
  | _ => True

end Service

/-! ## What a lookup finds -/

section Found

variable {D : Type} {rows rows' : List (ProfileVersion D)} {companyId : String} {version : Option Int} {key : Key}
  {profile : Profile D}

/-- The profile of a version, but for its state and the time of its publication. -/
structure Profile.SameVersion (found shown : Profile D) : Prop where
  version : shown.version = found.version
  profile : shown.profile = found.profile
  compiledPolicy : shown.compiledPolicy = found.compiledPolicy
  policyVersion : shown.policyVersion = found.policyVersion
  createdAt : shown.createdAt = found.createdAt

theorem newest_mem {row : ProfileVersion D} (h : newest rows = some row) : row ∈ rows := by
  unfold newest at h
  exact (List.mem_insertionSort _).mp (List.mem_of_mem_head? h)

/-- The one row there is. -/
theorem newest_of_unique {row : ProfileVersion D} (hmem : row ∈ rows) (hunique : ∀ other ∈ rows, other = row) :
    newest rows = some row := by
  cases hnewest : newest rows with
  | some other => rw [hunique other (newest_mem hnewest)]
  | none =>
      have hempty := List.head?_eq_none_iff.mp hnewest
      have hlength := congrArg List.length hempty
      rw [List.length_insertionSort, List.length_nil, List.length_eq_zero_iff] at hlength
      rw [hlength] at hmem
      cases hmem

/-- The profile shows a row of the key, whatever its state is now. -/
structure Current (rows : List (ProfileVersion D)) (key : Key) (profile : Profile D) : Prop where
  integer : isInteger key.2 = true
  row : ∃ row ∈ rows, Uuid.parse key.1 = some row.companyId ∧ row.version = key.2 ∧
    (Profile.ofRow row).SameVersion profile

theorem current_of_lookup (h : getPublishedAgentProfile rows key.1 (some key.2) = some (some profile)) :
    Current rows key profile := by
  unfold getPublishedAgentProfile at h
  cases hparse : Uuid.parse key.1 with
  | none =>
      rw [hparse] at h
      cases h
  | some company =>
      rw [hparse] at h
      dsimp only at h
      split at h
      case isFalse => cases h
      case isTrue hinteger =>
        obtain ⟨row, hrow, rfl⟩ := Option.map_eq_some_iff.mp (Option.some.inj h)
        obtain ⟨hmem, hselects⟩ := List.mem_filter.mp (newest_mem hrow)
        rw [selects, Bool.and_eq_true, decide_eq_true_eq, decide_eq_true_eq] at hselects
        constructor
        case integer => exact hinteger
        case row => exact ⟨row, hmem, by rw [hparse, hselects.1], hselects.2, rfl, rfl, rfl, rfl, rfl⟩

/-- The lookup of a version that is there finds it. -/
theorem lookup_of_current (hkeyed : Keyed ProfileVersion.key rows) (h : Current rows key profile) :
    ∃ current, getPublishedAgentProfile rows key.1 (some key.2) = some (some current) ∧ current.SameVersion profile := by
  obtain ⟨row, hmem, hparse, hversion, hsame⟩ := h.row
  have hnewest : newest (rows.filter (selects row.companyId (some key.2))) = some row := by
    apply newest_of_unique
    case hmem =>
      rw [List.mem_filter, selects, Bool.and_eq_true, decide_eq_true_eq, decide_eq_true_eq]
      exact ⟨hmem, rfl, hversion⟩
    case hunique =>
      intro other hother
      rw [List.mem_filter, selects, Bool.and_eq_true, decide_eq_true_eq, decide_eq_true_eq] at hother
      obtain ⟨hotherMem, hcompany, hotherVersion⟩ := hother
      apply hkeyed.eq_of_key hotherMem hmem
      show (other.companyId, other.version) = (row.companyId, row.version)
      rw [hcompany, hotherVersion, hversion]
  refine ⟨.ofRow row, ?_, hsame⟩
  unfold getPublishedAgentProfile
  rw [hparse]
  dsimp only
  rw [hnewest, Option.all_some, if_pos h.integer, Option.map_some]

/-- Versions that are kept keep their profile. -/
theorem Current.persists (h : Current rows key profile)
    (hpersists : ∀ row ∈ rows, ∃ row' ∈ rows', row.Same row') : Current rows' key profile := by
  obtain ⟨row, hmem, hparse, hversion, hsame⟩ := h.row
  obtain ⟨row', hmem', hsame'⟩ := hpersists row hmem
  obtain ⟨hcompany, hversion'⟩ := Prod.mk.inj hsame'.key
  refine ⟨h.integer, row', hmem', ?_, hversion'.trans hversion, ?_⟩
  · rw [hparse, hcompany]
  · constructor
    case version => exact hsame.version.trans hversion'.symm
    case profile => exact hsame.profile.trans hsame'.profile.symm
    case compiledPolicy => exact hsame.compiledPolicy.trans hsame'.compiledPolicy.symm
    case policyVersion => exact hsame.policyVersion.trans hsame'.policyVersion.symm
    case createdAt => exact hsame.createdAt.trans hsame'.createdAt.symm

end Found

/-! ## What is cached agrees with the store -/

section Agreement

variable {D : Type} {rows rows' : List (ProfileVersion D)} {cache : Cache D} {key : Key} {profile : Profile D}

/-- Every profile that is kept, found or answered is current. -/
structure Agreeing (rows : List (ProfileVersion D)) (cache : Cache D) : Prop where
  entries : ∀ entry ∈ cache.entries.entries, Current rows entry.1 entry.2
  tasks : ∀ task ∈ cache.tasks, ∀ profile, task.lookup.profile? = some profile → Current rows task.key profile
  inflight : ∀ entry ∈ cache.inflight.entries, (cache.tasks[entry.2]?).map Task.key = some entry.1
  waiting : ∀ call ∈ cache.waiting, (cache.tasks[call.task]?).map Task.key = some call.key
  answers : ∀ answer ∈ cache.answers, ∀ version profile, answer.version = some version →
    answer.profile = some profile → Current rows (answer.companyId, version) profile

theorem agreeing_empty : Agreeing rows (.empty : Cache D) := by
  constructor
  all_goals
    intro item hitem
    cases hitem

theorem Agreeing.persists (h : Agreeing rows cache) (hpersists : ∀ row ∈ rows, ∃ row' ∈ rows', row.Same row') :
    Agreeing rows' cache := by
  constructor
  case entries => exact fun entry hentry => (h.entries entry hentry).persists hpersists
  case tasks => exact fun task htask profile hfound => (h.tasks task htask profile hfound).persists hpersists
  case inflight => exact h.inflight
  case waiting => exact h.waiting
  case answers =>
    intro answer hanswer version profile hversion hprofile
    exact (h.answers answer hanswer version profile hversion hprofile).persists hpersists

theorem Agreeing.answer (h : Agreeing rows cache) {companyId : String} {version : Option Int} {found : Option (Profile D)}
    (hcurrent : ∀ exact profile, version = some exact → found = some profile → Current rows (companyId, exact) profile) :
    Agreeing rows (cache.answer companyId version found) := by
  refine { h with answers := ?_ }
  intro answer hanswer
  rcases List.mem_cons.mp hanswer with rfl | hold
  · exact hcurrent
  · exact h.answers answer hold

/-- A cache with other entries that are current. -/
theorem Agreeing.keep (h : Agreeing rows cache) {entries : OrderedMap Key (Profile D)}
    (hkept : ∀ entry ∈ entries.entries, Current rows entry.1 entry.2) :
    Agreeing rows { cache with entries } :=
  { h with entries := hkept }

theorem Agreeing.store (h : Agreeing rows cache) (hcurrent : Current rows key profile) :
    Agreeing rows (cache.store key profile) := by
  apply h.keep
  intro entry hentry
  rcases OrderedMap.mem_of_mem_set (mem_of_mem_moveToEnd (mem_of_mem_trim hentry)) with rfl | hold
  · exact hcurrent
  · exact h.entries entry hold

theorem Agreeing.leave (h : Agreeing rows cache) {index : Nat} {call : Call} :
    Agreeing rows (cache.leave index call) := by
  refine { h with inflight := ?_, waiting := ?_ }
  · exact fun entry hentry => h.inflight entry (mem_of_mem_release hentry)
  · exact fun other hother => h.waiting other (List.mem_of_mem_eraseIdx hother)

theorem Agreeing.join (h : Agreeing rows cache) : Agreeing rows (cache.join key) := by
  unfold Cache.join
  cases hget : cache.inflight.get key with
  | some task =>
      refine { h with waiting := ?_ }
      intro call hcall
      rcases List.mem_append.mp hcall with hold | hnew
      · exact h.waiting call hold
      · obtain rfl := List.mem_singleton.mp hnew
        exact h.inflight (key, task) (OrderedMap.mem_entries.mpr hget)
  | none =>
      have hold {task : Nat} {key' : Key} (hkey : (cache.tasks[task]?).map Task.key = some key') :
          ((cache.tasks ++ [⟨key, .running⟩])[task]?).map Task.key = some key' := by
        obtain ⟨found, hfound, -⟩ := Option.map_eq_some_iff.mp hkey
        rw [List.getElem?_append_left (List.getElem?_eq_some_iff.mp hfound).1]
        exact hkey
      have hnew : ((cache.tasks ++ [⟨key, .running⟩])[cache.tasks.length]?).map Task.key = some key := by
        rw [List.getElem?_concat_length]
        rfl
      refine { h with tasks := ?_, inflight := ?_, waiting := ?_ }
      · intro task htask profile hfound
        rcases List.mem_append.mp htask with hbefore | hcreated
        · exact h.tasks task hbefore profile hfound
        · obtain rfl := List.mem_singleton.mp hcreated
          cases hfound
      · intro entry hentry
        rcases OrderedMap.mem_of_mem_set hentry with rfl | hbefore
        · exact hnew
        · exact hold (h.inflight entry hbefore)
      · intro call hcall
        rcases List.mem_append.mp hcall with hbefore | hcreated
        · exact hold (h.waiting call hbefore)
        · obtain rfl := List.mem_singleton.mp hcreated
          exact hnew

theorem Agreeing.call (h : Agreeing rows cache) : Agreeing rows (cache.getCachedPublishedAgentProfile key) := by
  unfold Cache.getCachedPublishedAgentProfile
  cases hget : cache.entries.get key with
  | none => exact h.join
  | some profile =>
      apply Agreeing.answer
      · exact h.keep fun entry hentry => h.entries entry (mem_of_mem_moveToEnd hentry)
      · rintro version other hversion hother
        obtain rfl := Option.some.inj hversion
        obtain rfl := Option.some.inj hother
        exact h.entries (key, profile) (OrderedMap.mem_entries.mpr hget)

/-- A lookup that goes on. -/
theorem Agreeing.proceed (h : Agreeing rows cache) {task : Nat} {before lookup : Lookup D}
    (htask : cache.tasks[task]? = some ⟨key, before⟩)
    (hfound : ∀ profile, lookup.profile? = some profile → Current rows key profile) :
    Agreeing rows (cache.proceed task key lookup) := by
  have hkeys (other : Nat) :
      ((cache.tasks.set task ⟨key, lookup⟩)[other]?).map Task.key = (cache.tasks[other]?).map Task.key := by
    by_cases heq : other = task
    · rw [heq, List.getElem?_set_self (List.getElem?_eq_some_iff.mp htask).1, htask]
      rfl
    · rw [List.getElem?_set_ne (Ne.symm heq)]
  refine { h with tasks := ?_, inflight := ?_, waiting := ?_ }
  · intro other hother
    rcases List.mem_or_eq_of_mem_set hother with hold | rfl
    · exact h.tasks other hold
    · exact hfound
  · exact fun entry hentry => (hkeys entry.2).trans (h.inflight entry hentry)
  · exact fun call hcall => (hkeys call.task).trans (h.waiting call hcall)

/-- A call whose lookup is done answers what the lookup has found. -/
theorem Agreeing.settle (h : Agreeing rows cache) {index : Nat} {call : Call} {found : Option (Profile D)}
    (hfound : ∀ profile, found = some profile → Current rows call.key profile) :
    Agreeing rows (cache.settle index call found) := by
  cases found with
  | none =>
      apply h.leave.answer
      intro version profile _ hprofile
      cases hprofile
  | some profile =>
      apply (h.leave.store (hfound profile rfl)).answer
      rintro version other hversion hother
      obtain rfl := Option.some.inj hversion
      obtain rfl := Option.some.inj hother
      exact hfound profile rfl

theorem Agreeing.clear (h : Agreeing rows cache) : Agreeing rows cache.clear := by
  refine { h with entries := ?_, inflight := ?_ }
  all_goals
    intro entry hentry
    cases hentry

end Agreement

/-! ## Runs -/

namespace Service

variable {D H : Type} [DecidableEq H] {hash : String → H} {rows : List (ProfileVersion D)}
  {configs : Uuid → Option AssistantConfig} {s t : Service D}

/-- What one step does. -/
inductive Moves (hash : String → H) (s : Service D) : Action D → Service D → Prop
  | store {action : ProfileStore.Action D} {store : ProfileStore D} (taken : s.store.step hash action = some store) :
      Moves hash s (.store action) { s with store }
  | called (key : Key) : Moves hash s (.call key) { s with cache := s.cache.getCachedPublishedAgentProfile key }
  | latest (companyId : String) (profile : Option (Profile D)) :
      Moves hash s (.latest companyId) { s with cache := s.cache.answer companyId none profile }
  /-- A lookup that is not done goes on, with what it has found before or with what the store has now. -/
  | proceeded {action : Action D} (task : Nat) (key : Key) (before lookup : Lookup D)
      (found : s.cache.tasks[task]? = some ⟨key, before⟩) (undone : before.done = false)
      (profile : ∀ profile, lookup.profile? = some profile → before.profile? = some profile ∨
        getPublishedAgentProfile s.store.rows key.1 (some key.2) = some (some profile)) :
      Moves hash s action { s with cache := s.cache.proceed task key lookup }
  | settled (index : Nat) (call : Call) (task : Task D) (profile : Option (Profile D))
      (waiting : s.cache.waiting[index]? = some call) (found : s.cache.tasks[call.task]? = some task)
      (finished : task.lookup = .finished profile) :
      Moves hash s (.wake index) { s with cache := s.cache.settle index call profile }
  | left {action : Action D} (index : Nat) (call : Call) (task : Task D) (waiting : s.cache.waiting[index]? = some call)
      (found : s.cache.tasks[call.task]? = some task) (done : task.lookup.done = true) :
      Moves hash s action { s with cache := s.cache.leave index call }
  | abandoned (index : Nat) :
      Moves hash s (.cancel index) { s with cache := { s.cache with waiting := s.cache.waiting.eraseIdx index } }
  | cleared : Moves hash s .clear { s with cache := s.cache.clear }

theorem moves_of_step {action : Action D} (h : step hash s action = some t) : Moves hash s action t := by
  cases action with
  | store action =>
      obtain ⟨store, hstore, rfl⟩ := Option.map_eq_some_iff.mp h
      exact .store hstore
  | call key =>
      obtain rfl := Option.some.inj h
      exact .called key
  | latest companyId =>
      obtain ⟨profile, -, rfl⟩ := Option.map_eq_some_iff.mp h
      exact .latest companyId profile
  | select task =>
      simp only [step] at h
      split at h
      case h_1 key hfound =>
        obtain rfl := Option.some.inj h
        apply Moves.proceeded task key .running _ hfound rfl
        intro profile hprofile
        unfold selected at hprofile
        split at hprofile
        case h_1 found hlookup => exact .inr (hlookup.trans (congrArg some hprofile))
        case h_2 => cases hprofile
      case h_2 => cases h
  | finish task =>
      simp only [step] at h
      split at h
      case h_1 key found hfound =>
        obtain rfl := Option.some.inj h
        exact .proceeded task key (.selected found) _ hfound rfl fun profile hprofile => .inl hprofile
      case h_2 => cases h
  | fail task =>
      simp only [step] at h
      split at h
      case h_1 key hfound =>
        obtain rfl := Option.some.inj h
        exact .proceeded task key .running _ hfound rfl fun profile hprofile => .inl hprofile
      case h_2 key found hfound =>
        obtain rfl := Option.some.inj h
        apply Moves.proceeded task key (.selected found) _ hfound rfl
        intro profile hprofile
        cases hprofile
      case h_3 => cases h
  | wake index =>
      obtain ⟨call, hcall, hrest⟩ := Option.bind_eq_some_iff.mp h
      obtain ⟨task, htask, hlookup⟩ := Option.bind_eq_some_iff.mp hrest
      split at hlookup
      case h_1 profile hfinished =>
        obtain rfl := Option.some.inj hlookup
        exact .settled index call task profile hcall htask hfinished
      case h_2 hfailed =>
        obtain rfl := Option.some.inj hlookup
        exact .left index call task hcall htask (by rw [hfailed]; rfl)
      all_goals cases hlookup
  | cancel index =>
      obtain ⟨call, hcall, hrest⟩ := Option.bind_eq_some_iff.mp h
      obtain ⟨task, htask, hcancelled⟩ := Option.bind_eq_some_iff.mp hrest
      obtain rfl := Option.some.inj hcancelled
      unfold Cache.abandon
      split
      case isTrue hdone => exact .left index call task hcall htask hdone
      case isFalse => exact .abandoned index
  | clear =>
      obtain rfl := Option.some.inj h
      exact .cleared

/-- The store runs by itself. -/
theorem reaches_store (h : Reaches (step hash) Allowed (initial rows configs) s) :
    Reaches (ProfileStore.step hash) ProfileStore.Listed (.initial rows configs) s.store := by
  apply h.project Service.store
  intro t action u hallowed hstep
  cases moves_of_step hstep with
  | store htaken => exact .inr ⟨_, hallowed, htaken⟩
  | _ => exact .inl rfl

/-- One step of the store or of the cache. -/
theorem agreeing_step {action : Action D} (hinvariant : s.store.Invariant) (hallowed : Allowed s action)
    (h : Agreeing s.store.rows s.cache) (hmoves : Moves hash s action t) : Agreeing t.store.rows t.cache := by
  cases hmoves with
  | @store action store htaken =>
      apply h.persists
      exact (ProfileStore.persists_of_reaches hinvariant (.tail .refl hallowed htaken)).versions
  | called key => exact h.call
  | latest companyId profile =>
      apply h.answer
      intro version other hversion
      cases hversion
  | proceeded task key before lookup hfound hundone hprofile =>
      apply h.proceed hfound
      intro profile hlookup
      rcases hprofile profile hlookup with hbefore | hnow
      · exact h.tasks ⟨key, before⟩ (List.mem_of_getElem? hfound) profile hbefore
      · exact current_of_lookup hnow
  | settled index call task profile hwaiting hfound hfinished =>
      apply h.settle
      rintro other rfl
      -- the task is one for the key that the call is for
      have hkey := h.waiting call (List.mem_of_getElem? hwaiting)
      rw [hfound] at hkey
      rw [← Option.some.inj hkey]
      exact h.tasks task (List.mem_of_getElem? hfound) other (by rw [hfinished]; rfl)
  | left index call task hwaiting hfound hdone => exact h.leave
  | abandoned index =>
      refine { h with waiting := ?_ }
      exact fun call hcall => h.waiting call (List.mem_of_mem_eraseIdx hcall)
  | cleared => exact h.clear

theorem agreeing_of_reaches (hconsistent : Consistent rows)
    (h : Reaches (step hash) Allowed (initial rows configs) s) : Agreeing s.store.rows s.cache := by
  apply h.invariant_reached (I := fun s => Agreeing s.store.rows s.cache) agreeing_empty
  intro t action u hreached hagreeing hallowed hstep
  have hinvariant := ProfileStore.invariant_of_reaches hconsistent (reaches_store hreached)
  exact agreeing_step hinvariant hallowed hagreeing (moves_of_step hstep)

/-- In every run of the cache beside saves, publications and rollbacks, a profile that was answered for a version is what
the store answers for it now, but for the state of the version and the time of its publication. -/
theorem cached_profile_agrees (hconsistent : Consistent rows)
    (hreaches : Reaches (step hash) Allowed (initial rows configs) s) {companyId : String} {version : Int}
    {profile : Profile D} (hanswer : ⟨companyId, some version, some profile⟩ ∈ s.cache.answers) :
    ∃ current, getPublishedAgentProfile s.store.rows companyId (some version) = some (some current) ∧
      current.SameVersion profile := by
  have hagreeing := agreeing_of_reaches hconsistent hreaches
  have hcurrent : Current s.store.rows (companyId, version) profile :=
    hagreeing.answers ⟨companyId, some version, some profile⟩ hanswer version profile rfl rfl
  have hinvariant := ProfileStore.invariant_of_reaches hconsistent (reaches_store hreaches)
  obtain ⟨current, hlookup, hsame⟩ := lookup_of_current hinvariant.consistent.keyed hcurrent
  exact ⟨current, hlookup, hsame⟩

/-- The version of the sample store. -/
def sampleKey : Key :=
  (ProfileStore.sampleCompany, 1)

/-- A version is saved and published. -/
def publishing (index statements : Nat) : List (Action String) :=
  .store (.start (ProfileStore.sampleSave true) index) ::
    (List.replicate statements (.store (.statement index)) ++ [.store (.commit index)])

/-- A published version that two calls look up, which is superseded before they answer, and a third call after it. -/
def sampleRun : List (Action String) :=
  publishing 0 5 ++ [.call sampleKey, .call sampleKey, .select 0] ++ publishing 1 6 ++
    [.finish 0, .wake 0, .wake 0, .call sampleKey]

def sampleEnd : Service String :=
  final (step String.length) (initial [] fun _ => none) sampleRun

/-- The profile as it was published. -/
def sampleProfile : Profile String where
  version := 1
  lifecycleState := .published
  profile := "a profile"
  compiledPolicy := "a policy"
  policyVersion := none
  createdAt := 0
  publishedAt := some 0

/-- Nothing but saves is started, and the cache is not cleared. -/
theorem mem_sampleRun {action : Action String} (h : action ∈ sampleRun) (s : Service String) :
    Allowed s action ∧ Uncleared s action := by
  simp only [sampleRun, publishing, List.mem_append, List.mem_cons, List.mem_replicate, List.not_mem_nil,
    or_false] at h
  rcases h with (((rfl | ⟨-, rfl⟩ | rfl) | rfl | rfl | rfl) | rfl | ⟨-, rfl⟩ | rfl) | rfl | rfl | rfl | rfl
  all_goals exact ⟨trivial, trivial⟩

theorem execute_sampleRun : execute (step String.length) (initial [] fun _ => none) sampleRun = some sampleEnd :=
  execute_final (by decide +kernel)

/-- All three calls answer with the version as it was published, which the store has superseded since. -/
theorem cached_profile_agrees_superseded :
    ∃ current, getPublishedAgentProfile sampleEnd.store.rows ProfileStore.sampleCompany (some 1) = some (some current) ∧
      current.SameVersion sampleProfile :=
  cached_profile_agrees consistent_nil (.of_execute_allowed (fun _ h s => (mem_sampleRun h s).1) execute_sampleRun)
    (by decide +kernel)

example : (getPublishedAgentProfile sampleEnd.store.rows ProfileStore.sampleCompany (some 1)).map
    (fun profile => profile.map (·.lifecycleState)) = some (some .superseded) := by
  decide +kernel

/-! ### One lookup for a version -/

/-- A lookup that is not done is the one that the calls for its version find. -/
structure Flying (cache : Cache D) : Prop where
  size : cache.entries.entries.length ≤ maxProfileCacheEntries
  tracked : ∀ index task, cache.tasks[index]? = some task → task.lookup.done = false →
    cache.inflight.get task.key = some index

section Steps

variable {cache : Cache D} {key : Key}

theorem Flying.answer (h : Flying cache) {companyId : String} {version : Option Int} {profile : Option (Profile D)} :
    Flying (cache.answer companyId version profile) :=
  ⟨h.size, h.tracked⟩

theorem Flying.store (h : Flying cache) {profile : Profile D} : Flying (cache.store key profile) := by
  unfold Cache.store
  constructor
  case size => exact length_trim_le
  case tracked => exact h.tracked

theorem Flying.call (h : Flying cache) :
    Flying (cache.getCachedPublishedAgentProfile key) := by
  unfold Cache.getCachedPublishedAgentProfile
  cases cache.entries.get key with
  | some profile =>
      constructor
      case size => exact length_moveToEnd_le.trans h.size
      case tracked => exact h.tracked
  | none =>
      show Flying (cache.join key)
      unfold Cache.join
      cases hget : cache.inflight.get key with
      | some task => exact ⟨h.size, h.tracked⟩
      | none =>
          constructor
          case size => exact h.size
          case tracked =>
            intro index task htask hundone
            rcases getElem?_concat_cases htask with hbefore | ⟨rfl, rfl⟩
            · have hold := h.tracked index task hbefore hundone
              have hother : task.key ≠ key := by
                rintro rfl
                rw [hget] at hold
                cases hold
              rw [OrderedMap.get_set_ne hother]
              exact hold
            · exact OrderedMap.get_set_self

/-- A call leaves when its task is done. -/
theorem Flying.leave {index : Nat} {call : Call} {task : Task D} (h : Flying cache)
    (hfound : cache.tasks[call.task]? = some task) (hdone : task.lookup.done = true) : Flying (cache.leave index call) := by
  constructor
  case size => exact h.size
  case tracked =>
    intro position other (hother : cache.tasks[position]? = some other) hundone
    have hold := h.tracked position other hother hundone
    show (release call.key call.task cache.inflight).get other.key = some position
    unfold release
    split
    case isFalse => exact hold
    case isTrue hget =>
      -- the lookup that is released is done, the other is not
      have hkey : other.key ≠ call.key := by
        intro hkey
        rw [← hkey, hold] at hget
        rw [← Option.some.inj hget, hother] at hfound
        rw [← Option.some.inj hfound, hundone] at hdone
        cases hdone
      rw [OrderedMap.get_delete_ne hkey]
      exact hold

end Steps

theorem flying_step {action : Action D} (huncleared : Uncleared s action) (h : Flying s.cache)
    (hmoves : Moves hash s action t) : Flying t.cache := by
  cases hmoves with
  | store htaken => exact h
  | called key => exact h.call
  | latest companyId profile => exact h.answer
  | proceeded task key before lookup hfound hundone hprofile =>
      constructor
      case size => exact h.size
      case tracked =>
        intro index other hother hopen
        rcases getElem?_set_cases hother with ⟨rfl, rfl⟩ | ⟨-, hsame⟩
        · exact h.tracked index ⟨key, before⟩ hfound hundone
        · exact h.tracked index other hsame hopen
  | settled index call task profile hwaiting hfound hfinished =>
      have hleft : Flying (s.cache.leave index call) := h.leave hfound (by rw [hfinished]; rfl)
      cases profile with
      | none => exact hleft.answer
      | some profile => exact hleft.store.answer
  | left index call task hwaiting hfound hdone => exact h.leave hfound hdone
  | abandoned index => exact ⟨h.size, h.tracked⟩
  | cleared => exact huncleared.elim

/-- In every run in which the cache is not cleared it keeps 512 entries at most, and no two lookups of one version are in
flight. -/
theorem lookup_single (hreaches : Reaches (step hash) Uncleared (initial rows configs) s) :
    s.cache.entries.entries.length ≤ maxProfileCacheEntries ∧
      ∀ (first second : Nat) (task other : Task D), s.cache.tasks[first]? = some task →
        s.cache.tasks[second]? = some other → task.key = other.key → task.lookup.done = false →
        other.lookup.done = false → first = second := by
  have hflying : Flying s.cache := by
    apply hreaches.invariant (I := fun s => Flying s.cache)
    case hstart =>
      constructor
      case size => exact Nat.zero_le _
      case tracked =>
        intro index task htask
        cases htask
    case hstep => exact fun _ _ _ hbefore huncleared hstep => flying_step huncleared hbefore (moves_of_step hstep)
  refine ⟨hflying.size, ?_⟩
  intro first second task other hfirst hsecond hkey hundone hopen
  have htask := hflying.tracked first task hfirst hundone
  have hother := hflying.tracked second other hsecond hopen
  rw [hkey, hother] at htask
  exact (Option.some.inj htask).symm

/-- The theorem at the three calls, two of which share a lookup. -/
theorem lookup_single_sample : sampleEnd.cache.entries.entries.length ≤ maxProfileCacheEntries :=
  (lookup_single (.of_execute_allowed (fun _ h s => (mem_sampleRun h s).2) execute_sampleRun)).1

end Service

end ProfileCache
end VoiceAssistants
