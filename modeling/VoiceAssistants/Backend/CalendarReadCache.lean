import VoiceAssistants.Async.Run
import VoiceAssistants.Collections.OrderedMap
import VoiceAssistants.Python.JsonText
import Mathlib.Algebra.Order.Ring.Int

/-!
# The cache of calendar reads (`backend/app/services/calendar_read_cache.py`)

`get_or_load` answers from an entry that has not expired, or waits for the load of its key that is in flight, or starts
one; whoever gets the result of a load stores it.  `invalidate_company` drops the entries of a company.  It knows nothing
of the loads that are in flight, nor of the calls that have not stored their result yet.

What lies under the lock has no `await`, so that the lock is free whenever it is asked for.  A call is therefore one step
up to the load that it waits for and one step from there on; between them come any steps of the other calls, of the
loads, and of the program that writes to the calendar.

A load that began before an invalidation is stored after it, and answers the calls that come later
(`answered_from_before`).  `invalidation_final` is what remains: nothing of the kind happens while every invalidation
finds the loads of its company settled.

Keys are of any type; `owner` is the company that a key belongs to.  Each value has with it when its load began and when
the calendar was as the value shows it, which the code does not keep.
-/

namespace VoiceAssistants
namespace ReadCache

open Async Collections Python

/-! ## Values -/

/-- Whether a result is stored; `none` is the `TypeError` of a source that has no hash. -/
def cacheable : Json → Option Bool
  | .obj members =>
      if ((Json.obj members).member? "status").any Json.truthy then some false
      else
        match (Json.obj members).member? "source" with
        | some (.str source) => some (source = "google_calendar_live" || source = "google_calendar_mirror")
        | some (.arr _) | some (.obj _) => none
        | some _ | none => some false
  | .null | .bool _ | .int _ | .float _ | .str _ | .arr _ => some false

/-- What a loader returned, the moment at which it began, and the moment whose calendar it shows. -/
structure Load where
  started : Nat
  readAt : Nat
  value : Json

/-! ## The cache -/

/-- `_Entry` -/
structure Entry (K : Type) where
  expiresAt : K
  load : Load

/-- How far the task of a load is. -/
inductive Progress
  | created
  | running (started : Nat)
  | finished (load : Load)
  | failed

/-- A `get_or_load` that waits for a task, and the moment at which it began. -/
structure Call (Key K : Type) where
  key : Key
  ttlSeconds : K
  started : Nat
  task : Nat

/-- What a call returned. -/
structure Answer (Key : Type) where
  key : Key
  started : Nat
  load : Load

/-- Something that happened to a company. -/
structure Event (Company : Type) where
  company : Company
  moment : Nat
  deriving DecidableEq

structure State (Key Company K : Type) where
  clock : K
  /-- The number of steps so far. -/
  moment : Nat
  entries : OrderedMap Key (Entry K)
  inflight : OrderedMap Key Nat
  tasks : List Progress
  waiting : List (Call Key K)
  /-- The calls that call their loader themselves. -/
  bypassing : List (Key × Nat)
  answers : List (Answer Key)
  invalidations : List (Event Company)
  /-- The writes to the calendar. -/
  writes : List (Event Company)

inductive Action (Key Company K : Type)
  | pass (time : K)
  | call (key : Key) (ttlSeconds : K)
  /-- A task runs for the first time. -/
  | start (task : Nat)
  | finish (task readAt : Nat) (value : Json)
  | fail (task : Nat)
  /-- A call whose task is done goes on. -/
  | wake (index : Nat)
  | cancel (index : Nat)
  | finishBypass (index readAt : Nat) (value : Json)
  | failBypass (index : Nat)
  | invalidate (company : Company)
  | clear
  | write (company : Company)

section Cache

variable {Key Company K : Type} [DecidableEq Key] [DecidableEq Company]

/-- `move_to_end(key)` -/
def moveToEnd {V : Type} (map : OrderedMap Key V) (key : Key) : OrderedMap Key V :=
  match map.get key with
  | some value => (map.delete key).set key value
  | none => map

/-- `popitem(last=False)` until at most `size` entries are left. -/
def trim {V : Type} (size : Nat) (map : OrderedMap Key V) : OrderedMap Key V :=
  ⟨map.entries.drop (map.entries.length - size), ((List.drop_sublist _ _).map Prod.fst).nodup map.nodup⟩

/-- Delete every key that meets a condition. -/
def deleteWhere {V : Type} (condition : Key → Bool) (map : OrderedMap Key V) : OrderedMap Key V :=
  ⟨map.entries.filter fun entry => !condition entry.1, (List.filter_sublist.map Prod.fst).nodup map.nodup⟩

/-- The keys of a cache and its size. -/
structure Config (Key Company : Type) where
  /-- `key[0]` of a tuple that is not empty. -/
  owner : Key → Option Company
  maxEntries : Int

/-- `self._max_entries` -/
def Config.size (config : Config Key Company) : Nat :=
  (max 1 config.maxEntries).toNat

/-- The cache before its first call. -/
def initial (time : K) : State Key Company K :=
  ⟨time, 0, .empty, .empty, [], [], [], [], [], []⟩

/-- `if self._inflight.get(key) is task: self._inflight.pop(key, None)` -/
def release (key : Key) (task : Nat) (inflight : OrderedMap Key Nat) : OrderedMap Key Nat :=
  if inflight.get key = some task then inflight.delete key else inflight

def State.answer (s : State Key Company K) (key : Key) (started : Nat) (load : Load) : State Key Company K :=
  { s with answers := ⟨key, started, load⟩ :: s.answers }

variable [Zero K] [Add K] [LinearOrder K]

/-- Wait for the load in flight, or create one. -/
def State.join (s : State Key Company K) (key : Key) (ttlSeconds : K) : State Key Company K :=
  match s.inflight.get key with
  | some task => { s with waiting := s.waiting ++ [⟨key, ttlSeconds, s.moment, task⟩] }
  | none =>
      { s with
        tasks := s.tasks ++ [.created]
        inflight := s.inflight.set key s.tasks.length
        waiting := s.waiting ++ [⟨key, ttlSeconds, s.moment, s.tasks.length⟩] }

/-- `get_or_load` up to its first `await`. -/
def State.getOrLoad (s : State Key Company K) (key : Key) (ttlSeconds : K) : State Key Company K :=
  if ttlSeconds ≤ 0 then { s with bypassing := s.bypassing ++ [(key, s.moment)] }
  else
    match s.entries.get key with
    | some entry =>
        if s.clock < entry.expiresAt then
          { s with entries := moveToEnd s.entries key }.answer key s.moment entry.load
        else { s with entries := s.entries.delete key }.join key ttlSeconds
    | none => s.join key ttlSeconds

/-- A call that leaves the cache when its task is done. -/
def State.leave (s : State Key Company K) (index : Nat) (call : Call Key K) : State Key Company K :=
  { s with waiting := s.waiting.eraseIdx index, inflight := release call.key call.task s.inflight }

/-- `get_or_load` from the result of its task on. -/
def State.settle (config : Config Key Company) (s : State Key Company K) (index : Nat) (call : Call Key K) (load : Load) :
    State Key Company K :=
  match cacheable load.value with
  | none => s.leave index call
  | some false => (s.leave index call).answer call.key call.started load
  | some true =>
      let entries := s.entries.set call.key ⟨s.clock + call.ttlSeconds, load⟩
      { s.leave index call with entries := trim config.size (moveToEnd entries call.key) }.answer
        call.key call.started load

/-- A waiting call that is cancelled. -/
def State.abandon (s : State Key Company K) (index : Nat) (call : Call Key K) : Progress → State Key Company K
  | .created | .running _ => { s with waiting := s.waiting.eraseIdx index }
  | .finished _ | .failed => s.leave index call

def State.invalidateCompany (config : Config Key Company) (s : State Key Company K) (company : Company) :
    State Key Company K :=
  { s with
    entries := deleteWhere (fun key => config.owner key = some company) s.entries
    invalidations := ⟨company, s.moment⟩ :: s.invalidations }

def move (config : Config Key Company) (s : State Key Company K) : Action Key Company K → Option (State Key Company K)
  | .pass time => if s.clock ≤ time then some { s with clock := time } else none
  | .call key ttlSeconds => some (s.getOrLoad key ttlSeconds)
  | .start task =>
      match s.tasks[task]? with
      | some .created => some { s with tasks := s.tasks.set task (.running s.moment) }
      | _ => none
  | .finish task readAt value =>
      match s.tasks[task]? with
      | some (.running started) =>
          if readAt ≤ s.moment then some { s with tasks := s.tasks.set task (.finished ⟨started, readAt, value⟩) } else none
      | _ => none
  | .fail task =>
      match s.tasks[task]? with
      | some .created | some (.running _) => some { s with tasks := s.tasks.set task .failed }
      | _ => none
  | .wake index =>
      match s.waiting[index]? with
      | none => none
      | some call =>
          match s.tasks[call.task]? with
          | some (.finished load) => some (s.settle config index call load)
          | some .failed => some (s.leave index call)
          | _ => none
  | .cancel index =>
      match s.waiting[index]? with
      | none => none
      | some call => s.tasks[call.task]?.map (s.abandon index call)
  | .finishBypass index readAt value =>
      match s.bypassing[index]? with
      | some (key, started) =>
          if readAt ≤ s.moment then
            some ({ s with bypassing := s.bypassing.eraseIdx index }.answer key started ⟨started, readAt, value⟩)
          else none
      | none => none
  | .failBypass index => some { s with bypassing := s.bypassing.eraseIdx index }
  | .invalidate company => some (s.invalidateCompany config company)
  | .clear => some { s with entries := .empty, inflight := .empty }
  | .write company => some { s with writes := ⟨company, s.moment⟩ :: s.writes }

def step (config : Config Key Company) (s : State Key Company K) (action : Action Key Company K) :
    Option (State Key Company K) :=
  (move config s action).map fun t => { t with moment := s.moment + 1 }

/-! ## What is promised, and when it holds -/

/-- The loader has begun, and may have a value. -/
def Progress.begun : Progress → Bool
  | .running _ | .finished _ => true
  | .created | .failed => false

/-- The result may be stored. -/
def Progress.storable : Progress → Bool
  | .created | .running _ => true
  | .finished load => cacheable load.value = some true
  | .failed => false

/-- No load of the company that has begun is in flight, and no call for a key of the company is about to store one. -/
def Config.settled (config : Config Key Company) (s : State Key Company K) (company : Company) : Bool :=
  (s.inflight.entries.all fun entry => !(config.owner entry.1 = some company && s.tasks[entry.2]?.any Progress.begun)) &&
    s.waiting.all fun call => !(config.owner call.key = some company &&
      s.tasks[call.task]?.any fun progress => progress.begun && progress.storable)

/-- Every invalidation finds the loads of its company settled. -/
def InvalidatesSettled (config : Config Key Company) (s : State Key Company K) : Action Key Company K → Prop
  | .invalidate company => config.settled s company = true
  | .pass _ | .call .. | .start _ | .finish .. | .fail _ | .wake _ | .cancel _ | .finishBypass .. | .failBypass _ | .clear
  | .write _ => True

instance (config : Config Key Company) (s : State Key Company K) (action : Action Key Company K) :
    Decidable (InvalidatesSettled config s action) :=
  match action with
  | .invalidate company => inferInstanceAs (Decidable (config.settled s company = true))
  | .pass _ | .call .. | .start _ | .finish .. | .fail _ | .wake _ | .cancel _ | .finishBypass .. | .failBypass _ | .clear
  | .write _ => .isTrue trivial

/-- What a load shows has the writes of the company from before the load began. -/
def State.ShowsEarlierWrites (s : State Key Company K) (company : Company) (load : Load) : Prop :=
  ∀ write ∈ s.writes, write.company = company → write.moment < load.started → write.moment < load.readAt

/-- An invalidation is final. -/
structure InvalidationFinal (config : Config Key Company) (s : State Key Company K) : Prop where
  /-- No call that began after an invalidation got a value whose load began before it. -/
  fresh : ∀ answer ∈ s.answers, ∀ event ∈ s.invalidations, config.owner answer.key = some event.company →
    event.moment < answer.started → event.moment < answer.load.started
  /-- And such a call saw every write from before the invalidation, if its load saw those from before itself. -/
  current : ∀ answer ∈ s.answers, ∀ event ∈ s.invalidations, config.owner answer.key = some event.company →
    event.moment < answer.started → s.ShowsEarlierWrites event.company answer.load →
    ∀ write ∈ s.writes, write.company = event.company → write.moment < event.moment →
      write.moment < answer.load.readAt

end Cache

/-! ## What the maps hold -/

section Maps

variable {Key V : Type} {map : OrderedMap Key V} {key : Key} {value : V} {entry : Key × V}

theorem mem_of_mem_trim {size : Nat} (h : entry ∈ (trim size map).entries) : entry ∈ map.entries :=
  List.mem_of_mem_drop h

variable [DecidableEq Key]

theorem mem_of_mem_moveToEnd (h : entry ∈ (moveToEnd map key).entries) : entry ∈ map.entries := by
  unfold moveToEnd at h
  cases hget : map.get key with
  | none =>
      rw [hget] at h
      exact h
  | some value =>
      rw [hget] at h
      rcases OrderedMap.mem_of_mem_set h with rfl | hold
      · exact OrderedMap.mem_entries.mpr hget
      · exact OrderedMap.mem_of_mem_delete hold

theorem mem_of_mem_release {task : Nat} {inflight : OrderedMap Key Nat} {entry : Key × Nat}
    (h : entry ∈ (release key task inflight).entries) : entry ∈ inflight.entries := by
  unfold release at h
  split at h
  · exact OrderedMap.mem_of_mem_delete h
  · exact h

end Maps

/-! ## The invariant -/

section Invariant

variable {Key Company K : Type} {config : Config Key Company} {s t : State Key Company K} {key : Key} {bound : Nat}

/-- A load that began at the given moment began after every invalidation of its key. -/
def Config.Since (config : Config Key Company) (events : List (Event Company)) (key : Key) (started : Nat) : Prop :=
  ∀ event ∈ events, config.owner key = some event.company → event.moment < started

/-- And after every invalidation from before a call. -/
def Config.SinceBefore (config : Config Key Company) (events : List (Event Company)) (key : Key) (called started : Nat) :
    Prop :=
  ∀ event ∈ events, config.owner key = some event.company → event.moment < called → event.moment < started

/-- The condition holds of the moment at which the load began, if it has. -/
def Progress.Began (condition : Nat → Prop) : Progress → Prop
  | .running started => condition started
  | .finished load => condition load.started
  | .created | .failed => True

theorem Progress.Began.imp {condition condition' : Nat → Prop} {progress : Progress}
    (himp : ∀ started, condition started → condition' started) (h : progress.Began condition) :
    progress.Began condition' := by
  cases progress with
  | created => trivial
  | running started => exact himp _ h
  | finished load => exact himp _ h
  | failed => trivial

/-- A load that has not begun, or has failed, meets every condition. -/
theorem Progress.began_of_not_begun {condition : Nat → Prop} {progress : Progress} (h : progress.begun = false) :
    progress.Began condition := by
  cases progress with
  | created => trivial
  | running started => cases h
  | finished load => cases h
  | failed => trivial

/-- A waiting call answers from its load, and stores what may be stored. -/
structure Config.Served (config : Config Key Company) (events : List (Event Company)) (call : Call Key K)
    (progress : Progress) : Prop where
  stores : progress.storable = true → progress.Began (config.Since events call.key)
  answers : progress.Began (config.SinceBefore events call.key call.started)

/-- Nothing is kept or in flight whose load began before an invalidation of its key.  All moments are before `bound`. -/
structure CacheInvariant (config : Config Key Company) (bound : Nat) (s : State Key Company K) : Prop where
  past : ∀ event ∈ s.invalidations, event.moment < bound
  entries : ∀ entry ∈ s.entries.entries, config.Since s.invalidations entry.1 entry.2.load.started
  inflight : ∀ entry ∈ s.inflight.entries, ∃ progress, s.tasks[entry.2]? = some progress ∧
    progress.Began (config.Since s.invalidations entry.1)
  waiting : ∀ call ∈ s.waiting, call.started < bound ∧ ∃ progress, s.tasks[call.task]? = some progress ∧
    config.Served s.invalidations call progress
  answered : ∀ answer ∈ s.answers, answer.started < bound ∧
    config.SinceBefore s.invalidations answer.key answer.started answer.load.started
  bypassing : ∀ call ∈ s.bypassing, call.2 < bound

theorem cacheInvariant_initial (config : Config Key Company) (time : K) :
    CacheInvariant config 0 (initial time : State Key Company K) where
  past := by simp [initial]
  entries := by simp [initial, OrderedMap.empty]
  inflight := by simp [initial, OrderedMap.empty]
  waiting := by simp [initial]
  answered := by simp [initial]
  bypassing := by simp [initial]

theorem CacheInvariant.mono (h : CacheInvariant config bound s) : CacheInvariant config (bound + 1) s where
  past := fun event hevent => Nat.lt_succ_of_lt (h.past event hevent)
  entries := h.entries
  inflight := h.inflight
  waiting := fun call hcall => ⟨Nat.lt_succ_of_lt (h.waiting call hcall).1, (h.waiting call hcall).2⟩
  answered := fun answer hanswer => ⟨Nat.lt_succ_of_lt (h.answered answer hanswer).1, (h.answered answer hanswer).2⟩
  bypassing := fun call hcall => Nat.lt_succ_of_lt (h.bypassing call hcall)

/-! ### One lemma for each part of a call -/

theorem CacheInvariant.answer (h : CacheInvariant config bound s) {started : Nat} {load : Load} (hstarted : started < bound)
    (hsince : config.SinceBefore s.invalidations key started load.started) :
    CacheInvariant config bound (s.answer key started load) := by
  refine { h with answered := ?_ }
  intro answer hanswer
  rcases List.mem_cons.mp hanswer with rfl | hold
  · exact ⟨hstarted, hsince⟩
  · exact h.answered answer hold

/-- A cache that keeps fewer entries. -/
theorem CacheInvariant.keep (h : CacheInvariant config bound s) {entries : OrderedMap Key (Entry K)}
    (hkept : ∀ entry ∈ entries.entries, entry ∈ s.entries.entries) :
    CacheInvariant config bound { s with entries := entries } :=
  { h with entries := fun entry hentry => h.entries entry (hkept entry hentry) }

/-- A task that goes on. -/
theorem CacheInvariant.advance (h : CacheInvariant config bound s) {task : Nat} {before after : Progress}
    (hfound : s.tasks[task]? = some before) (hstorable : after.storable = true → before.storable = true)
    (hbegan : ∀ condition : Nat → Prop, condition bound → before.Began condition → after.Began condition) :
    CacheInvariant config bound { s with tasks := s.tasks.set task after } := by
  have hset : ∀ {other : Nat} {progress : Progress}, s.tasks[other]? = some progress →
      (other = task ∧ progress = before ∧ (s.tasks.set task after)[other]? = some after) ∨
        (s.tasks.set task after)[other]? = some progress := by
    intro other progress hother
    by_cases heq : other = task
    · subst heq
      obtain rfl := Option.some.inj (hfound.symm.trans hother)
      have hlength := (List.getElem?_eq_some_iff.mp hfound).1
      exact .inl ⟨rfl, rfl, List.getElem?_set_self hlength⟩
    · right
      rw [List.getElem?_set_ne (Ne.symm heq)]
      exact hother
  have hnow : ∀ key, config.Since s.invalidations key bound := fun key event hevent _ => h.past event hevent
  refine { h with inflight := ?_, waiting := ?_ }
  · intro entry hentry
    obtain ⟨progress, hprogress, hsince⟩ := h.inflight entry hentry
    rcases hset hprogress with ⟨-, rfl, hafter⟩ | hsame
    · exact ⟨after, hafter, hbegan _ (hnow entry.1) hsince⟩
    · exact ⟨progress, hsame, hsince⟩
  · intro call hcall
    obtain ⟨hstarted, progress, hprogress, hserved⟩ := h.waiting call hcall
    refine ⟨hstarted, ?_⟩
    rcases hset hprogress with ⟨-, rfl, hafter⟩ | hsame
    · refine ⟨after, hafter, fun hstores => ?_, ?_⟩
      · exact hbegan _ (hnow call.key) (hserved.stores (hstorable hstores))
      · exact hbegan _ (fun event hevent _ _ => h.past event hevent) hserved.answers
    · exact ⟨progress, hsame, hserved⟩

/-- An invalidation that finds its loads settled. -/
theorem CacheInvariant.invalidateCompany [DecidableEq Company] (h : CacheInvariant config s.moment s) {company : Company}
    (hsettled : config.settled s company = true) :
    CacheInvariant config (s.moment + 1) (s.invalidateCompany config company) := by
  rw [Config.settled, Bool.and_eq_true, List.all_eq_true, List.all_eq_true] at hsettled
  obtain ⟨hinflight, hwaiting⟩ := hsettled
  -- the new event concerns the keys of its company only
  have hother : ∀ {key : Key} {started : Nat}, config.owner key ≠ some company →
      config.Since s.invalidations key started →
      config.Since (⟨company, s.moment⟩ :: s.invalidations) key started := by
    intro key started hkey hsince event hevent howner
    rcases List.mem_cons.mp hevent with rfl | hold
    · exact absurd howner hkey
    · exact hsince event hold howner
  have hbefore : ∀ {key : Key} {called started : Nat}, called < s.moment →
      config.SinceBefore s.invalidations key called started →
      config.SinceBefore (⟨company, s.moment⟩ :: s.invalidations) key called started := by
    intro key called started hcalled hsince event hevent howner hmoment
    rcases List.mem_cons.mp hevent with rfl | hold
    · exact absurd (Nat.lt_trans hmoment hcalled) (Nat.lt_irrefl _)
    · exact hsince event hold howner hmoment
  constructor
  · intro event hevent
    rcases List.mem_cons.mp hevent with rfl | hold
    · exact Nat.lt_succ_self _
    · exact Nat.lt_succ_of_lt (h.past event hold)
  · intro entry hentry
    obtain ⟨hold, hkept⟩ := List.mem_filter.mp hentry
    have howner : config.owner entry.1 ≠ some company := by simpa using hkept
    exact hother howner (h.entries entry hold)
  · intro entry hentry
    obtain ⟨progress, hprogress, hsince⟩ := h.inflight entry hentry
    refine ⟨progress, hprogress, ?_⟩
    by_cases howner : config.owner entry.1 = some company
    · have hidle := hinflight entry hentry
      simp only [howner, hprogress, decide_true, Bool.true_and, Option.any_some, Bool.not_eq_true'] at hidle
      exact Progress.began_of_not_begun hidle
    · exact hsince.imp fun started => hother howner
  · intro call hcall
    obtain ⟨hstarted, progress, hprogress, hserved⟩ := h.waiting call hcall
    refine ⟨Nat.lt_succ_of_lt hstarted, progress, hprogress, fun hstores => ?_, hserved.answers.imp fun _ => hbefore hstarted⟩
    by_cases howner : config.owner call.key = some company
    · have hidle := hwaiting call hcall
      simp only [howner, hprogress, decide_true, Bool.true_and, Option.any_some, Bool.not_eq_true', hstores,
        Bool.and_true] at hidle
      exact Progress.began_of_not_begun hidle
    · exact (hserved.stores hstores).imp fun started => hother howner
  · intro answer hanswer
    obtain ⟨hstarted, hsince⟩ := h.answered answer hanswer
    exact ⟨Nat.lt_succ_of_lt hstarted, hbefore hstarted hsince⟩
  · exact h.mono.bypassing

variable [DecidableEq Key]

/-- A call that leaves. -/
theorem CacheInvariant.leave (h : CacheInvariant config bound s) (index : Nat) (call : Call Key K) :
    CacheInvariant config bound (s.leave index call) :=
  { h with
    inflight := fun entry hentry => h.inflight entry (mem_of_mem_release hentry)
    waiting := fun other hother => h.waiting other (List.mem_of_mem_eraseIdx hother) }

theorem CacheInvariant.join (h : CacheInvariant config s.moment s) (ttlSeconds : K) :
    CacheInvariant config (s.moment + 1) (s.join key ttlSeconds) := by
  have hmono := h.mono
  unfold State.join
  cases hget : s.inflight.get key with
  | some task =>
      obtain ⟨progress, htask, hbegan⟩ := h.inflight (key, task) (OrderedMap.mem_entries.mpr hget)
      refine { hmono with waiting := ?_ }
      intro call hcall
      rcases List.mem_append.mp hcall with hold | hnew
      · exact hmono.waiting call hold
      · obtain rfl := List.mem_singleton.mp hnew
        refine ⟨Nat.lt_succ_self _, progress, htask, fun _ => hbegan, ?_⟩
        exact hbegan.imp fun started hsince event hevent howner _ => hsince event hevent howner
  | none =>
      have hkept : ∀ {task : Nat} {progress : Progress}, s.tasks[task]? = some progress →
          (s.tasks ++ [Progress.created])[task]? = some progress := by
        intro task progress hfound
        rw [List.getElem?_append_left (List.getElem?_eq_some_iff.mp hfound).1]
        exact hfound
      have hcreated : (s.tasks ++ [Progress.created])[s.tasks.length]? = some .created := by
        rw [List.getElem?_append_right (Nat.le_refl _), Nat.sub_self]
        rfl
      refine { hmono with inflight := ?_, waiting := ?_ }
      · intro entry hentry
        rcases OrderedMap.mem_of_mem_set hentry with rfl | hold
        · exact ⟨.created, hcreated, trivial⟩
        · obtain ⟨progress, htask, hbegan⟩ := h.inflight entry hold
          exact ⟨progress, hkept htask, hbegan⟩
      · intro call hcall
        rcases List.mem_append.mp hcall with hold | hnew
        · obtain ⟨hstarted, progress, htask, hserved⟩ := hmono.waiting call hold
          exact ⟨hstarted, progress, hkept htask, hserved⟩
        · obtain rfl := List.mem_singleton.mp hnew
          exact ⟨Nat.lt_succ_self _, .created, hcreated, fun _ => trivial, trivial⟩

theorem CacheInvariant.getOrLoad [Zero K] [LinearOrder K] (h : CacheInvariant config s.moment s) (ttlSeconds : K) :
    CacheInvariant config (s.moment + 1) (s.getOrLoad key ttlSeconds) := by
  unfold State.getOrLoad
  split
  · refine { h.mono with bypassing := ?_ }
    intro call hcall
    rcases List.mem_append.mp hcall with hold | hnew
    · exact h.mono.bypassing call hold
    · obtain rfl := List.mem_singleton.mp hnew
      exact Nat.lt_succ_self _
  · cases hget : s.entries.get key with
    | none => exact h.join ttlSeconds
    | some entry =>
        have hsince := h.entries (key, entry) (OrderedMap.mem_entries.mpr hget)
        simp only
        split
        · apply (h.mono.keep fun other => mem_of_mem_moveToEnd).answer (Nat.lt_succ_self _)
          exact fun event hevent howner _ => hsince event hevent howner
        · exact CacheInvariant.join (s := { s with entries := s.entries.delete key })
            (h.keep fun other => OrderedMap.mem_of_mem_delete) ttlSeconds

theorem CacheInvariant.settle [Add K] (h : CacheInvariant config bound s) {index : Nat} {call : Call Key K} {load : Load}
    (hstarted : call.started < bound) (hserved : config.Served s.invalidations call (.finished load)) :
    CacheInvariant config bound (s.settle config index call load) := by
  have hleft := h.leave index call
  unfold State.settle
  cases hcacheable : cacheable load.value with
  | none => exact hleft
  | some stores =>
      cases stores with
      | false => exact hleft.answer hstarted hserved.answers
      | true =>
          -- the load is younger than every invalidation of its key
          have hsince : config.Since s.invalidations call.key load.started := by
            apply hserved.stores
            simp [Progress.storable, hcacheable]
          have hstored : CacheInvariant config bound { s.leave index call with
              entries := trim config.size
                (moveToEnd (s.entries.set call.key ⟨s.clock + call.ttlSeconds, load⟩) call.key) } := by
            refine { hleft with entries := ?_ }
            intro entry hentry
            rcases OrderedMap.mem_of_mem_set (mem_of_mem_moveToEnd (mem_of_mem_trim hentry)) with rfl | hold
            · exact hsince
            · exact h.entries entry hold
          exact hstored.answer hstarted hserved.answers

/-! ### Every step -/

variable [DecidableEq Company] [Zero K] [Add K] [LinearOrder K] {action : Action Key Company K}

/-- What a step does, the number of the steps apart. -/
inductive Moved (config : Config Key Company) (s : State Key Company K) : Action Key Company K → State Key Company K → Prop
  | passed (time : K) : Moved config s (.pass time) { s with clock := time }
  | called (key : Key) (ttlSeconds : K) : Moved config s (.call key ttlSeconds) (s.getOrLoad key ttlSeconds)
  | started (task : Nat) (found : s.tasks[task]? = some .created) :
      Moved config s (.start task) { s with tasks := s.tasks.set task (.running s.moment) }
  | finished (task readAt : Nat) (value : Json) (started : Nat) (found : s.tasks[task]? = some (.running started)) :
      Moved config s (.finish task readAt value) { s with tasks := s.tasks.set task (.finished ⟨started, readAt, value⟩) }
  | failed (task : Nat) (progress : Progress) (found : s.tasks[task]? = some progress) :
      Moved config s (.fail task) { s with tasks := s.tasks.set task .failed }
  | settled (index : Nat) (call : Call Key K) (load : Load) (found : s.waiting[index]? = some call)
      (done : s.tasks[call.task]? = some (.finished load)) :
      Moved config s (.wake index) (s.settle config index call load)
  | raised (index : Nat) (call : Call Key K) : Moved config s (.wake index) (s.leave index call)
  | left (index : Nat) (call : Call Key K) : Moved config s (.cancel index) (s.leave index call)
  | cancelled (index : Nat) : Moved config s (.cancel index) { s with waiting := s.waiting.eraseIdx index }
  | bypassed (index readAt : Nat) (value : Json) (key : Key) (started : Nat)
      (found : s.bypassing[index]? = some (key, started)) :
      Moved config s (.finishBypass index readAt value)
        ({ s with bypassing := s.bypassing.eraseIdx index }.answer key started ⟨started, readAt, value⟩)
  | failedBypass (index : Nat) : Moved config s (.failBypass index) { s with bypassing := s.bypassing.eraseIdx index }
  | invalidated (company : Company) : Moved config s (.invalidate company) (s.invalidateCompany config company)
  | cleared : Moved config s .clear { s with entries := .empty, inflight := .empty }
  | written (company : Company) :
      Moved config s (.write company) { s with writes := ⟨company, s.moment⟩ :: s.writes }

theorem move_cases (h : move config s action = some t) : Moved config s action t := by
  cases action with
  | pass time =>
      simp only [move] at h
      split at h
      · obtain rfl := Option.some.inj h
        exact .passed time
      · cases h
  | call key ttlSeconds =>
      obtain rfl := Option.some.inj h
      exact .called key ttlSeconds
  | start task =>
      simp only [move] at h
      split at h
      · rename_i hfound
        obtain rfl := Option.some.inj h
        exact .started task hfound
      · cases h
  | finish task readAt value =>
      simp only [move] at h
      split at h
      · rename_i started hfound
        split at h
        · obtain rfl := Option.some.inj h
          exact .finished task readAt value started hfound
        · cases h
      · cases h
  | fail task =>
      simp only [move] at h
      split at h
      · rename_i hfound
        obtain rfl := Option.some.inj h
        exact .failed task _ hfound
      · rename_i started hfound
        obtain rfl := Option.some.inj h
        exact .failed task _ hfound
      · cases h
  | wake index =>
      simp only [move] at h
      split at h
      · cases h
      · rename_i call hfound
        split at h
        · rename_i load hdone
          obtain rfl := Option.some.inj h
          exact .settled index call load hfound hdone
        · obtain rfl := Option.some.inj h
          exact .raised index call
        · cases h
  | cancel index =>
      simp only [move] at h
      split at h
      · cases h
      · rename_i call hfound
        obtain ⟨progress, -, rfl⟩ := Option.map_eq_some_iff.mp h
        cases progress with
        | created => exact .cancelled index
        | running started => exact .cancelled index
        | finished load => exact .left index call
        | failed => exact .left index call
  | finishBypass index readAt value =>
      simp only [move] at h
      split at h
      · rename_i key started hfound
        split at h
        · obtain rfl := Option.some.inj h
          exact .bypassed index readAt value key started hfound
        · cases h
      · cases h
  | failBypass index =>
      obtain rfl := Option.some.inj h
      exact .failedBypass index
  | invalidate company =>
      obtain rfl := Option.some.inj h
      exact .invalidated company
  | clear =>
      obtain rfl := Option.some.inj h
      exact .cleared
  | write company =>
      obtain rfl := Option.some.inj h
      exact .written company

theorem CacheInvariant.move (h : CacheInvariant config s.moment s) (hallowed : InvalidatesSettled config s action)
    (hmove : move config s action = some t) : CacheInvariant config (s.moment + 1) t := by
  have hmono := h.mono
  cases move_cases hmove with
  | passed time => exact { hmono with }
  | called key ttlSeconds => exact h.getOrLoad ttlSeconds
  | started task hfound =>
      -- the load begins now, after every invalidation so far
      have hstarted : CacheInvariant config s.moment { s with tasks := s.tasks.set task (.running s.moment) } :=
        h.advance hfound (fun _ => rfl) fun condition hnow _ => hnow
      exact hstarted.mono
  | finished task readAt value started hfound =>
      have hfinished : CacheInvariant config s.moment
          { s with tasks := s.tasks.set task (.finished ⟨started, readAt, value⟩) } :=
        h.advance hfound (fun _ => rfl) fun condition _ hbegan => hbegan
      exact hfinished.mono
  | failed task progress hfound =>
      have hfailed : CacheInvariant config s.moment { s with tasks := s.tasks.set task .failed } :=
        h.advance hfound (fun hstores => nomatch hstores) fun condition _ _ => trivial
      exact hfailed.mono
  | settled index call load hfound hdone =>
      obtain ⟨hstarted, progress, hprogress, hserved⟩ := hmono.waiting call (List.mem_of_getElem? hfound)
      obtain rfl := Option.some.inj (hdone.symm.trans hprogress)
      exact hmono.settle hstarted hserved
  | raised index call => exact hmono.leave index call
  | left index call => exact hmono.leave index call
  | cancelled index =>
      exact { hmono with waiting := fun call hcall => hmono.waiting call (List.mem_of_mem_eraseIdx hcall) }
  | bypassed index readAt value key started hfound =>
      have hrest : CacheInvariant config (s.moment + 1) { s with bypassing := s.bypassing.eraseIdx index } :=
        { hmono with bypassing := fun call hcall => hmono.bypassing call (List.mem_of_mem_eraseIdx hcall) }
      apply hrest.answer (hmono.bypassing _ (List.mem_of_getElem? hfound))
      exact fun event _ _ hmoment => hmoment
  | failedBypass index =>
      exact { hmono with bypassing := fun call hcall => hmono.bypassing call (List.mem_of_mem_eraseIdx hcall) }
  | invalidated company => exact h.invalidateCompany hallowed
  | cleared =>
      refine { hmono with entries := ?_, inflight := ?_ }
      · exact fun entry hentry => absurd hentry List.not_mem_nil
      · exact fun entry hentry => absurd hentry List.not_mem_nil
  | written company => exact { hmono with }

theorem CacheInvariant.step (h : CacheInvariant config s.moment s) (hallowed : InvalidatesSettled config s action)
    (hstep : step config s action = some t) : CacheInvariant config t.moment t := by
  obtain ⟨moved, hmove, rfl⟩ := Option.map_eq_some_iff.mp hstep
  exact { h.move hallowed hmove with }

/-- If every invalidation finds the loads of its company settled, it is final. -/
theorem invalidation_final {time : K}
    (h : Reaches (ReadCache.step config) (InvalidatesSettled config) (initial time) s) : InvalidationFinal config s := by
  have hinv : CacheInvariant config s.moment s :=
    h.invariant (I := fun s => CacheInvariant config s.moment s) (cacheInvariant_initial config time)
      fun _ _ _ hinv hallowed hstep => hinv.step hallowed hstep
  have hfresh : ∀ answer ∈ s.answers, ∀ event ∈ s.invalidations, config.owner answer.key = some event.company →
      event.moment < answer.started → event.moment < answer.load.started := by
    intro answer hanswer event hevent howner hmoment
    exact (hinv.answered answer hanswer).2 event hevent howner hmoment
  constructor
  · exact hfresh
  · intro answer hanswer event hevent howner hmoment hshows write hwrite hcompany hbefore
    have hload : event.moment < answer.load.started := hfresh answer hanswer event hevent howner hmoment
    exact hshows write hwrite hcompany (Nat.lt_trans hbefore hload)

end Invariant

/-! ## A load that an invalidation overtakes -/

section Overtaken

/-- The company is the first part of a key. -/
def sampleConfig : Config (String × String) String where
  owner key := some key.1
  maxEntries := 1024

def sampleKey : String × String :=
  ("company", "list")

def sampleResult : Json :=
  .obj [("events", .arr []), ("source", .str "google_calendar_live")]

/-- Read, write, invalidate, one after the other. -/
def settledActions : List (Action (String × String) String Int) :=
  [.call sampleKey 30, .start 0, .finish 0 1 sampleResult, .wake 0, .write "company", .invalidate "company",
    .call sampleKey 30, .start 1, .finish 1 7 sampleResult, .wake 0]

def settledRun : State (String × String) String Int :=
  final (step sampleConfig) (initial 0) settledActions

/-- The write and its invalidation fall between the end of a load and the moment at which its result is stored. -/
def overtakenRun : State (String × String) String Int :=
  final (step sampleConfig) (initial 0)
    [.call sampleKey 30, .start 0, .finish 0 1 sampleResult, .write "company", .invalidate "company", .wake 0,
      .call sampleKey 30]

theorem reaches_settledRun : Reaches (step sampleConfig) (InvalidatesSettled sampleConfig) (initial 0) settledRun := by
  have hchecked : checked (step sampleConfig) (fun s action => decide (InvalidatesSettled sampleConfig s action))
      (initial 0) settledActions = true := by decide +kernel
  exact .of_checked (fun _ _ _ hok => of_decide_eq_true hok) hchecked (execute_final (by decide +kernel))

theorem invalidation_final_settledRun : InvalidationFinal sampleConfig settledRun :=
  invalidation_final reaches_settledRun

/-- The second call gets what the first one has read before the write. -/
theorem answered_from_before :
    ¬ ∀ s : State (String × String) String Int, Reaches (step sampleConfig) Always (initial 0) s →
      InvalidationFinal sampleConfig s := by
  intro hfinal
  have hreaches : Reaches (step sampleConfig) Always (initial 0) overtakenRun :=
    .of_execute (execute_final (by decide +kernel))
  have hstale : (overtakenRun.answers.any fun answer => overtakenRun.invalidations.any fun event =>
      sampleConfig.owner answer.key = some event.company && event.moment < answer.started &&
        !(event.moment < answer.load.started)) = true := by decide +kernel
  obtain ⟨answer, hanswer, hany⟩ := List.any_eq_true.mp hstale
  obtain ⟨event, hevent, hboth⟩ := List.any_eq_true.mp hany
  simp only [Bool.and_eq_true, Bool.not_eq_true', decide_eq_true_eq, decide_eq_false_iff_not] at hboth
  obtain ⟨⟨howner, hmoment⟩, hload⟩ := hboth
  exact hload ((hfinal overtakenRun hreaches).fresh answer hanswer event hevent howner hmoment)

end Overtaken

end ReadCache
end VoiceAssistants
