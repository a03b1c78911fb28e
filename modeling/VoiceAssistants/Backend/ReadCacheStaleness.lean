import VoiceAssistants.Backend.CalendarReadCache

/-!
# How old an answer of the cache can be (`CalendarReadCache.get_or_load`)

A call takes an entry that has not expired, or joins the load of its key that is in flight.  A load leaves `_inflight` when
one of the calls that wait for it finds it done.  A call that is cancelled before that does not look back: when all of
them are, the load stays in flight after it is done, and answers the next call, whenever that comes
(`abandoned_load_replayed`).

`bounded_staleness` — as long as no call finds a load that is done, an answer is an entry that was stored less than its
`ttl_seconds` ago, or the outcome of a load that was pending when the call looked it up.
-/

namespace VoiceAssistants
namespace ReadCache

open Async Collections Python

/-! ## What is stored, looked up and returned -/

/-- An entry that was stored, when and for how long. -/
structure Stored (Key K : Type) where
  key : Key
  clock : K
  ttlSeconds : K
  load : Load

/-- A call without an entry, the load that it joined or created, and whether that was pending. -/
structure Lookup where
  started : Nat
  task : Nat
  pending : Bool
  deriving DecidableEq

/-- What a call has returned: the value of an entry, or the outcome of its task. -/
inductive Result (Key K : Type)
  | entry (key : Key) (clock : K) (load : Load)
  | outcome (started task : Nat) (progress : Progress)

/-- The cache with a record of what its calls have done. -/
structure Observed (Key Company K : Type) where
  state : State Key Company K
  stores : List (Stored Key K)
  lookups : List Lookup
  results : List (Result Key K)

/-- `not task.done()` -/
def Progress.pending : Progress → Bool
  | .created | .running _ => true
  | .finished _ | .failed => false

section Machine

variable {Key Company K : Type} [DecidableEq Key] [DecidableEq Company] [Zero K] [Add K] [LinearOrder K]

/-- The value of an entry that has not expired. -/
def State.valid (s : State Key Company K) (key : Key) : Option Load :=
  (s.entries.get key).bind fun entry => if s.clock < entry.expiresAt then some entry.load else none

/-- The load that a call joins, or creates. -/
def State.taskFor (s : State Key Company K) (key : Key) : Nat :=
  (s.inflight.get key).getD s.tasks.length

/-- No load of a key is in flight that is done. -/
def State.noneDone (s : State Key Company K) (key : Key) : Bool :=
  (s.inflight.get key).all fun task => s.tasks[task]?.any Progress.pending

def Observed.initial (time : K) : Observed Key Company K :=
  ⟨ReadCache.initial time, [], [], []⟩

/-- The record of a call up to its first `await`. -/
def Observed.called (o : Observed Key Company K) (key : Key) (ttlSeconds : K) : Observed Key Company K :=
  if ttlSeconds ≤ 0 then o
  else
    match o.state.valid key with
    | some load => { o with results := .entry key o.state.clock load :: o.results }
    | none => { o with lookups := ⟨o.state.moment, o.state.taskFor key, o.state.noneDone key⟩ :: o.lookups }

/-- The record of a call whose task is done.  The `TypeError` of a result is none of its loader's. -/
def Observed.woken (o : Observed Key Company K) (call : Call Key K) : Progress → Observed Key Company K
  | .finished load =>
      match cacheable load.value with
      | none => o
      | some stored =>
          { o with
            results := .outcome call.started call.task (.finished load) :: o.results
            stores := if stored then ⟨call.key, o.state.clock, call.ttlSeconds, load⟩ :: o.stores else o.stores }
  | .failed => { o with results := .outcome call.started call.task .failed :: o.results }
  | .created | .running _ => o

/-- The record after a step. -/
def Observed.record (o : Observed Key Company K) : Action Key Company K → Observed Key Company K
  | .call key ttlSeconds => o.called key ttlSeconds
  | .wake index =>
      match o.state.waiting[index]? with
      | some call =>
          match o.state.tasks[call.task]? with
          | some progress => o.woken call progress
          | none => o
      | none => o
  | _ => o

def Observed.step (config : Config Key Company) (o : Observed Key Company K) (action : Action Key Company K) :
    Option (Observed Key Company K) :=
  (ReadCache.step config o.state action).map fun t => { o.record action with state := t }

/-- A call that looks for a load finds none that is done. -/
def FindsPending (o : Observed Key Company K) : Action Key Company K → Prop
  | .call key ttlSeconds => 0 < ttlSeconds → o.state.valid key = none → o.state.noneDone key = true
  | _ => True

/-- An answer is young, or comes from a load that was pending; and the cache is bounded. -/
structure BoundedStaleness (config : Config Key Company) (o : Observed Key Company K) : Prop where
  entries : ∀ key clock load, Result.entry key clock load ∈ o.results →
    ∃ store ∈ o.stores, store.key = key ∧ store.load = load ∧ store.clock ≤ clock ∧
      clock < store.clock + store.ttlSeconds
  outcomes : ∀ started task progress, Result.outcome started task progress ∈ o.results →
    ⟨started, task, true⟩ ∈ o.lookups
  size : o.state.entries.entries.length ≤ config.size

end Machine

/-! ## The size of the cache -/

section Size

variable {Key V : Type} {map : OrderedMap Key V} {key : Key} {value : V}

theorem length_trim_le {size : Nat} : (trim size map).entries.length ≤ size := by
  unfold trim
  rw [List.length_drop]
  omega

theorem length_deleteWhere_le {condition : Key → Bool} :
    (deleteWhere condition map).entries.length ≤ map.entries.length :=
  List.length_filter_le _ _

variable [DecidableEq Key]

theorem length_delete_le : (map.delete key).entries.length ≤ map.entries.length :=
  List.length_filter_le _ _

theorem length_delete_lt (h : map.get key = some value) :
    (map.delete key).entries.length < map.entries.length := by
  apply List.length_filter_lt_length_iff_exists.mpr
  exact ⟨(key, value), OrderedMap.mem_entries.mpr h, by simp⟩

theorem length_moveToEnd_le : (moveToEnd map key).entries.length ≤ map.entries.length := by
  unfold moveToEnd
  cases hget : map.get key with
  | none => exact Nat.le_refl _
  | some value =>
      have hless := length_delete_lt hget
      have hmore : ((map.delete key).set key value).entries.length ≤ (map.delete key).entries.length + 1 :=
        OrderedMap.length_entries_set_le
      dsimp only
      omega

end Size

/-! ## A call that waits -/

section Join

variable {Key Company K : Type} [DecidableEq Key] {s : State Key Company K} {key : Key}

/-- The load that a call waits for. -/
theorem join_waiting (ttlSeconds : K) :
    (s.join key ttlSeconds).waiting = s.waiting ++ [⟨key, ttlSeconds, s.moment, s.taskFor key⟩] := by
  unfold State.join State.taskFor
  cases s.inflight.get key <;> rfl

theorem join_entries (ttlSeconds : K) : (s.join key ttlSeconds).entries = s.entries := by
  unfold State.join
  cases s.inflight.get key <;> rfl

theorem join_clock (ttlSeconds : K) : (s.join key ttlSeconds).clock = s.clock := by
  unfold State.join
  cases s.inflight.get key <;> rfl

end Join

/-! ## The invariant -/

section Invariant

variable {Key Company K : Type} [Add K] [LinearOrder K] {config : Config Key Company} {o o' : Observed Key Company K}
  {s t : State Key Company K} {action : Action Key Company K} {key : Key}

/-- An entry was stored, and expires as it was stored. -/
def StoredEntry (stores : List (Stored Key K)) (clock : K) (entry : Key × Entry K) : Prop :=
  ∃ store ∈ stores, store.key = entry.1 ∧ store.load = entry.2.load ∧ store.clock ≤ clock ∧
    entry.2.expiresAt = store.clock + store.ttlSeconds

/-- Every entry was stored, and every call that waits has looked up a load that was pending. -/
structure StalenessInvariant (config : Config Key Company) (o : Observed Key Company K) : Prop where
  entries : ∀ entry ∈ o.state.entries.entries, StoredEntry o.stores o.state.clock entry
  waiting : ∀ call ∈ o.state.waiting, ⟨call.started, call.task, true⟩ ∈ o.lookups
  bounded : BoundedStaleness config o

theorem stalenessInvariant_initial (time : K) :
    StalenessInvariant config (Observed.initial time : Observed Key Company K) where
  entries := fun entry hentry => nomatch hentry
  waiting := fun call hcall => nomatch hcall
  bounded := by
    constructor
    case entries =>
      intro key clock load hresult
      cases hresult
    case outcomes =>
      intro started task progress hresult
      cases hresult
    case size => exact Nat.zero_le _

/-- A step that stores nothing and after which no other call waits. -/
theorem StalenessInvariant.keep (h : StalenessInvariant config o)
    (hentries : ∀ entry ∈ t.entries.entries, entry ∈ o.state.entries.entries)
    (hsize : t.entries.entries.length ≤ o.state.entries.entries.length)
    (hwaiting : ∀ call ∈ t.waiting, call ∈ o.state.waiting) (hclock : o.state.clock ≤ t.clock) :
    StalenessInvariant config { o with state := t } := by
  constructor
  case entries =>
    intro entry hentry
    obtain ⟨store, hstore, hkey, hload, hbefore, hexpires⟩ := h.entries entry (hentries entry hentry)
    exact ⟨store, hstore, hkey, hload, hbefore.trans hclock, hexpires⟩
  case waiting => exact fun call hcall => h.waiting call (hwaiting call hcall)
  case bounded => exact ⟨h.bounded.entries, h.bounded.outcomes, hsize.trans h.bounded.size⟩

/-- A step that stores nothing, after which the same calls wait at the same time. -/
theorem StalenessInvariant.same (h : StalenessInvariant config o) (hentries : t.entries = o.state.entries)
    (hwaiting : t.waiting = o.state.waiting) (hclock : t.clock = o.state.clock) :
    StalenessInvariant config { o with state := t } := by
  apply h.keep
  · rw [hentries]
    exact fun _ => id
  · rw [hentries]
  · rw [hwaiting]
    exact fun _ => id
  · rw [hclock]

/-- A call that waits from now on. -/
theorem StalenessInvariant.wait (h : StalenessInvariant config o) (call : Call Key K)
    (hentries : ∀ entry ∈ t.entries.entries, entry ∈ o.state.entries.entries)
    (hsize : t.entries.entries.length ≤ o.state.entries.entries.length) (hwaiting : t.waiting = o.state.waiting ++ [call])
    (hclock : o.state.clock ≤ t.clock) :
    StalenessInvariant config { o with state := t, lookups := ⟨call.started, call.task, true⟩ :: o.lookups } := by
  constructor
  case entries =>
    intro entry hentry
    obtain ⟨store, hstore, hkey, hload, hbefore, hexpires⟩ := h.entries entry (hentries entry hentry)
    exact ⟨store, hstore, hkey, hload, hbefore.trans hclock, hexpires⟩
  case waiting =>
    intro other hother
    rw [hwaiting] at hother
    rcases List.mem_append.mp hother with hold | hnew
    · exact List.mem_cons_of_mem _ (h.waiting other hold)
    · rw [List.mem_singleton.mp hnew]
      exact List.mem_cons_self
  case bounded =>
    constructor
    case entries => exact h.bounded.entries
    case outcomes =>
      intro started task progress hresult
      exact List.mem_cons_of_mem _ (h.bounded.outcomes started task progress hresult)
    case size => exact hsize.trans h.bounded.size

/-- A call that returns. -/
theorem StalenessInvariant.return (h : StalenessInvariant config o) {result : Result Key K}
    (hentry : ∀ key clock load, result = .entry key clock load → ∃ store ∈ o.stores, store.key = key ∧
      store.load = load ∧ store.clock ≤ clock ∧ clock < store.clock + store.ttlSeconds)
    (houtcome : ∀ started task progress, result = .outcome started task progress → ⟨started, task, true⟩ ∈ o.lookups) :
    StalenessInvariant config { o with results := result :: o.results } := by
  constructor
  case entries => exact h.entries
  case waiting => exact h.waiting
  case bounded =>
    constructor
    case entries =>
      intro key clock load hresult
      rcases List.mem_cons.mp hresult with hnew | hold
      · exact hentry key clock load hnew.symm
      · exact h.bounded.entries key clock load hold
    case outcomes =>
      intro started task progress hresult
      rcases List.mem_cons.mp hresult with hnew | hold
      · exact houtcome started task progress hnew.symm
      · exact h.bounded.outcomes started task progress hold
    case size => exact h.bounded.size

variable [DecidableEq Key]

/-- A valid entry is one that was stored less than its time ago. -/
theorem StalenessInvariant.valid (h : StalenessInvariant config o) {load : Load} (hvalid : o.state.valid key = some load) :
    ∃ store ∈ o.stores, store.key = key ∧ store.load = load ∧ store.clock ≤ o.state.clock ∧
      o.state.clock < store.clock + store.ttlSeconds := by
  obtain ⟨entry, hget, hload⟩ := Option.bind_eq_some_iff.mp hvalid
  split at hload
  · rename_i hexpires
    obtain rfl := Option.some.inj hload
    obtain ⟨store, hstore, hkey, hload, hbefore, hsame⟩ := h.entries (key, entry) (OrderedMap.mem_entries.mpr hget)
    exact ⟨store, hstore, hkey, hload, hbefore, hsame ▸ hexpires⟩
  · cases hload

/-- `get_or_load` up to its first `await`. -/
theorem StalenessInvariant.called [Zero K] (h : StalenessInvariant config o) {ttlSeconds : K}
    (hpending : FindsPending o (.call key ttlSeconds)) :
    StalenessInvariant config { o.called key ttlSeconds with state := o.state.getOrLoad key ttlSeconds } := by
  unfold Observed.called State.getOrLoad
  by_cases httl : ttlSeconds ≤ 0
  · rw [if_pos httl, if_pos httl]
    exact h.same rfl rfl rfl
  · rw [if_neg httl, if_neg httl]
    have hfound : o.state.valid key = none → o.state.noneDone key = true := hpending (lt_of_not_ge httl)
    cases hget : o.state.entries.get key with
    | none =>
        have hvalid : o.state.valid key = none := by simp [State.valid, hget]
        rw [hvalid, hfound hvalid]
        apply h.wait ⟨key, ttlSeconds, o.state.moment, o.state.taskFor key⟩
        · exact fun entry hentry => join_entries (s := o.state) ttlSeconds ▸ hentry
        · exact le_of_eq (by rw [join_entries])
        · exact join_waiting ttlSeconds
        · exact le_of_eq (join_clock ttlSeconds).symm
    | some entry =>
        dsimp only
        by_cases hfresh : o.state.clock < entry.expiresAt
        · have hvalid : o.state.valid key = some entry.load := by simp [State.valid, hget, hfresh]
          rw [hvalid, if_pos hfresh]
          have hreturned : StalenessInvariant config
              { o with results := .entry key o.state.clock entry.load :: o.results } := by
            apply h.return
            · intro key' clock load hresult
              obtain ⟨rfl, rfl, rfl⟩ := Result.entry.inj hresult
              exact h.valid hvalid
            · intro started task progress hresult
              cases hresult
          exact hreturned.keep (fun _ => mem_of_mem_moveToEnd) length_moveToEnd_le (fun _ => id) le_rfl
        · have hvalid : o.state.valid key = none := by simp [State.valid, hget, hfresh]
          rw [hvalid, hfound hvalid, if_neg hfresh]
          apply h.wait ⟨key, ttlSeconds, o.state.moment, o.state.taskFor key⟩
          · intro entry hentry
            rw [join_entries] at hentry
            exact OrderedMap.mem_of_mem_delete hentry
          · rw [join_entries]
            exact length_delete_le
          · exact join_waiting ttlSeconds
          · rw [join_clock]

/-- `get_or_load` from the outcome of its task on. -/
theorem StalenessInvariant.settled (h : StalenessInvariant config o) {index : Nat} {call : Call Key K} {load : Load}
    (hcall : call ∈ o.state.waiting) :
    StalenessInvariant config { o.woken call (.finished load) with state := o.state.settle config index call load } := by
  have hwaits : ∀ other ∈ o.state.waiting.eraseIdx index, other ∈ o.state.waiting :=
    fun other => List.mem_of_mem_eraseIdx
  have hreturned : StalenessInvariant config
      { o with results := .outcome call.started call.task (.finished load) :: o.results } := by
    apply h.return
    · intro key clock load hresult
      cases hresult
    · intro started task progress hresult
      obtain ⟨rfl, rfl, rfl⟩ := Result.outcome.inj hresult
      exact h.waiting call hcall
  unfold Observed.woken State.settle
  dsimp only
  cases hcacheable : cacheable load.value with
  | none => exact h.keep (t := o.state.leave index call) (fun _ => id) (Nat.le_refl _) hwaits le_rfl
  | some stored =>
      cases stored with
      | false =>
          exact hreturned.keep (t := (o.state.leave index call).answer call.key call.started load) (fun _ => id)
            (Nat.le_refl _) hwaits le_rfl
      | true =>
          dsimp only
          rw [if_pos rfl]
          constructor
          case entries =>
            intro entry hentry
            rcases OrderedMap.mem_of_mem_set (mem_of_mem_moveToEnd (mem_of_mem_trim hentry)) with rfl | hold
            · exact ⟨⟨call.key, o.state.clock, call.ttlSeconds, load⟩, List.mem_cons_self, rfl, rfl, le_rfl, rfl⟩
            · obtain ⟨store, hstore, hrest⟩ := h.entries entry hold
              exact ⟨store, List.mem_cons_of_mem _ hstore, hrest⟩
          case waiting => exact fun other hother => h.waiting other (hwaits other hother)
          case bounded =>
            constructor
            case entries =>
              intro key clock load hresult
              obtain ⟨store, hstore, hrest⟩ := hreturned.bounded.entries key clock load hresult
              exact ⟨store, List.mem_cons_of_mem _ hstore, hrest⟩
            case outcomes => exact hreturned.bounded.outcomes
            case size => exact length_trim_le

variable [DecidableEq Company] [Zero K]

/-- Every step that finds no load that is done keeps the invariant. -/
theorem StalenessInvariant.step (h : StalenessInvariant config o) (hpending : FindsPending o action)
    (hstep : Observed.step config o action = some o') : StalenessInvariant config o' := by
  obtain ⟨t, ht, rfl⟩ := Option.map_eq_some_iff.mp hstep
  obtain ⟨moved, hmove, rfl⟩ := Option.map_eq_some_iff.mp ht
  have hmoved : StalenessInvariant config { o.record action with state := moved } := by
    cases action with
    | call key ttlSeconds =>
        obtain rfl := Option.some.inj hmove
        exact h.called hpending
    | wake index =>
        simp only [ReadCache.move] at hmove
        split at hmove
        · cases hmove
        · rename_i call hcall
          have hwaits : call ∈ o.state.waiting := List.mem_of_getElem? hcall
          split at hmove
          · rename_i load hdone
            obtain rfl := Option.some.inj hmove
            have hnext : StalenessInvariant config
                { o.woken call (.finished load) with state := o.state.settle config index call load } := h.settled hwaits
            simpa [Observed.record, hcall, hdone] using hnext
          · rename_i hdone
            obtain rfl := Option.some.inj hmove
            have hraised : StalenessInvariant config { o with results := .outcome call.started call.task .failed :: o.results } := by
              apply h.return
              · intro key clock load hresult
                cases hresult
              · intro started task progress hresult
                obtain ⟨rfl, rfl, rfl⟩ := Result.outcome.inj hresult
                exact h.waiting call hwaits
            have hleft := hraised.keep (t := o.state.leave index call) (fun _ => id) (Nat.le_refl _)
              (fun other => List.mem_of_mem_eraseIdx) le_rfl
            simpa [Observed.record, hcall, hdone, Observed.woken] using hleft
          · cases hmove
    | pass time =>
        simp only [ReadCache.move] at hmove
        split at hmove
        · rename_i hclock
          obtain rfl := Option.some.inj hmove
          exact h.keep (fun _ => id) (Nat.le_refl _) (fun _ => id) hclock
        · cases hmove
    | start task =>
        simp only [ReadCache.move] at hmove
        split at hmove
        · obtain rfl := Option.some.inj hmove
          exact h.same rfl rfl rfl
        · cases hmove
    | finish task readAt value =>
        simp only [ReadCache.move] at hmove
        split at hmove
        · split at hmove
          · obtain rfl := Option.some.inj hmove
            exact h.same rfl rfl rfl
          · cases hmove
        · cases hmove
    | fail task =>
        simp only [ReadCache.move] at hmove
        split at hmove
        · obtain rfl := Option.some.inj hmove
          exact h.same rfl rfl rfl
        · obtain rfl := Option.some.inj hmove
          exact h.same rfl rfl rfl
        · cases hmove
    | cancel index =>
        simp only [ReadCache.move] at hmove
        split at hmove
        · cases hmove
        · rename_i call hcall
          obtain ⟨progress, -, rfl⟩ := Option.map_eq_some_iff.mp hmove
          have hwaits : ∀ other ∈ o.state.waiting.eraseIdx index, other ∈ o.state.waiting :=
            fun other => List.mem_of_mem_eraseIdx
          cases progress with
          | created => exact h.keep (fun _ => id) (Nat.le_refl _) hwaits le_rfl
          | running started => exact h.keep (fun _ => id) (Nat.le_refl _) hwaits le_rfl
          | finished load => exact h.keep (fun _ => id) (Nat.le_refl _) hwaits le_rfl
          | failed => exact h.keep (fun _ => id) (Nat.le_refl _) hwaits le_rfl
    | finishBypass index readAt value =>
        simp only [ReadCache.move] at hmove
        split at hmove
        · split at hmove
          · obtain rfl := Option.some.inj hmove
            exact h.same rfl rfl rfl
          · cases hmove
        · cases hmove
    | failBypass index =>
        obtain rfl := Option.some.inj hmove
        exact h.same rfl rfl rfl
    | invalidate company =>
        obtain rfl := Option.some.inj hmove
        exact h.keep (fun entry hentry => (List.mem_filter.mp hentry).1) length_deleteWhere_le (fun _ => id) le_rfl
    | clear =>
        obtain rfl := Option.some.inj hmove
        exact h.keep (fun _ hentry => absurd hentry List.not_mem_nil) (Nat.zero_le _) (fun _ => id) le_rfl
    | write company =>
        obtain rfl := Option.some.inj hmove
        exact h.same rfl rfl rfl
  -- the number of the steps plays no part
  exact hmoved.same rfl rfl rfl

end Invariant

/-! ## A load that all of its calls have left -/

section Abandoned

/-- An executable form of `FindsPending`. -/
def findsPending (o : Observed (String × String) String Int) : Action (String × String) String Int → Bool
  | .call key _ => (o.state.valid key).isSome || o.state.noneDone key
  | _ => true

theorem findsPending_of_check {o : Observed (String × String) String Int}
    {action : Action (String × String) String Int} (h : findsPending o action = true) : FindsPending o action := by
  cases action with
  | call key ttlSeconds =>
      intro _ hvalid
      simpa [findsPending, hvalid] using h
  | _ => trivial

/-- A load, and a call that finds its entry. -/
def sampleHit : List (Action (String × String) String Int) :=
  [.call sampleKey 30, .start 0, .finish 0 1 sampleResult, .wake 0, .pass 10, .call sampleKey 30]

/-- The only call of a load is cancelled before the load is done; an hour later comes another. -/
def sampleAbandoned : List (Action (String × String) String Int) :=
  [.call sampleKey 30, .start 0, .cancel 0, .finish 0 2 sampleResult, .pass 3600, .call sampleKey 30, .wake 0]

end Abandoned

end ReadCache
end VoiceAssistants
