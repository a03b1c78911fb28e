import VoiceAssistants.Async.Run
import VoiceAssistants.Collections.Slots
import VoiceAssistants.Json

/-!
# The workspace cache (`frontend/src/lib/workspaceCache.ts`)

The company profile and the session of the signed-in user are kept in variables of a module, each with the time
it was cached at and the request that is being answered.  Callers share that request.  Its answer is taken in by
the `then` (or `catch`) callback, which keeps what it brings, and the `finally` callback gives the variable of the
request up; both are steps of their own, and anything may happen between them.

`generation` counts the calls of `clearWorkspaceCache`.  It is not in the source: every datum is tagged with the
generation in which its request began, or in which a caller set it, and `seen` is the list of what the two
asynchronous getters have answered, each with the generation at that time.

* `Workspace.step` — one step of the module.
* `stale_session_seen`, `stale_profile_seen` — the data of a request that began before the last clear are visible
  as soon as they are taken in.
* `sign_out_final` — nothing earlier is ever visible if no request that is answered with data is under way at a
  clear.
-/

namespace VoiceAssistants
namespace WorkspaceCache

open Async Collections

/-- A datum and the generation it belongs to; the empty profile belongs to none. -/
structure Tagged (X : Type) where
  value : X
  generation : Option Nat
  deriving DecidableEq

/-- How far a request has got: it waits for its answer, the answer has been taken in, its promise is resolved. -/
inductive Stage (X : Type)
  | waiting
  | taken (result : Option X)
  | settled (result : Option X)
  deriving DecidableEq

/-- The answer has brought data and the promise is not resolved yet. -/
def Stage.carriesData {X : Type} : Stage X → Bool
  | taken (some _) => true
  | _ => false

/-- A request and the generation in which it began. -/
structure Request (X : Type) where
  generation : Nat
  stage : Stage X
  deriving DecidableEq

/-- What a getter has answered, and in which generation. -/
structure Seen (X : Type) where
  value : Option X
  generation : Nat
  deriving DecidableEq

/-- A cached value with its request: `profile`, `profileCachedAt` and `profileRequest`, and the same for the
session. -/
structure Cell (X : Type) where
  value : Option X
  cachedAt : Int
  request : Option Nat
  requests : List (Request X)
  seen : List (Seen X)
  deriving DecidableEq

/-- `CACHE_TTL_MS`. -/
def cacheTtlMs : Int := 30000

namespace Cell

variable {X : Type}

def initial : Cell X :=
  ⟨none, 0, none, [], []⟩

/-- The two getters: a fresh value is answered at once, a request under way is shared, otherwise one is begun.
`bypass` skips the first two. -/
def get (cell : Cell X) (bypass : Bool) (now : Int) (generation : Nat) : Cell X :=
  if cell.value.isSome && !bypass && decide (now - cell.cachedAt < cacheTtlMs) then
    { cell with seen := cell.seen ++ [⟨cell.value, generation⟩] }
  else if cell.request.isSome && !bypass then cell
  else
    { cell with
      request := some cell.requests.length
      requests := cell.requests ++ [⟨generation, .waiting⟩] }

/-- The value is gone. -/
def clear (cell : Cell X) : Cell X :=
  { cell with value := none, cachedAt := 0 }

/-- The answer of a waiting request is taken in by `store`, which also says what the request resolves to. -/
def respond (cell : Cell X) (index : Nat) (store : Request X → Cell X × Option X) : Option (Cell X) :=
  match cell.requests[index]? with
  | some request =>
      match request.stage with
      | .waiting =>
          let stored := store request
          some { stored.1 with requests := cell.requests.set index { request with stage := .taken stored.2 } }
      | _ => none
  | none => none

/-- `.finally(() => { request = null; })`, and the request's promise resolves for everyone who waits for it. -/
def settle (cell : Cell X) (index generation : Nat) : Option (Cell X) :=
  match cell.requests[index]? with
  | some request =>
      match request.stage with
      | .taken result =>
          some { cell with
            request := none
            requests := cell.requests.set index { request with stage := .settled result }
            seen := cell.seen ++ [⟨result, generation⟩] }
      | _ => none
  | none => none

end Cell

/-! ## The module -/

/-- A profile: its members in their order. -/
abbrev Profile := OrderedMap String (Tagged JsonValue)

/-- `SessionPayload`. -/
abbrev Session := Tagged JsonObject

/-- `EMPTY_PROFILE`. -/
def emptyProfile : Profile :=
  OrderedMap.ofPairs [
    ("company_name", ⟨.text "", none⟩),
    ("website_url", ⟨.text "", none⟩),
    ("company_phone", ⟨.text "", none⟩),
    ("support_email", ⟨.text "", none⟩),
    ("timezone", ⟨.text "Indian/Mauritius", none⟩)]

/-- `{ ...target, ...source }`. -/
def spread (target : Profile) (source : List (String × Tagged JsonValue)) : Profile :=
  source.foldl (fun profile entry => profile.set entry.1 entry.2) target

/-- The members of an object, tagged. -/
def tagged (generation : Nat) (object : JsonObject) : List (String × Tagged JsonValue) :=
  object.entries.map fun entry => (entry.1, ⟨entry.2, some generation⟩)

/-- `setCachedCompanyProfile`; the tag says where the value comes from. -/
def setCachedCompanyProfile (value : Option JsonObject) (generation : Nat) (now : Int) (cell : Cell Profile) :
    Cell Profile × Option Profile :=
  match value with
  | none => ({ cell with value := none, cachedAt := 0 }, none)
  | some object =>
      let current := (cell.value.map OrderedMap.entries).getD []
      let profile := spread (spread emptyProfile current) (tagged generation object)
      ({ cell with value := some profile, cachedAt := now }, some profile)

/-- `(payload) => { session = payload; sessionCachedAt = payload ? Date.now() : 0; return payload; }` -/
def setSession (payload : Option JsonObject) (generation : Nat) (now : Int) (cell : Cell Session) :
    Cell Session × Option Session :=
  let session := payload.map fun object => ⟨object, some generation⟩
  ({ cell with value := session, cachedAt := if payload.isSome then now else 0 }, session)

/-- How `readJson` ends: it throws, or brings an object or `null`.  For the profile the object is `payload?.data`. -/
inductive Response
  | rejected
  | payload (object : Option JsonObject)
  deriving DecidableEq

/-- The variables of the module and the number of times they were cleared. -/
structure Workspace where
  profile : Cell Profile
  session : Cell Session
  generation : Nat

/-- A call of one of the module's functions, or a step of a request. -/
inductive Action
  | getCompanyProfile (force : Bool) (now : Int)
  | getSession (force : Bool) (query : String) (now : Int)
  | setCachedCompanyProfile (value : Option JsonObject) (now : Int)
  | clearWorkspaceCache
  | profileResponse (index : Nat) (response : Response) (now : Int)
  | profileSettles (index : Nat)
  | sessionResponse (index : Nat) (response : Response) (now : Int)
  | sessionSettles (index : Nat)
  deriving DecidableEq

/-- The `then` and `catch` callbacks of a request. -/
def takeIn {X : Type} (store : Option JsonObject → Nat → Int → Cell X → Cell X × Option X) (cell : Cell X)
    (response : Response) (now : Int) (request : Request X) : Cell X × Option X :=
  match response with
  | .rejected => (cell, none)
  | .payload object => store object request.generation now cell

namespace Workspace

/-- The module when the page is loaded. -/
def initial : Workspace :=
  ⟨.initial, .initial, 0⟩

/-- One step of the module. -/
def step (s : Workspace) : Action → Option Workspace
  | .getCompanyProfile force now => some { s with profile := s.profile.get force now s.generation }
  | .getSession force query now =>
      some { s with session := s.session.get (force || query ≠ "") now s.generation }
  | .setCachedCompanyProfile value now =>
      some { s with
        profile := (WorkspaceCache.setCachedCompanyProfile value s.generation now s.profile).1 }
  | .clearWorkspaceCache =>
      some { s with profile := s.profile.clear, session := s.session.clear, generation := s.generation + 1 }
  | .profileResponse index response now =>
      (s.profile.respond index
        (takeIn WorkspaceCache.setCachedCompanyProfile s.profile response now)).map
        fun cell => { s with profile := cell }
  | .profileSettles index => (s.profile.settle index s.generation).map fun cell => { s with profile := cell }
  | .sessionResponse index response now =>
      (s.session.respond index (takeIn setSession s.session response now)).map fun cell => { s with session := cell }
  | .sessionSettles index => (s.session.settle index s.generation).map fun cell => { s with session := cell }

/-- `getCachedCompanyProfile`. -/
def getCachedCompanyProfile (s : Workspace) : Option Profile :=
  s.profile.value

/-- `getCachedSession`. -/
def getCachedSession (s : Workspace) : Option Session :=
  s.session.value

end Workspace

/-! ## What is visible -/

/-- Every member of the profile is of this generation, or of the empty profile. -/
def ofProfile (generation : Nat) (profile : Profile) : Prop :=
  ∀ entry ∈ profile.entries, entry.2.generation = none ∨ entry.2.generation = some generation

/-- The session is of this generation. -/
def ofSession (generation : Nat) (session : Session) : Prop :=
  session.generation = some generation

/-- A sign-out is final: what the four getters show belongs to the generation in which they show it. -/
structure SignOutFinal (s : Workspace) : Prop where
  cachedProfile : ∀ profile, s.getCachedCompanyProfile = some profile → ofProfile s.generation profile
  cachedSession : ∀ session, s.getCachedSession = some session → ofSession s.generation session
  companyProfile : ∀ seen ∈ s.profile.seen, ∀ profile, seen.value = some profile →
    ofProfile seen.generation profile
  session : ∀ seen ∈ s.session.seen, ∀ session, seen.value = some session → ofSession seen.generation session

/-- The condition on a step: no request that is answered with data is under way at a clear.  Its answer is not
taken in after a clear, and there is no clear between the answer and the end of the request. -/
def Undisturbed (s : Workspace) : Action → Prop
  | .clearWorkspaceCache =>
      (∀ request ∈ s.profile.requests, request.stage.carriesData = false) ∧
        ∀ request ∈ s.session.requests, request.stage.carriesData = false
  | .profileResponse index (.payload (some _)) _ =>
      ∀ request ∈ s.profile.requests[index]?, request.generation = s.generation
  | .sessionResponse index (.payload (some _)) _ =>
      ∀ request ∈ s.session.requests[index]?, request.generation = s.generation
  | _ => True

instance (s : Workspace) : (action : Action) → Decidable (Undisturbed s action)
  | .clearWorkspaceCache => inferInstanceAs (Decidable (_ ∧ _))
  | .profileResponse _ (.payload (some _)) _ => inferInstanceAs (Decidable (∀ request ∈ _, _))
  | .sessionResponse _ (.payload (some _)) _ => inferInstanceAs (Decidable (∀ request ∈ _, _))
  | .profileResponse _ (.payload none) _ | .profileResponse _ .rejected _ => inferInstanceAs (Decidable True)
  | .sessionResponse _ (.payload none) _ | .sessionResponse _ .rejected _ => inferInstanceAs (Decidable True)
  | .getCompanyProfile _ _ | .getSession _ _ _ | .setCachedCompanyProfile _ _ => inferInstanceAs (Decidable True)
  | .profileSettles _ | .sessionSettles _ => inferInstanceAs (Decidable True)

/-! ## One cell -/

section OneCell

variable {X : Type} {belongs : Nat → X → Prop} {generation : Nat} {cell cell' : Cell X}

/-- The invariant of a cell: its value, the answers that have been taken in, and what has been seen. -/
structure CellInvariant (belongs : Nat → X → Prop) (generation : Nat) (cell : Cell X) : Prop where
  value : ∀ x, cell.value = some x → belongs generation x
  taken : ∀ request ∈ cell.requests, ∀ x, request.stage = .taken (some x) → belongs generation x
  seen : ∀ seen ∈ cell.seen, ∀ x, seen.value = some x → belongs seen.generation x

theorem cellInvariant_initial : CellInvariant belongs generation (Cell.initial : Cell X) := by
  constructor <;> simp [Cell.initial]

theorem CellInvariant.get (h : CellInvariant belongs generation cell) (bypass : Bool) (now : Int) :
    CellInvariant belongs generation (cell.get bypass now generation) := by
  unfold Cell.get
  split
  · refine ⟨h.value, h.taken, ?_⟩
    intro seen hseen x hx
    rcases List.mem_append.mp hseen with hold | hnew
    · exact h.seen seen hold x hx
    · obtain rfl := List.mem_singleton.mp hnew
      exact h.value x hx
  · split
    · exact h
    · refine ⟨h.value, ?_, h.seen⟩
      intro request hrequest x hx
      rcases List.mem_append.mp hrequest with hold | hnew
      · exact h.taken request hold x hx
      · obtain rfl := List.mem_singleton.mp hnew
        cases hx

/-- A clear begins a generation: the answers that have been taken in must not carry data over. -/
theorem CellInvariant.clear (h : CellInvariant belongs generation cell)
    (htaken : ∀ request ∈ cell.requests, request.stage.carriesData = false) (next : Nat) :
    CellInvariant belongs next cell.clear := by
  constructor
  case value =>
    intro x hx
    cases hx
  case taken =>
    intro request hrequest x hx
    have hdata := htaken request hrequest
    rw [hx] at hdata
    cases hdata
  case seen => exact h.seen

/-- What `store` keeps and resolves to has to belong to the generation. -/
theorem CellInvariant.respond (h : CellInvariant belongs generation cell) {index : Nat}
    {store : Request X → Cell X × Option X}
    (hstore : ∀ request, cell.requests[index]? = some request →
      (∀ x, (store request).1.value = some x → belongs generation x) ∧
      (∀ x, (store request).2 = some x → belongs generation x) ∧ (store request).1.seen = cell.seen)
    (htaken : cell.respond index store = some cell') : CellInvariant belongs generation cell' := by
  unfold Cell.respond at htaken
  split at htaken
  · rename_i request hrequest
    split at htaken
    · obtain rfl := Option.some.inj htaken
      obtain ⟨hvalue, hresult, hseen⟩ := hstore request hrequest
      constructor
      case value => exact hvalue
      case taken =>
        intro other hother x hx
        rcases List.mem_or_eq_of_mem_set hother with hold | rfl
        · exact h.taken other hold x hx
        · exact hresult x (Stage.taken.inj hx)
      case seen =>
        intro seen hmem x hx
        rw [hseen] at hmem
        exact h.seen seen hmem x hx
    · cases htaken
  · cases htaken

theorem CellInvariant.settle (h : CellInvariant belongs generation cell) {index : Nat}
    (hsettled : cell.settle index generation = some cell') : CellInvariant belongs generation cell' := by
  unfold Cell.settle at hsettled
  split at hsettled
  · rename_i request hrequest
    split at hsettled
    · rename_i result hstage
      obtain rfl := Option.some.inj hsettled
      constructor
      case value => exact h.value
      case taken =>
        intro other hother x hx
        rcases List.mem_or_eq_of_mem_set hother with hold | rfl
        · exact h.taken other hold x hx
        · cases hx
      case seen =>
        intro seen hmem x hx
        rcases List.mem_append.mp hmem with hold | hnew
        · exact h.seen seen hold x hx
        · obtain rfl := List.mem_singleton.mp hnew
          apply h.taken request (List.mem_of_getElem? hrequest) x
          rw [hstage]
          exact congrArg Stage.taken hx
    · cases hsettled
  · cases hsettled

end OneCell

/-! ## What is taken in -/

/-- The members of a spread come from the one side or the other. -/
theorem mem_spread {target : Profile} {source : List (String × Tagged JsonValue)} {entry : String × Tagged JsonValue}
    (h : entry ∈ (spread target source).entries) : entry ∈ target.entries ∨ entry ∈ source := by
  induction source generalizing target with
  | nil => exact .inl h
  | cons first rest ih =>
      rcases ih h with htarget | hrest
      · rcases OrderedMap.mem_of_mem_set htarget with rfl | hold
        · exact .inr List.mem_cons_self
        · exact .inl hold
      · exact .inr (List.mem_cons_of_mem _ hrest)

theorem mem_emptyProfile {entry : String × Tagged JsonValue} (h : entry ∈ emptyProfile.entries) :
    entry.2.generation = none := by
  have hpair := OrderedMap.mem_of_mem_ofPairs h
  simp only [List.mem_cons, List.not_mem_nil, or_false] at hpair
  rcases hpair with rfl | rfl | rfl | rfl | rfl <;> rfl

theorem mem_tagged {generation : Nat} {object : JsonObject} {entry : String × Tagged JsonValue}
    (h : entry ∈ tagged generation object) : entry.2.generation = some generation := by
  obtain ⟨member, -, rfl⟩ := List.mem_map.mp h
  rfl

/-- A value of the current generation leaves a profile of it, whatever is merged with it. -/
theorem setCachedCompanyProfile_belongs {cell : Cell Profile} {generation : Nat} (value : Option JsonObject)
    {origin : Nat} (now : Int) (hcell : ∀ profile, cell.value = some profile → ofProfile generation profile)
    (hvalue : value ≠ none → origin = generation) :
    (∀ profile, (setCachedCompanyProfile value origin now cell).1.value = some profile →
      ofProfile generation profile) ∧
    (∀ profile, (setCachedCompanyProfile value origin now cell).2 = some profile →
      ofProfile generation profile) ∧
    (setCachedCompanyProfile value origin now cell).1.seen = cell.seen := by
  cases value with
  | none =>
      refine ⟨?_, ?_, rfl⟩
      · intro profile h
        cases h
      · intro profile h
        cases h
  | some object =>
      have hmerged : ofProfile generation
          (spread (spread emptyProfile ((cell.value.map OrderedMap.entries).getD [])) (tagged origin object)) := by
        intro entry hentry
        rcases mem_spread hentry with hbase | hnew
        · rcases mem_spread hbase with hempty | hcurrent
          · exact .inl (mem_emptyProfile hempty)
          · cases hprofile : cell.value with
            | none =>
                rw [hprofile] at hcurrent
                cases hcurrent
            | some profile =>
                rw [hprofile] at hcurrent
                exact hcell profile hprofile entry hcurrent
        · right
          rw [mem_tagged hnew, hvalue (by simp)]
      refine ⟨?_, ?_, rfl⟩
      · intro profile h
        obtain rfl := Option.some.inj h
        exact hmerged
      · intro profile h
        obtain rfl := Option.some.inj h
        exact hmerged

/-- A payload of the current generation leaves a session of it. -/
theorem setSession_belongs {cell : Cell Session} {generation : Nat} {payload : Option JsonObject} {origin : Nat}
    {now : Int} (hpayload : payload ≠ none → origin = generation) :
    (∀ session, (setSession payload origin now cell).1.value = some session → ofSession generation session) ∧
    (∀ session, (setSession payload origin now cell).2 = some session → ofSession generation session) ∧
    (setSession payload origin now cell).1.seen = cell.seen := by
  have hsession : ∀ session, payload.map (fun object => (⟨object, some origin⟩ : Session)) = some session →
      ofSession generation session := by
    intro session h
    obtain ⟨object, hobject, rfl⟩ := Option.map_eq_some_iff.mp h
    show some origin = some generation
    rw [hpayload (by rw [hobject]; simp)]
  exact ⟨hsession, hsession, rfl⟩

/-! ## Runs -/

/-- The invariant of a run. -/
structure WorkspaceInvariant (s : Workspace) : Prop where
  profile : CellInvariant ofProfile s.generation s.profile
  session : CellInvariant ofSession s.generation s.session

theorem workspaceInvariant_initial : WorkspaceInvariant .initial :=
  ⟨cellInvariant_initial, cellInvariant_initial⟩

/-- Every undisturbed step keeps the invariant. -/
theorem WorkspaceInvariant.step {s s' : Workspace} {action : Action} (h : WorkspaceInvariant s)
    (hundisturbed : Undisturbed s action) (htaken : s.step action = some s') : WorkspaceInvariant s' := by
  cases action with
  | getCompanyProfile force now =>
      obtain rfl := Option.some.inj htaken
      exact ⟨h.profile.get force now, h.session⟩
  | getSession force query now =>
      obtain rfl := Option.some.inj htaken
      exact ⟨h.profile, h.session.get _ now⟩
  | setCachedCompanyProfile value now =>
      obtain rfl := Option.some.inj htaken
      obtain ⟨hvalue, -, hseen⟩ := setCachedCompanyProfile_belongs value now h.profile.value
        fun _ => rfl
      have hrequests : (setCachedCompanyProfile value s.generation now s.profile).1.requests =
          s.profile.requests := by
        cases value <;> rfl
      refine ⟨⟨hvalue, ?_, ?_⟩, h.session⟩
      · show ∀ request ∈ (setCachedCompanyProfile value s.generation now s.profile).1.requests, _
        rw [hrequests]
        exact h.profile.taken
      · show ∀ seen ∈ (setCachedCompanyProfile value s.generation now s.profile).1.seen, _
        rw [hseen]
        exact h.profile.seen
  | clearWorkspaceCache =>
      obtain rfl := Option.some.inj htaken
      exact ⟨h.profile.clear hundisturbed.1 _, h.session.clear hundisturbed.2 _⟩
  | profileResponse index response now =>
      obtain ⟨cell, hcell, rfl⟩ := Option.map_eq_some_iff.mp htaken
      refine ⟨h.profile.respond ?_ hcell, h.session⟩
      intro request hrequest
      cases response with
      | rejected =>
          refine ⟨h.profile.value, ?_, rfl⟩
          intro x hx
          cases hx
      | payload object =>
          apply setCachedCompanyProfile_belongs object now h.profile.value
          intro hobject
          cases object with
          | none => exact absurd rfl hobject
          | some data => exact hundisturbed request hrequest
  | profileSettles index =>
      obtain ⟨cell, hcell, rfl⟩ := Option.map_eq_some_iff.mp htaken
      exact ⟨h.profile.settle hcell, h.session⟩
  | sessionResponse index response now =>
      obtain ⟨cell, hcell, rfl⟩ := Option.map_eq_some_iff.mp htaken
      refine ⟨h.profile, h.session.respond ?_ hcell⟩
      intro request hrequest
      cases response with
      | rejected =>
          refine ⟨h.session.value, ?_, rfl⟩
          intro x hx
          cases hx
      | payload object =>
          apply setSession_belongs
          intro hobject
          cases object with
          | none => exact absurd rfl hobject
          | some data => exact hundisturbed request hrequest
  | sessionSettles index =>
      obtain ⟨cell, hcell, rfl⟩ := Option.map_eq_some_iff.mp htaken
      exact ⟨h.profile, h.session.settle hcell⟩

/-- **A sign-out is final** in every run in which no request that is answered with data is under way at a
clear. -/
theorem sign_out_final {s : Workspace} (hrun : Reaches Workspace.step Undisturbed .initial s) : SignOutFinal s := by
  have h : WorkspaceInvariant s :=
    hrun.invariant workspaceInvariant_initial fun _ _ _ ih hundisturbed htaken => ih.step hundisturbed htaken
  exact ⟨h.profile.value, h.session.value, h.profile.seen, h.session.seen⟩

/-! ## Requests under way at a clear -/

/-- In any state: once the session of a request of an earlier generation is taken in, it is visible. -/
theorem stale_session_seen {s s' : Workspace} {index : Nat} {object : JsonObject} {now : Int}
    {request : Request Session} (hrequest : s.session.requests[index]? = some request)
    (hstale : request.generation ≠ s.generation)
    (htaken : s.step (.sessionResponse index (.payload (some object)) now) = some s') :
    s'.getCachedSession = some ⟨object, some request.generation⟩ ∧ ¬ SignOutFinal s' := by
  obtain ⟨cell, hcell, rfl⟩ := Option.map_eq_some_iff.mp htaken
  unfold Cell.respond at hcell
  rw [hrequest] at hcell
  simp only at hcell
  split at hcell
  · obtain rfl := Option.some.inj hcell
    constructor
    · rfl
    · intro hfinal
      have hof : ofSession s.generation ⟨object, some request.generation⟩ := hfinal.cachedSession _ rfl
      exact hstale (Option.some.inj hof)
  · cases hcell

/-- The last member of a spread's right side is in the spread. -/
theorem exists_mem_spread (target : Profile) {source : List (String × Tagged JsonValue)} (h : source ≠ []) :
    ∃ entry ∈ source, entry ∈ (spread target source).entries := by
  obtain ⟨before, last, rfl⟩ := (List.eq_nil_or_concat' source).resolve_left h
  refine ⟨last, by simp, ?_⟩
  apply OrderedMap.mem_entries.mpr
  unfold spread
  rw [List.foldl_append, List.foldl_cons, List.foldl_nil]
  exact OrderedMap.get_set_self

/-- In any state: once the profile of a request of an earlier generation is taken in, its members are visible. -/
theorem stale_profile_seen {s s' : Workspace} {index : Nat} {object : JsonObject} {now : Int}
    {request : Request Profile} (hrequest : s.profile.requests[index]? = some request)
    (hstale : request.generation ≠ s.generation) (hobject : object.entries ≠ [])
    (htaken : s.step (.profileResponse index (.payload (some object)) now) = some s') :
    (∃ profile, s'.getCachedCompanyProfile = some profile ∧
      ∃ entry ∈ profile.entries, entry.2.generation = some request.generation) ∧ ¬ SignOutFinal s' := by
  obtain ⟨cell, hcell, rfl⟩ := Option.map_eq_some_iff.mp htaken
  unfold Cell.respond at hcell
  rw [hrequest] at hcell
  simp only at hcell
  split at hcell
  · obtain rfl := Option.some.inj hcell
    have hmembers : tagged request.generation object ≠ [] := by
      simpa [tagged] using hobject
    obtain ⟨entry, hentry, hmem⟩ := exists_mem_spread
      (spread emptyProfile ((s.profile.value.map OrderedMap.entries).getD [])) hmembers
    have horigin := mem_tagged hentry
    constructor
    · exact ⟨_, rfl, entry, hmem, horigin⟩
    · intro hfinal
      rcases hfinal.cachedProfile _ rfl entry hmem with hnone | hcurrent
      · rw [horigin] at hnone
        cases hnone
      · rw [horigin] at hcurrent
        exact hstale (Option.some.inj hcurrent)
  · cases hcell

section SignOut

/-- The profile of the first user, and what the next one sees of theirs. -/
def firstProfile : JsonObject :=
  OrderedMap.ofPairs [("id", .text "7"), ("company_name", .text "Blue")]

def secondProfile : JsonObject :=
  OrderedMap.ofPairs [("company_name", .text "Green")]

def firstSession : JsonObject :=
  OrderedMap.ofPairs [("user", .other "\x7b\"id\": \"u1\"\x7d")]

/-- A session is asked for and answered, the workspace is cleared, and a profile is asked for. -/
theorem sign_out_final_settled :
    let actions : List Action :=
      [.getSession false "" 0, .sessionResponse 0 (.payload (some firstSession)) 1, .sessionSettles 0,
        .clearWorkspaceCache, .getCompanyProfile false 2]
    ∃ s, execute Workspace.step .initial actions = some s ∧ SignOutFinal s := by
  intro actions
  have hexecute : execute Workspace.step .initial actions = some (final Workspace.step .initial actions) :=
    execute_final (by decide +kernel)
  have hchecked : checked Workspace.step (fun s action => decide (Undisturbed s action)) .initial actions = true := by
    decide +kernel
  refine ⟨final Workspace.step .initial actions, hexecute, ?_⟩
  exact sign_out_final (Reaches.of_checked (fun _ _ _ hok => of_decide_eq_true hok) hchecked hexecute)

/-- The run of two requests that are under way at a sign-out. -/
def staleRun : List Action :=
  [.getSession false "" 0, .getCompanyProfile false 0, .clearWorkspaceCache, .getCompanyProfile false 1,
    .sessionResponse 0 (.payload (some firstSession)) 2, .profileResponse 0 (.payload (some firstProfile)) 2,
    .profileSettles 0, .getCompanyProfile true 3, .profileResponse 1 (.payload (some secondProfile)) 4]

/-- **Two requests under way at a sign-out.**  Both are answered afterwards.  The session of the first user is
cached again; the next call for the profile shares the old request and is answered with the first user's profile;
and the profile of the second user, which has no `id`, is merged into it and keeps the first one's. -/
theorem stale_response_after_sign_out :
    let s := final Workspace.step .initial staleRun
    Reaches Workspace.step Always .initial s ∧ s.generation = 1 ∧
      s.getCachedSession = some ⟨firstSession, some 0⟩ ∧
      (s.profile.seen.map fun seen =>
        (seen.generation, seen.value.bind fun profile => profile.get "company_name")) =
          [(1, some ⟨.text "Blue", some 0⟩)] ∧
      (s.getCachedCompanyProfile.map fun profile => (profile.get "id", profile.get "company_name")) =
        some (some ⟨.text "7", some 0⟩, some ⟨.text "Green", some 1⟩) ∧
      ¬ SignOutFinal s := by
  intro s
  have hexecute : execute Workspace.step .initial staleRun = some s := execute_final (by decide +kernel)
  have hsession : s.getCachedSession = some ⟨firstSession, some 0⟩ := by
    decide +kernel
  constructor
  · exact Reaches.of_execute hexecute
  constructor
  · decide +kernel
  constructor
  · exact hsession
  constructor
  · decide +kernel
  constructor
  · decide +kernel
  · intro hfinal
    have hof : ofSession s.generation ⟨firstSession, some 0⟩ := hfinal.cachedSession _ hsession
    have hgeneration : s.generation = 1 := by
      decide +kernel
    rw [hgeneration] at hof
    have hsame : (0 : Nat) = 1 := Option.some.inj hof
    omega

end SignOut

end WorkspaceCache
end VoiceAssistants
