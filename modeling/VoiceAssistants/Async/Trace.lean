import VoiceAssistants.Async.Safety

/-!
# Traces of one operation

`Trace rely p state marks state'` says what `p` may have done when it was started in `state`: it has made the marks, in
their order, and the state is `state'`.  Whenever it was suspended, the state has changed as `rely` allows, and it has
been resumed with any answer or exception.  A trace may stop anywhere, so what holds of all traces of an operation holds
of it at every moment.

`Program.Safe.trace` is the soundness of contracts for traces: a safe program keeps its contract, and what the writes
and the changes it relies on preserve holds at the end.
-/

namespace VoiceAssistants
namespace Async

variable {I : Interface} {α : Type}

inductive Trace (rely : I.State → I.State → Prop) : Program I α → I.State → List (Mark I) → I.State → Prop
  | stop (p : Program I α) (state : I.State) : Trace rely p state [] state
  | read {next : I.State → Program I α} {state state' : I.State} {marks : List (Mark I)}
      (h : Trace rely (next state) state marks state') : Trace rely (.read next) state marks state'
  | write {written : I.State} {next : Program I α} {state state' : I.State} {marks : List (Mark I)}
      (h : Trace rely next written marks state') : Trace rely (.write written next) state marks state'
  | emit {output : I.Output} {next : Program I α} {state state' : I.State} {marks : List (Mark I)}
      (h : Trace rely next state marks state') :
      Trace rely (.emit output next) state (⟨state, .emitted output⟩ :: marks) state'
  | call (request : I.Request) (next : Except I.Error (I.Answer request) → Program I α) (state : I.State) :
      Trace rely (.call request next) state [⟨state, .called request⟩] state
  | answer {request : I.Request} {next : Except I.Error (I.Answer request) → Program I α}
      {state changed state' : I.State} {marks : List (Mark I)} (answer : Except I.Error (I.Answer request))
      (hrely : rely state changed) (h : Trace rely (next answer) changed marks state') :
      Trace rely (.call request next) state
        (⟨state, .called request⟩ :: ⟨changed, .answered request answer⟩ :: marks) state'
  | pause {next : Program I α} {state changed state' : I.State} {marks : List (Mark I)}
      (hrely : rely state changed) (h : Trace rely next changed marks state') :
      Trace rely (.pause next) state marks state'

/-- A property of the marks and the state that the contract preserves. -/
structure Preserved (C : Contract I) (J : List (Mark I) → I.State → Prop) : Prop where
  marks : ∀ own mark state, J own state → J (own ++ [mark]) state
  writes : ∀ own state state', C.writes own state state' → J own state → J own state'
  rely : ∀ own state state', C.rely state state' → J own state → J own state'

namespace Program

variable {C : Contract I}

/-- **The traces of a safe program keep its contract.** -/
theorem Safe.trace {post : Post I α} {p : Program I α} {state state' : I.State} {own marks : List (Mark I)}
    (h : p.Safe C post state own) (htrace : Trace C.rely p state marks state') :
    Kept C own marks ∧
      ∀ J, Preserved C J → J own state → J (own ++ marks) state' := by
  induction htrace generalizing own with
  | stop p state =>
      constructor
      · trivial
      · intro J _ hstart
        rwa [List.append_nil]
  | read _ ih => exact ih h
  | write _ ih =>
      obtain ⟨hwrites, hnext⟩ := h
      obtain ⟨hkept, hpreserved⟩ := ih hnext
      constructor
      · exact hkept
      · intro J hJ hstart
        exact hpreserved J hJ (hJ.writes _ _ _ hwrites hstart)
  | emit _ ih =>
      obtain ⟨hevent, hnext⟩ := h
      obtain ⟨hkept, hpreserved⟩ := ih hnext
      constructor
      · exact ⟨fun _ => hevent, hkept⟩
      · intro J hJ hstart
        rw [List.append_cons]
        exact hpreserved J hJ (hJ.marks _ _ _ hstart)
  | call request next state =>
      constructor
      · exact ⟨fun _ => h.1, trivial⟩
      · intro J hJ hstart
        exact hJ.marks _ _ _ hstart
  | answer answer hrely _ ih =>
      obtain ⟨hevent, -, hnext⟩ := h
      obtain ⟨hkept, hpreserved⟩ := ih (hnext _ hrely answer)
      constructor
      · exact ⟨fun _ => hevent, kept_append (kept_answered _ _ _ _) hkept⟩
      · intro J hJ hstart
        rw [List.append_cons, List.append_cons]
        apply hpreserved J hJ
        -- the call is marked, others change the state, and the answer is marked
        apply hJ.marks
        apply hJ.rely _ _ _ hrely
        exact hJ.marks _ _ _ hstart
  | pause hrely _ ih =>
      obtain ⟨hkept, hpreserved⟩ := ih (h.2 _ hrely)
      constructor
      · exact hkept
      · intro J hJ hstart
        exact hpreserved J hJ (hJ.rely _ _ _ hrely hstart)

/-- What the contract asks of a call or an output of a trace. -/
theorem Kept.event {own marks : List (Mark I)} {mark : Mark I} (h : Kept C own marks) (hmem : mark ∈ marks)
    (hmark : ∀ request answer, mark.event ≠ .answered request answer) :
    ∃ before after, marks = before ++ mark :: after ∧ C.events (own ++ before) mark.state mark.event := by
  obtain ⟨before, after, rfl⟩ := List.append_of_mem hmem
  exact ⟨before, after, rfl, h.split hmark⟩

/-! ## Playing a program -/

/-- The marks of a program that runs to its end when nobody else changes the state and every call is answered by
`respond`. -/
def play (respond : (request : I.Request) → Except I.Error (I.Answer request)) : Program I α → I.State → List (Mark I)
  | done _, _ => []
  | read next, state => (next state).play respond state
  | write written next, _ => next.play respond written
  | emit output next, state => ⟨state, .emitted output⟩ :: next.play respond state
  | call request next, state =>
      ⟨state, .called request⟩ :: ⟨state, .answered request (respond request)⟩ ::
        (next (respond request)).play respond state
  | pause next, state => next.play respond state

/-- A program that is played makes a trace. -/
theorem trace_play {rely : I.State → I.State → Prop} (hrely : ∀ state, rely state state)
    (respond : (request : I.Request) → Except I.Error (I.Answer request)) (p : Program I α) (state : I.State) :
    ∃ state', Trace rely p state (p.play respond state) state' := by
  induction p generalizing state with
  | done result => exact ⟨state, .stop _ _⟩
  | read next ih =>
      obtain ⟨state', h⟩ := ih state state
      exact ⟨state', .read h⟩
  | write written next ih =>
      obtain ⟨state', h⟩ := ih written
      exact ⟨state', .write h⟩
  | emit output next ih =>
      obtain ⟨state', h⟩ := ih state
      exact ⟨state', .emit h⟩
  | call request next ih =>
      obtain ⟨state', h⟩ := ih (respond request) state
      exact ⟨state', .answer _ (hrely state) h⟩
  | pause next ih =>
      obtain ⟨state', h⟩ := ih state
      exact ⟨state', .pause (hrely state) h⟩

end Program

end Async
end VoiceAssistants
