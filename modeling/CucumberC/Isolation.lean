import CucumberC.Serving

/-!
# Isolation of scenarios

What an actor did before `START SCENARIO` has no influence on what it does from there
on. Two actors that may differ in their past are `Alike` when they agree on everything
a handler can read of them; a new scenario makes any two actors alike that agree on the
verbose flag, and every request keeps them alike.

State objects of different runs are different objects, so observations compare their
contents and not their numbers. The user's code is assumed to have no globals: `υ` is
`Unit`.

## Main definitions

* `observe`: what is compared of an effect.
* `Alike`: the relation between the two actors.
* `alike_startScenario`, `Alike.handle`, `Alike.serve`: it holds and is kept.
* `scenario_isolation`: two histories, then the same messages.
-/

namespace CucumberC
open Interaction

variable {σ : Type}

/-! ## Observations -/

/-- A state object without its number. -/
def StateObject.anonymous (object : StateObject σ) : StateObject σ :=
  { object with serial := 0 }

/-- A call without the numbers of its objects. -/
def Call.anonymous : Call σ → Call σ
  | .printf text => .printf text
  | .constructed verbose object => .constructed verbose (object.map StateObject.anonymous)
  | .destructed object => .destructed (object.map StateObject.anonymous)
  | .invoked position view object reasons =>
      .invoked position view (object.map StateObject.anonymous) reasons

/-- What can be observed of an effect. -/
def observe : Event (Call σ) Frame Msg → Event (Call σ) Frame Msg
  | .put call => .put call.anonymous
  | .sent m => .sent m
  | .received x => .received x

/-- What can be observed of an execution: how it ends, and its effects. -/
def seen {α : Type} (o : Outcome (Call σ) Frame Msg Unit α) :
    Result Unit × List (Event (Call σ) Frame Msg) :=
  (o.result.ending, o.trace.map observe)

theorem map_anonymous_eq {o o' : Option (StateObject σ)}
    (h : o.map StateObject.content = o'.map StateObject.content) :
    o.map StateObject.anonymous = o'.map StateObject.anonymous := by
  cases o <;> cases o' <;> simp_all [StateObject.anonymous]

theorem map_observe_handleTrace {self self' : CucumberSteps Unit σ}
    (verbose : self.verbose = self'.verbose) (r : Request) {calls calls' : List (Call σ)}
    (h : calls.map Call.anonymous = calls'.map Call.anonymous) (reply : Msg) :
    (handleTrace self r calls reply).map observe =
      (handleTrace self' r calls' reply).map observe := by
  have hput : ∀ cs : List (Call σ), (cs.map Event.put).map observe =
      (cs.map Call.anonymous).map (Event.put : Call σ → Event (Call σ) Frame Msg) := by
    intro cs
    rw [List.map_map, List.map_map]
    rfl
  simp only [handleTrace, List.map_append, hput, h, verbose]

/-! ## Actors that are alike -/

/-- What a handler can read of a scenario. -/
def Cucumber.contents {υ : Type} (self : Cucumber υ σ) :
    CursorList (CucumberStepDef υ σ) × Option σ × Option (υ → Option σ → υ) :=
  (self.stepDefs, self.state.map StateObject.content, self.stateDestructor)

/-- Two actors agree on everything a handler can read of them. -/
structure Alike (s s' : CucumberSteps Unit σ) : Prop where
  terminated : s.terminated = s'.terminated
  verbose : s.verbose = s'.verbose
  cucumber : s.cucumber.map Cucumber.contents = s'.cucumber.map Cucumber.contents

/-- Either both scenarios are closed, or both are open and agree. -/
theorem Alike.cases {s s' : CucumberSteps Unit σ} (h : Alike s s') :
    (s.cucumber = none ∧ s'.cucumber = none) ∨
      ∃ c c', s.cucumber = some c ∧ s'.cucumber = some c' ∧ c.contents = c'.contents := by
  have hc := h.cucumber
  cases hs : s.cucumber <;> cases hs' : s'.cucumber <;> simp_all

variable (zrexMatches : String → String → Option (List String)) (args : CucumberStepsArgs Unit σ)

/-- **`START SCENARIO`** makes two actors alike, whatever they did before. -/
theorem alike_startScenario {s s' : CucumberSteps Unit σ}
    (terminated : s.terminated = s'.terminated) (verbose : s.verbose = s'.verbose) :
    Alike (startScenario args s).1 (startScenario args s').1 ∧
      (startScenario args s).2.map Call.anonymous =
        (startScenario args s').2.map Call.anonymous := by
  have hstate : (constructState args s).2.1.map StateObject.content =
        (constructState args s').2.1.map StateObject.content ∧
      (constructState args s).2.2.map Call.anonymous =
        (constructState args s').2.2.map Call.anonymous := by
    unfold constructState
    cases args.stateConstructor with
    | none => exact ⟨rfl, rfl⟩
    | some construct =>
      have hcontent : ∀ (n n' : ℕ) (content : Option σ),
          (content.map (StateObject.mk n)).map StateObject.content =
            (content.map (StateObject.mk n')).map StateObject.content := by
        intro n n' content
        cases content <;> rfl
      have hglobals : s.globals = s'.globals := rfl
      have hcalls := map_anonymous_eq
        (hcontent s.constructed s'.constructed (construct s'.globals s'.verbose).2)
      simp only [verbose, hglobals]
      refine ⟨hcontent _ _ _, ?_⟩
      simp only [List.map_cons, List.map_nil, Call.anonymous, hcalls]
  have hregistered : s.registered args = s'.registered args := by
    unfold CucumberSteps.registered
    rw [hstate.1]
  refine ⟨⟨?_, ?_, ?_⟩, ?_⟩
  · simpa using terminated
  · simpa using verbose
  · simp [startScenario_eq, Cucumber.contents, hstate.1, hregistered]
  · simpa [startScenario_eq] using hstate.2

/-- `END SCENARIO` destroys the same scenario on both sides. -/
theorem Alike.cucumberDestroy {s s' : CucumberSteps Unit σ} (h : Alike s s') :
    Alike (cucumberDestroy s).1 (cucumberDestroy s').1 ∧
      (CucumberC.cucumberDestroy s).2.map Call.anonymous =
        (CucumberC.cucumberDestroy s').2.map Call.anonymous := by
  refine ⟨⟨?_, ?_, by simp⟩, ?_⟩
  · simpa using h.terminated
  · simpa using h.verbose
  · obtain ⟨hs, hs'⟩ | ⟨c, c', hs, hs', hcontents⟩ := h.cases
    · simp [CucumberC.cucumberDestroy, hs, hs']
    · simp only [Cucumber.contents, Prod.mk.injEq] at hcontents
      obtain ⟨-, hstate, hdestructor⟩ := hcontents
      simp only [CucumberC.cucumberDestroy, hs, hs', hdestructor]
      cases c'.stateDestructor with
      | none => rfl
      | some destruct => simp [Call.anonymous, map_anonymous_eq hstate]

/-- A step finds the same definition on both sides, and its callback observes the same. -/
theorem Alike.runStepDef {s s' : CucumberSteps Unit σ} (h : Alike s s') {c c' : Cucumber Unit σ}
    (hcontents : c.contents = c'.contents) (text : Frame) :
    Alike (runStepDef zrexMatches s c text).1 (runStepDef zrexMatches s' c' text).1 ∧
      (CucumberC.runStepDef zrexMatches s c text).2.1.map Call.anonymous =
        (CucumberC.runStepDef zrexMatches s' c' text).2.1.map Call.anonymous ∧
      (CucumberC.runStepDef zrexMatches s c text).2.2 =
        (CucumberC.runStepDef zrexMatches s' c' text).2.2 := by
  simp only [Cucumber.contents, Prod.mk.injEq] at hcontents
  obtain ⟨hdefs, hstate, hdestructor⟩ := hcontents
  cases hfind : c.stepDefs.items.findIdx? (CucumberStepDef.isMatch zrexMatches text) with
  | none =>
    have hfind' := hdefs ▸ hfind
    rw [runStepDef_notFound zrexMatches s c hfind, runStepDef_notFound zrexMatches s' c' hfind']
    refine ⟨⟨h.terminated, h.verbose, ?_⟩, rfl, rfl⟩
    simp [Cucumber.contents, hdefs, hstate, hdestructor]
  | some i =>
    have hfind' := hdefs ▸ hfind
    obtain ⟨hi, -⟩ := List.findIdx?_eq_some_iff_getElem.mp hfind
    have hd : c.stepDefs.items[i]? = some c.stepDefs.items[i] := List.getElem?_eq_getElem hi
    have hd' : c'.stepDefs.items[i]? = some c.stepDefs.items[i] := hdefs ▸ hd
    have hran := runStepDef_found zrexMatches s c hfind hd
    have hran' := runStepDef_found zrexMatches s' c' hfind' hd'
    simp only at hran hran'
    rw [hran, hran']
    -- Both states evolve by the same update of the same content.
    have hupdate : ∀ f : σ → σ,
        (c.state.map fun o => { o with content := f o.content }).map StateObject.content =
          (c'.state.map fun o => { o with content := f o.content }).map StateObject.content := by
      intro f
      have hmap := congrArg (Option.map f) hstate
      simpa [Option.map_map, Function.comp_def] using hmap
    refine ⟨⟨h.terminated, h.verbose, ?_⟩, ?_, ?_⟩
    · simp only [Option.map_some, Cucumber.contents, hdefs, hstate, hdestructor, hupdate]
    · simp [Call.anonymous, map_anonymous_eq hstate, hstate]
    · simp [hstate]

/-- **One request** has the same observations on both sides, and keeps them alike. -/
theorem Alike.handle {s s' : CucumberSteps Unit σ} (h : Alike s s') (r : Request) :
    (s.handle zrexMatches args r = none ∧ s'.handle zrexMatches args r = none) ∨
      ∃ next calls next' calls' reply,
        s.handle zrexMatches args r = some (next, calls, reply) ∧
        s'.handle zrexMatches args r = some (next', calls', reply) ∧
        calls.map Call.anonymous = calls'.map Call.anonymous ∧ Alike next next' := by
  cases r with
  | startScenario id =>
    obtain ⟨alike, hcalls⟩ := alike_startScenario args h.terminated h.verbose
    exact .inr ⟨_, _, _, _, _, rfl, rfl, hcalls, alike⟩
  | endScenario id =>
    obtain ⟨alike, hcalls⟩ := h.cucumberDestroy
    exact .inr ⟨_, _, _, _, _, rfl, rfl, hcalls, alike⟩
  | runStep id text =>
    obtain ⟨hs, hs'⟩ | ⟨c, c', hs, hs', hcontents⟩ := h.cases
    · exact .inl (by simp [CucumberSteps.handle, hs, hs'])
    · obtain ⟨alike, hcalls, hreply⟩ := h.runStepDef zrexMatches hcontents text
      have hhandle' := handle_runStep zrexMatches args hs' id text
      rw [← hreply] at hhandle'
      exact .inr ⟨_, _, _, _, _, handle_runStep zrexMatches args hs id text, hhandle', hcalls,
        alike⟩

/-- **Many inputs** have the same observations on both sides. -/
theorem Alike.serve {s s' : CucumberSteps Unit σ} (h : Alike s s') (inputs : List Input) :
    (s.serve zrexMatches args inputs).1.isSome = (s'.serve zrexMatches args inputs).1.isSome ∧
      (s.serve zrexMatches args inputs).2.map observe =
        (s'.serve zrexMatches args inputs).2.map observe := by
  induction inputs generalizing s s' with
  | nil => simp
  | cons input inputs ih =>
    cases input with
    | verbose =>
      simp only [serve_verbose]
      exact ih ⟨h.terminated, rfl, h.cucumber⟩
    | timeout =>
      simp only [serve_timeout]
      exact ih h
    | request r =>
      obtain ⟨hs, hs'⟩ | ⟨next, calls, next', calls', reply, hs, hs', hcalls, alike⟩ :=
        h.handle zrexMatches args r
      · simp [serve_dies zrexMatches args hs, serve_dies zrexMatches args hs']
      · obtain ⟨hsome, htrace⟩ := ih alike
        rw [serve_request zrexMatches args hs, serve_request zrexMatches args hs']
        refine ⟨hsome, ?_⟩
        simp only [List.map_append, htrace, map_observe_handleTrace h.verbose r hcalls reply]

/-! ## Two histories -/

/-- After `START SCENARIO`, actors that agree on the verbose flag show the same. -/
theorem seen_served {s s' : CucumberSteps Unit σ} (terminated : s.terminated = s'.terminated)
    (verbose : s.verbose = s'.verbose) (id : Frame) (inputs : List Input)
    (unread unread' : List Frame) :
    seen (servedOutcome unread
        (s.serve zrexMatches args (.request (.startScenario id) :: inputs))) =
      seen (servedOutcome unread'
        (s'.serve zrexMatches args (.request (.startScenario id) :: inputs))) := by
  obtain ⟨alike, hcalls⟩ := alike_startScenario args terminated verbose
  obtain ⟨hsome, htrace⟩ := alike.serve zrexMatches args inputs
  have hhandle : ∀ self : CucumberSteps Unit σ, self.handle zrexMatches args (.startScenario id) =
      some ((startScenario args self).1, (startScenario args self).2, ["SCENARIO STARTED", id]) :=
    fun _ => rfl
  have hstart := map_observe_handleTrace verbose (.startScenario id) hcalls
    ["SCENARIO STARTED", id]
  rw [serve_request zrexMatches args (hhandle s), serve_request zrexMatches args (hhandle s')]
  rcases hs : (startScenario args s).1.serve zrexMatches args inputs with ⟨_ | last, t⟩ <;>
    rcases hs' : (startScenario args s').1.serve zrexMatches args inputs with ⟨_ | last', t'⟩
  · simp_all [seen, servedOutcome]
  · simp [hs, hs'] at hsome
  · simp [hs, hs'] at hsome
  · simp_all [seen, servedOutcome, Result.ending]

/-- **Isolation.** Two actors ran any two histories, are still polling, have nothing left
to read and are equally verbose. If the same `START SCENARIO` and then the same inputs
reach both, they show the same from there on: the same replies, the same calls of the
user's functions with state objects of the same contents, and the same ending. -/
theorem scenario_isolation {polls polls' : List Poll} {frames frames' : List Frame}
    {self self' : CucumberSteps Unit σ} {t t' : List (Event (Call σ) Frame Msg)}
    (history : (cucumberStepsActor zrexMatches args () polls).exec Prog.nobody () frames =
      ⟨.returned self, (), [], t⟩)
    (history' : (cucumberStepsActor zrexMatches args () polls').exec Prog.nobody () frames' =
      ⟨.returned self', (), [], t'⟩)
    (running : self.terminated = false) (running' : self'.terminated = false)
    (verbose : self.verbose = self'.verbose) (id : Frame) (inputs : List Input) :
    let scenario := .request (.startScenario id) :: inputs
    ∃ o o',
      (cucumberStepsActor zrexMatches args () (polls ++ scenario.map Input.poll)).exec
          Prog.nobody () (frames ++ socketFrames scenario) = o.after t ∧
        (cucumberStepsActor zrexMatches args () (polls' ++ scenario.map Input.poll)).exec
          Prog.nobody () (frames' ++ socketFrames scenario) = o'.after t' ∧
        seen o = seen o' := by
  intro scenario
  obtain ⟨unread, h⟩ := exec_actor_append zrexMatches args history running scenario
  obtain ⟨unread', h'⟩ := exec_actor_append zrexMatches args history' running' scenario
  exact ⟨_, _, h, h', seen_served zrexMatches args (running.trans running'.symm) verbose id inputs
    unread unread'⟩

/-- The state is a number that every step increases, and a step fails when it is odd. -/
def countingArgs : CucumberStepsArgs Unit ℕ where
  stateConstructor := some fun _ _ => ((), some 0)
  stateDestructor := some fun _ _ => ()
  registerStepDefs _ _ :=
    ((), [("a", fun _ _ state =>
      { globals := ()
        update := (· + 1)
        reasons := if state = some 1 then [some "odd"] else [] })])

/-- A first scenario does not show in the second one. -/
theorem scenario_isolation_second :
    let scenario : List Input :=
      [.request (.startScenario "2"), .request (.runStep "2" "a"), .request (.endScenario "2")]
    let past : List Input :=
      [.request (.startScenario "1"), .request (.runStep "1" "a"), .request (.runStep "1" "a")]
    ∃ t t' o o',
      (cucumberStepsActor literalMatches countingArgs () ([] ++ scenario.map Input.poll)).exec
          Prog.nobody () ([] ++ socketFrames scenario) = o.after t ∧
        (cucumberStepsActor literalMatches countingArgs ()
          (past.map Input.poll ++ scenario.map Input.poll)).exec
          Prog.nobody () (socketFrames past ++ socketFrames scenario) = o'.after t' ∧
        seen o = seen o' :=
  ⟨_, _, scenario_isolation literalMatches countingArgs rfl rfl (by rfl) (by rfl) (by rfl) "2"
    [.request (.runStep "2" "a"), .request (.endScenario "2")]⟩

end CucumberC
