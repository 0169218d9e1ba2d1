import CucumberC.StepVerdict

/-!
# Which callback a step runs

The lookup of a step walks a list with a cursor of its own and leaves the captures of the
text in the definition it finds. Both survive from step to step, and neither is noticed:
a step runs the earliest registered definition that matches its text, with the captures of
this text.

`Registered` is the invariant of a scenario: its definitions are those that were
registered, whatever their captures and failure reasons have become.

## Main definitions

* `StepRun.Dispatched`: how a step is dispatched among registered definitions.
* `Registered`: the invariant.
* `step_dispatch`: every step of every scenario is dispatched so.
-/

namespace CucumberC
open Interaction

variable {υ σ : Type} (zrexMatches : String → String → Option (List String))

/-- The step was dispatched among these expressions and callbacks. Either no expression
matches its text, nothing is called and the reply is `STEP NOT FOUND`; or the earliest one
that matches has its callback called once, with the captures of the text in the view of
the definition, and the reply is another. -/
inductive StepRun.Dispatched (stepDefs : List (String × CucumberStep υ σ)) (run : StepRun σ) :
    Prop
  | notFound (unmatched : ∀ stepDef ∈ stepDefs, zrexMatches stepDef.1 run.text = none)
      (calls : run.calls = []) (reply : run.reply = .notFound)
  | ran {front back : List (String × CucumberStep υ σ)} {pattern : String}
      {step : CucumberStep υ σ} {captures : List String} {globals : υ}
      {failedStr : Option String} {object : Option (StateObject σ)}
      (registered : stepDefs = front ++ (pattern, step) :: back)
      (unmatched : ∀ stepDef ∈ front, zrexMatches stepDef.1 run.text = none)
      (matched : zrexMatches pattern run.text = some captures)
      (calls : run.calls = [.invoked front.length ⟨⟨pattern, captures⟩, failedStr⟩ object
        (step globals ⟨⟨pattern, captures⟩, failedStr⟩ (object.map StateObject.content)).reasons])
      (reply : run.reply ≠ .notFound)

/-- `STEP NOT FOUND` is the reply exactly if no expression matches. -/
theorem StepRun.Dispatched.notFound_iff {zrexMatches : String → String → Option (List String)}
    {stepDefs : List (String × CucumberStep υ σ)} {run : StepRun σ}
    (h : run.Dispatched zrexMatches stepDefs) :
    run.reply = .notFound ↔ ∀ stepDef ∈ stepDefs, zrexMatches stepDef.1 run.text = none := by
  cases h with
  | notFound unmatched _ reply => exact iff_of_true reply unmatched
  | @ran front back pattern step captures globals failedStr object registered _ matched _ reply =>
    refine iff_of_false reply ?_
    intro unmatched
    have hmem : (pattern, step) ∈ stepDefs := by simp [registered]
    rw [unmatched _ hmem] at matched
    cases matched

/-- One callback is called for a step that is found, and none for the others. -/
theorem StepRun.Dispatched.length_calls {zrexMatches : String → String → Option (List String)}
    {stepDefs : List (String × CucumberStep υ σ)} {run : StepRun σ}
    (h : run.Dispatched zrexMatches stepDefs) :
    run.calls.length = if run.reply = .notFound then 0 else 1 := by
  cases h with
  | notFound _ calls reply => simp [calls, reply]
  | ran _ _ _ calls reply => simp [calls, reply]

/-- The open scenario has these expressions and callbacks. -/
def Registered (stepDefs : List (String × CucumberStep υ σ)) (self : CucumberSteps υ σ) : Prop :=
  ∃ cucumber, self.cucumber = some cucumber ∧
    cucumber.stepDefs.items.map (fun d => (d.rex.pattern, d.step)) = stepDefs

theorem registered_startScenario (args : CucumberStepsArgs υ σ) (self : CucumberSteps υ σ) :
    Registered (self.registered args).2 (startScenario args self).1 := by
  rw [startScenario_eq]
  refine ⟨_, rfl, ?_⟩
  simp [cucumberStepDefNew, Function.comp_def]

/-- A definition whose expression matches a text takes the captures of the text. -/
theorem view_recapture {d : CucumberStepDef υ σ} {text : String} {captures : List String}
    (matched : zrexMatches d.rex.pattern text = some captures) :
    (d.recapture zrexMatches text).view = ⟨⟨d.rex.pattern, captures⟩, d.failedStr⟩ ∧
      (d.recapture zrexMatches text).step = d.step := by
  simp [CucumberStepDef.recapture, cucumberStepDefMatches, matched, CucumberStepDef.view]

/-- **One step** is dispatched among the registered definitions, and leaves them
registered. -/
theorem Registered.step {stepDefs : List (String × CucumberStep υ σ)} {self : CucumberSteps υ σ}
    (h : Registered stepDefs self) {cucumber : Cucumber υ σ}
    (opened : self.cucumber = some cucumber) (id text : Frame) :
    let ran := runStepDef zrexMatches self cucumber text
    StepRun.Dispatched zrexMatches stepDefs ⟨id, text, ran.2.1, ran.2.2⟩ ∧
      Registered stepDefs ran.1 := by
  obtain ⟨c, hc, rfl⟩ := h
  obtain rfl : c = cucumber := Option.some.inj (hc.symm.trans opened)
  cases hfind : c.stepDefs.items.findIdx? (CucumberStepDef.isMatch zrexMatches text) with
  | none =>
    simp only [runStepDef_notFound zrexMatches self c hfind]
    refine ⟨.notFound ?_ rfl rfl, _, rfl, rfl⟩
    intro stepDef hmem
    obtain ⟨d, hd, rfl⟩ := List.mem_map.mp hmem
    simpa [CucumberStepDef.isMatch] using List.findIdx?_eq_none_iff.mp hfind d hd
  | some i =>
    obtain ⟨hi, hmatch, hfirst⟩ := List.findIdx?_eq_some_iff_getElem.mp hfind
    have hran := runStepDef_found zrexMatches self c hfind (List.getElem?_eq_getElem hi)
    simp only at hran
    simp only [hran]
    obtain ⟨captures, matched⟩ := Option.isSome_iff_exists.mp
      (hmatch : (zrexMatches c.stepDefs.items[i].rex.pattern text).isSome = true)
    obtain ⟨hview, hstep⟩ := view_recapture zrexMatches matched
    have hsplit : c.stepDefs.items =
        c.stepDefs.items.take i ++ c.stepDefs.items[i] :: c.stepDefs.items.drop (i + 1) := by
      rw [← List.drop_eq_getElem_cons hi, List.take_append_drop]
    have hregistered := congrArg (List.map fun d => (d.rex.pattern, d.step)) hsplit
    rw [List.map_append, List.map_cons] at hregistered
    have hlength : ((c.stepDefs.items.take i).map fun d => (d.rex.pattern, d.step)).length = i := by
      rw [List.length_map, List.length_take, Nat.min_eq_left (Nat.le_of_lt hi)]
    have hfront : ∀ stepDef ∈ (c.stepDefs.items.take i).map fun d => (d.rex.pattern, d.step),
        zrexMatches stepDef.1 text = none := by
      intro stepDef hmem
      obtain ⟨d, hd, rfl⟩ := List.mem_map.mp hmem
      obtain ⟨j, hj, rfl⟩ := List.mem_iff_getElem.mp hd
      rw [List.length_take] at hj
      have hnot := hfirst j (by omega)
      simpa [CucumberStepDef.isMatch] using hnot
    refine ⟨?_, _, rfl, ?_⟩
    · rw [hview, hstep]
      apply StepRun.Dispatched.ran hregistered hfront matched
      case calls => rw [hlength]
      case reply =>
        simp only [replyOf]
        split <;> simp
    · apply List.ext_getElem?
      intro j
      by_cases hj : i = j
      · subst hj
        simp [hi, hstep]
      · simp [List.getElem?_set_ne hj]

/-- **Every step of a scenario** is dispatched among its registered definitions. -/
theorem Registered.runSteps {stepDefs : List (String × CucumberStep υ σ)}
    {self : CucumberSteps υ σ} (h : Registered stepDefs self) (messages : List (Frame × Frame)) :
    ∀ run ∈ (self.runSteps zrexMatches messages).2, run.Dispatched zrexMatches stepDefs := by
  induction messages generalizing self with
  | nil => simp [CucumberSteps.runSteps]
  | cons message messages ih =>
    obtain ⟨id, text⟩ := message
    have hopened := h
    obtain ⟨cucumber, opened, -⟩ := hopened
    obtain ⟨dispatched, registered⟩ := h.step zrexMatches opened id text
    rw [runSteps_cons zrexMatches opened]
    intro run hrun
    rcases List.mem_cons.mp hrun with rfl | hrun
    · exact dispatched
    · exact ih registered run hrun

/-- **Step dispatch.** A scenario may start in any state of a running actor, register any
definitions and be sent any texts. Every text is dispatched among the definitions of the
scenario: the callback that is called is that of the earliest one whose expression
matches, its view holds the captures of this text, it is the only one called, and `STEP
NOT FOUND` is answered exactly if no expression matches. -/
theorem step_dispatch (args : CucumberStepsArgs υ σ) (self : CucumberSteps υ σ)
    (running : self.terminated = false) (scenarioId : Frame) (messages : List (Frame × Frame)) :
    let stepDefs := (self.registered args).2
    let runs := scenarioRuns zrexMatches args self messages
    (∃ last, (cucumberStepsActorLoop zrexMatches args
        ((scenarioInputs scenarioId messages).map Input.poll) self).exec Prog.nobody ()
          (socketFrames (scenarioInputs scenarioId messages)) =
      ⟨.returned last, (), [], scenarioTrace zrexMatches args self scenarioId messages⟩) ∧
    runs.map (fun run => (run.id, run.text)) = messages ∧
    ∀ run ∈ runs, run.Dispatched zrexMatches stepDefs ∧
      run.calls.length = (if run.reply = .notFound then 0 else 1) ∧
      (run.reply = .notFound ↔
        ∀ stepDef ∈ stepDefs, zrexMatches stepDef.1 run.text = none) := by
  intro stepDefs runs
  have registered := registered_startScenario args self
  obtain ⟨cucumber, opened, -⟩ := registered
  refine ⟨⟨_, exec_scenario zrexMatches args self running scenarioId messages⟩,
    runSteps_texts zrexMatches opened messages, ?_⟩
  intro run hrun
  have dispatched := (registered_startScenario args self).runSteps zrexMatches messages run hrun
  exact ⟨dispatched, dispatched.length_calls, dispatched.notFound_iff⟩

/-! ## Expressions that overlap -/

/-- Expressions that match themselves, and one that matches everything. -/
def starMatches (pattern text : String) : Option (List String) :=
  if pattern = "(.*)" then some [text, text] else literalMatches pattern text

/-- Three definitions that set no reasons. Nothing reaches the last one. -/
def overlapping : CucumberStepsArgs Unit Unit where
  stateConstructor := none
  stateDestructor := none
  registerStepDefs _ _ := ((), ["a", "(.*)", "b"].map fun pattern =>
    (pattern, fun _ _ _ => { globals := (), update := id, reasons := [] }))

/-- Each of three steps has its own captures, also where a definition is run again. -/
theorem step_dispatch_overlapping :
    (scenarioRuns starMatches overlapping (freshActor ()) [("1", "b"), ("1", "a"),
        ("1", "c")]).map StepRun.calls =
      [[.invoked 1 ⟨⟨"(.*)", ["b", "b"]⟩, none⟩ none []],
        [.invoked 0 ⟨⟨"a", ["a"]⟩, none⟩ none []],
        [.invoked 1 ⟨⟨"(.*)", ["c", "c"]⟩, none⟩ none []]] ∧
      ∀ run ∈ scenarioRuns starMatches overlapping (freshActor ()) [("1", "b"), ("1", "a"),
          ("1", "c")],
        run.Dispatched starMatches ((freshActor ()).registered overlapping).2 := by
  refine ⟨by decide, ?_⟩
  intro run hrun
  exact ((step_dispatch starMatches overlapping (freshActor ()) rfl "1" _).2.2 run hrun).1

end CucumberC
