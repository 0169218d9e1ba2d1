import CucumberC.Serving

/-!
# The verdict on a step

Within one scenario the reply to `RUN STEP` is read off the failure reason that the
step definition holds after its callback ran. The definition lives as long as the
scenario, so the reason may be one that an earlier step left there.

`Remembers` is the invariant of a scenario: each definition holds the last reason set
for it since `START SCENARIO`. From it follows what every reply is, and when it is the
verdict of its own invocation.

## Main definitions

* `StepRun`, `CucumberSteps.runSteps`: the steps of a scenario and what came of each.
* `lastReason`: the reason an invocation inherits.
* `stepVerdict_own_iff`: the replies are about their own invocations exactly if no
  invocation that sets no reason inherits one.
-/

namespace CucumberC
open Interaction

variable {υ σ : Type}

/-- A `RUN STEP` message, what the actor called for it, and its reply. -/
structure StepRun (σ : Type) where
  id : Frame
  text : Frame
  calls : List (Call σ)
  reply : StepReply
  deriving DecidableEq

/-- The reasons an invocation of the definition at `position` set, in order. -/
def Call.reasonsAt (position : ℕ) : Call σ → List (Option String)
  | .invoked p _ _ reasons => if p = position then reasons else []
  | _ => []

/-- The reason the definition at `position` was given last. -/
def lastReason (position : ℕ) (history : List (StepRun σ)) : Option String :=
  (history.flatMap fun run => run.calls.flatMap (Call.reasonsAt position)).getLast?.join

/-- The reply tells whether the invocation made for this message set a reason, and if it
did, the last one. -/
def StepRun.OwnVerdict (run : StepRun σ) : Prop :=
  ∀ position view object reasons, .invoked position view object reasons ∈ run.calls →
    run.reply = replyOf reasons.getLast?.join

@[simp] theorem lastReason_nil (position : ℕ) :
    lastReason position ([] : List (StepRun σ)) = none := rfl

/-- A run that invoked the definition at `i` replaces the reason there, if it set one. -/
theorem lastReason_snoc (position i : ℕ) (history : List (StepRun σ)) (id text : Frame)
    (view : StepView) (object : Option (StateObject σ)) (reasons : List (Option String))
    (reply : StepReply) :
    lastReason position (history ++ [⟨id, text, [.invoked i view object reasons], reply⟩]) =
      if i = position then reasons.getLast?.getD (lastReason position history)
      else lastReason position history := by
  by_cases hi : i = position
  · cases h : reasons.getLast? <;>
      simp [lastReason, Call.reasonsAt, hi, List.getLast?_append, h]
  · simp [lastReason, Call.reasonsAt, hi]

theorem replyOf_injective : Function.Injective replyOf := by
  intro r r' h
  cases r <;> cases r' <;> simp_all [replyOf]

section Scenario
variable (zrexMatches : String → String → Option (List String)) (args : CucumberStepsArgs υ σ)

/-- Run steps one after another in the open scenario. -/
def CucumberSteps.runSteps :
    CucumberSteps υ σ → List (Frame × Frame) → CucumberSteps υ σ × List (StepRun σ)
  | self, [] => (self, [])
  | self, (id, text) :: messages =>
      match self.cucumber with
      | none => (self, [])
      | some cucumber =>
        let (next, calls, reply) := runStepDef zrexMatches self cucumber text
        let (last, runs) := next.runSteps messages
        (last, ⟨id, text, calls, reply⟩ :: runs)

/-- The effects of one step. -/
def stepTrace (self : CucumberSteps υ σ) (run : StepRun σ) : List (Event (Call σ) Frame Msg) :=
  handleTrace self (.runStep run.id run.text) run.calls (run.reply.frames run.id)

theorem runSteps_cons {self : CucumberSteps υ σ} {cucumber : Cucumber υ σ}
    (h : self.cucumber = some cucumber) (id text : Frame) (messages : List (Frame × Frame)) :
    self.runSteps zrexMatches ((id, text) :: messages) =
      (((runStepDef zrexMatches self cucumber text).1.runSteps zrexMatches messages).1,
        ⟨id, text, (runStepDef zrexMatches self cucumber text).2.1,
            (runStepDef zrexMatches self cucumber text).2.2⟩ ::
          ((runStepDef zrexMatches self cucumber text).1.runSteps zrexMatches messages).2) := by
  simp [CucumberSteps.runSteps, h]

/-- In an open scenario the actor handles `RUN STEP` messages by running the steps. -/
theorem serve_runSteps {self : CucumberSteps υ σ} {cucumber : Cucumber υ σ}
    (opened : self.cucumber = some cucumber) (messages : List (Frame × Frame)) :
    self.serve zrexMatches args (messages.map fun m => .request (.runStep m.1 m.2)) =
      (some (self.runSteps zrexMatches messages).1,
        (self.runSteps zrexMatches messages).2.flatMap (stepTrace self)) := by
  induction messages generalizing self cucumber with
  | nil => simp [CucumberSteps.runSteps]
  | cons message messages ih =>
    obtain ⟨id, text⟩ := message
    obtain ⟨cucumber', opened'⟩ := cucumber_runStepDef zrexMatches self cucumber text
    have hhandle := handle_runStep zrexMatches args opened id text
    have hverbose : stepTrace (runStepDef zrexMatches self cucumber text).1 =
        stepTrace (σ := σ) self := by
      funext run
      exact handleTrace_congr (by simp) _ _ _
    rw [List.map_cons, serve_request zrexMatches args hhandle, ih opened',
      runSteps_cons zrexMatches opened, List.flatMap_cons, hverbose]
    rfl

theorem runSteps_texts {self : CucumberSteps υ σ} {cucumber : Cucumber υ σ}
    (opened : self.cucumber = some cucumber) (messages : List (Frame × Frame)) :
    (self.runSteps zrexMatches messages).2.map (fun run => (run.id, run.text)) = messages := by
  induction messages generalizing self cucumber with
  | nil => rfl
  | cons message messages ih =>
    obtain ⟨id, text⟩ := message
    obtain ⟨cucumber', opened'⟩ := cucumber_runStepDef zrexMatches self cucumber text
    rw [runSteps_cons zrexMatches opened, List.map_cons, ih opened']

/-! ## The invariant of a scenario -/

/-- The definitions have these expressions, and each holds the reason it was given last. -/
def Remembers (patterns : List String) (history : List (StepRun σ)) (self : CucumberSteps υ σ) :
    Prop :=
  ∃ cucumber, self.cucumber = some cucumber ∧
    cucumber.stepDefs.items.map (fun d => d.rex.pattern) = patterns ∧
    ∀ (i : ℕ) (d : CucumberStepDef υ σ), cucumber.stepDefs.items[i]? = some d →
      d.failedStr = lastReason i history

/-- The first expression that matches a text. -/
def resolve (patterns : List String) (text : Frame) : Option ℕ :=
  patterns.findIdx? fun pattern => (zrexMatches pattern text).isSome

/-- What a step of a scenario comes to, after the steps `history`. -/
def StepRun.Explained (patterns : List String) (history : List (StepRun σ)) (run : StepRun σ) :
    Prop :=
  match resolve zrexMatches patterns run.text with
  | none => run.calls = [] ∧ run.reply = .notFound
  | some i => ∃ view object reasons, run.calls = [.invoked i view object reasons] ∧
      run.reply = replyOf (reasons.getLast?.getD (lastReason i history))

theorem remembers_startScenario (self : CucumberSteps υ σ) :
    Remembers ((self.registered args).2.map Prod.fst) [] (startScenario args self).1 := by
  rw [startScenario_eq]
  refine ⟨_, rfl, ?_, ?_⟩
  · simp [cucumberStepDefNew, Function.comp_def]
  · intro i d hd
    simp only [List.getElem?_map, Option.map_eq_some_iff] at hd
    obtain ⟨stepDef, -, rfl⟩ := hd
    rfl

/-- **One step** of a scenario comes to what the history explains, and the invariant
holds of the history with this step. -/
theorem Remembers.step {patterns : List String} {history : List (StepRun σ)}
    {self : CucumberSteps υ σ} (h : Remembers patterns history self) {cucumber : Cucumber υ σ}
    (opened : self.cucumber = some cucumber) (id text : Frame) :
    let ran := runStepDef zrexMatches self cucumber text
    StepRun.Explained zrexMatches patterns history ⟨id, text, ran.2.1, ran.2.2⟩ ∧
      Remembers patterns (history ++ [⟨id, text, ran.2.1, ran.2.2⟩]) ran.1 := by
  obtain ⟨c, hc, rfl, reasons⟩ := h
  obtain rfl : c = cucumber := Option.some.inj (hc.symm.trans opened)
  have hresolve : resolve zrexMatches (c.stepDefs.items.map fun d => d.rex.pattern) text =
      c.stepDefs.items.findIdx? (CucumberStepDef.isMatch zrexMatches text) := by
    rw [resolve, List.findIdx?_map]
    rfl
  cases hfind : c.stepDefs.items.findIdx? (CucumberStepDef.isMatch zrexMatches text) with
  | none =>
    simp only [runStepDef_notFound zrexMatches self c hfind]
    refine ⟨?_, _, rfl, rfl, ?_⟩
    · rw [StepRun.Explained, hresolve, hfind]
      exact ⟨rfl, rfl⟩
    · intro i d hd
      rw [reasons i d hd]
      simp [lastReason]
  | some i =>
    obtain ⟨d, hd⟩ : ∃ d, c.stepDefs.items[i]? = some d := by
      have hi := (List.findIdx?_eq_some_iff_getElem.mp hfind).1
      exact ⟨_, List.getElem?_eq_getElem hi⟩
    have hran := runStepDef_found zrexMatches self c hfind hd
    simp only at hran
    simp only [hran]
    refine ⟨?_, _, rfl, ?_, ?_⟩
    · rw [StepRun.Explained, hresolve, hfind]
      exact ⟨_, _, _, rfl, by rw [reasons i d hd]⟩
    · apply List.ext_getElem?
      intro j
      by_cases hj : i = j
      · subst hj
        obtain ⟨hlt, hget⟩ := List.getElem?_eq_some_iff.mp hd
        simp [hlt, hget]
      · simp [List.getElem?_set_ne hj]
    · intro j dj hdj
      rw [lastReason_snoc]
      by_cases hj : i = j
      · subst hj
        obtain ⟨hlt, -⟩ := List.getElem?_eq_some_iff.mp hd
        simp only [List.getElem?_set_self hlt, Option.some.injEq] at hdj
        rw [if_pos rfl, ← hdj, reasons i d hd]
      · rw [List.getElem?_set_ne hj] at hdj
        rw [if_neg hj, reasons j dj hdj]

/-- **Every step of a scenario** comes to what the steps before it explain. -/
theorem Remembers.runSteps {patterns : List String} {history : List (StepRun σ)}
    {self : CucumberSteps υ σ} (h : Remembers patterns history self)
    (messages : List (Frame × Frame)) {front back : List (StepRun σ)} {run : StepRun σ}
    (split : (self.runSteps zrexMatches messages).2 = front ++ run :: back) :
    StepRun.Explained zrexMatches patterns (history ++ front) run := by
  induction messages generalizing self history front with
  | nil => simp [CucumberSteps.runSteps] at split
  | cons message messages ih =>
    obtain ⟨id, text⟩ := message
    have hopened := h
    obtain ⟨cucumber, opened, -⟩ := hopened
    obtain ⟨explained, remembers⟩ := h.step zrexMatches opened id text
    rw [runSteps_cons zrexMatches opened] at split
    cases front with
    | nil =>
      obtain ⟨rfl, -⟩ := List.cons.inj split
      simpa using explained
    | cons first front =>
      obtain ⟨rfl, hrest⟩ := List.cons.inj split
      have hih := ih remembers hrest
      rwa [List.append_assoc] at hih

/-! ## When a verdict is its own -/

/-- A step that is explained by its history has its own verdict exactly if it set a
reason itself or had none to inherit. -/
theorem ownVerdict_iff {patterns : List String} {history : List (StepRun σ)} {run : StepRun σ}
    (h : run.Explained zrexMatches patterns history) :
    run.OwnVerdict ↔ ∀ position view object,
      .invoked position view object [] ∈ run.calls → lastReason position history = none := by
  unfold StepRun.Explained at h
  cases hres : resolve zrexMatches patterns run.text with
  | none =>
    simp only [hres] at h
    simp [StepRun.OwnVerdict, h.1]
  | some i =>
    simp only [hres] at h
    obtain ⟨view, object, reasons, hcalls, hreply⟩ := h
    have hown : run.OwnVerdict ↔ run.reply = replyOf reasons.getLast?.join := by
      constructor
      · intro own
        exact own i view object reasons (by simp [hcalls])
      · intro own position view' object' reasons' hmem
        simp only [hcalls, List.mem_singleton, Call.invoked.injEq] at hmem
        rw [own, hmem.2.2.2]
    have hinherits : (∀ position view object, .invoked position view object [] ∈ run.calls →
        lastReason position history = none) ↔ (reasons = [] → lastReason i history = none) := by
      constructor
      · rintro inherits rfl
        exact inherits i view object (by simp [hcalls])
      · intro inherits position view' object' hmem
        simp only [hcalls, List.mem_singleton, Call.invoked.injEq] at hmem
        rw [hmem.1]
        exact inherits hmem.2.2.2.symm
    rw [hown, hinherits, hreply, replyOf_injective.eq_iff]
    cases hlast : reasons.getLast? with
    | none => simp [List.getLast?_eq_none_iff.mp hlast]
    | some reason =>
      have hne : reasons ≠ [] := by
        rintro rfl
        simp at hlast
      simp [hne]

/-- The inputs of a scenario: `START SCENARIO` and then steps. -/
def scenarioInputs (scenarioId : Frame) (messages : List (Frame × Frame)) : List Input :=
  .request (.startScenario scenarioId) :: messages.map fun m => .request (.runStep m.1 m.2)

/-- The steps of a scenario that starts in the state `self`. -/
def scenarioRuns (self : CucumberSteps υ σ) (messages : List (Frame × Frame)) :
    List (StepRun σ) :=
  ((startScenario args self).1.runSteps zrexMatches messages).2

/-- The effects of a scenario: those of its start, and then those of its steps. -/
def scenarioTrace (self : CucumberSteps υ σ) (scenarioId : Frame)
    (messages : List (Frame × Frame)) : List (Event (Call σ) Frame Msg) :=
  handleTrace self (.startScenario scenarioId) (startScenario args self).2
      ["SCENARIO STARTED", scenarioId] ++
    (scenarioRuns zrexMatches args self messages).flatMap (stepTrace self)

/-- The loop of the actor runs the steps of a scenario, and every one of them is
explained by those before it. -/
theorem exec_scenario (self : CucumberSteps υ σ) (running : self.terminated = false)
    (scenarioId : Frame) (messages : List (Frame × Frame)) :
    (cucumberStepsActorLoop zrexMatches args
        ((scenarioInputs scenarioId messages).map Input.poll) self).exec Prog.nobody ()
          (socketFrames (scenarioInputs scenarioId messages)) =
      ⟨.returned ((startScenario args self).1.runSteps zrexMatches messages).1, (), [],
        scenarioTrace zrexMatches args self scenarioId messages⟩ := by
  obtain ⟨cucumber, opened, -⟩ := remembers_startScenario args self
  have hhandle : self.handle zrexMatches args (.startScenario scenarioId) =
      some ((startScenario args self).1, (startScenario args self).2,
        ["SCENARIO STARTED", scenarioId]) := rfl
  have hserve := serve_runSteps zrexMatches args opened messages
  have htrace : stepTrace (startScenario args self).1 = stepTrace (σ := σ) self := by
    funext run
    exact handleTrace_congr (by simp) _ _ _
  obtain ⟨unread, h⟩ :=
    exec_actorLoop zrexMatches args self running (scenarioInputs scenarioId messages) [] []
  simp only [scenarioInputs, serve_request zrexMatches args hhandle, hserve, htrace] at h
  simpa [scenarioInputs, scenarioTrace, scenarioRuns, cucumberStepsActorLoop, Outcome.after]
    using h

theorem explained_scenarioRuns (self : CucumberSteps υ σ) {messages : List (Frame × Frame)}
    {front back : List (StepRun σ)} {run : StepRun σ}
    (split : scenarioRuns zrexMatches args self messages = front ++ run :: back) :
    run.Explained zrexMatches ((self.registered args).2.map Prod.fst) front := by
  simpa using (remembers_startScenario args self).runSteps zrexMatches messages split

/-- **The verdict on a step.** A scenario may start in any state of a running actor and
may send any messages. Each message whose text an expression matches invokes one
callback, and the others are answered `STEP NOT FOUND`. The replies are the verdicts of
the invocations made for them if and only if no invocation that sets no reason inherits
one: the last reason set for its definition earlier in the scenario, if there is any, is
`NULL`. -/
theorem stepVerdict_own_iff (self : CucumberSteps υ σ) (running : self.terminated = false)
    (scenarioId : Frame) (messages : List (Frame × Frame)) :
    (∃ last, (cucumberStepsActorLoop zrexMatches args
        ((scenarioInputs scenarioId messages).map Input.poll) self).exec Prog.nobody ()
          (socketFrames (scenarioInputs scenarioId messages)) =
      ⟨.returned last, (), [], scenarioTrace zrexMatches args self scenarioId messages⟩) ∧
    (scenarioRuns zrexMatches args self messages).map (fun run => (run.id, run.text)) = messages ∧
    (∀ run ∈ scenarioRuns zrexMatches args self messages,
      match resolve zrexMatches ((self.registered args).2.map Prod.fst) run.text with
      | none => run.calls = [] ∧ run.reply = .notFound
      | some i => ∃ view object reasons, run.calls = [.invoked i view object reasons]) ∧
    ((∀ run ∈ scenarioRuns zrexMatches args self messages, run.OwnVerdict) ↔
      ∀ front run back, scenarioRuns zrexMatches args self messages = front ++ run :: back →
        ∀ position view object, .invoked position view object [] ∈ run.calls →
          lastReason position front = none) := by
  refine ⟨⟨_, exec_scenario zrexMatches args self running scenarioId messages⟩, ?_, ?_, ?_⟩
  · obtain ⟨cucumber, opened, -⟩ := remembers_startScenario args self
    exact runSteps_texts zrexMatches opened messages
  · intro run hrun
    obtain ⟨front, back, split⟩ := List.append_of_mem hrun
    have explained := explained_scenarioRuns zrexMatches args self split
    unfold StepRun.Explained at explained
    cases hres : resolve zrexMatches ((self.registered args).2.map Prod.fst) run.text with
    | none => simpa [hres] using explained
    | some i =>
      simp only [hres] at explained
      obtain ⟨view, object, reasons, hcalls, -⟩ := explained
      exact ⟨view, object, reasons, hcalls⟩
  · constructor
    · intro own front run back split
      have hrun : run ∈ scenarioRuns zrexMatches args self messages := by simp [split]
      exact (ownVerdict_iff zrexMatches (explained_scenarioRuns zrexMatches args self split)).mp
        (own run hrun)
    · intro clean run hrun
      obtain ⟨front, back, split⟩ := List.append_of_mem hrun
      exact (ownVerdict_iff zrexMatches (explained_scenarioRuns zrexMatches args self split)).mpr
        (clean front run back split)

end Scenario

/-! ## A definition that fails once -/

/-- One definition, whose callback fails in its first invocation only. The globals tell
whether it has been invoked. -/
def failsOnceArgs : CucumberStepsArgs Bool Unit where
  stateConstructor := none
  stateDestructor := none
  registerStepDefs invoked _ :=
    (invoked, [("a", fun invoked _ _ =>
      { globals := true, update := id, reasons := if invoked then [] else [some "boom"] })])

/-- The same step twice. -/
def repeatedStep : List (Frame × Frame) := [("1", "a"), ("1", "a")]

/-- The second of two equal steps sets no reason, and is answered with that of the first. -/
theorem stepVerdict_stale :
    sentIn ((cucumberStepsActorLoop literalMatches failsOnceArgs
        ((scenarioInputs "1" repeatedStep).map Input.poll) (freshActor false)).exec Prog.nobody ()
          (socketFrames (scenarioInputs "1" repeatedStep))).trace =
      [["SCENARIO STARTED", "1"], ["STEP FAILED", "1", "boom"], ["STEP FAILED", "1", "boom"]] ∧
    ¬ ∀ run ∈ scenarioRuns literalMatches failsOnceArgs (freshActor false) repeatedStep,
      run.OwnVerdict := by
  refine ⟨by decide, ?_⟩
  intro own
  have h := own ⟨"1", "a", [.invoked 0 ⟨⟨"a", ["a"]⟩, some "boom"⟩ none []], .failed "boom"⟩
    (by decide) 0 ⟨⟨"a", ["a"]⟩, some "boom"⟩ none [] (by decide)
  exact absurd h (by decide)

/-- One definition, whose callback fails in its first invocation, withdraws the reason in its
second, and sets none after that. The globals count its invocations. -/
def withdrawsArgs : CucumberStepsArgs ℕ Unit where
  stateConstructor := none
  stateDestructor := none
  registerStepDefs n _ :=
    (n, [("a", fun n _ _ =>
      { globals := n + 1
        update := id
        reasons := match n with
          | 0 => [some "boom"]
          | 1 => [none]
          | _ => [] })])

/-- The same step three times. -/
def thriceStep : List (Frame × Frame) := [("1", "a"), ("1", "a"), ("1", "a")]

/-- The third invocation sets no reason, and the one before it has left none. -/
theorem stepVerdict_own_withdrawn :
    (scenarioRuns literalMatches withdrawsArgs (freshActor 0) thriceStep).map StepRun.reply =
        [.failed "boom", replyOf none, replyOf none] ∧
      ∀ run ∈ scenarioRuns literalMatches withdrawsArgs (freshActor 0) thriceStep,
        run.OwnVerdict := by
  refine ⟨by decide, (stepVerdict_own_iff literalMatches withdrawsArgs (freshActor 0) rfl "1"
    thriceStep).2.2.2.mpr ?_⟩
  intro front run back split position view object inherits
  obtain ⟨first, second, third, hruns, hfirst, hsecond, hlast⟩ : ∃ first second third,
      scenarioRuns literalMatches withdrawsArgs (freshActor 0) thriceStep =
        [first, second, third] ∧
      first.calls = [.invoked 0 ⟨⟨"a", ["a"]⟩, none⟩ none [some "boom"]] ∧
      second.calls = [.invoked 0 ⟨⟨"a", ["a"]⟩, some "boom"⟩ none [none]] ∧
      third.calls = [.invoked 0 ⟨⟨"a", ["a"]⟩, none⟩ none []] :=
    ⟨_, _, _, rfl, rfl, rfl, rfl⟩
  rw [hruns] at split
  rcases front with _ | ⟨one, _ | ⟨two, _ | ⟨three, front⟩⟩⟩
  · obtain ⟨rfl, -⟩ := List.cons.inj split
    simp [hfirst] at inherits
  · obtain ⟨-, hrest⟩ := List.cons.inj split
    obtain ⟨rfl, -⟩ := List.cons.inj hrest
    simp [hsecond] at inherits
  · obtain ⟨rfl, hrest⟩ := List.cons.inj split
    obtain ⟨rfl, hlate⟩ := List.cons.inj hrest
    obtain ⟨rfl, -⟩ := List.cons.inj hlate
    rw [hlast, List.mem_singleton, Call.invoked.injEq] at inherits
    obtain ⟨rfl, -⟩ := inherits
    simp [lastReason, hfirst, hsecond, Call.reasonsAt]
  · simp at split

end CucumberC
