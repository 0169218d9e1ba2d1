import CucumberC.Steps
import CucumberC.Lib.Lockstep

/-!
# What one invocation of the handler does

`CucumberSteps.handle` is `cucumber_steps_recv_pickle` as a function of the request:
the next state of the actor, the user's functions it called, and the reply. The two
theorems about the program itself are `exec_request`, for a request with its prescribed
frames whatever follows it on the socket, and `exec_unknown`, for any other command.
`workers_implement` says the same in the vocabulary of lockstep networks.
-/

namespace CucumberC
open Interaction

variable {υ σ : Type} (zrexMatches : String → String → Option (List String))
  (args : CucumberStepsArgs υ σ)

/-- The handler as a function. A `RUN STEP` without a scenario fails an assertion. -/
def CucumberSteps.handle (self : CucumberSteps υ σ) :
    Request → Option (CucumberSteps υ σ × List (Call σ) × Msg)
  | .startScenario id =>
      let (self, calls) := startScenario args self
      some (self, calls, ["SCENARIO STARTED", id])
  | .endScenario id =>
      let (self, calls) := cucumberDestroy self
      some (self, calls, ["SCENARIO ENDED", id])
  | .runStep id text =>
      self.cucumber.map fun cucumber =>
        let (self, calls, reply) := runStepDef zrexMatches self cucumber text
        (self, calls, reply.frames id)

/-- In an open scenario a step is handled. -/
theorem handle_runStep {self : CucumberSteps υ σ} {cucumber : Cucumber υ σ}
    (opened : self.cucumber = some cucumber) (id text : Frame) :
    self.handle zrexMatches args (.runStep id text) =
      some ((runStepDef zrexMatches self cucumber text).1,
        (runStepDef zrexMatches self cucumber text).2.1,
        (runStepDef zrexMatches self cucumber text).2.2.frames id) := by
  simp [CucumberSteps.handle, opened]

/-- What the handler prints at the end of a request when it is verbose. -/
def verboseText : Request → String
  | .startScenario _ => "Scenario started\n"
  | .endScenario _ => "Scenario ended\n"
  | .runStep id _ => "Step " ++ id ++ " ran\n"

/-- The effects of handling a request, in order. -/
def handleTrace (self : CucumberSteps υ σ) (r : Request) (calls : List (Call σ)) (reply : Msg) :
    List (Event (Call σ) Frame Msg) :=
  r.frames.map .received ++ calls.map .put ++ [.sent reply] ++
    if self.verbose then [.put (.printf (verboseText r))] else []

/-! ## What the user's code is called for -/

/-- The expressions and callbacks `register_step_defs` adds at `START SCENARIO`. -/
def CucumberSteps.registered (self : CucumberSteps υ σ) :
    υ × List (String × CucumberStep υ σ) :=
  args.registerStepDefs (constructState args self).1.globals
    ((constructState args self).2.1.map StateObject.content)

theorem foldl_addStepDef (stepDefs : List (String × CucumberStep υ σ))
    (cucumber : Cucumber υ σ) (start : cucumber.stepDefs.cursor = 0) :
    stepDefs.foldl (fun cucumber stepDef =>
        cucumberAddStepDef cucumber (cucumberStepDefNew stepDef.1 stepDef.2)) cucumber =
      { cucumber with
        stepDefs := ⟨cucumber.stepDefs.items ++
          stepDefs.map fun stepDef => cucumberStepDefNew stepDef.1 stepDef.2, 0⟩ } := by
  induction stepDefs generalizing cucumber with
  | nil =>
    obtain ⟨⟨items, cursor⟩, state, destructor⟩ := cucumber
    obtain rfl : cursor = 0 := start
    simp
  | cons stepDef stepDefs ih =>
    rw [List.foldl_cons, ih _ rfl]
    simp [cucumberAddStepDef]

/-- `START SCENARIO` opens a scenario with new step definitions and the object the
constructor returns, whatever the actor had before. -/
theorem startScenario_eq (self : CucumberSteps υ σ) :
    startScenario args self =
      ({ (constructState args self).1 with
          cucumber := some
            { stepDefs := ⟨(self.registered args).2.map fun stepDef =>
                cucumberStepDefNew stepDef.1 stepDef.2, 0⟩
              state := (constructState args self).2.1
              stateDestructor := args.stateDestructor }
          globals := (self.registered args).1 },
        (constructState args self).2.2) := by
  have h := foldl_addStepDef (self.registered args).2
    (cucumberNew (constructState args self).2.1 args.stateDestructor) rfl
  simp only [CucumberSteps.registered, cucumberNew, CursorList.items_new, List.nil_append] at h
  simp only [startScenario, cucumberNew, CucumberSteps.registered, h]

/-- The reply to a step whose definition holds this failure reason afterwards. -/
def replyOf (failedStr : Option String) : StepReply :=
  match failedStr with
  | some reason => .failed reason
  | none => .succeeded "OK"

/-- A step no definition matches changes nothing but the cursor. -/
theorem runStepDef_notFound (self : CucumberSteps υ σ) (cucumber : Cucumber υ σ) {text : Frame}
    (h : cucumber.stepDefs.items.findIdx? (CucumberStepDef.isMatch zrexMatches text) = none) :
    runStepDef zrexMatches self cucumber text =
      ({ self with
          cucumber := some { cucumber with stepDefs := ⟨cucumber.stepDefs.items, 0⟩ } },
        [], .notFound) := by
  simp [runStepDef, cucumberFindStepDef_eq, h]

/-- A step that is found runs the callback of its definition once. The definition keeps
the last reason that was set for it, in this invocation or an earlier one. -/
theorem runStepDef_found (self : CucumberSteps υ σ) (cucumber : Cucumber υ σ) {text : Frame}
    {i : ℕ} {d : CucumberStepDef υ σ}
    (h : cucumber.stepDefs.items.findIdx? (CucumberStepDef.isMatch zrexMatches text) = some i)
    (hd : cucumber.stepDefs.items[i]? = some d) :
    let d' := d.recapture zrexMatches text
    let effect := d'.step self.globals d'.view (cucumber.state.map StateObject.content)
    let failedStr := effect.reasons.getLast?.getD d.failedStr
    runStepDef zrexMatches self cucumber text =
      ({ self with
          cucumber := some
            { cucumber with
              stepDefs := ⟨cucumber.stepDefs.items.set i { d' with failedStr := failedStr }, i + 1⟩
              state := cucumber.state.map fun object =>
                { object with content := effect.update object.content } }
          globals := effect.globals },
        [.invoked i d'.view cucumber.state effect.reasons], replyOf failedStr) := by
  have hset : ∀ x : CucumberStepDef υ σ,
      (cucumber.stepDefs.items.modify i (CucumberStepDef.recapture zrexMatches text)).set i x =
        cucumber.stepDefs.items.set i x := by
    intro x
    apply List.ext_getElem?
    intro j
    grind
  simp only [runStepDef, cucumberFindStepDef_eq, h, hd, Option.map_some, cucumberStepDefRun,
    foldl_setFailureReason, hset, failedStr_recapture, cucumberStepDefFailed,
    cucumberStepDefFailureReason, replyOf]
  cases ((d.recapture zrexMatches text).step self.globals (d.recapture zrexMatches text).view
    (cucumber.state.map StateObject.content)).reasons.getLast?.getD d.failedStr <;> rfl

/-! ## The fields a request leaves alone -/

@[simp] theorem verbose_startScenario (self : CucumberSteps υ σ) :
    (startScenario args self).1.verbose = self.verbose := by
  have h : (startScenario args self).1.verbose = (constructState args self).1.verbose := rfl
  rw [h, constructState]
  split <;> rfl

@[simp] theorem verbose_cucumberDestroy (self : CucumberSteps υ σ) :
    (cucumberDestroy self).1.verbose = self.verbose := by
  unfold cucumberDestroy
  split
  · rfl
  · split <;> rfl

@[simp] theorem verbose_runStepDef (self : CucumberSteps υ σ) (cucumber : Cucumber υ σ)
    (text : Frame) : (runStepDef zrexMatches self cucumber text).1.verbose = self.verbose := by
  unfold runStepDef
  split <;> rfl

@[simp] theorem cucumber_cucumberDestroy (self : CucumberSteps υ σ) :
    (cucumberDestroy self).1.cucumber = none := by
  unfold cucumberDestroy
  split
  · assumption
  · split <;> rfl

/-- The scenario stays open while its steps run. -/
theorem cucumber_runStepDef (self : CucumberSteps υ σ) (cucumber : Cucumber υ σ) (text : Frame) :
    ∃ cucumber', (runStepDef zrexMatches self cucumber text).1.cucumber = some cucumber' := by
  unfold runStepDef
  split <;> exact ⟨_, rfl⟩

/-- What the handler traces depends on the verbose flag alone. -/
theorem handleTrace_congr {self self' : CucumberSteps υ σ} (h : self.verbose = self'.verbose)
    (r : Request) (calls : List (Call σ)) (reply : Msg) :
    handleTrace self r calls reply = handleTrace self' r calls reply := by
  simp [handleTrace, h]

/-- The actor handles the requests that are allowed, and whether a scenario is open
then follows from the request. -/
theorem handle_isOpen (self : CucumberSteps υ σ) (r : Request) :
    match self.handle zrexMatches args r with
    | none => r.allowed self.cucumber.isSome = false
    | some (next, _, _) => r.allowed self.cucumber.isSome = true ∧
        next.cucumber.isSome = r.opensAfter self.cucumber.isSome := by
  cases r with
  | startScenario id =>
    simp [CucumberSteps.handle, Request.allowed, Request.opensAfter, startScenario_eq]
  | endScenario id => simp [CucumberSteps.handle, Request.allowed, Request.opensAfter]
  | runStep id text =>
    cases hc : self.cucumber with
    | none => simp [CucumberSteps.handle, Request.allowed, hc]
    | some cucumber =>
      obtain ⟨cucumber', h⟩ := cucumber_runStepDef zrexMatches self cucumber text
      simp [handle_runStep zrexMatches args hc, Request.allowed, Request.opensAfter, h]

/-- A request that is allowed is handled. -/
theorem handle_of_allowed {self : CucumberSteps υ σ} {r : Request}
    (allowed : r.allowed self.cucumber.isSome = true) :
    ∃ next calls reply, self.handle zrexMatches args r = some (next, calls, reply) ∧
      next.cucumber.isSome = r.opensAfter self.cucumber.isSome := by
  have hopen := handle_isOpen zrexMatches args self r
  cases hh : self.handle zrexMatches args r with
  | none => simp [hh, allowed] at hopen
  | some handled =>
    obtain ⟨next, calls, reply⟩ := handled
    simp only [hh] at hopen
    exact ⟨next, calls, reply, rfl, hopen.2⟩

/-! ## The program -/

section Program

@[simp] theorem exec_printfVerbose {ε : Type} (respond : ε → Msg → ε × List Frame) (e : ε)
    (inbox : List Frame) (self : CucumberSteps υ σ) (text : String)
    (f : Unit → StepsProg σ (CucumberSteps υ σ)) :
    ((printfVerbose self text).bind f).exec respond e inbox =
      ((f ()).exec respond e inbox).after
        (if self.verbose then [.put (.printf text)] else []) := by
  unfold printfVerbose
  split <;> simp

/-- **A request with its prescribed frames.** One invocation takes exactly these frames,
calls what `handle` says, and sends one reply; or it dies, when there is no scenario to
run a step in. -/
theorem exec_request (self : CucumberSteps υ σ) (r : Request) (rest : List Frame) :
    (cucumberStepsRecvPickle zrexMatches args self).exec Prog.nobody ()
        (r.frames ++ rest) =
      match self.handle zrexMatches args r with
      | some (self', calls, reply) =>
        ⟨.returned self', (), rest, handleTrace self r calls reply⟩
      | none => ⟨.faulted .assertion, (), rest, r.frames.map .received⟩ := by
  cases r with
  | startScenario id =>
    simp [cucumberStepsRecvPickle, zstrRecv, Request.frames, CucumberSteps.handle, handleTrace,
      verboseText, Outcome.after]
  | endScenario id =>
    simp [cucumberStepsRecvPickle, zstrRecv, Request.frames, CucumberSteps.handle, handleTrace,
      verboseText, Outcome.after]
  | runStep id text =>
    cases hc : self.cucumber with
    | none =>
      simp [cucumberStepsRecvPickle, zstrRecv, Request.frames, CucumberSteps.handle, hc,
        Outcome.after]
    | some cucumber =>
      simp [cucumberStepsRecvPickle, zstrRecv, Request.frames, CucumberSteps.handle, hc,
        handleTrace, verboseText, Outcome.after]

/-- The commands the handler knows. -/
def knownCommands : List Frame := ["START SCENARIO", "END SCENARIO", "RUN STEP"]

/-- **Any other command** is all the invocation takes. -/
theorem exec_unknown (self : CucumberSteps υ σ) {command : Frame}
    (unknown : command ∉ knownCommands) (rest : List Frame) :
    (cucumberStepsRecvPickle zrexMatches args self).exec Prog.nobody ()
        (command :: rest) =
      ⟨.returned self, (), rest, [.received command]⟩ := by
  simp only [knownCommands, List.mem_cons, List.not_mem_nil, or_false, not_or] at unknown
  obtain ⟨hstart, hend, hrun⟩ := unknown
  simp [cucumberStepsRecvPickle, zstrRecv, hstart, hend, hrun, Outcome.after]

end Program
end CucumberC
