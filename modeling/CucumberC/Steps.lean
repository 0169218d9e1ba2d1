import CucumberC.Cucumber
import CucumberC.Wire

/-!
# The step actor

`cucumber_steps.c`: an actor connects a DEALER socket to the runner, says `HELLO`, and
then serves its command pipe and the socket. `cucumberStepsRecvPickle` reads one frame
of the socket at a time, as `zstr_recv` does; a program that wants more frames than
there are waits.

## Main definitions

* `CucumberStepsArgs`: the user's constructor, destructor and step definitions.
* `CucumberSteps`, `Call`, `StepsProg`: the actor, what it does besides sending, and its
  programs.
* `cucumberStepsRecvPickle`, `cucumberStepsActor`: the handler, and the whole actor.
-/

namespace CucumberC
open Interaction

/-! ## The actor -/

/-- `cucumber_steps_args_t`: the user's functions. The destructor is called with the
address of the state pointer, which may hold `NULL`. -/
structure CucumberStepsArgs (υ σ : Type) where
  stateConstructor : Option (υ → Bool → υ × Option σ)
  stateDestructor : Option (υ → Option σ → υ)
  /-- The expressions and callbacks the function adds, in order. -/
  registerStepDefs : υ → Option σ → υ × List (String × CucumberStep υ σ)

/-- No constructor, no destructor and no step definitions. -/
def plainArgs : CucumberStepsArgs Unit Unit where
  stateConstructor := none
  stateDestructor := none
  registerStepDefs _ _ := ((), [])

/-- The actor. `constructed` counts the calls of the state constructor and numbers the
objects it returns. -/
structure CucumberSteps (υ σ : Type) where
  terminated : Bool
  verbose : Bool
  cucumber : Option (Cucumber υ σ)
  globals : υ
  constructed : ℕ

/-- What an actor does besides sending: it prints, and it calls the user's functions. -/
inductive Call (σ : Type)
  | printf (text : String)
  | constructed (verbose : Bool) (object : Option (StateObject σ))
  | destructed (object : Option (StateObject σ))
  | invoked (position : ℕ) (view : StepView) (object : Option (StateObject σ))
      (reasons : List (Option String))
  deriving DecidableEq, Repr

/-- A program of the actor. -/
abbrev StepsProg (σ α : Type) := Prog (Call σ) Frame Msg α

variable {υ σ : Type}

/-- `zstr_recv`: the next frame of the socket. -/
def zstrRecv : StepsProg σ Frame := Prog.await

/-! ### User state -/

/-- Call the state constructor, if one was given. -/
def constructState (args : CucumberStepsArgs υ σ) (self : CucumberSteps υ σ) :
    CucumberSteps υ σ × Option (StateObject σ) × List (Call σ) :=
  match args.stateConstructor with
  | none => (self, none, [])
  | some construct =>
    let (globals, content) := construct self.globals self.verbose
    let state := content.map (StateObject.mk self.constructed)
    ({ self with globals := globals, constructed := self.constructed + 1 }, state,
      [.constructed self.verbose state])

/-- `cucumber_destroy (&self->cucumber)` -/
def cucumberDestroy (self : CucumberSteps υ σ) : CucumberSteps υ σ × List (Call σ) :=
  match self.cucumber with
  | none => (self, [])
  | some cucumber =>
    match cucumber.stateDestructor with
    | none => ({ self with cucumber := none }, [])
    | some destruct =>
      ({ self with
          cucumber := none
          globals := destruct self.globals (cucumber.state.map StateObject.content) },
        [.destructed cucumber.state])

/-! ### The handler -/

/-- `START SCENARIO`: the new scenario takes the place of the old one. -/
def startScenario (args : CucumberStepsArgs υ σ) (self : CucumberSteps υ σ) :
    CucumberSteps υ σ × List (Call σ) :=
  let (self, state, calls) := constructState args self
  let cucumber := cucumberNew state args.stateDestructor
  let (globals, stepDefs) := args.registerStepDefs self.globals (state.map StateObject.content)
  let cucumber := stepDefs.foldl
    (fun cucumber stepDef => cucumberAddStepDef cucumber (cucumberStepDefNew stepDef.1 stepDef.2))
    cucumber
  ({ self with cucumber := some cucumber, globals := globals }, calls)

/-- `RUN STEP`: find the definition, run it, and choose the reply. -/
def runStepDef (zrexMatches : String → String → Option (List String))
    (self : CucumberSteps υ σ) (cucumber : Cucumber υ σ) (pickleStep : Frame) :
    CucumberSteps υ σ × List (Call σ) × StepReply :=
  match cucumberFindStepDef zrexMatches cucumber pickleStep with
  | (none, cucumber) => ({ self with cucumber := some cucumber }, [], .notFound)
  | (some (position, stepDef), cucumber) =>
    let (ran, globals, state, reasons) :=
      cucumberStepDefRun stepDef self.globals cucumber.state
    let stepDefs := { cucumber.stepDefs with items := cucumber.stepDefs.items.set position ran }
    ({ self with
        cucumber := some { cucumber with stepDefs := stepDefs, state := state }
        globals := globals },
      [.invoked position stepDef.view cucumber.state reasons],
      match cucumberStepDefFailed ran, cucumberStepDefFailureReason ran with
      | true, some reason => .failed reason
      | _, _ => .succeeded "OK")

section Handler
variable (zrexMatches : String → String → Option (List String)) (args : CucumberStepsArgs υ σ)

/-- `if (self->verbose) printf (…);` -/
def printfVerbose (self : CucumberSteps υ σ) (text : String) : StepsProg σ Unit :=
  if self.verbose then Prog.output (.printf text) else pure ()

/-- `cucumber_steps_recv_pickle`. Every reply repeats the id of the request. -/
def cucumberStepsRecvPickle (self : CucumberSteps υ σ) : StepsProg σ (CucumberSteps υ σ) := do
  let command ← zstrRecv
  if command = "START SCENARIO" then do
    let id ← zstrRecv
    let (self, calls) := startScenario args self
    Prog.outputs calls
    Prog.post ["SCENARIO STARTED", id]
    printfVerbose self "Scenario started\n"
    pure self
  else if command = "END SCENARIO" then do
    let id ← zstrRecv
    let (self, calls) := cucumberDestroy self
    Prog.outputs calls
    Prog.post ["SCENARIO ENDED", id]
    printfVerbose self "Scenario ended\n"
    pure self
  else if command = "RUN STEP" then do
    let id ← zstrRecv
    let pickleStep ← zstrRecv
    match self.cucumber with
    | none => .fault .assertion -- `cucumber_find_step_def` asserts that there is a scenario
    | some cucumber => do
      let (self, calls, reply) := runStepDef zrexMatches self cucumber pickleStep
      Prog.outputs calls
      Prog.post (reply.frames id)
      printfVerbose self ("Step " ++ id ++ " ran\n")
      pure self
  else pure self

/-! ### The life of the actor -/

/-- An actor that has just started. -/
def freshActor (globals : υ) : CucumberSteps υ σ :=
  { terminated := false, verbose := false, cucumber := none, globals := globals,
    constructed := 0 }

/-- `cucumber_steps_new` -/
def cucumberStepsNew (globals : υ) : StepsProg σ (CucumberSteps υ σ) := do
  Prog.post ["HELLO"]
  pure (freshActor globals)

/-- `cucumber_steps_destroy` -/
def cucumberStepsDestroy (self : CucumberSteps υ σ) : StepsProg σ (CucumberSteps υ σ) := do
  let (self, calls) := cucumberDestroy self
  Prog.outputs calls
  pure self

/-- `cucumber_steps_recv_api`, of the first frame of the pipe's message. -/
def cucumberStepsRecvApi (self : CucumberSteps υ σ) (command : Frame) :
    StepsProg σ (CucumberSteps υ σ) :=
  if command = "VERBOSE" then pure { self with verbose := true }
  else if command = "$TERM" then pure { self with terminated := true }
  else .fault .assertion

/-- What `zpoller_wait` reports: a command on the pipe, frames on the socket, or nothing. -/
inductive Poll
  | pipe (command : Frame)
  | serverSocket
  | timeout
  deriving DecidableEq, Repr

/-- The loop of `cucumber_steps_actor`, for as many turns as the poller is asked. -/
def cucumberStepsActorLoop : List Poll → CucumberSteps υ σ → StepsProg σ (CucumberSteps υ σ)
  | [], self => pure self
  | poll :: polls, self =>
      if self.terminated then pure self
      else do
        let self ← match poll with
          | .pipe command => cucumberStepsRecvApi self command
          | .serverSocket => cucumberStepsRecvPickle zrexMatches args self
          | .timeout => pure self
        cucumberStepsActorLoop polls self

/-- `cucumber_steps_actor`. An actor that was not terminated is still polling. -/
def cucumberStepsActor (globals : υ) (polls : List Poll) :
    StepsProg σ (CucumberSteps υ σ) := do
  let self ← cucumberStepsNew globals
  let self ← cucumberStepsActorLoop zrexMatches args polls self
  if self.terminated then cucumberStepsDestroy self else pure self

end Handler
end CucumberC
