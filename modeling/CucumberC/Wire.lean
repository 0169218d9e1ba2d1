import Mathlib.Data.List.Basic

/-!
# The wire protocol

The frames the runner and the step actors exchange. The runner asks an actor to start
a scenario, to run its steps one by one and to end it; every request carries the id of
the scenario, and every reply repeats it.

## Main definitions

* `Frame`, `Msg`: frames, and messages without the routing envelope.
* `Request`, `StepReply`: requests and answers to `RUN STEP`, with their frames.
-/

namespace CucumberC

/-- One frame of a message, as the C string it carries. -/
abbrev Frame := String

/-- A message without its envelope. -/
abbrev Msg := List Frame

/-- A request of the runner. -/
inductive Request
  | startScenario (id : Frame)
  | runStep (id text : Frame)
  | endScenario (id : Frame)
  deriving DecidableEq, Repr

namespace Request

/-- The prescribed frames of a request. -/
def frames : Request → Msg
  | startScenario id => ["START SCENARIO", id]
  | runStep id text => ["RUN STEP", id, text]
  | endScenario id => ["END SCENARIO", id]

/-- The request with these frames, if there is one. -/
def ofFrames : Msg → Option Request
  | [command, id] =>
      if command = "START SCENARIO" then some (startScenario id)
      else if command = "END SCENARIO" then some (endScenario id)
      else none
  | [command, id, text] => if command = "RUN STEP" then some (runStep id text) else none
  | _ => none

@[simp] theorem ofFrames_frames (r : Request) : ofFrames r.frames = some r := by
  cases r <;> simp [frames, ofFrames]

/-- The scenario a request is about. -/
def scenarioId : Request → Frame
  | startScenario id | runStep id _ | endScenario id => id

/-- Whether a scenario is open after a request. -/
def opensAfter (isOpen : Bool) : Request → Bool
  | startScenario _ => true
  | endScenario _ => false
  | runStep _ _ => isOpen

/-- Whether a request may be made: `RUN STEP` needs an open scenario. -/
def allowed (isOpen : Bool) : Request → Bool
  | startScenario _ | endScenario _ => true
  | runStep _ _ => isOpen

theorem frames_ne_nil (r : Request) : r.frames ≠ [] := by cases r <;> simp [frames]

theorem frames_injective : Function.Injective frames := by
  intro r r' h
  have hr := congrArg ofFrames h
  simpa using hr

end Request

/-- What a worker may answer to `RUN STEP`. The last case is any command that is none of
the protocol's, with whatever follows the scenario id. -/
inductive StepReply
  | succeeded (result : Frame)
  | failed (reason : Frame)
  | notFound
  | other (command : Frame) (rest : Msg)
      (unknown : command ∉ ["STEP SUCCEEDED", "STEP FAILED", "STEP NOT FOUND"])
  deriving DecidableEq

namespace StepReply

/-- The frames of a reply about the scenario `id`. `STEP NOT FOUND` has no third one. -/
def frames (id : Frame) : StepReply → Msg
  | succeeded result => ["STEP SUCCEEDED", id, result]
  | failed reason => ["STEP FAILED", id, reason]
  | notFound => ["STEP NOT FOUND", id]
  | other command rest _ => command :: id :: rest

def isSucceeded : StepReply → Bool
  | succeeded _ => true
  | _ => false

def isFailed : StepReply → Bool
  | failed _ => true
  | _ => false

def isNotFound : StepReply → Bool
  | notFound => true
  | _ => false

def isOther : StepReply → Bool
  | other _ _ _ => true
  | _ => false

end StepReply
end CucumberC
