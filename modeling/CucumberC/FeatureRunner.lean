import CucumberC.GherkinDoc
import CucumberC.Wire
import CucumberC.Lib.Lockstep
import Mathlib.Data.List.Infix

/-!
# The feature runner

`cucumber_feature_runner.c`. The client socket is a ROUTER: a message carries the
identity of the worker it goes to or comes from in front of its frames. The runner
sends it and throws it away on receiving, so every reply counts as the answer to the
request sent last.

`cucumberFeatureRunnerRun` is the C function, loop by loop; each loop body has a name
of its own. The walks over lists cannot take more turns than the list has elements
(`forEach_eq_foldlM`, `walk_eq_foldlM`). The loop that prints parser errors restarts at
the first error in every turn, so its number of turns is the parameter `fuel`. The counters
are natural numbers, where the C function has an `int`.

## Main definitions

* `Output`, `RunnerProg`: what the runner prints, and its programs.
* `FileSystem`, `cucumberFeatureRunnerNew`: the queue of feature files.
* `cucumberFeatureRunnerRun`: the run.
-/

namespace CucumberC
open Interaction

/-! ## Sockets and output -/

/-- Text on the standard output. `puts` ends the line, and `zsysInfo` logs. -/
inductive Output
  | printf (text : String)
  | puts (text : String)
  | zsysInfo (text : String)
  deriving DecidableEq, Repr

/-- A program of the runner: it talks through the client socket and prints. -/
abbrev RunnerProg (α : Type) := Client Frame Frame Output α

def DEFAULT : String := "\x1b[0m"
def RED : String := "\x1b[31m"
def GREEN : String := "\x1b[32m"
def BLUE : String := "\x1b[34m"
def YELLOW : String := "\x1b[33m"

/-- `zmsg_popstr`: the next frame, or `NULL` after the last. -/
def zmsgPopstr (msg : Msg) : Option Frame × Msg := (msg.head?, msg.tail)

/-- `zsock_recv (client, "fss", NULL, &command, &scenario_id)` -/
def zsockRecvFss : RunnerProg (Option Frame × Option Frame) := do
  let (_, msg) ← Prog.await
  let (command, msg) := zmsgPopstr msg
  let (scenarioId, _) := zmsgPopstr msg
  pure (command, scenarioId)

/-- `zsock_recv (client, "fsss", NULL, &command, &scenario_id, &result)` -/
def zsockRecvFsss : RunnerProg (Option Frame × Option Frame × Option Frame) := do
  let (_, msg) ← Prog.await
  let (command, msg) := zmsgPopstr msg
  let (scenarioId, msg) := zmsgPopstr msg
  let (result, _) := zmsgPopstr msg
  pure (command, scenarioId, result)

/-- `assert (streq (actual, expected))` -/
def assertStreq (actual : Option Frame) (expected : Frame) : RunnerProg Unit := do
  let actual ← Prog.deref actual
  if actual = expected then pure () else .fault .assertion

/-! ## The queue of feature files -/

/-- What CZMQ tells about the file system. -/
structure FileSystem where
  zfileIsDirectory : String → Bool
  /-- The full paths of the files below a directory, in the order of `zdir_list`. -/
  zdirList : String → List String

/-- `strstr (haystack, needle) != NULL` -/
def strstr (haystack needle : String) : Bool := decide (needle.toList <:+: haystack.toList)

/-- The runner object: the files still to run, and the totals printed at the end. -/
structure CucumberFeatureRunner where
  featureFiles : CursorList String
  totalScenarios : ℕ
  totalSteps : ℕ
  deriving DecidableEq, Repr

/-- `cucumber_feature_runner_new` -/
def cucumberFeatureRunnerNew (fs : FileSystem) (fileOrDirname : String) :
    CucumberFeatureRunner :=
  let featureFiles :=
    if fs.zfileIsDirectory fileOrDirname then
      (fs.zdirList fileOrDirname).foldl
        (fun files filename => if strstr filename ".feature" then files.append filename else files)
        .new
    else CursorList.new.append fileOrDirname
  { featureFiles := featureFiles, totalScenarios := 0, totalSteps := 0 }

/-! ## Running -/

/-- The locals of `cucumber_feature_runner_run` that outlive a scenario: the verdict so
far, and the two totals of `self`. -/
structure RunState where
  isSuccessful : Bool
  totalScenarios : ℕ
  totalSteps : ℕ
  deriving DecidableEq, Repr

/-- The locals of one step: the verdict so far, and what was collected from replies. -/
structure StepState where
  isSuccessful : Bool
  successMessages : CursorList String
  failureMessages : CursorList String
  stepNotFoundCounter : ℕ
  deriving DecidableEq, Repr

/-- What `%s` prints: the string, or `(null)`, as glibc has it, where a frame that is not there
has left `NULL`. -/
def percentS (string : Option Frame) : String := string.getD "(null)"

@[simp] theorem percentS_some (string : Frame) : percentS (some string) = string := rfl

/-- The line reported for a worker that succeeded. -/
def successLine (pickleStep result : String) : String :=
  GREEN ++ "  Step: " ++ pickleStep ++ " (" ++ result ++ ")" ++ DEFAULT

/-- The line reported for a worker that failed. -/
def failureLine (pickleStep result : String) : String :=
  RED ++ "  Step: " ++ pickleStep ++ " (FAILURE)\n\t" ++ result ++ DEFAULT ++ "\n"

/-- The line reported for a step no worker knows. -/
def notFoundLine (pickleStep : String) : String :=
  RED ++ "  Step: " ++ pickleStep ++ " (NOT FOUND)" ++ DEFAULT

/-- The warning about a reply that is none of the protocol's. -/
def unknownCommandText (command : String) : String :=
  "\n\n" ++ RED ++ "(Unknown command: " ++ command ++ ")" ++ DEFAULT ++ "\n"

/-- One turn of the loops that start and end a scenario: send `command` to a worker and
check that it answers `expected` for the same scenario. -/
def askScenario (command expected scenarioId : Frame) (_ : Unit) (identity : Frame) :
    RunnerProg Unit := do
  Prog.post (identity, [command, scenarioId])
  let (answer, answerId) ← zsockRecvFss
  assertStreq answer expected
  assertStreq answerId scenarioId

/-- One turn of the loop that runs a step: send it to a worker and collect the reply. -/
def askStep (scenarioId pickleStep : Frame) (r : StepState) (identity : Frame) :
    RunnerProg StepState := do
  Prog.post (identity, ["RUN STEP", scenarioId, pickleStep])
  let (command, answerId, result) ← zsockRecvFsss
  assertStreq answerId scenarioId
  let command ← Prog.deref command
  if command = "STEP SUCCEEDED" then
    let line := successLine pickleStep (percentS result)
    pure { r with successMessages := r.successMessages.append line }
  else if command = "STEP FAILED" then
    let line := failureLine pickleStep (percentS result)
    pure { r with failureMessages := r.failureMessages.append line }
  else if command = "STEP NOT FOUND" then
    pure { r with stepNotFoundCounter := r.stepNotFoundCounter + 1 }
  else do
    Prog.output (.printf (unknownCommandText command))
    pure { r with isSuccessful := false }

/-- Print the messages of a list, one per line. -/
def putsAll (messages : CursorList String) : RunnerProg Unit :=
  forEach messages (fun _ message => Prog.output (.puts message)) ()

/-- Report a step after all workers replied, and give the verdict so far. -/
def reportStep (pickleStep : Frame) (identities : CursorList Frame) (r : StepState) :
    RunnerProg Bool :=
  if r.successMessages.size > 0 then do
    putsAll r.successMessages
    pure r.isSuccessful
  else if r.failureMessages.size > 0 then do
    putsAll r.failureMessages
    pure false
  else if r.stepNotFoundCounter = identities.size then do
    Prog.output (.puts (notFoundLine pickleStep))
    pure r.isSuccessful
  else pure r.isSuccessful

/-- The body of the loop over the steps of a pickle. -/
def runStep (identities : CursorList Frame) (scenarioId : Frame) (s : RunState)
    (pickleStep : Frame) : RunnerProg RunState := do
  let s := { s with totalSteps := s.totalSteps + 1 }
  Prog.output (.printf (BLUE ++ "  Step: " ++ pickleStep ++ DEFAULT ++ "\r"))
  let r ← forEach identities (askStep scenarioId pickleStep)
    { isSuccessful := s.isSuccessful
      successMessages := .new
      failureMessages := .new
      stepNotFoundCounter := 0 }
  let isSuccessful ← reportStep pickleStep identities r
  pure { s with isSuccessful := isSuccessful }

variable {γ : Type} (G : GherkinC γ)

/-- The body of the loop over the pickles of a feature file. `pickle_name` is the first
to look at the pickle, and asserts that there is one. -/
def runPickle (identities : CursorList Frame) (s : RunState) (pickleJson : String) :
    RunnerProg RunState := do
  let s := { s with totalScenarios := s.totalScenarios + 1 }
  match ← Prog.ofExcept (pickleNew G.cJSONParse pickleJson) with
  | none => .fault .assertion
  | some pickle => do
    Prog.output (.printf (YELLOW ++ "Scenario: " ++ pickleName pickle ++ DEFAULT ++ "\n"))
    forEach identities (askScenario "START SCENARIO" "SCENARIO STARTED" (pickleId pickle)) ()
    let (_, s) ← walk pickleNextStep (runStep identities (pickleId pickle)) pickle.steps.size
      (pickleFirstStep pickle).1 (pickleFirstStep pickle).2 s
    forEach identities (askScenario "END SCENARIO" "SCENARIO ENDED" (pickleId pickle)) ()
    Prog.output (.printf "\n")
    pure s

/-- The loop that prints the errors of an invalid document. It advances with
`zlist_first`. -/
def reportErrors (fuel : ℕ) (errors : CursorList String) : RunnerProg Unit := do
  let (_, ()) ← walk CursorList.first
    (fun _ error => Prog.output (.printf ("[ERROR] " ++ error ++ "\n"))) fuel
    errors.first.1 errors.first.2 ()
  pure ()

/-- The body of the loop over the feature files. -/
def runFile (fuel : ℕ) (identities : CursorList Frame) (s : RunState) (featureFile : String) :
    RunnerProg RunState := do
  let document := gherkinDocumentNew G featureFile
  if gherkinDocumentValid document then do
    let pickles ← Prog.ofExcept (gherkinDocumentGetPickles G document)
    forEach pickles (runPickle G identities) s
  else do
    Prog.output (.printf "Unable to parse feature file\n")
    match gherkinDocumentErrors document with
    | none => .fault .assertion
    | some errors => reportErrors fuel errors
    pure s

/-- `cucumber_feature_runner_run` -/
def cucumberFeatureRunnerRun (fuel : ℕ) (self : CucumberFeatureRunner)
    (identities : CursorList Frame) : RunnerProg (CucumberFeatureRunner × Bool) := do
  let (files, s) ← walk CursorList.pop (runFile G fuel identities) self.featureFiles.size
    self.featureFiles.pop.1 self.featureFiles.pop.2
    { isSuccessful := true, totalScenarios := self.totalScenarios, totalSteps := self.totalSteps }
  Prog.output (.printf (YELLOW ++ toString s.totalScenarios ++ " Scenarios" ++ DEFAULT ++ "\n"))
  Prog.output (.printf (YELLOW ++ toString s.totalSteps ++ " Steps" ++ DEFAULT ++ "\n"))
  pure ({ featureFiles := files, totalScenarios := s.totalScenarios, totalSteps := s.totalSteps },
    s.isSuccessful)

end CucumberC
