import CucumberC.FeatureRunner
import CucumberC.Lib.Log
import Mathlib.Data.List.Nodup

/-!
# Transcripts of a run

What workers answer is a parameter: `Workers` is any state with a function for each
kind of request. Against workers a run leaves a transcript, from which everything that
the runner prints, sends, receives and returns can be read off: one `StepLog` for each
step, with the reply of each worker; one `PickleLog` for each scenario; one `FileLog`
for each feature file.

The logs are made by the workers alone, without the runner. That the runner's own
execution is the one the logs describe is the subject of `CucumberC.Run`.

## Main definitions

* `Workers`, `Workers.respond`: workers that answer every request.
* `FileContent`, `Reads`: what a feature file contains.
* `StepLog`, `PickleLog`, `FileLog`: transcripts, with `report` and `trace`.
* `Workers.runStep`, `Workers.runPickle`, `Workers.runFile`: how workers fill them.
-/

namespace CucumberC
open Interaction

/-! ## Workers -/

/-- Workers that answer every request about a scenario. They start and end scenarios as
the protocol says; what they answer to a step is up to them. -/
structure Workers (ε : Type) where
  /-- The worker `identity` starts the scenario `id`. -/
  start : ε → Frame → Frame → ε
  /-- The worker `identity` runs the step `text` of the scenario `id`. -/
  run : ε → Frame → Frame → Frame → ε × StepReply
  /-- The worker `identity` ends the scenario `id`. -/
  stop : ε → Frame → Frame → ε

variable {ε : Type}

/-- The answer of the workers to a message of the runner. -/
def Workers.respond (w : Workers ε) (e : ε) (m : Frame × Msg) : ε × List (Frame × Msg) :=
  match Request.ofFrames m.2 with
  | some (.startScenario id) => (w.start e m.1 id, [(m.1, ["SCENARIO STARTED", id])])
  | some (.runStep id text) =>
      ((w.run e m.1 id text).1, [(m.1, (w.run e m.1 id text).2.frames id)])
  | some (.endScenario id) => (w.stop e m.1 id, [(m.1, ["SCENARIO ENDED", id])])
  | none => (e, [])

/-! ## Feature files -/

/-- What is in a feature file: pickles, or parser errors. -/
inductive FileContent
  | parsed (pickles : List CucPickle)
  | invalid (errors : List ParserError)

/-- A file whose errors are printed without end. -/
def FileContent.isStuck : FileContent → Bool
  | .parsed _ => false
  | .invalid errors => !errors.isEmpty

/-- A file the parser accepts. -/
def FileContent.isParsed : FileContent → Bool
  | .parsed _ => true
  | .invalid _ => false

/-- Files that the parser accepts do not make the runner spin. -/
theorem isStuck_of_isParsed {contents : List FileContent}
    (parsed : ∀ content ∈ contents, content.isParsed = true) :
    ∀ content ∈ contents, content.isStuck = false := by
  intro content hmem
  have h := parsed content hmem
  cases content with
  | parsed pickles => rfl
  | invalid errors => simp [FileContent.isParsed] at h

/-- The third-party functions read this content from a file: the parser accepts it, the
compiler makes pickle events of it, and each of them decodes; or the parser rejects it. -/
def Reads {γ : Type} (G : GherkinC γ) (featureFile : String) : FileContent → Prop
  | .parsed pickles => ∃ tree events, G.parserParse featureFile = .ok tree ∧
      G.compilerCompile tree = some events ∧
      List.Forall₂ (fun json pickle => pickleNew G.cJSONParse json = .ok (some pickle)) events
        pickles
  | .invalid errors => G.parserParse featureFile = .error errors

/-! ## One step -/

/-- A step of a scenario, and what each worker answered. -/
structure StepLog where
  scenarioId : Frame
  text : Frame
  replies : List (Frame × StepReply)
  deriving DecidableEq

namespace StepLog

/-- The lines collected from workers that succeeded. -/
def successLines (log : StepLog) : List String :=
  log.replies.filterMap fun r =>
    match r.2 with
    | .succeeded result => some (successLine log.text result)
    | _ => none

/-- The lines collected from workers that failed. -/
def failureLines (log : StepLog) : List String :=
  log.replies.filterMap fun r =>
    match r.2 with
    | .failed reason => some (failureLine log.text reason)
    | _ => none

/-- What is reported for the step: the successes, if there are any; else the failures, if
there are any; else that nobody knows the step, if nobody does. -/
def report (log : StepLog) : List Output :=
  if log.successLines ≠ [] then log.successLines.map .puts
  else if log.failureLines ≠ [] then log.failureLines.map .puts
  else if ∀ r ∈ log.replies, r.2.isNotFound then [.puts (notFoundLine log.text)]
  else []

/-- Whether the step clears the verdict: a worker used a command of its own, or some
failed and none succeeded. -/
def clears (log : StepLog) : Bool :=
  log.replies.any (fun r => r.2.isOther) ||
    (log.replies.any (fun r => r.2.isFailed) && !log.replies.any (fun r => r.2.isSucceeded))

/-- The warning about a command of a worker's own. -/
def warning : StepReply → List Output
  | .other command _ _ => [.printf (unknownCommandText command)]
  | _ => []

/-- The effects of asking one worker to run the step `text` of the scenario `id`. -/
def replyTrace (id text : Frame) (r : Frame × StepReply) :
    List (Event Output (Frame × Msg) (Frame × Msg)) :=
  .sent (r.1, ["RUN STEP", id, text]) ::
    .received (r.1, r.2.frames id) :: (warning r.2).map .put

/-- The effects of running the step. -/
def trace (log : StepLog) : List (Event Output (Frame × Msg) (Frame × Msg)) :=
  .put (.printf (BLUE ++ "  Step: " ++ log.text ++ DEFAULT ++ "\r")) ::
    (log.replies.flatMap (replyTrace log.scenarioId log.text) ++ log.report.map .put)

/-- What the step does to the run. -/
def apply (s : RunState) (log : StepLog) : RunState :=
  { s with isSuccessful := s.isSuccessful && !log.clears, totalSteps := s.totalSteps + 1 }

end StepLog

/-! ## Scenarios and files -/

/-- A scenario and its steps. -/
structure PickleLog where
  pickle : CucPickle
  steps : List StepLog

/-- The effects of starting or ending the scenario `id` at one worker. -/
def askTrace (command answer id identity : Frame) :
    List (Event Output (Frame × Msg) (Frame × Msg)) :=
  [.sent (identity, [command, id]), .received (identity, [answer, id])]

/-- The effects of running a scenario at the workers `ids`. -/
def PickleLog.trace (ids : List Frame) (log : PickleLog) :
    List (Event Output (Frame × Msg) (Frame × Msg)) :=
  .put (.printf (YELLOW ++ "Scenario: " ++ pickleName log.pickle ++ DEFAULT ++ "\n")) ::
    (ids.flatMap (askTrace "START SCENARIO" "SCENARIO STARTED" (pickleId log.pickle)) ++
      (log.steps.flatMap StepLog.trace ++
        (ids.flatMap (askTrace "END SCENARIO" "SCENARIO ENDED" (pickleId log.pickle)) ++
          [.put (.printf "\n")])))

/-- The requests the runner makes for a scenario, with the workers they go to. -/
def PickleLog.requests (ids : List Frame) (log : PickleLog) : List (Frame × Request) :=
  ids.map (fun i => (i, .startScenario (pickleId log.pickle))) ++
    (log.steps.flatMap (fun step =>
        step.replies.map fun r => (r.1, .runStep step.scenarioId step.text)) ++
      ids.map fun i => (i, .endScenario (pickleId log.pickle)))

/-- What the scenario does to the run. -/
def PickleLog.apply (s : RunState) (log : PickleLog) : RunState :=
  log.steps.foldl StepLog.apply { s with totalScenarios := s.totalScenarios + 1 }

/-- A feature file: its scenarios, or that it could not be parsed. -/
inductive FileLog
  | parsed (pickles : List PickleLog)
  | invalid

/-- The scenarios of a file that were run. -/
def FileLog.pickles : FileLog → List PickleLog
  | .parsed pickles => pickles
  | .invalid => []

/-- The effects of running a file at the workers `ids`. -/
def FileLog.trace (ids : List Frame) : FileLog → List (Event Output (Frame × Msg) (Frame × Msg))
  | .parsed pickles => pickles.flatMap (PickleLog.trace ids)
  | .invalid => [.put (.printf "Unable to parse feature file\n")]

/-- What the file does to the run. -/
def FileLog.apply (s : RunState) (log : FileLog) : RunState := log.pickles.foldl PickleLog.apply s

/-! ## How workers fill the logs -/

namespace Workers
variable (w : Workers ε) (ids : List Frame)

/-- One worker is asked to run a step. -/
def runOne (id text : Frame) (e : ε) (identity : Frame) : ε × (Frame × StepReply) :=
  ((w.run e identity id text).1, (identity, (w.run e identity id text).2))

/-- All workers are asked to run a step. -/
def runStep (id : Frame) (e : ε) (text : Frame) : ε × StepLog :=
  ((logEach (w.runOne id text) e ids).1, ⟨id, text, (logEach (w.runOne id text) e ids).2⟩)

/-- All workers start a scenario. -/
def startAll (id : Frame) (e : ε) : ε := ids.foldl (fun e identity => w.start e identity id) e

/-- All workers end a scenario. -/
def stopAll (id : Frame) (e : ε) : ε := ids.foldl (fun e identity => w.stop e identity id) e

/-- A scenario is started, its steps are run, and it is ended. -/
def runPickle (e : ε) (pickle : CucPickle) : ε × PickleLog :=
  let ran := logEach (w.runStep ids (pickleId pickle)) (w.startAll ids (pickleId pickle) e)
    pickle.texts
  (w.stopAll ids (pickleId pickle) ran.1, ⟨pickle, ran.2⟩)

/-- The scenarios of a file are run. -/
def runFile (e : ε) : FileContent → ε × FileLog
  | .parsed pickles =>
      ((logEach (w.runPickle ids) e pickles).1, .parsed (logEach (w.runPickle ids) e pickles).2)
  | .invalid _ => (e, .invalid)

end Workers

/-! ## What every transcript of workers is like -/

/-- A transcript of a scenario at the workers `ids`: its steps are those of the pickle, in
order, under the scenario's id, and every worker replied to each of them. -/
structure PickleLog.Complete (ids : List Frame) (log : PickleLog) : Prop where
  texts : log.steps.map StepLog.text = log.pickle.texts
  scenarioId : ∀ step ∈ log.steps, step.scenarioId = pickleId log.pickle
  replies : ∀ step ∈ log.steps, step.replies.map Prod.fst = ids

theorem Workers.complete_runPickle (w : Workers ε) (ids : List Frame) (e : ε)
    (pickle : CucPickle) : (w.runPickle ids e pickle).2.Complete ids where
  texts := by
    have h := map_logEach (w.runStep ids (pickleId pickle)) StepLog.text (fun text => text)
      (fun _ _ => rfl) (w.startAll ids (pickleId pickle) e) pickle.texts
    rw [List.map_id'] at h
    exact h
  scenarioId := by
    intro step hstep
    obtain ⟨e', text, -, rfl⟩ := mem_logEach _ hstep
    rfl
  replies := by
    intro step hstep
    obtain ⟨e', text, -, rfl⟩ := mem_logEach _ hstep
    have h := map_logEach (w.runOne (pickleId pickle) text) Prod.fst (fun i => i)
      (fun _ _ => rfl) e' ids
    rw [List.map_id'] at h
    exact h

/-- Every scenario of a run is one of a file's pickles, and its transcript is complete. -/
theorem Workers.mem_scenarios (w : Workers ε) (ids : List Frame) {e : ε}
    {contents : List FileContent} {log : PickleLog}
    (h : log ∈ (logEach (w.runFile ids) e contents).2.flatMap FileLog.pickles) :
    log.Complete ids ∧ ∃ pickles, .parsed pickles ∈ contents ∧ log.pickle ∈ pickles := by
  obtain ⟨file, hfile, hlog⟩ := List.mem_flatMap.mp h
  obtain ⟨e', content, hcontent, rfl⟩ := mem_logEach _ hfile
  cases content with
  | invalid errors => simp [runFile, FileLog.pickles] at hlog
  | parsed pickles =>
    obtain ⟨e'', pickle, hpickle, rfl⟩ := mem_logEach _ hlog
    exact ⟨w.complete_runPickle ids e'' pickle, pickles, hcontent, hpickle⟩

/-! ### The requests of a transcript -/

theorem sentIn_askTrace (ids : List Frame) (command answer id : Frame) :
    sentIn (ids.flatMap (askTrace command answer id)) = ids.map fun i => (i, [command, id]) := by
  rw [sentIn_flatMap, List.map_eq_flatMap]
  rfl

theorem sentIn_stepTrace (log : StepLog) :
    sentIn log.trace = log.replies.map fun r => (r.1, ["RUN STEP", log.scenarioId, log.text]) := by
  have hone : ∀ r, sentIn (StepLog.replyTrace log.scenarioId log.text r) =
      [(r.1, ["RUN STEP", log.scenarioId, log.text])] := by
    intro r
    have h : StepLog.replyTrace log.scenarioId log.text r =
        [.sent (r.1, ["RUN STEP", log.scenarioId, log.text]),
          .received (r.1, r.2.frames log.scenarioId)] ++ (StepLog.warning r.2).map .put := rfl
    rw [h, sentIn_append, sentIn_put]
    rfl
  rw [StepLog.trace, sentIn_put_cons, sentIn_append, sentIn_put, List.append_nil, sentIn_flatMap,
    List.map_eq_flatMap]
  exact List.flatMap_congr fun r _ => hone r

/-- **The messages of a scenario** are its requests, in order. -/
theorem sentIn_pickleTrace (ids : List Frame) (log : PickleLog) :
    sentIn (log.trace ids) = (log.requests ids).map fun r => (r.1, r.2.frames) := by
  have hsteps : sentIn (log.steps.flatMap StepLog.trace) =
      (log.steps.flatMap fun step => step.replies.map fun r =>
        (r.1, Request.runStep step.scenarioId step.text)).map fun r => (r.1, r.2.frames) := by
    rw [sentIn_flatMap, List.map_flatMap]
    refine List.flatMap_congr ?_
    intro step _
    rw [sentIn_stepTrace, List.map_map]
    rfl
  rw [PickleLog.trace, sentIn_put_cons, sentIn_append, sentIn_append, sentIn_append, hsteps,
    sentIn_askTrace, sentIn_askTrace, PickleLog.requests, List.map_append, List.map_append,
    List.map_map, List.map_map, sentIn_put_cons, sentIn_nil, List.append_nil]
  rfl

/-- Every request of a complete transcript carries the scenario's id. -/
theorem PickleLog.Complete.scenarioId_request {ids : List Frame} {log : PickleLog}
    (h : log.Complete ids) {r : Frame × Request} (hr : r ∈ log.requests ids) :
    r.2.scenarioId = pickleId log.pickle := by
  simp only [requests, List.mem_append, List.mem_map, List.mem_flatMap] at hr
  rcases hr with ⟨i, -, rfl⟩ | ⟨step, hstep, reply, -, rfl⟩ | ⟨i, -, rfl⟩
  · rfl
  · exact h.scenarioId step hstep
  · rfl

/-! ### The messages to one worker -/

/-- The requests a worker gets for a scenario: it is started, its steps are run one after
another, and it is ended. -/
def pickleRequests (pickle : CucPickle) : List Request :=
  .startScenario (pickleId pickle) ::
    (pickle.texts.map (.runStep (pickleId pickle)) ++ [.endScenario (pickleId pickle)])

/-- The scenarios of a feature file. -/
def FileContent.pickles : FileContent → List CucPickle
  | .parsed pickles => pickles
  | .invalid _ => []

/-- The requests a worker gets for a feature file. -/
def FileContent.requests (content : FileContent) : List Request :=
  content.pickles.flatMap pickleRequests

/-- What the runner takes in a transcript are answers to requests. -/
theorem received_files {P : Msg → Prop} (started : ∀ id, P ["SCENARIO STARTED", id])
    (ended : ∀ id, P ["SCENARIO ENDED", id])
    (replied : ∀ (reply : StepReply) id, P (reply.frames id)) (ids : List Frame)
    (logs : List FileLog) :
    ∀ x, .received x ∈ logs.flatMap (FileLog.trace ids) → P x.2 := by
  intro x hx
  have asked : ∀ command answer id, P [answer, id] →
      .received x ∈ ids.flatMap (askTrace command answer id) → P x.2 := by
    intro command answer id hanswer hx
    obtain ⟨i, -, hx⟩ := List.mem_flatMap.mp hx
    obtain rfl : x = (i, [answer, id]) := by simpa [askTrace] using hx
    exact hanswer
  obtain ⟨file, -, hx⟩ := List.mem_flatMap.mp hx
  cases file with
  | invalid => simp [FileLog.trace] at hx
  | parsed logs =>
    obtain ⟨log, -, hx⟩ := List.mem_flatMap.mp hx
    simp only [PickleLog.trace, List.mem_cons, List.mem_append, reduceCtorEq, false_or,
      List.not_mem_nil, or_false] at hx
    rcases hx with hx | hx | hx
    · exact asked _ _ _ (started _) hx
    · obtain ⟨step, -, hx⟩ := List.mem_flatMap.mp hx
      simp only [StepLog.trace, List.mem_cons, List.mem_append, List.mem_map, reduceCtorEq,
        and_false, exists_false, false_or, or_false] at hx
      obtain ⟨reply, -, hx⟩ := List.mem_flatMap.mp hx
      obtain rfl : x = (reply.1, reply.2.frames step.scenarioId) := by
        simpa [StepLog.replyTrace] using hx
      exact replied reply.2 step.scenarioId
    · exact asked _ _ _ (ended _) hx

theorem sentTo_eq (i : Frame) (t : List (Event Output (Frame × Msg) (Frame × Msg))) :
    sentTo i t = (sentIn t).filterMap fun m => if m.1 = i then some m.2 else none := by
  rw [sentTo, sentIn, List.filterMap_filterMap]
  congr 1
  funext event
  cases event <;> rfl

theorem sentTo_put (i : Frame) (os : List Output) :
    sentTo i (os.map .put : List (Event Output (Frame × Msg) (Frame × Msg))) = [] := by
  rw [sentTo_eq, sentIn_put, List.filterMap_nil]

/-- The steps of a transcript, in order. -/
def stepsOf (logs : List FileLog) : List StepLog :=
  logs.flatMap fun file => file.pickles.flatMap PickleLog.steps

/-- The state of the run after a transcript. -/
def afterFiles (s : RunState) (logs : List FileLog) : RunState := logs.foldl FileLog.apply s

theorem foldl_stepApply (s : RunState) (steps : List StepLog) :
    steps.foldl StepLog.apply s =
      { s with
        isSuccessful := s.isSuccessful && !steps.any StepLog.clears
        totalSteps := s.totalSteps + steps.length } := by
  induction steps generalizing s with
  | nil => simp
  | cons step steps ih =>
    rw [List.foldl_cons, ih]
    simp [StepLog.apply, Bool.and_assoc]
    omega

theorem foldl_pickleApply (s : RunState) (pickles : List PickleLog) :
    pickles.foldl PickleLog.apply s =
      { isSuccessful := s.isSuccessful && !(pickles.flatMap PickleLog.steps).any StepLog.clears
        totalScenarios := s.totalScenarios + pickles.length
        totalSteps := s.totalSteps + (pickles.flatMap PickleLog.steps).length } := by
  induction pickles generalizing s with
  | nil => simp
  | cons pickle pickles ih =>
    rw [List.foldl_cons, ih]
    simp [PickleLog.apply, foldl_stepApply, Bool.and_assoc, Nat.add_assoc]
    omega

/-- **The state after a transcript.** The verdict is cleared if one of the steps clears it,
and the totals grow by the scenarios and the steps that were run. -/
theorem afterFiles_eq (s : RunState) (logs : List FileLog) :
    afterFiles s logs =
      { isSuccessful := s.isSuccessful && !(stepsOf logs).any StepLog.clears
        totalScenarios := s.totalScenarios + (logs.flatMap FileLog.pickles).length
        totalSteps := s.totalSteps + (stepsOf logs).length } := by
  induction logs generalizing s with
  | nil => simp [afterFiles, stepsOf]
  | cons log logs ih =>
    have hcons : afterFiles s (log :: logs) = afterFiles (log.apply s) logs := rfl
    rw [hcons, ih]
    simp [FileLog.apply, foldl_pickleApply, stepsOf, Bool.and_assoc, Nat.add_assoc]

/-! ## Totals -/

end CucumberC
