import CucumberC.Completion
import CucumberC.StepVerdict
import CucumberC.Lib.Family

/-!
# What a run means

The purpose of all the sockets is to run scenarios against step definitions. Here this is
said without sockets, actors and cursors: a worker sets up a stage for each scenario, plays
its steps on it one after another, and takes it down. A step plays the first definition
that matches, and succeeds unless a reason for a failure was set for that definition.

Workers share nothing, so what each of them answers in a run is what it would answer
alone, and the verdict of the run is told by these answers: it is positive if every step
that fails at some worker succeeds at another. Every interleaving of the runner and its
actors that begins with nothing in flight leads to this verdict.

## Main definitions

* `Stage`, `Stage.play`, `playScenario`, `playAll`: one worker, without the machinery.
* `Plays`, `Waits`: an actor in a scenario, and one between scenarios.
* `run_meaning`: the verdict of every interleaving.
-/

namespace CucumberC
open Interaction

/-! ## One worker -/

/-- A scenario at one worker: the globals of the user's code, the content of the state
object, and the step definitions, each with the last reason that was set for it. -/
structure Stage (υ σ : Type) where
  globals : υ
  content : Option σ
  stepDefs : List (CucumberStepDef υ σ)

section Worker
variable {υ σ : Type} (zrexMatches : String → String → Option (List String))
  (args : CucumberStepsArgs υ σ) (verbose : Bool)

/-- Play a step: the first definition that matches is called. -/
def Stage.play (stage : Stage υ σ) (text : Frame) : Stage υ σ × StepReply :=
  match stage.stepDefs.findIdx? (CucumberStepDef.isMatch zrexMatches text) with
  | none => (stage, .notFound)
  | some k =>
    match stage.stepDefs[k]? with
    | none => (stage, .notFound)
    | some d =>
      let d := d.recapture zrexMatches text
      let effect := d.step stage.globals d.view stage.content
      let reason := effect.reasons.getLast?.getD d.failedStr
      ({ globals := effect.globals
         content := stage.content.map effect.update
         stepDefs := stage.stepDefs.set k { d with failedStr := reason } }, replyOf reason)

/-- The globals and the content of the state object, after the constructor. -/
def construct (globals : υ) : υ × Option σ :=
  match args.stateConstructor with
  | none => (globals, none)
  | some construct => construct globals verbose

/-- Set up the stage of a scenario. -/
def setUp (globals : υ) : Stage υ σ where
  globals := (args.registerStepDefs (construct args verbose globals).1
    (construct args verbose globals).2).1
  content := (construct args verbose globals).2
  stepDefs := (args.registerStepDefs (construct args verbose globals).1
    (construct args verbose globals).2).2.map
      fun stepDef => cucumberStepDefNew stepDef.1 stepDef.2

/-- Take the stage down. -/
def tearDown (stage : Stage υ σ) : υ :=
  match args.stateDestructor with
  | none => stage.globals
  | some destruct => destruct stage.globals stage.content

/-- Play a scenario: the globals afterwards, and the reply to each step. -/
def playScenario (globals : υ) (pickle : CucPickle) : υ × List StepReply :=
  let played := logEach (Stage.play zrexMatches) (setUp args verbose globals) pickle.texts
  (tearDown args played.1, played.2)

/-- Play scenarios one after another. -/
def playAll (globals : υ) (pickles : List CucPickle) : υ × List (List StepReply) :=
  logEach (playScenario zrexMatches args verbose) globals pickles

/-- No definition answers with a command of its own. -/
theorem isOther_play (stage : Stage υ σ) (text : Frame) :
    (stage.play zrexMatches text).2.isOther = false := by
  unfold Stage.play
  split
  · rfl
  · split
    · rfl
    · dsimp only
      unfold replyOf
      split <;> rfl

/-! ## Actors play -/

/-- An actor in the scenario whose stage this is. -/
structure Plays (actor : CucumberSteps υ σ) (cucumber : Cucumber υ σ) (stage : Stage υ σ) :
    Prop where
  opened : actor.cucumber = some cucumber
  verbose_eq : actor.verbose = verbose
  globals : actor.globals = stage.globals
  content : cucumber.state.map StateObject.content = stage.content
  stepDefs : cucumber.stepDefs.items = stage.stepDefs
  destructor : cucumber.stateDestructor = args.stateDestructor

/-- An actor that has no scenario. -/
structure Waits (actor : CucumberSteps υ σ) (globals : υ) : Prop where
  closed : actor.cucumber = none
  verbose_eq : actor.verbose = verbose
  globals : actor.globals = globals

variable {zrexMatches args verbose} {actor : CucumberSteps υ σ}

/-- Apart from the object that holds the content, the actor constructs the same. -/
theorem constructState_eq (args : CucumberStepsArgs υ σ) (actor : CucumberSteps υ σ) :
    (constructState args actor).1.verbose = actor.verbose ∧
      ((constructState args actor).1.globals,
        (constructState args actor).2.1.map StateObject.content) =
      construct args actor.verbose actor.globals := by
  unfold constructState construct
  cases args.stateConstructor with
  | none => exact ⟨rfl, rfl⟩
  | some construct =>
    dsimp only
    rcases construct actor.globals actor.verbose with ⟨globals, _ | content⟩ <;> exact ⟨rfl, rfl⟩

/-- `START SCENARIO` sets up the stage. -/
theorem Waits.startScenario (args : CucumberStepsArgs υ σ) {globals : υ}
    (h : Waits verbose actor globals) :
    ∃ cucumber, Plays args verbose (startScenario args actor).1 cucumber
      (setUp args verbose globals) := by
  obtain ⟨hverbose, hmade⟩ := constructState_eq args actor
  rw [h.verbose_eq, h.globals, Prod.ext_iff] at hmade
  obtain ⟨hglobals, hcontent⟩ := hmade
  dsimp only at hglobals hcontent
  rw [startScenario_eq]
  unfold CucumberSteps.registered setUp
  rw [← hglobals, ← hcontent]
  exact ⟨_, rfl, hverbose.trans h.verbose_eq, rfl, rfl, rfl, rfl⟩

/-- `RUN STEP` plays a step. -/
theorem Plays.runStepDef (zrexMatches : String → String → Option (List String))
    {cucumber : Cucumber υ σ} {stage : Stage υ σ}
    (h : Plays args verbose actor cucumber stage) (text : Frame) :
    (∃ cucumber', Plays args verbose (runStepDef zrexMatches actor cucumber text).1 cucumber'
      (stage.play zrexMatches text).1) ∧
      (runStepDef zrexMatches actor cucumber text).2.2 = (stage.play zrexMatches text).2 := by
  unfold Stage.play
  rw [← h.stepDefs]
  cases hfind : cucumber.stepDefs.items.findIdx? (CucumberStepDef.isMatch zrexMatches text) with
  | none =>
    rw [runStepDef_notFound zrexMatches actor cucumber hfind]
    exact ⟨⟨_, rfl, h.verbose_eq, h.globals, h.content, h.stepDefs, h.destructor⟩, rfl⟩
  | some k =>
    obtain ⟨hk, -⟩ := List.findIdx?_eq_some_iff_getElem.mp hfind
    have hd := List.getElem?_eq_getElem hk
    have hfound := runStepDef_found zrexMatches actor cucumber hfind hd
    simp only [hd]
    dsimp only at hfound
    rw [hfound, h.globals, h.content, failedStr_recapture]
    refine ⟨⟨_, rfl, h.verbose_eq, rfl, ?_, rfl, h.destructor⟩, rfl⟩
    rw [← h.content, Option.map_map, Option.map_map]
    rfl

/-- `END SCENARIO` takes the stage down. -/
theorem Plays.cucumberDestroy {cucumber : Cucumber υ σ} {stage : Stage υ σ}
    (h : Plays args verbose actor cucumber stage) :
    Waits verbose (cucumberDestroy actor).1 (tearDown args stage) := by
  unfold CucumberC.cucumberDestroy tearDown
  rw [h.opened]
  simp only [h.destructor]
  cases args.stateDestructor with
  | none => exact ⟨rfl, h.verbose_eq, h.globals⟩
  | some destruct =>
    refine ⟨rfl, h.verbose_eq, ?_⟩
    dsimp only
    rw [h.globals, h.content]

end Worker

/-! ## Workers share nothing -/

section Workers
variable {υ σ : Type} {zrexMatches : String → String → Option (List String)}
  {args : Frame → CucumberStepsArgs υ σ} {verbose : Frame → Bool} {ids : List Frame}
  {e : Frame → Option (CucumberSteps υ σ)}

/-- The actor at a seat plays on this stage. -/
def OnStage (args : CucumberStepsArgs υ σ) (verbose : Bool) (stage : Stage υ σ)
    (seat : Option (CucumberSteps υ σ)) : Prop :=
  ∃ actor cucumber, seat = some actor ∧ Plays args verbose actor cucumber stage

/-- The actor at a seat waits for a scenario, with these globals. -/
def OffStage (verbose : Bool) (globals : υ) (seat : Option (CucumberSteps υ σ)) : Prop :=
  ∃ actor, seat = some actor ∧ Waits verbose actor globals

/-- Every listed actor plays on a stage of its own. -/
def OnStages (args : Frame → CucumberStepsArgs υ σ) (verbose : Frame → Bool) (ids : List Frame)
    (e : Frame → Option (CucumberSteps υ σ)) (stages : Frame → Stage υ σ) : Prop :=
  ∀ i ∈ ids, OnStage (args i) (verbose i) (stages i) (e i)

/-- Every listed actor waits. -/
def OffStages (verbose : Frame → Bool) (ids : List Frame)
    (e : Frame → Option (CucumberSteps υ σ)) (worlds : Frame → υ) : Prop :=
  ∀ i ∈ ids, OffStage (verbose i) (worlds i) (e i)

/-- Every listed actor sets up its stage. -/
theorem OffStages.startAll {worlds : Frame → υ} (waits : OffStages verbose ids e worlds)
    (distinct : ids.Nodup) (id : Frame) :
    OnStages args verbose ids ((actorWorkers zrexMatches args).startAll ids id e)
      fun i => setUp (args i) (verbose i) (worlds i) := by
  refine foldl_distinct (P := fun i => OffStage (verbose i) (worlds i))
    (Q := fun i => OnStage (args i) (verbose i) (setUp (args i) (verbose i) (worlds i)))
    (fun e i j hji => Function.update_of_ne hji _ _) distinct ?_ waits
  rintro e i - ⟨actor, hactor, h⟩
  obtain ⟨cucumber, hplays⟩ := h.startScenario (args i)
  exact ⟨_, cucumber, by simp [actorWorkers, hactor], hplays⟩

/-- Every listed actor plays the step on its own stage, and that is all the runner is told. -/
theorem OnStages.runStep {stages : Frame → Stage υ σ} (plays : OnStages args verbose ids e stages)
    (distinct : ids.Nodup) (id text : Frame) :
    OnStages args verbose ids ((actorWorkers zrexMatches args).runStep ids id e text).1
        (fun i => ((stages i).play zrexMatches text).1) ∧
      ((actorWorkers zrexMatches args).runStep ids id e text).2.replies =
        ids.map fun i => (i, ((stages i).play zrexMatches text).2) := by
  refine logEach_distinct (f := (actorWorkers zrexMatches args).runOne id text)
    (P := fun i => OnStage (args i) (verbose i) (stages i))
    (Q := fun i => OnStage (args i) (verbose i) ((stages i).play zrexMatches text).1)
    (fun e i j hji => ?_) distinct (fun e i _ => ?_) plays
  · unfold Workers.runOne actorWorkers
    dsimp only
    split
    · rfl
    · split
      · rfl
      · exact Function.update_of_ne hji _ _
  · rintro ⟨actor, cucumber, hactor, h⟩
    obtain ⟨⟨cucumber', hplays⟩, hreply⟩ := h.runStepDef zrexMatches text
    have hrun : (actorWorkers zrexMatches args).runOne id text e i =
        (Function.update e i (some (runStepDef zrexMatches actor cucumber text).1),
          (i, (runStepDef zrexMatches actor cucumber text).2.2)) := by
      simp [Workers.runOne, actorWorkers, hactor, h.opened]
    rw [hrun, hreply]
    exact ⟨⟨_, cucumber', Function.update_self .., hplays⟩, rfl⟩

/-- Every listed actor takes its stage down. -/
theorem OnStages.stopAll {stages : Frame → Stage υ σ} (plays : OnStages args verbose ids e stages)
    (distinct : ids.Nodup) (id : Frame) :
    OffStages verbose ids ((actorWorkers zrexMatches args).stopAll ids id e)
      fun i => tearDown (args i) (stages i) := by
  refine foldl_distinct (P := fun i => OnStage (args i) (verbose i) (stages i))
    (Q := fun i => OffStage (verbose i) (tearDown (args i) (stages i)))
    (fun e i j hji => Function.update_of_ne hji _ _) distinct ?_ plays
  rintro e i - ⟨actor, cucumber, hactor, h⟩
  exact ⟨_, by simp [actorWorkers, hactor], h.cucumberDestroy⟩

/-! ## What is answered -/

/-- These are the replies to the steps of a transcript: each row of it has the replies of
all workers to one step, and each column what one of them answers. -/
def Answers (ids : List Frame) (steps : List StepLog) (answers : Frame → List StepReply) : Prop :=
  ∃ rows : List (Frame → StepReply),
    List.Forall₂ (fun step row => step.replies = ids.map fun i => (i, row i)) steps rows ∧
      ∀ i, rows.map (fun row => row i) = answers i

/-- The columns of scenarios one below the other. -/
theorem answers_flatMap {logs : List PickleLog} {columns : List (Frame → List StepReply)}
    (h : List.Forall₂ (fun log => Answers ids log.steps) logs columns) :
    Answers ids (logs.flatMap PickleLog.steps)
      fun i => (columns.map fun column => column i).flatten := by
  induction h with
  | nil => exact ⟨[], .nil, fun i => rfl⟩
  | cons head _ ih =>
    obtain ⟨rows, hrows, hcolumns⟩ := head
    obtain ⟨rows', hrows', hcolumns'⟩ := ih
    refine ⟨rows ++ rows', List.rel_append hrows hrows', fun i => ?_⟩
    rw [List.map_append, hcolumns, hcolumns']
    rfl

/-- A scenario at all workers is a scenario at each of them. -/
theorem OffStages.runPickle {worlds : Frame → υ} (waits : OffStages verbose ids e worlds)
    (distinct : ids.Nodup) (pickle : CucPickle) :
    let played i := playScenario zrexMatches (args i) (verbose i) (worlds i) pickle
    OffStages verbose ids ((actorWorkers zrexMatches args).runPickle ids e pickle).1
        (fun i => (played i).1) ∧
      Answers ids ((actorWorkers zrexMatches args).runPickle ids e pickle).2.steps
        fun i => (played i).2 := by
  intro played
  let workers := actorWorkers zrexMatches args
  have turn : ∀ e stages text, text ∈ pickle.texts → OnStages args verbose ids e stages →
      OnStages args verbose ids (workers.runStep ids (pickleId pickle) e text).1
          (together (fun _ => Stage.play zrexMatches) stages text).1 ∧
        (workers.runStep ids (pickleId pickle) e text).2.replies =
          ids.map fun i => (i, (together (fun _ => Stage.play zrexMatches) stages text).2 i) :=
    fun _ _ text _ plays => plays.runStep distinct (pickleId pickle) text
  have hstart : OnStages args verbose ids (workers.startAll ids (pickleId pickle) e)
      fun i => setUp (args i) (verbose i) (worlds i) := waits.startAll distinct (pickleId pickle)
  obtain ⟨hlast, hrows⟩ := logEach_related (workers.runStep ids (pickleId pickle))
    (Q := fun step (row : Frame → StepReply) => step.replies = ids.map fun i => (i, row i))
    turn hstart
  have halone := logEach_together (fun _ : Frame => Stage.play zrexMatches)
    (fun i => setUp (args i) (verbose i) (worlds i)) pickle.texts
  refine ⟨?_, _, hrows, fun i => (halone i).2⟩
  have hstop : OffStages verbose ids (workers.stopAll ids (pickleId pickle) _) _ :=
    hlast.stopAll distinct (pickleId pickle)
  simp only [(halone _).1] at hstop
  exact hstop

/-- Scenarios at all workers are scenarios at each of them. -/
theorem OffStages.runPickles {worlds : Frame → υ} (waits : OffStages verbose ids e worlds)
    (zrexMatches : String → String → Option (List String)) (args : Frame → CucumberStepsArgs υ σ)
    (distinct : ids.Nodup) (pickles : List CucPickle) :
    let played i := playAll zrexMatches (args i) (verbose i) (worlds i) pickles
    let logged := logEach ((actorWorkers zrexMatches args).runPickle ids) e pickles
    OffStages verbose ids logged.1 (fun i => (played i).1) ∧
      Answers ids (logged.2.flatMap PickleLog.steps) fun i => (played i).2.flatten := by
  intro played logged
  let workers := actorWorkers zrexMatches args
  let machine i := playScenario zrexMatches (args i) (verbose i)
  have turn : ∀ e worlds pickle, pickle ∈ pickles → OffStages verbose ids e worlds →
      OffStages verbose ids (workers.runPickle ids e pickle).1
          (together machine worlds pickle).1 ∧
        Answers ids (workers.runPickle ids e pickle).2.steps
          (together machine worlds pickle).2 :=
    fun _ _ pickle _ waits => waits.runPickle distinct pickle
  obtain ⟨hlast, hcolumns⟩ := logEach_related (workers.runPickle ids)
    (Q := fun log (column : Frame → List StepReply) => Answers ids log.steps column) turn waits
  have halone := logEach_together machine worlds pickles
  have hanswers := answers_flatMap hcolumns
  simp only [(halone _).2] at hanswers
  refine ⟨?_, hanswers⟩
  intro i hi
  have h := hlast i hi
  rw [(halone i).1] at h
  exact h

/-- The scenarios of files are run as if there were no files. -/
theorem runFiles_eq {ε : Type} (ids : List Frame) (w : Workers ε) (e : ε)
    (contents : List FileContent) :
    let logged := logEach (w.runPickle ids) e (contents.flatMap FileContent.pickles)
    (logEach (w.runFile ids) e contents).1 = logged.1 ∧
      stepsOf (logEach (w.runFile ids) e contents).2 = logged.2.flatMap PickleLog.steps := by
  induction contents generalizing e with
  | nil => exact ⟨rfl, rfl⟩
  | cons content contents ih =>
    obtain ⟨hlast, hsteps⟩ := ih (w.runFile ids e content).1
    cases content with
    | invalid errors => exact ⟨hlast, hsteps⟩
    | parsed pickles =>
      rw [List.flatMap_cons, logEach_append]
      refine ⟨hlast, ?_⟩
      rw [List.flatMap_append]
      exact congrArg ((logEach (w.runPickle ids) e pickles).2.flatMap PickleLog.steps ++ ·) hsteps

end Workers

/-! ## The verdict -/

/-- Every step that fails at one of the workers succeeds at one of them. -/
def FailuresCovered (ids : List Frame) (answers : Frame → List StepReply) : Prop :=
  ∀ (k : ℕ), ∀ i ∈ ids, ∀ reason, (answers i)[k]? = some (.failed reason) →
    ∃ j ∈ ids, ∃ result, (answers j)[k]? = some (.succeeded result)

theorem isFailed_iff (reply : StepReply) :
    reply.isFailed = true ↔ ∃ reason, reply = .failed reason := by
  cases reply <;> simp [StepReply.isFailed]

theorem isSucceeded_iff (reply : StepReply) :
    reply.isSucceeded = true ↔ ∃ result, reply = .succeeded result := by
  cases reply <;> simp [StepReply.isSucceeded]

/-- A step at which each worker answers what the row says. -/
theorem clears_row_iff {ids : List Frame} {step : StepLog} {row : Frame → StepReply}
    (h : step.replies = ids.map fun i => (i, row i))
    (known : ∀ i ∈ ids, (row i).isOther = false) :
    step.clears = false ↔ ∀ i ∈ ids, ∀ reason, row i = .failed reason →
      ∃ j ∈ ids, ∃ result, row j = .succeeded result := by
  have hother : (ids.any fun i => (row i).isOther) = false := by
    rw [List.any_eq_false]
    intro i hi
    simp [known i hi]
  have hany : ∀ p : StepReply → Bool,
      (step.replies.any fun r => p r.2) = ids.any fun i => p (row i) := by
    intro p
    rw [h, List.any_map]
    rfl
  rw [StepLog.clears, hany StepReply.isOther, hany StepReply.isFailed, hany StepReply.isSucceeded,
    hother, Bool.false_or, Bool.and_eq_false_imp, Bool.not_eq_false']
  simp only [List.any_eq_true, isFailed_iff, isSucceeded_iff, forall_exists_index, and_imp]

/-- The verdict of a transcript is decided by what the workers answer. -/
theorem Answers.verdictOf_iff {ids : List Frame} {logs : List FileLog}
    {answers : Frame → List StepReply} (h : Answers ids (stepsOf logs) answers)
    (known : ∀ i ∈ ids, ∀ reply ∈ answers i, reply.isOther = false) :
    verdictOf logs = true ↔ FailuresCovered ids answers := by
  obtain ⟨rows, hrows, hcolumns⟩ := h
  have hanswer : ∀ i (k : ℕ) reply,
      (answers i)[k]? = some reply ↔ ∃ row, rows[k]? = some row ∧ row i = reply := by
    intro i k reply
    rw [← hcolumns i, List.getElem?_map, Option.map_eq_some_iff]
  have hknown : ∀ row ∈ rows, ∀ i ∈ ids, (row i).isOther = false := by
    intro row hrow i hi
    refine known i hi _ ?_
    rw [← hcolumns i]
    exact List.mem_map_of_mem hrow
  have hclears : (stepsOf logs).any StepLog.clears = false ↔
      ∀ row ∈ rows, ∀ i ∈ ids, ∀ reason, row i = .failed reason →
        ∃ j ∈ ids, ∃ result, row j = .succeeded result := by
    generalize stepsOf logs = steps at hrows
    clear hcolumns hanswer
    induction hrows with
    | nil => simp
    | @cons step row steps rows hstep _ ih =>
      rw [List.any_cons, Bool.or_eq_false_iff, List.forall_mem_cons,
        clears_row_iff hstep (hknown row (by simp)),
        ih fun row' hrow' => hknown row' (List.mem_cons_of_mem _ hrow')]
  rw [verdictOf, Bool.not_eq_true', hclears]
  constructor
  · intro hcovered k i hi reason hfailed
    obtain ⟨row, hrow, hreason⟩ := (hanswer i k _).mp hfailed
    obtain ⟨j, hj, result, hresult⟩ :=
      hcovered row (List.mem_of_getElem? hrow) i hi reason hreason
    exact ⟨j, hj, result, (hanswer j k _).mpr ⟨row, hrow, hresult⟩⟩
  · intro hcovered row hmem i hi reason hreason
    obtain ⟨k, hrow⟩ := List.mem_iff_getElem?.mp hmem
    obtain ⟨j, hj, result, hresult⟩ :=
      hcovered k i hi reason ((hanswer i k _).mpr ⟨row, hrow, hreason⟩)
    obtain ⟨row', hrow', hresult⟩ := (hanswer j k _).mp hresult
    rw [hrow] at hrow'
    obtain rfl := Option.some.inj hrow'
    exact ⟨j, hj, result, hresult⟩

/-- **The verdict of actors that wait** is decided by what each of them answers alone. -/
theorem OffStages.verdict {υ σ : Type} {verbose : Frame → Bool} {ids : List Frame}
    {e : Frame → Option (CucumberSteps υ σ)} {worlds : Frame → υ}
    (waits : OffStages verbose ids e worlds)
    (zrexMatches : String → String → Option (List String)) (args : Frame → CucumberStepsArgs υ σ)
    (distinct : ids.Nodup) (contents : List FileContent) :
    let played i := playAll zrexMatches (args i) (verbose i) (worlds i)
      (contents.flatMap FileContent.pickles)
    let logged := logEach ((actorWorkers zrexMatches args).runFile ids) e contents
    (verdictOf logged.2 = true ↔ FailuresCovered ids fun i => (played i).2.flatten) ∧
      OffStages verbose ids logged.1 fun i => (played i).1 := by
  intro played logged
  obtain ⟨hfiles, hsteps⟩ := runFiles_eq ids (actorWorkers zrexMatches args) e contents
  obtain ⟨hlast, hanswers⟩ := waits.runPickles zrexMatches args distinct
    (contents.flatMap FileContent.pickles)
  rw [← hsteps] at hanswers
  rw [← hfiles] at hlast
  refine ⟨hanswers.verdictOf_iff fun i _ reply hreply => ?_, hlast⟩
  obtain ⟨replies, hreplies, hreply⟩ := List.mem_flatten.mp hreply
  obtain ⟨worlds', pickle, -, rfl⟩ := mem_logEach _ hreplies
  obtain ⟨stage, text, -, rfl⟩ := mem_logEach (Stage.play zrexMatches) hreply
  exact isOther_play zrexMatches stage text

section Interleaving
variable {υ σ γ : Type} {zrexMatches : String → String → Option (List String)}
  {args : Frame → CucumberStepsArgs υ σ} {globals : Frame → υ}
  {G : GherkinC γ} {fuel : ℕ} {self : CucumberFeatureRunner} {identities : CursorList Frame}

/-- **What a run means.** Let nothing be in flight when the runner begins, every `HELLO` having
been taken, and let nobody join later. Let no feature file have parser errors, and let every
identity in the list, once each, be that of an actor without a scenario. However the steps
interleave, when the runner has returned then its verdict is positive exactly if every step
that fails where a worker plays all scenarios alone succeeds where another one does; and each
actor is left with the globals that playing alone leaves. -/
theorem run_meaning {contents : List FileContent}
    (reads : List.Forall₂ (Reads G) self.featureFiles.items contents)
    (passes : ∀ content ∈ contents, content.isStuck = false)
    (distinct : identities.items.Nodup) {verbose : Frame → Bool} {worlds : Frame → υ}
    {e : Frame → Option (CucumberSteps υ σ)}
    (waits : OffStages verbose identities.items e worlds)
    {ls : List (Label Frame Frame Output (Call σ))}
    {c : Network Frame Frame Output (Call σ) (CucumberSteps υ σ) (CucumberFeatureRunner × Bool)}
    (run : RunWhere (actorService zrexMatches args globals) NobodyJoins
      (runnerNetwork G fuel self identities e) ls c) {last : CucumberFeatureRunner}
    {verdict : Bool} (returned : c.client = .ret (last, verdict)) :
    let played i := playAll zrexMatches (args i) (verbose i) (worlds i)
      (contents.flatMap FileContent.pickles)
    (verdict = true ↔ FailuresCovered identities.items fun i => (played i).2.flatten) ∧
      ∀ i ∈ identities.items, ∃ q actor, c.thread i = some q ∧ Finishing q actor ∧
        Waits (verbose i) actor (played i).1 := by
  intro played
  have connected : Connected identities.items e := by
    intro i hi
    obtain ⟨actor, hactor, -⟩ := waits i hi
    simp [hactor]
  obtain ⟨e', inbox, sync, hexec⟩ := run.sync (workers_implement zrexMatches args globals)
    (fun _ i h => h i rfl) (sync_runnerNetwork zrexMatches args G fuel self identities e)
  obtain ⟨-, runs⟩ := runs_run G fuel self (conforms_actors zrexMatches args identities.items)
    connected reads passes
  obtain ⟨-, settled⟩ := sync.returned returned
  have hend := hexec.symm.trans runs
  rw [returned, Prog.exec_ret] at hend
  obtain ⟨hresult, he, -, -⟩ := Outcome.mk.inj hend
  change e' = _ at he
  obtain ⟨-, rfl⟩ := Prod.mk.inj (Result.returned.inj hresult)
  obtain ⟨hverdict, hlast⟩ := waits.verdict zrexMatches args distinct contents
  rw [← he] at hlast
  constructor
  · rwa [isSuccessful_afterFiles]
  · intro i hi
    obtain ⟨actor, hactor, hwaits⟩ := hlast i hi
    have hthread := (settled i).thread
    rw [hactor] at hthread
    generalize c.thread i = t at hthread
    cases hthread with
    | present finishing => exact ⟨_, actor, rfl, finishing, hwaits⟩

end Interleaving

/-- The actor `A`, whose only definition fails when it is called first. -/
def failsOnceNetwork : Network Frame Frame Output (Call Unit) (CucumberSteps Bool Unit)
    (CucumberFeatureRunner × Bool) :=
  runnerNetwork onePickle 0 oneFile ⟨["A"], 0⟩ fun i =>
    if i = "A" then some (freshActor false) else none

/-- Alone, `A` fails at the only step, and so the verdict of a run with it is negative. -/
theorem run_meaning_failsOnce :
    ∃ ls c last, RunWhere (actorService literalMatches (fun _ => failsOnceArgs) fun _ => false)
      NobodyJoins failsOnceNetwork ls c ∧ c.client = .ret (last, false) := by
  have reads : List.Forall₂ (Reads onePickle) oneFile.featureFiles.items [onePickleContent] :=
    .cons (reads_onePickle "f") .nil
  have passes : ∀ content ∈ [onePickleContent], content.isStuck = false := by
    simp [onePickleContent, FileContent.isStuck]
  let e : Frame → Option (CucumberSteps Bool Unit) := fun i =>
    if i = "A" then some (freshActor false) else none
  have waits : OffStages (fun _ => false) (CursorList.mk ["A"] 0).items e fun _ => false := by
    intro i hi
    obtain rfl := List.mem_singleton.mp hi
    exact ⟨freshActor false, rfl, rfl, rfl, rfl⟩
  have connected : Connected (CursorList.mk ["A"] 0).items e := by
    intro i hi
    obtain rfl := List.mem_singleton.mp hi
    rfl
  obtain ⟨ls, c, ⟨last, verdict⟩, run, hreturned⟩ := exists_returned 0 reads passes connected
  obtain ⟨hverdict, -⟩ := run_meaning reads passes (List.nodup_singleton "A") waits run hreturned
  cases verdict with
  | false => exact ⟨ls, c, last, run, hreturned⟩
  | true =>
    obtain ⟨j, -, result, h⟩ := hverdict.mp rfl 0 "A" (by simp) "boom" rfl
    have halone : (playAll literalMatches failsOnceArgs false false
        ([onePickleContent].flatMap FileContent.pickles)).2.flatten[0]? =
        some (.failed "boom") := rfl
    rw [halone] at h
    cases h

end CucumberC
