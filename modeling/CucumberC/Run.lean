import CucumberC.Transcript
import Mathlib.Data.List.TakeWhile

/-!
# The runner makes its transcript

The execution of `cucumberFeatureRunnerRun` against workers is the one their transcript
describes: loop by loop, from one request to the whole run.

Workers need not be `Workers.respond` itself. `Conforms` says that a responder answers as
given workers do, for as long as the runner keeps the protocol: it may ask a worker to
run a step only while a scenario is open there.

## Main definitions

* `Conforms`: a responder that answers like given workers.
* `runs_askStep`, `runs_runStep`, `runs_runPickle`, `runs_runFile`: one theorem per loop.
* `exec_run`: the whole run, also when it never returns.
-/

namespace CucumberC
open Interaction

variable {ε : Type}

/-- On the workers `ids`, the responder answers like `w`. `Present` holds of the world at
all times, `Open e i` while the worker `i` has an open scenario. -/
structure Conforms (w : Workers ε) (respond : ε → Frame × Msg → ε × List (Frame × Msg))
    (ids : List Frame) (Present : ε → Prop) (Open : ε → Frame → Prop) : Prop where
  start : ∀ {e i}, i ∈ ids → Present e → ∀ id,
    respond e (i, ["START SCENARIO", id]) = (w.start e i id, [(i, ["SCENARIO STARTED", id])]) ∧
      Present (w.start e i id) ∧ Open (w.start e i id) i ∧
        ∀ j, Open e j → Open (w.start e i id) j
  run : ∀ {e i}, i ∈ ids → Present e → Open e i → ∀ id text,
    respond e (i, ["RUN STEP", id, text]) =
        ((w.run e i id text).1, [(i, (w.run e i id text).2.frames id)]) ∧
      Present (w.run e i id text).1 ∧ ∀ j, Open e j → Open (w.run e i id text).1 j
  stop : ∀ {e i}, i ∈ ids → Present e → ∀ id,
    respond e (i, ["END SCENARIO", id]) = (w.stop e i id, [(i, ["SCENARIO ENDED", id])]) ∧
      Present (w.stop e i id)

/-- Workers conform to themselves. -/
theorem conforms_respond (w : Workers ε) (ids : List Frame) :
    Conforms w w.respond ids (fun _ => True) (fun _ _ => True) where
  start _ _ id := by simp [Workers.respond, Request.ofFrames]
  run _ _ _ id text := by simp [Workers.respond, Request.ofFrames]
  stop _ _ id := by simp [Workers.respond, Request.ofFrames]

variable {respond : ε → Frame × Msg → ε × List (Frame × Msg)} {e e' : ε}

/-! ## One request -/

@[simp] theorem zmsgPopstr_cons (f : Frame) (msg : Msg) : zmsgPopstr (f :: msg) = (some f, msg) :=
  rfl

/-- A worker that answers as expected, and for the same scenario, is not noticed. -/
theorem runs_askScenario {command expected id i : Frame}
    (answer : respond e (i, [command, id]) = (e', [(i, [expected, id])])) :
    Runs respond (askScenario command expected id () i) e [] () e' []
      (askTrace command expected id i) := by
  refine Runs.ask answer ?_
  simp [Runs, assertStreq]

/-- What the loop over the workers makes of a reply. -/
def StepState.collect (pickleStep : Frame) (r : StepState) : StepReply → StepState
  | .succeeded result =>
      { r with successMessages := r.successMessages.append (successLine pickleStep result) }
  | .failed reason =>
      { r with failureMessages := r.failureMessages.append (failureLine pickleStep reason) }
  | .notFound => { r with stepNotFoundCounter := r.stepNotFoundCounter + 1 }
  | .other _ _ _ => { r with isSuccessful := false }

/-- A reply about the same scenario is collected. -/
theorem runs_askStep {id text i : Frame} {reply : StepReply}
    (answer : respond e (i, ["RUN STEP", id, text]) = (e', [(i, reply.frames id)]))
    (r : StepState) :
    Runs respond (askStep id text r i) e [] (r.collect text reply) e' []
      (StepLog.replyTrace id text (i, reply)) := by
  refine Runs.ask answer ?_
  cases reply with
  | succeeded result =>
    simp [Runs, assertStreq, StepReply.frames, StepState.collect, StepLog.warning]
  | failed reason =>
    simp [Runs, assertStreq, StepReply.frames, StepState.collect, StepLog.warning]
  | notFound =>
    simp [Runs, assertStreq, StepReply.frames, StepState.collect, StepLog.warning]
  | other command rest unknown =>
    simp only [List.mem_cons, List.not_mem_nil, or_false, not_or] at unknown
    obtain ⟨hsucceeded, hfailed, hnotFound⟩ := unknown
    simp [Runs, assertStreq, StepReply.frames, StepState.collect, StepLog.warning,
      hsucceeded, hfailed, hnotFound, Prog.output, Outcome.after]

/-! ## One step -/

/-- What is collected from the replies of all workers. -/
theorem foldl_collect (id text : Frame) (replies : List (Frame × StepReply)) (r : StepState) :
    let s := replies.foldl (fun r reply => r.collect text reply.2) r
    s.isSuccessful = (r.isSuccessful && !replies.any fun reply => reply.2.isOther) ∧
      s.successMessages.items =
        r.successMessages.items ++ (StepLog.mk id text replies).successLines ∧
      s.failureMessages.items =
        r.failureMessages.items ++ (StepLog.mk id text replies).failureLines ∧
      s.stepNotFoundCounter =
        r.stepNotFoundCounter + replies.countP fun reply => reply.2.isNotFound := by
  induction replies generalizing r with
  | nil => simp [StepLog.successLines, StepLog.failureLines]
  | cons reply replies ih =>
    obtain ⟨i, reply⟩ := reply
    obtain ⟨hflag, hsuccess, hfailure, hcounter⟩ := ih (r.collect text reply)
    simp only [List.foldl_cons, hflag, hsuccess, hfailure, hcounter]
    cases reply <;>
      simp [StepState.collect, StepLog.successLines, StepLog.failureLines, StepReply.isOther,
        StepReply.isNotFound, Nat.add_assoc, Nat.add_comm]

theorem runs_putsAll (messages : CursorList String) :
    Runs respond (putsAll messages) e [] () e []
      ((messages.items.map Output.puts).map Event.put) := by
  rw [putsAll, forEach_eq_foldlM]
  induction messages.items with
  | nil => exact .foldlM_nil _ _
  | cons message rest ih =>
    have head : Runs respond (Prog.output (Output.puts message) : RunnerProg Unit) e [] () e []
        [.put (.puts message)] := .output _
    rw [List.foldlM_cons, List.map_cons, List.map_cons, ← List.singleton_append]
    exact head.bind ih

theorem StepLog.successLines_ne_nil_iff (log : StepLog) :
    log.successLines ≠ [] ↔ log.replies.any (fun r => r.2.isSucceeded) = true := by
  refine filterMap_ne_nil_iff ?_ log.replies
  rintro ⟨i, reply⟩
  cases reply <;> rfl

theorem StepLog.failureLines_ne_nil_iff (log : StepLog) :
    log.failureLines ≠ [] ↔ log.replies.any (fun r => r.2.isFailed) = true := by
  refine filterMap_ne_nil_iff ?_ log.replies
  rintro ⟨i, reply⟩
  cases reply <;> rfl

/-- The report and the verdict of a step, from what was collected. -/
theorem runs_reportStep (log : StepLog) (identities : CursorList Frame)
    (all : log.replies.length = identities.items.length) {isSuccessful : Bool} {r : StepState}
    (hflag : r.isSuccessful = (isSuccessful && !log.replies.any fun reply => reply.2.isOther))
    (hsuccess : r.successMessages.items = log.successLines)
    (hfailure : r.failureMessages.items = log.failureLines)
    (hcounter : r.stepNotFoundCounter = log.replies.countP fun reply => reply.2.isNotFound) :
    Runs respond (reportStep log.text identities r) e [] (isSuccessful && !log.clears) e []
      (log.report.map .put) := by
  have hsize : (r.successMessages.size > 0) ↔ log.successLines ≠ [] := by
    rw [CursorList.size, hsuccess, gt_iff_lt, List.length_pos_iff]
  have hsize' : (r.failureMessages.size > 0) ↔ log.failureLines ≠ [] := by
    rw [CursorList.size, hfailure, gt_iff_lt, List.length_pos_iff]
  have hnotFound : (r.stepNotFoundCounter = identities.size) ↔
      ∀ reply ∈ log.replies, reply.2.isNotFound = true := by
    rw [CursorList.size, hcounter, ← all, List.countP_eq_length]
  unfold reportStep StepLog.report
  by_cases hs : log.successLines ≠ []
  · have hclears : (isSuccessful && !log.clears) = r.isSuccessful := by
      rw [hflag, StepLog.clears, log.successLines_ne_nil_iff.mp hs]
      simp
    rw [if_pos (hsize.mpr hs), if_pos hs, hclears, ← List.append_nil (List.map _ _), ← hsuccess]
    exact (runs_putsAll r.successMessages).bind (.pure _)
  · have hnone : log.replies.any (fun reply => reply.2.isSucceeded) = false := by
      rw [← Bool.not_eq_true]
      exact fun h => hs (log.successLines_ne_nil_iff.mpr h)
    rw [if_neg (fun h => hs (hsize.mp h)), if_neg hs]
    by_cases hf : log.failureLines ≠ []
    · have hclears : (isSuccessful && !log.clears) = false := by
        rw [StepLog.clears, log.failureLines_ne_nil_iff.mp hf, hnone]
        simp
      rw [if_pos (hsize'.mpr hf), if_pos hf, hclears, ← List.append_nil (List.map _ _), ← hfailure]
      exact (runs_putsAll r.failureMessages).bind (.pure _)
    · have hnofail : log.replies.any (fun reply => reply.2.isFailed) = false := by
        rw [← Bool.not_eq_true]
        exact fun h => hf (log.failureLines_ne_nil_iff.mpr h)
      have hclears : (isSuccessful && !log.clears) = r.isSuccessful := by
        rw [hflag, StepLog.clears, hnone, hnofail]
        simp
      rw [if_neg (fun h => hf (hsize'.mp h)), if_neg hf, hclears]
      by_cases hn : ∀ reply ∈ log.replies, reply.2.isNotFound = true
      · rw [if_pos (hnotFound.mpr hn), if_pos hn]
        exact (Runs.output _).bind (.pure _)
      · rw [if_neg (fun h => hn (hnotFound.mp h)), if_neg hn]
        exact .pure _

section Loops
variable {w : Workers ε} {Present : ε → Prop} {Open : ε → Frame → Prop}
variable {identities : CursorList Frame}

/-- **The loop body for a step**: every worker is asked, and the step is reported. -/
theorem runs_runStep (conforms : Conforms w respond identities.items Present Open)
    (present : Present e) (opened : ∀ i ∈ identities.items, Open e i) (id text : Frame)
    (s : RunState) :
    (Present (w.runStep identities.items id e text).1 ∧
      ∀ i ∈ identities.items, Open (w.runStep identities.items id e text).1 i) ∧
    Runs respond (runStep identities id s text) e []
      ((w.runStep identities.items id e text).2.apply s)
      (w.runStep identities.items id e text).1 []
      (w.runStep identities.items id e text).2.trace := by
  obtain ⟨inv, asked⟩ := Runs.loop (fun _ e => Present e ∧ ∀ i ∈ identities.items, Open e i)
    (w.runOne id text) (fun r reply => r.collect text reply.2) (StepLog.replyTrace id text)
    (askStep id text) identities.items
    (by
      intro done i rest e r split inv
      have hi : i ∈ identities.items := by simp [split]
      obtain ⟨answer, present', opened'⟩ := conforms.run hi inv.1 (inv.2 i hi) id text
      exact ⟨⟨present', fun j hj => opened' j (inv.2 j hj)⟩, runs_askStep answer r⟩)
    ⟨present, opened⟩
    { isSuccessful := s.isSuccessful
      successMessages := .new
      failureMessages := .new
      stepNotFoundCounter := 0 }
  refine ⟨inv, ?_⟩
  generalize hlog : (w.runStep identities.items id e text).2 = log
  have hreplies : (logEach (w.runOne id text) e identities.items).2 = log.replies := by
    rw [← hlog]
    rfl
  have hlogId : log.scenarioId = id := by rw [← hlog]; rfl
  have hlogText : log.text = text := by rw [← hlog]; rfl
  have hall : log.replies.length = identities.items.length := by
    have hmap := map_logEach (w.runOne id text) Prod.fst (fun i => i) (fun _ _ => rfl) e
      identities.items
    simpa [hreplies] using congrArg List.length hmap
  rw [hreplies] at asked
  subst hlogId hlogText
  obtain ⟨hflag, hsuccess, hfailure, hcounter⟩ := foldl_collect log.scenarioId log.text log.replies
    { isSuccessful := s.isSuccessful
      successMessages := .new
      failureMessages := .new
      stepNotFoundCounter := 0 }
  rw [Nat.zero_add] at hcounter
  have htrace : log.trace =
      [.put (.printf (BLUE ++ "  Step: " ++ log.text ++ DEFAULT ++ "\r"))] ++
        (log.replies.flatMap (StepLog.replyTrace log.scenarioId log.text) ++
          (log.report.map .put ++ [])) := by
    rw [List.append_nil]
    rfl
  rw [htrace, runStep, forEach_eq_foldlM]
  exact (Runs.output _).bind
    (asked.bind ((runs_reportStep log identities hall hflag hsuccess hfailure hcounter).bind
      (.pure _)))

/-- **The loop that starts a scenario** opens it at every worker. -/
theorem runs_startAll (conforms : Conforms w respond identities.items Present Open)
    (present : Present e) (id : Frame) :
    (Present (w.startAll identities.items id e) ∧
      ∀ i ∈ identities.items, Open (w.startAll identities.items id e) i) ∧
    Runs respond (forEach identities (askScenario "START SCENARIO" "SCENARIO STARTED" id) ())
      e [] () (w.startAll identities.items id e) []
      (identities.items.flatMap (askTrace "START SCENARIO" "SCENARIO STARTED" id)) := by
  obtain ⟨inv, asked⟩ := Runs.loop (fun done e => Present e ∧ ∀ i ∈ done, Open e i)
    (fun e i => (w.start e i id, i)) (fun _ _ => ())
    (askTrace "START SCENARIO" "SCENARIO STARTED" id)
    (askScenario "START SCENARIO" "SCENARIO STARTED" id) identities.items
    (by
      intro done i rest e _ split inv
      have hi : i ∈ identities.items := by simp [split]
      obtain ⟨answer, present', opened, others⟩ := conforms.start hi inv.1 id
      refine ⟨⟨present', fun j hj => ?_⟩, runs_askScenario answer⟩
      rcases List.mem_append.mp hj with hj | hj
      · exact others j (inv.2 j hj)
      · obtain rfl := List.mem_singleton.mp hj
        exact opened)
    ⟨present, by simp⟩ ()
  rw [logEach_self] at inv asked
  rw [forEach_eq_foldlM]
  exact ⟨inv, asked⟩

/-- **The loop that ends a scenario.** -/
theorem runs_stopAll (conforms : Conforms w respond identities.items Present Open)
    (present : Present e) (id : Frame) :
    Present (w.stopAll identities.items id e) ∧
    Runs respond (forEach identities (askScenario "END SCENARIO" "SCENARIO ENDED" id) ()) e [] ()
      (w.stopAll identities.items id e) []
      (identities.items.flatMap (askTrace "END SCENARIO" "SCENARIO ENDED" id)) := by
  obtain ⟨inv, asked⟩ := Runs.loop (fun _ e => Present e)
    (fun e i => (w.stop e i id, i)) (fun _ _ => ()) (askTrace "END SCENARIO" "SCENARIO ENDED" id)
    (askScenario "END SCENARIO" "SCENARIO ENDED" id) identities.items
    (by
      intro done i rest e _ split inv
      have hi : i ∈ identities.items := by simp [split]
      obtain ⟨answer, present'⟩ := conforms.stop hi inv id
      exact ⟨present', runs_askScenario answer⟩)
    present ()
  rw [logEach_self] at inv asked
  rw [forEach_eq_foldlM]
  exact ⟨inv, asked⟩

variable {γ : Type} (G : GherkinC γ)

/-- **The loop body for a pickle**: the scenario is started, its steps are run one after
another, and it is ended. -/
theorem runs_runPickle (conforms : Conforms w respond identities.items Present Open)
    (present : Present e) {json : String} {pickle : CucPickle}
    (decodes : pickleNew G.cJSONParse json = .ok (some pickle)) (s : RunState) :
    Present (w.runPickle identities.items e pickle).1 ∧
    Runs respond (runPickle G identities s json) e []
      ((w.runPickle identities.items e pickle).2.apply s)
      (w.runPickle identities.items e pickle).1 []
      ((w.runPickle identities.items e pickle).2.trace identities.items) := by
  obtain ⟨opened, starts⟩ := runs_startAll conforms present (pickleId pickle)
  obtain ⟨inv, runs⟩ := Runs.loop (fun _ e => Present e ∧ ∀ i ∈ identities.items, Open e i)
    (w.runStep identities.items (pickleId pickle)) StepLog.apply StepLog.trace
    (runStep identities (pickleId pickle)) pickle.texts
    (fun _ text _ _ s _ inv => runs_runStep conforms inv.1 inv.2 (pickleId pickle) text s)
    opened { s with totalScenarios := s.totalScenarios + 1 }
  obtain ⟨present', stops⟩ := runs_stopAll conforms inv.1 (pickleId pickle)
  refine ⟨present', ?_⟩
  have henough : pickle.texts.length ≤ pickle.steps.size := by
    simp [CucPickle.texts, CursorList.size]
  have walked := runs.walk (enumerates_pickleFirstStep pickle) henough
  have htrace : (w.runPickle identities.items e pickle).2.trace identities.items =
      [.put (.printf (YELLOW ++ "Scenario: " ++ pickleName pickle ++ DEFAULT ++ "\n"))] ++
        (identities.items.flatMap
            (askTrace "START SCENARIO" "SCENARIO STARTED" (pickleId pickle)) ++
          ((w.runPickle identities.items e pickle).2.steps.flatMap StepLog.trace ++
            (identities.items.flatMap
                (askTrace "END SCENARIO" "SCENARIO ENDED" (pickleId pickle)) ++
              ([.put (.printf "\n")] ++ [])))) := by
    rw [List.append_nil]
    rfl
  rw [htrace, runPickle, decodes]
  exact (Runs.output _).bind (starts.bind (walked.bind
    (stops.bind ((Runs.output _).bind (.pure _)))))

/-! ## One file -/

/-- **The loop body for a feature file** that does not make the runner spin. -/
theorem runs_runFile (fuel : ℕ) (conforms : Conforms w respond identities.items Present Open)
    (present : Present e) {featureFile : String} {content : FileContent}
    (reads : Reads G featureFile content) (passes : content.isStuck = false) (s : RunState) :
    Present (w.runFile identities.items e content).1 ∧
    Runs respond (runFile G fuel identities s featureFile) e []
      ((w.runFile identities.items e content).2.apply s)
      (w.runFile identities.items e content).1 []
      ((w.runFile identities.items e content).2.trace identities.items) := by
  cases content with
  | parsed pickles =>
    obtain ⟨tree, events, parses, compiles, decodes⟩ := reads
    obtain ⟨valid, list, hlist, rfl⟩ := gherkinDocumentNew_pickles G parses compiles
    obtain ⟨present', runs⟩ := Runs.loop_related Present (w.runPickle identities.items)
      PickleLog.apply (PickleLog.trace identities.items) (runPickle G identities)
      (fun json pickle e s _ decodes present => runs_runPickle G conforms present decodes s)
      decodes present s
    refine ⟨present', ?_⟩
    simp only [runFile, valid, if_true, hlist, forEach_eq_foldlM]
    exact runs
  | invalid errors =>
    have hnil : errors = [] := by simpa [FileContent.isStuck] using passes
    obtain ⟨invalid, list, hlist, hitems⟩ := gherkinDocumentNew_errors G reads
    have hnone : list.first.1 = none := by
      simp [CursorList.first, CursorList.next, hitems, hnil]
    refine ⟨present, ?_⟩
    simp [Runs, runFile, invalid, hlist, reportErrors, hnone, Prog.output, Workers.runFile,
      FileLog.trace, FileLog.apply, FileLog.pickles, Outcome.after]

/-- The loop over the errors never gets beyond the first one. -/
theorem exec_reportErrors (respond : ε → Frame × Msg → ε × List (Frame × Msg)) (e : ε)
    (fuel : ℕ) {errors : CursorList String} {error : String} {rest : List String}
    (h : errors.items = error :: rest) (inbox : List (Frame × Msg)) :
    (reportErrors fuel errors).exec respond e inbox =
      ⟨.spinning, e, inbox,
        (List.replicate fuel (Output.printf ("[ERROR] " ++ error ++ "\n"))).map .put⟩ := by
  have hfirst : ∀ l : CursorList String, l.items = error :: rest →
      l.first = (some error, ⟨error :: rest, 1⟩) := by
    intro l hl
    simp [CursorList.first, CursorList.next, hl]
  have hwalk : ∀ (fuel : ℕ) (l : CursorList String), l.items = error :: rest →
      ((walk CursorList.first (fun _ error => Prog.output (.printf ("[ERROR] " ++ error ++ "\n")))
        fuel (some error) l () : RunnerProg (CursorList String × Unit)).exec respond e inbox) =
        ⟨.spinning, e, inbox,
          (List.replicate fuel (Output.printf ("[ERROR] " ++ error ++ "\n"))).map .put⟩ := by
    intro fuel
    induction fuel with
    | zero => simp
    | succ fuel ih =>
      intro l hl
      rw [walk_succ, hfirst l hl, Prog.output_bind, Prog.exec_put, ih _ rfl]
      rfl
  rw [reportErrors, hfirst errors h, Prog.bind_eq, Prog.exec_bind, hwalk fuel _ rfl]
  rfl

/-- What a feature file with errors makes the runner print: the first message, again and
again. -/
def spinningOutput (fuel : ℕ) (message : String) : List Output :=
  .printf "Unable to parse feature file\n" ::
    List.replicate fuel (.printf ("[ERROR] " ++ message ++ "\n"))

/-- **A feature file with errors** makes the runner spin at the first of them. -/
theorem exec_runFile_errors (respond : ε → Frame × Msg → ε × List (Frame × Msg)) (e : ε)
    (identities : CursorList Frame) (fuel : ℕ) {featureFile : String} {error : ParserError}
    {rest : List ParserError} (rejects : G.parserParse featureFile = .error (error :: rest))
    (s : RunState) :
    (runFile G fuel identities s featureFile).exec respond e [] =
      ⟨.spinning, e, [],
        (spinningOutput fuel (G.attachmentEventToString featureFile error)).map .put⟩ := by
  obtain ⟨invalid, list, hlist, hitems⟩ := gherkinDocumentNew_errors G rejects
  have hreport := exec_reportErrors respond e fuel hitems []
  simp [runFile, invalid, hlist, Prog.output, Prog.exec_bind, hreport, Outcome.andThen,
    Outcome.after, spinningOutput]

/-! ## The whole run -/

/-- The verdict and the totals a run starts from. -/
def CucumberFeatureRunner.initial (self : CucumberFeatureRunner) : RunState :=
  { isSuccessful := true, totalScenarios := self.totalScenarios, totalSteps := self.totalSteps }

/-- What a run that ends in the state `s` returns. -/
def RunState.result (s : RunState) : CucumberFeatureRunner × Bool :=
  ({ featureFiles := .new, totalScenarios := s.totalScenarios, totalSteps := s.totalSteps },
    s.isSuccessful)

/-- The totals printed at the end. -/
def RunState.totals (s : RunState) : List Output :=
  [.printf (YELLOW ++ toString s.totalScenarios ++ " Scenarios" ++ DEFAULT ++ "\n"),
    .printf (YELLOW ++ toString s.totalSteps ++ " Steps" ++ DEFAULT ++ "\n")]

/-- **The loop over the files**, of which none makes the runner spin. -/
theorem runs_files (fuel : ℕ) (conforms : Conforms w respond identities.items Present Open)
    (present : Present e) {files : List String} {contents : List FileContent}
    (reads : List.Forall₂ (Reads G) files contents)
    (passes : ∀ content ∈ contents, content.isStuck = false) (s : RunState) :
    let logged := logEach (w.runFile identities.items) e contents
    Present logged.1 ∧
    Runs respond (files.foldlM (runFile G fuel identities) s) e [] (afterFiles s logged.2) logged.1
      [] (logged.2.flatMap (FileLog.trace identities.items)) :=
  Runs.loop_related Present (w.runFile identities.items) FileLog.apply
    (FileLog.trace identities.items) (runFile G fuel identities)
    (fun _ content _ s hmem reads present =>
      runs_runFile G fuel conforms present reads (passes content hmem) s)
    reads present s

/-- **A run that returns.** Unless a file has parser errors, the runner makes the
transcript of its workers, prints the totals and returns the verdict. -/
theorem runs_run (fuel : ℕ) (self : CucumberFeatureRunner)
    (conforms : Conforms w respond identities.items Present Open) (present : Present e)
    {contents : List FileContent} (reads : List.Forall₂ (Reads G) self.featureFiles.items contents)
    (passes : ∀ content ∈ contents, content.isStuck = false) :
    let logged := logEach (w.runFile identities.items) e contents
    Present logged.1 ∧
    Runs respond (cucumberFeatureRunnerRun G fuel self identities) e []
      (afterFiles self.initial logged.2).result logged.1 []
      (logged.2.flatMap (FileLog.trace identities.items) ++
        (afterFiles self.initial logged.2).totals.map .put) := by
  intro logged
  obtain ⟨present', runs⟩ := runs_files G fuel conforms present reads passes self.initial
  refine ⟨present', ?_⟩
  have walked := runs.walk self.featureFiles.enumerates_pop (Nat.le_refl _)
  have htotals : ((afterFiles self.initial logged.2).totals.map .put :
        List (Event Output (Frame × Msg) (Frame × Msg))) =
      [.put (.printf (YELLOW ++ toString (afterFiles self.initial logged.2).totalScenarios ++
        " Scenarios" ++ DEFAULT ++ "\n"))] ++
      ([.put (.printf (YELLOW ++ toString (afterFiles self.initial logged.2).totalSteps ++
        " Steps" ++ DEFAULT ++ "\n"))] ++ []) := rfl
  rw [htotals]
  exact walked.bind ((Runs.output _).bind ((Runs.output _).bind (.pure _)))

/-- A run that spins at one of its files: in front of what it prints there is the
transcript of the files before it, and that is all it ever exchanges with its workers. -/
theorem exec_run_spinning (fuel : ℕ) (self : CucumberFeatureRunner)
    (conforms : Conforms w respond identities.items Present Open) (present : Present e)
    {files later : List String} {file : String}
    (queue : self.featureFiles.items = files ++ file :: later) {front : List FileContent}
    (reads : List.Forall₂ (Reads G) files front)
    (passes : ∀ content ∈ front, content.isStuck = false) {printed : List Output}
    (stuck : ∀ s, (runFile G fuel identities s file).exec respond
        (logEach (w.runFile identities.items) e front).1 [] =
      ⟨.spinning, (logEach (w.runFile identities.items) e front).1, [], printed.map .put⟩) :
    (cucumberFeatureRunnerRun G fuel self identities).exec respond e [] =
      ⟨.spinning, (logEach (w.runFile identities.items) e front).1, [],
        (logEach (w.runFile identities.items) e front).2.flatMap (FileLog.trace identities.items) ++
          printed.map .put⟩ := by
  obtain ⟨-, runs⟩ := runs_files G fuel conforms present reads passes self.initial
  have hwalk := walk_eq_foldlM (runFile G fuel identities) self.featureFiles.enumerates_pop
    (Nat.le_refl _) self.initial
  have hloop := exec_foldlM_spinning runs (stuck _) later
  rw [← queue] at hloop
  simp only [CucumberFeatureRunner.initial] at hwalk hloop
  rw [cucumberFeatureRunnerRun, CursorList.size, hwalk]
  simp only [Prog.bind_eq, Prog.exec_bind, hloop]
  rfl

/-- **A run that never returns.** At the first file with parser errors, the transcript of
the files in front of it is all the runner ever exchanges with its workers. -/
theorem exec_run_stuck (fuel : ℕ) (self : CucumberFeatureRunner)
    (conforms : Conforms w respond identities.items Present Open) (present : Present e)
    {front back : List FileContent} {content : FileContent}
    (reads : List.Forall₂ (Reads G) self.featureFiles.items (front ++ content :: back))
    (passes : ∀ content ∈ front, content.isStuck = false) (stuck : content.isStuck = true) :
    let logged := logEach (w.runFile identities.items) e front
    ∃ printed : List Output,
      (cucumberFeatureRunnerRun G fuel self identities).exec respond e [] =
        ⟨.spinning, logged.1, [],
          logged.2.flatMap (FileLog.trace identities.items) ++ printed.map .put⟩ := by
  intro logged
  have readsFront := List.forall₂_take_append _ _ _ reads
  have readsRest := List.forall₂_drop_append _ _ _ reads
  have queue := (List.take_append_drop front.length self.featureFiles.items).symm
  generalize self.featureFiles.items.drop front.length = rest at readsRest queue
  cases readsRest with
  | @cons file _ later _ readsFile _ =>
    cases content with
    | parsed pickles => simp [FileContent.isStuck] at stuck
    | invalid errors =>
      cases errors with
      | nil => simp [FileContent.isStuck] at stuck
      | cons error errors =>
        exact ⟨_, exec_run_spinning G fuel self conforms present queue readsFront passes
          (exec_runFile_errors G respond logged.1 identities fuel readsFile)⟩

/-- A run over files of which one has parser errors spins. -/
theorem result_run_stuck (fuel : ℕ) (self : CucumberFeatureRunner)
    (conforms : Conforms w respond identities.items Present Open) (present : Present e)
    {contents : List FileContent}
    (reads : List.Forall₂ (Reads G) self.featureFiles.items contents)
    (stuck : ∃ content ∈ contents, content.isStuck = true) :
    ((cucumberFeatureRunnerRun G fuel self identities).exec respond e []).result = .spinning := by
  obtain ⟨content, hfind⟩ := Option.isSome_iff_exists.mp
    (List.find?_isSome.mpr stuck : (contents.find? FileContent.isStuck).isSome = true)
  obtain ⟨hstuck, front, back, rfl, hfront⟩ := List.find?_eq_some_iff_append.mp hfind
  obtain ⟨printed, h⟩ := exec_run_stuck G fuel self conforms present reads
    (fun content hmem => by simpa using hfront content hmem) hstuck
  rw [h]

/-- The files a run gets to: all of them, or those in front of the first with errors. -/
def reached (contents : List FileContent) : List FileContent :=
  contents.takeWhile fun content => !content.isStuck

/-- **Any run.** Whether it returns or not, what it exchanges with its workers is the
transcript of the files it gets to. -/
theorem exec_run (fuel : ℕ) (self : CucumberFeatureRunner)
    (conforms : Conforms w respond identities.items Present Open) (present : Present e)
    {contents : List FileContent}
    (reads : List.Forall₂ (Reads G) self.featureFiles.items contents) :
    let logged := logEach (w.runFile identities.items) e (reached contents)
    ∃ (result : Result (CucumberFeatureRunner × Bool)) (printed : List Output),
      (cucumberFeatureRunnerRun G fuel self identities).exec respond e [] =
        ⟨result, logged.1, [],
          logged.2.flatMap (FileLog.trace identities.items) ++ printed.map .put⟩ := by
  intro logged
  have hreached : ∀ content ∈ reached contents, content.isStuck = false := by
    intro content hmem
    simpa using List.mem_takeWhile_imp hmem
  have hsplit : reached contents ++ contents.dropWhile (fun content => !content.isStuck) =
      contents := List.takeWhile_append_dropWhile
  cases hrest : contents.dropWhile (fun content => !content.isStuck) with
  | nil =>
    rw [hrest, List.append_nil] at hsplit
    rw [← hsplit] at reads
    obtain ⟨-, runs⟩ := runs_run G fuel self conforms present reads hreached
    exact ⟨_, _, runs⟩
  | cons content back =>
    have hstuck : content.isStuck = true := by
      have h := List.head?_dropWhile_not (fun content : FileContent => !content.isStuck) contents
      simpa [hrest] using h
    rw [hrest] at hsplit
    rw [← hsplit] at reads
    obtain ⟨printed, h⟩ := exec_run_stuck G fuel self conforms present reads hreached hstuck
    exact ⟨_, printed, h⟩

end Loops
end CucumberC
