import CucumberC.Acceptance
import CucumberC.Listing
import Mathlib.Tactic.Ring

/-!
# What the output tells

`cucumber_runner` throws the verdict of its run away, and the exit code does not depend on
it. What is left is what the runner prints. The calls of `printf` and `puts` can be told apart
by how their texts begin and end, so that the verdict and the totals of a run that returned,
and the number of its requests, can be read off the list of these calls, whoever was at the
other end of the socket. They cannot be read off the printed text: results and reasons are
printed as they come, and may look like other lines.

## Main definitions

* `isScenarioLine`, `isStepLine`, `isAlarm`: the calls to look for.
* `report_tells`: what they tell of a run.
-/

namespace CucumberC
open Interaction

/-! ## The calls that print a line -/

/-- Text that is printed without a line end of its own, and begins like this. -/
def printsFrom (start : String) : Output → Bool
  | .printf text => start.toList.isPrefixOf text.toList
  | .puts _ | .zsysInfo _ => false

/-- The line in front of a scenario. -/
def isScenarioLine : Output → Bool := printsFrom (YELLOW ++ "Scenario: ")

/-- The line in front of the replies to a step. -/
def isStepLine : Output → Bool := printsFrom (BLUE ++ "  Step: ")

/-- A red line that ends with an empty one, or the warning about an unknown command. -/
def isAlarm : Output → Bool
  | .printf text => "\n\n".toList.isPrefixOf text.toList
  | .puts text => RED.toList.isPrefixOf text.toList && text.toList.getLast? == some '\n'
  | .zsysInfo _ => false

/-- The line in front of the scenario of this name. -/
def scenarioLine (name : String) : Output :=
  .printf (YELLOW ++ "Scenario: " ++ name ++ DEFAULT ++ "\n")

/-- The line in front of the replies to this step. -/
def stepLine (text : String) : Output := .printf (BLUE ++ "  Step: " ++ text ++ DEFAULT ++ "\r")

/-- The line with a total. -/
def totalLine (n : ℕ) (what : String) : Output :=
  .printf (YELLOW ++ toString n ++ what ++ DEFAULT ++ "\n")

/-! ### No line is taken for another -/

@[simp] theorem isAlarm_successLine (text result : String) :
    isAlarm (.puts (successLine text result)) = false := by
  simp [isAlarm, successLine, GREEN, RED]

@[simp] theorem isAlarm_failureLine (text reason : String) :
    isAlarm (.puts (failureLine text reason)) = true := by
  simp [isAlarm, failureLine, RED, List.getLast?_cons, List.getLast?_append]

@[simp] theorem isAlarm_notFoundLine (text : String) :
    isAlarm (.puts (notFoundLine text)) = false := by
  simp [isAlarm, notFoundLine, RED, DEFAULT, List.getLast?_cons, List.getLast?_append]

@[simp] theorem isAlarm_unknownCommandText (command : String) :
    isAlarm (.printf (unknownCommandText command)) = true := by
  simp [isAlarm, unknownCommandText]

@[simp] theorem isAlarm_scenarioLine (name : String) : isAlarm (scenarioLine name) = false := by
  simp [isAlarm, scenarioLine, YELLOW, List.isPrefixOf]

@[simp] theorem isAlarm_stepLine (text : String) : isAlarm (stepLine text) = false := by
  simp [isAlarm, stepLine, BLUE, List.isPrefixOf]

@[simp] theorem isAlarm_totalLine (n : ℕ) (what : String) :
    isAlarm (totalLine n what) = false := by
  simp [isAlarm, totalLine, YELLOW, List.isPrefixOf]

@[simp] theorem printsFrom_puts (start text : String) : printsFrom start (.puts text) = false := rfl

@[simp] theorem isScenarioLine_scenarioLine (name : String) :
    isScenarioLine (scenarioLine name) = true := by
  simp [isScenarioLine, printsFrom, scenarioLine, YELLOW]

@[simp] theorem isScenarioLine_stepLine (text : String) :
    isScenarioLine (stepLine text) = false := by
  simp [isScenarioLine, printsFrom, stepLine, YELLOW, BLUE, List.isPrefixOf]

@[simp] theorem isScenarioLine_unknownCommandText (command : String) :
    isScenarioLine (.printf (unknownCommandText command)) = false := by
  simp [isScenarioLine, printsFrom, unknownCommandText, YELLOW, List.isPrefixOf]

/-- A numeral does not begin like the word `Scenario`. -/
@[simp] theorem isScenarioLine_totalLine (n : ℕ) (what : String) :
    isScenarioLine (totalLine n what) = false := by
  cases hn : Nat.toDigits 10 n with
  | nil => exact absurd hn Nat.toDigits_ne_nil
  | cons c cs =>
    have hdigit : c.isDigit = true := by
      refine Nat.isDigit_of_mem_toDigits (b := 10) (by decide) (by decide) (n := n) ?_
      rw [hn]
      exact List.mem_cons_self
    have hc : 'S' ≠ c := by
      rintro rfl
      exact absurd hdigit (by decide)
    simp [isScenarioLine, printsFrom, totalLine, YELLOW, List.isPrefixOf, hn, hc]

@[simp] theorem isStepLine_scenarioLine (name : String) :
    isStepLine (scenarioLine name) = false := by
  simp [isStepLine, printsFrom, scenarioLine, YELLOW, BLUE, List.isPrefixOf]

@[simp] theorem isStepLine_stepLine (text : String) : isStepLine (stepLine text) = true := by
  simp [isStepLine, printsFrom, stepLine, BLUE]

@[simp] theorem isStepLine_unknownCommandText (command : String) :
    isStepLine (.printf (unknownCommandText command)) = false := by
  simp [isStepLine, printsFrom, unknownCommandText, BLUE, List.isPrefixOf]

@[simp] theorem isStepLine_totalLine (n : ℕ) (what : String) :
    isStepLine (totalLine n what) = false := by
  simp [isStepLine, printsFrom, totalLine, YELLOW, BLUE, List.isPrefixOf]

/-- A worker's failure, or a command of its own. -/
inductive Alarms : Output → Prop
  | failure (text reason : String) : Alarms (.puts (failureLine text reason))
  | unknown (command : String) : Alarms (.printf (unknownCommandText command))

theorem Alarms.isAlarm {o : Output} (h : Alarms o) : isAlarm o = true := by
  cases h <;> simp

/-! ## What a transcript prints -/

namespace StepLog
variable (log : StepLog)

/-- The report of a step is an alarm if some worker failed and none succeeded. -/
theorem any_isAlarm_report : log.report.any isAlarm =
    (log.replies.any (fun r => r.2.isFailed) && !log.replies.any fun r => r.2.isSucceeded) := by
  unfold report
  by_cases hs : log.successLines ≠ []
  · rw [if_pos hs, log.successLines_ne_nil_iff.mp hs, Bool.not_true, Bool.and_false, List.any_map,
      List.any_eq_false]
    intro line hline
    obtain ⟨⟨i, reply⟩, -, hreply⟩ := List.mem_filterMap.mp hline
    cases reply with
    | succeeded result =>
      obtain rfl := Option.some.inj hreply
      simp
    | failed | notFound | other => simp at hreply
  · have hnone : log.replies.any (fun r => r.2.isSucceeded) = false := by
      rw [← Bool.not_eq_true]
      exact fun h => hs (log.successLines_ne_nil_iff.mpr h)
    rw [if_neg hs, hnone, Bool.not_false, Bool.and_true]
    by_cases hf : log.failureLines ≠ []
    · rw [if_pos hf, log.failureLines_ne_nil_iff.mp hf]
      obtain ⟨line, hline⟩ := List.exists_mem_of_ne_nil _ hf
      obtain ⟨⟨i, reply⟩, -, hreply⟩ := List.mem_filterMap.mp hline
      refine List.any_eq_true.mpr ⟨.puts line, List.mem_map_of_mem hline, ?_⟩
      cases reply with
      | failed reason =>
        obtain rfl := Option.some.inj hreply
        simp
      | succeeded | notFound | other => simp at hreply
    · have hnofail : log.replies.any (fun r => r.2.isFailed) = false := by
        rw [← Bool.not_eq_true]
        exact fun h => hf (log.failureLines_ne_nil_iff.mpr h)
      rw [if_neg hf, hnofail]
      split <;> simp

/-- The warnings of a step are alarms. -/
theorem any_isAlarm_warnings (replies : List (Frame × StepReply)) :
    (replies.flatMap fun r => warning r.2).any isAlarm = replies.any fun r => r.2.isOther := by
  rw [List.any_flatMap]
  congr 1
  funext r
  cases r.2 <;> simp [warning, StepReply.isOther]

/-- **A step raises an alarm** exactly if it clears the verdict. -/
theorem any_isAlarm_trace : (putIn log.trace).any isAlarm = log.clears := by
  have hline := isAlarm_stepLine log.text
  rw [stepLine] at hline
  rw [putIn_trace, List.any_cons, hline, Bool.false_or, List.any_append, any_isAlarm_warnings,
    any_isAlarm_report, clears]

/-- The alarms of a step are failures and warnings. -/
theorem alarms_of_mem_trace {o : Output} (h : o ∈ putIn log.trace) (alarm : isAlarm o = true) :
    Alarms o := by
  rw [putIn_trace, List.mem_cons, List.mem_append] at h
  rcases h with rfl | h | h
  · exact absurd (isAlarm_stepLine log.text) (by rw [stepLine, alarm]; decide)
  · obtain ⟨⟨i, reply⟩, -, hreply⟩ := List.mem_flatMap.mp h
    cases reply with
    | other command rest unknown =>
      obtain rfl := List.mem_singleton.mp hreply
      exact .unknown command
    | succeeded | failed | notFound => simp [warning] at hreply
  · unfold report at h
    split at h
    · obtain ⟨line, hline, rfl⟩ := List.mem_map.mp h
      obtain ⟨⟨i, reply⟩, -, hreply⟩ := List.mem_filterMap.mp hline
      cases reply with
      | succeeded result =>
        obtain rfl := Option.some.inj hreply
        simp at alarm
      | failed | notFound | other => simp at hreply
    · split at h
      · obtain ⟨line, hline, rfl⟩ := List.mem_map.mp h
        obtain ⟨⟨i, reply⟩, -, hreply⟩ := List.mem_filterMap.mp hline
        cases reply with
        | failed reason =>
          obtain rfl := Option.some.inj hreply
          exact .failure _ _
        | succeeded | notFound | other => simp at hreply
      · split at h
        · obtain rfl := List.mem_singleton.mp h
          simp at alarm
        · simp at h

/-- A report is made of whole lines. -/
theorem exists_puts_of_mem_report {o : Output} (h : o ∈ log.report) : ∃ text, o = .puts text := by
  unfold report at h
  split at h
  · obtain ⟨line, -, rfl⟩ := List.mem_map.mp h
    exact ⟨line, rfl⟩
  · split at h
    · obtain ⟨line, -, rfl⟩ := List.mem_map.mp h
      exact ⟨line, rfl⟩
    · split at h
      · exact ⟨_, List.mem_singleton.mp h⟩
      · simp at h

/-- A kind of line that reports and warnings are not of is counted at the step's first line
only. -/
theorem countP_trace {p : Output → Bool} (puts : ∀ text, p (.puts text) = false)
    (unknown : ∀ command, p (.printf (unknownCommandText command)) = false) :
    (putIn log.trace).countP p = (p (stepLine log.text)).toNat := by
  have hwarnings : (log.replies.flatMap fun r => warning r.2).countP p = 0 := by
    rw [List.countP_eq_zero]
    intro o ho
    obtain ⟨⟨i, reply⟩, -, hreply⟩ := List.mem_flatMap.mp ho
    cases reply with
    | other command rest _ =>
      obtain rfl := List.mem_singleton.mp hreply
      simp [unknown]
    | succeeded | failed | notFound => simp [warning] at hreply
  have hreport : log.report.countP p = 0 := by
    rw [List.countP_eq_zero]
    intro o ho
    obtain ⟨text, rfl⟩ := log.exists_puts_of_mem_report ho
    simp [puts]
  rw [putIn_trace, List.countP_cons, List.countP_append, hwarnings, hreport, stepLine]
  cases p _ <;> simp

end StepLog

/-- What a scenario prints. -/
def PickleLog.printed (log : PickleLog) : List Output :=
  scenarioLine (pickleName log.pickle) ::
    ((log.steps.flatMap fun step => putIn step.trace) ++ [.printf "\n"])

/-- What a file prints. -/
def FileLog.printed : FileLog → List Output
  | .parsed pickles => pickles.flatMap PickleLog.printed
  | .invalid => [.printf "Unable to parse feature file\n"]

theorem putIn_files (ids : List Frame) (logs : List FileLog) :
    putIn (logs.flatMap (FileLog.trace ids)) = logs.flatMap FileLog.printed := by
  rw [putIn_flatMap]
  refine List.flatMap_congr fun file _ => ?_
  cases file with
  | parsed pickles =>
    rw [FileLog.trace, putIn_flatMap]
    exact List.flatMap_congr fun log _ => putIn_pickleTrace ids log
  | invalid => rfl

/-- **A transcript raises an alarm** exactly if one of its steps clears the verdict. -/
theorem any_isAlarm_printed (logs : List FileLog) :
    (logs.flatMap FileLog.printed).any isAlarm = (stepsOf logs).any StepLog.clears := by
  have hpickle : ∀ log : PickleLog, log.printed.any isAlarm = log.steps.any StepLog.clears := by
    intro log
    have hblank : isAlarm (.printf "\n") = false := by decide
    simp only [PickleLog.printed, List.any_cons, isAlarm_scenarioLine, Bool.false_or,
      List.any_append, List.any_flatMap, StepLog.any_isAlarm_trace, hblank, List.any_nil,
      Bool.or_false]
  have hfile : ∀ file : FileLog, file.printed.any isAlarm =
      (file.pickles.flatMap PickleLog.steps).any StepLog.clears := by
    intro file
    cases file with
    | parsed pickles => simp only [FileLog.printed, FileLog.pickles, List.any_flatMap, hpickle]
    | invalid => decide
  simp only [stepsOf, List.any_flatMap, hfile]

/-- The alarms of a transcript are failures and warnings. -/
theorem alarms_of_mem_printed {logs : List FileLog} {o : Output}
    (h : o ∈ logs.flatMap FileLog.printed) (alarm : isAlarm o = true) : Alarms o := by
  obtain ⟨file, -, h⟩ := List.mem_flatMap.mp h
  cases file with
  | invalid =>
    obtain rfl := List.mem_singleton.mp h
    exact absurd alarm (by decide)
  | parsed pickles =>
    obtain ⟨log, -, h⟩ := List.mem_flatMap.mp h
    rw [PickleLog.printed, List.mem_cons, List.mem_append, List.mem_singleton] at h
    rcases h with rfl | h | rfl
    · simp at alarm
    · obtain ⟨step, -, h⟩ := List.mem_flatMap.mp h
      exact step.alarms_of_mem_trace h alarm
    · exact absurd alarm (by decide)

/-- A kind of line of which there are `a` for a scenario and `b` for a step. -/
theorem countP_printed {p : Output → Bool} {a b : ℕ} (puts : ∀ text, p (.puts text) = false)
    (unknown : ∀ command, p (.printf (unknownCommandText command)) = false)
    (blank : p (.printf "\n") = false)
    (invalid : p (.printf "Unable to parse feature file\n") = false)
    (scenario : ∀ name, (p (scenarioLine name)).toNat = a)
    (step : ∀ text, (p (stepLine text)).toNat = b) (logs : List FileLog) :
    (logs.flatMap FileLog.printed).countP p =
      a * (logs.flatMap FileLog.pickles).length + b * (stepsOf logs).length := by
  have hsteps : ∀ steps : List StepLog,
      (steps.flatMap fun step => putIn step.trace).countP p = b * steps.length := by
    intro steps
    induction steps with
    | nil => rfl
    | cons log steps ih =>
      rw [List.flatMap_cons, List.countP_append, ih, log.countP_trace puts unknown, step,
        List.length_cons, Nat.mul_succ, Nat.add_comm]
  have hpickle : ∀ log : PickleLog, log.printed.countP p = a + b * log.steps.length := by
    intro log
    have hhead : (if p (scenarioLine (pickleName log.pickle)) = true then 1 else 0) = a := by
      rw [← scenario (pickleName log.pickle)]
      cases p _ <;> rfl
    simp only [PickleLog.printed, List.countP_cons, List.countP_append, hsteps, hhead, blank,
      List.countP_nil, Bool.false_eq_true, if_false, Nat.add_zero]
    exact Nat.add_comm _ _
  have hfile : ∀ file : FileLog, file.printed.countP p =
      a * file.pickles.length + b * (file.pickles.flatMap PickleLog.steps).length := by
    intro file
    cases file with
    | invalid => simp [FileLog.printed, FileLog.pickles, invalid]
    | parsed pickles =>
      rw [FileLog.printed, FileLog.pickles]
      induction pickles with
      | nil => rfl
      | cons log pickles ih =>
        rw [List.flatMap_cons, List.countP_append, ih, hpickle, List.flatMap_cons,
          List.length_append, List.length_cons]
        ring
  induction logs with
  | nil => rfl
  | cons file logs ih =>
    rw [List.flatMap_cons, List.countP_append, ih, hfile, List.flatMap_cons, stepsOf, stepsOf,
      List.flatMap_cons, List.length_append, List.length_append]
    ring

/-! ## What a transcript exchanges -/

/-- As many messages are received as are sent. -/
def Balanced (t : List (Event Output (Frame × Msg) (Frame × Msg))) : Prop :=
  (receivedIn t).length = (sentIn t).length

theorem balanced_put (os : List Output) : Balanced (os.map .put) := by simp [Balanced]

theorem Balanced.append {t t' : List (Event Output (Frame × Msg) (Frame × Msg))} (h : Balanced t)
    (h' : Balanced t') : Balanced (t ++ t') := by
  rw [Balanced, receivedIn_append, sentIn_append, List.length_append, List.length_append, h, h']

theorem Balanced.flatMap {α : Type} {f : α → List (Event Output (Frame × Msg) (Frame × Msg))}
    (h : ∀ x, Balanced (f x)) (xs : List α) : Balanced (xs.flatMap f) := by
  induction xs with
  | nil => rfl
  | cons x xs ih =>
    rw [List.flatMap_cons]
    exact (h x).append ih

/-- Every request of a scenario is answered once. -/
theorem PickleLog.balanced_trace (ids : List Frame) (log : PickleLog) :
    Balanced (log.trace ids) := by
  have hask : ∀ command answer : Frame,
      Balanced (ids.flatMap (askTrace command answer (pickleId log.pickle))) :=
    fun command answer =>
      .flatMap (f := askTrace command answer (pickleId log.pickle)) (fun _ => rfl) ids
  have hreply : ∀ (step : StepLog) r,
      Balanced (StepLog.replyTrace step.scenarioId step.text r) := fun step r =>
    Balanced.append (t := [.sent _, .received _]) rfl (balanced_put (StepLog.warning r.2))
  have hstep : ∀ step : StepLog, Balanced step.trace := fun step =>
    (balanced_put [_]).append ((Balanced.flatMap (hreply step) _).append (balanced_put _))
  exact (balanced_put [_]).append ((hask _ _).append ((Balanced.flatMap hstep _).append
    ((hask _ _).append (balanced_put [_]))))

theorem balanced_files (ids : List Frame) (logs : List FileLog) :
    Balanced (logs.flatMap (FileLog.trace ids)) := by
  refine .flatMap (fun file => ?_) logs
  cases file with
  | parsed pickles => exact .flatMap (PickleLog.balanced_trace ids) pickles
  | invalid => exact balanced_put [_]

/-- A scenario takes two requests to each worker, and one more for each step. -/
theorem PickleLog.Complete.length_sentIn {ids : List Frame} {log : PickleLog}
    (h : log.Complete ids) :
    (sentIn (log.trace ids)).length = ids.length * (2 + log.steps.length) := by
  have hsteps : (log.steps.flatMap fun step => step.replies.map fun r =>
      (r.1, Request.runStep step.scenarioId step.text)).length = ids.length * log.steps.length := by
    have hreplies : ∀ step ∈ log.steps, step.replies.length = ids.length := by
      intro step hstep
      rw [← h.replies step hstep, List.length_map]
    generalize log.steps = steps at hreplies
    induction steps with
    | nil => rfl
    | cons step steps ih =>
      rw [List.flatMap_cons, List.length_append, List.length_map, hreplies step (by simp),
        ih fun step' hstep' => hreplies step' (List.mem_cons_of_mem _ hstep'), List.length_cons]
      ring
  rw [sentIn_pickleTrace, List.length_map, PickleLog.requests, List.length_append,
    List.length_append, List.length_map, List.length_map, hsteps]
  ring

/-- The requests of a transcript, counted. -/
theorem length_sentIn_files {ids : List Frame} {contents : List FileContent}
    {logs : List FileLog} (h : List.Forall₂ (FileLog.Of ids) contents logs) :
    (sentIn (logs.flatMap (FileLog.trace ids))).length =
      ids.length * (2 * (logs.flatMap FileLog.pickles).length + (stepsOf logs).length) := by
  have hpickles : ∀ pickles : List PickleLog, (∀ log ∈ pickles, log.Complete ids) →
      (sentIn (pickles.flatMap (PickleLog.trace ids))).length =
        ids.length * (2 * pickles.length + (pickles.flatMap PickleLog.steps).length) := by
    intro pickles complete
    induction pickles with
    | nil => rfl
    | cons log pickles ih =>
      rw [List.flatMap_cons, sentIn_append, List.length_append,
        (complete log (by simp)).length_sentIn,
        ih fun log' hlog' => complete log' (List.mem_cons_of_mem _ hlog'), List.flatMap_cons,
        List.length_append, List.length_cons]
      ring
  induction h with
  | nil => rfl
  | @cons content file contents logs hfile _ ih =>
    have hone : (sentIn (file.trace ids)).length = ids.length *
        (2 * file.pickles.length + (file.pickles.flatMap PickleLog.steps).length) := by
      match content, file, hfile with
      | .parsed _, .parsed logs, hfits =>
        refine hpickles logs fun log hlog => ?_
        obtain ⟨_, -, -, complete⟩ := exists_left_of_mem hfits hlog
        exact complete
      | .invalid _, .invalid, _ => rfl
    rw [List.flatMap_cons, sentIn_append, List.length_append, hone, ih, List.flatMap_cons, stepsOf,
      stepsOf, List.flatMap_cons, List.length_append, List.length_append]
    ring

/-- A run that returns has received as many messages as it has sent. -/
theorem balanced_run {γ : Type} (G : GherkinC γ) {fuel : ℕ} {self : CucumberFeatureRunner}
    {identities : CursorList Frame} {last : CucumberFeatureRunner × Bool}
    {t : List (Event Output (Frame × Msg) (Frame × Msg))}
    (h : MayReturn (cucumberFeatureRunnerRun G fuel self identities) t last) : Balanced t := by
  obtain ⟨-, logs, -, -, -, htrace⟩ := run_inv G h
  rw [Balanced, htrace.sentIn_eq, sentIn_append, sentIn_put, List.append_nil, ← balanced_files,
    htrace.receivedIn_taken.length_eq, receivedIn_append, receivedIn_put, List.append_nil]

/-! ## What the calls of a run tell -/

/-- **What the output tells**, taken as the list of the calls of `printf` and `puts`. Let
anything arrive at the socket of the runner. If the run returns then its verdict is negative
exactly if one of the calls is an alarm, and the alarms are the failures and the warnings about
unknown commands; the totals have grown by the calls that announce scenarios and steps; and
that decides how many messages have been exchanged. -/
theorem report_tells {γ : Type} (G : GherkinC γ) (fuel : ℕ) (self self' : CucumberFeatureRunner)
    (identities : CursorList Frame) (verdict : Bool)
    (t : List (Event Output (Frame × Msg) (Frame × Msg)))
    (h : MayReturn (cucumberFeatureRunnerRun G fuel self identities) t (self', verdict)) :
    verdict = !(putIn t).any isAlarm ∧
      (∀ o ∈ putIn t, isAlarm o = true ↔ Alarms o) ∧
      self'.totalScenarios = self.totalScenarios + (putIn t).countP isScenarioLine ∧
      self'.totalSteps = self.totalSteps + (putIn t).countP isStepLine ∧
      (sentIn t).length = identities.size *
        (2 * (putIn t).countP isScenarioLine + (putIn t).countP isStepLine) ∧
      (receivedIn t).length = (sentIn t).length := by
  have hbalanced := balanced_run G h
  obtain ⟨contents, logs, -, hof, hresult, htrace⟩ := run_inv G h
  generalize hs : afterFiles self.initial logs = s at hresult htrace
  have hputs : putIn t = logs.flatMap FileLog.printed ++
      [totalLine s.totalScenarios " Scenarios", totalLine s.totalSteps " Steps"] := by
    rw [htrace.putIn_eq, putIn_append, putIn_files, putIn_put]
    rfl
  have hsent : sentIn t = sentIn (logs.flatMap (FileLog.trace identities.items)) := by
    rw [htrace.sentIn_eq, sentIn_append, sentIn_put, List.append_nil]
  have hscenarios : (putIn t).countP isScenarioLine = (logs.flatMap FileLog.pickles).length := by
    rw [hputs, List.countP_append, countP_printed (a := 1) (b := 0) (by simp [isScenarioLine])
      (by simp) (by decide) (by decide) (by simp) (by simp)]
    simp
  have hsteps : (putIn t).countP isStepLine = (stepsOf logs).length := by
    rw [hputs, List.countP_append, countP_printed (a := 0) (b := 1) (by simp [isStepLine])
      (by simp) (by decide) (by decide) (by simp) (by simp)]
    simp
  rw [afterFiles_eq] at hs
  obtain ⟨rfl, rfl⟩ := Prod.mk.inj hresult
  refine ⟨?_, ?_, ?_, ?_, ?_, hbalanced⟩
  · rw [hputs, List.any_append, any_isAlarm_printed, ← hs]
    simp [CucumberFeatureRunner.initial]
  · intro o ho
    refine ⟨fun alarm => ?_, Alarms.isAlarm⟩
    rw [hputs, List.mem_append] at ho
    rcases ho with ho | ho
    · exact alarms_of_mem_printed ho alarm
    · simp only [List.mem_cons, List.not_mem_nil, or_false] at ho
      rcases ho with rfl | rfl <;> simp at alarm
  · rw [hscenarios, ← hs]
    rfl
  · rw [hsteps, ← hs]
    rfl
  · rw [hscenarios, hsteps, hsent]
    exact length_sentIn_files hof

/-- `B` fails at the only step, and the output tells that. -/
theorem report_tells_failure :
    let t := ((cucumberFeatureRunnerRun onePickle 0 oneFile ⟨["B"], 0⟩).exec disagreeing.respond ()
      []).trace
    (putIn t).any isAlarm = true ∧ (putIn t).countP isStepLine = 1 ∧ (sentIn t).length = 3 := by
  intro t
  have hexec : (cucumberFeatureRunnerRun onePickle 0 oneFile ⟨["B"], 0⟩).exec disagreeing.respond ()
      [] = ⟨.returned (⟨.new, 1, 1⟩, false), (), [], t⟩ := by decide
  obtain ⟨hverdict, -, hscenarios, hsteps, hsent, -⟩ :=
    report_tells onePickle 0 oneFile ⟨.new, 1, 1⟩ ⟨["B"], 0⟩ false t (.of_exec hexec)
  have hone : 1 = (putIn t).countP isScenarioLine := hscenarios.trans (Nat.zero_add _)
  have hone' : 1 = (putIn t).countP isStepLine := hsteps.trans (Nat.zero_add _)
  refine ⟨by simpa using hverdict, hone'.symm, ?_⟩
  rw [hsent, ← hone, ← hone']
  rfl

end CucumberC
