import CucumberC.Simulation

/-!
# Running two queues one after the other

A run over the files of one queue and then those of another is the two runs together: its
verdict is positive if both are, its totals grow by what both add, and every worker gets
the messages of the first run and then those of the second.

The workers may remember what they like, as long as an answer depends only on the messages
of the scenario it is part of (`ScenarioLocal`). Then a scenario makes any two worlds alike
when it starts, so its log is the same in both, and with it the log of a file.

## Main definitions

* `ScenarioLocal`: answers that depend on the scenario only.
* `run_append`: the run over two queues.
-/

namespace CucumberC
open Interaction

variable {ε γ : Type}

/-- The answers of the workers depend only on the messages of the scenario in progress.
`heard` tells what a worker was sent since the scenario was started there. -/
structure ScenarioLocal (w : Workers ε) where
  heard : ε → Frame → List Request
  answer : Frame → List Request → StepReply
  heard_start : ∀ e i id,
    heard (w.start e i id) = Function.update (heard e) i [.startScenario id]
  heard_run : ∀ e i id text, heard (w.run e i id text).1 =
    Function.update (heard e) i (heard e i ++ [.runStep id text])
  run_eq : ∀ e i id text, (w.run e i id text).2 = answer i (heard e i ++ [.runStep id text])

namespace ScenarioLocal
variable {w : Workers ε} (isLocal : ScenarioLocal w) (ids : List Frame)

/-- In both worlds the workers `ids` heard the same in the scenario in progress. -/
def Alike (e e' : ε) : Prop := ∀ i ∈ ids, isLocal.heard e i = isLocal.heard e' i

/-- To start a scenario makes all worlds alike. -/
theorem alike_startAll (id : Frame) (e e' : ε) :
    isLocal.Alike ids (w.startAll ids id e) (w.startAll ids id e') := by
  have hstarted : ∀ (js : List Frame) (e : ε) (i : Frame),
      i ∈ js ∨ isLocal.heard e i = [.startScenario id] →
        isLocal.heard (w.startAll js id e) i = [.startScenario id] := by
    intro js
    induction js with
    | nil =>
      intro e i h
      exact h.resolve_left (List.not_mem_nil)
    | cons j js ih =>
      intro e i h
      refine ih (w.start e j id) i ?_
      by_cases hij : i = j
      · exact .inr (by rw [isLocal.heard_start, hij, Function.update_self])
      · rw [isLocal.heard_start, Function.update_of_ne hij]
        exact h.imp_left fun hmem => (List.mem_cons.mp hmem).resolve_left hij
  intro i hi
  rw [hstarted ids e i (.inl hi), hstarted ids e' i (.inl hi)]

/-- Alike worlds answer a request alike, and stay alike. -/
theorem alike_runOne (id text : Frame) {e e' : ε} {i : Frame} (hi : i ∈ ids)
    (h : isLocal.Alike ids e e') :
    isLocal.Alike ids (w.runOne id text e i).1 (w.runOne id text e' i).1 ∧
      (w.runOne id text e i).2 = (w.runOne id text e' i).2 := by
  constructor
  · intro j hj
    have hheard := isLocal.heard_run e i id text
    have hheard' := isLocal.heard_run e' i id text
    rw [Workers.runOne, Workers.runOne, hheard, hheard', Function.update_apply,
      Function.update_apply, h i hi, h j hj]
  · rw [Workers.runOne, Workers.runOne, isLocal.run_eq, isLocal.run_eq, h i hi]

/-- Alike worlds make the same of a step, and stay alike. -/
theorem alike_runStep (id text : Frame) {e e' : ε} (h : isLocal.Alike ids e e') :
    isLocal.Alike ids (w.runStep ids id e text).1 (w.runStep ids id e' text).1 ∧
      (w.runStep ids id e text).2 = (w.runStep ids id e' text).2 := by
  obtain ⟨alike, replies⟩ := logEach_congr (w.runOne id text)
    (fun e e' i hi alike => isLocal.alike_runOne ids id text hi alike) h
  exact ⟨alike, congrArg (StepLog.mk id text) replies⟩

/-- Any two worlds make the same steps, as every scenario makes them alike. -/
theorem simulates : Simulates w ids ids (fun _ _ => True) (isLocal.Alike ids) Eq where
  start id _ := isLocal.alike_startAll ids id _ _
  run id text h := isLocal.alike_runStep ids id text h
  stop _ _ := trivial

/-- **The logs of files** are the same in every world. -/
theorem runFiles_local (isLocal : ScenarioLocal w) (e e' : ε) (contents : List FileContent) :
    (logEach (w.runFile ids) e contents).2 = (logEach (w.runFile ids) e' contents).2 :=
  eq_of_rel ((isLocal.simulates ids).runFiles trivial contents)

end ScenarioLocal

/-! ## The verdict of a log -/

/-- The verdict of two logs is positive if both are. -/
theorem verdictOf_append (logs logs' : List FileLog) :
    verdictOf (logs ++ logs') = (verdictOf logs && verdictOf logs') := by
  simp [verdictOf, stepsOf]

/-- A verdict that is negative after some steps stays negative, whatever steps follow. -/
theorem verdictOf_of_front {logs : List FileLog} {front back : List StepLog} {s : RunState}
    (split : stepsOf logs = front ++ back) (start : s.isSuccessful = true)
    (negative : (front.foldl StepLog.apply s).isSuccessful = false) :
    verdictOf logs = false := by
  rw [foldl_stepApply] at negative
  simp only [start, Bool.true_and] at negative
  rw [verdictOf, split, List.any_append, Bool.not_or, negative, Bool.false_and]

/-! ## Two queues -/

section Runs
variable (G : GherkinC γ) (identities : CursorList Frame) (w : Workers ε)

/-- **Running feature files is compositional.** The files of two queues all parse, and an
answer of a worker depends only on the messages of the scenario it is part of. Then, whatever
the workers remember when a run starts and whatever totals it starts with, the run over both
queues

* returns the conjunction of the two verdicts,
* adds to the totals what the two runs add, and
* sends every worker the messages of the first run and then those of the second.

If its verdict is negative after some of its steps, it is so in the end. -/
theorem run_append (isLocal : ScenarioLocal w) {first second both : CucumberFeatureRunner}
    (queue : both.featureFiles.items = first.featureFiles.items ++ second.featureFiles.items)
    {xs ys : List FileContent}
    (readsFirst : List.Forall₂ (Reads G) first.featureFiles.items xs)
    (readsSecond : List.Forall₂ (Reads G) second.featureFiles.items ys)
    (parsedFirst : ∀ content ∈ xs, content.isParsed = true)
    (parsedSecond : ∀ content ∈ ys, content.isParsed = true) (fuel : ℕ) (e e' e'' : ε) :
    let logs := (logEach (w.runFile identities.items) e'' (xs ++ ys)).2
    ∃ scenarios scenarios' steps steps' verdict verdict' last last' last'' t t' t'',
      (cucumberFeatureRunnerRun G fuel first identities).exec w.respond e [] =
          ⟨.returned (⟨.new, first.totalScenarios + scenarios, first.totalSteps + steps⟩, verdict),
            last, [], t⟩ ∧
        (cucumberFeatureRunnerRun G fuel second identities).exec w.respond e' [] =
          ⟨.returned (⟨.new, second.totalScenarios + scenarios', second.totalSteps + steps'⟩,
            verdict'), last', [], t'⟩ ∧
        (cucumberFeatureRunnerRun G fuel both identities).exec w.respond e'' [] =
          ⟨.returned (⟨.new, both.totalScenarios + (scenarios + scenarios'),
            both.totalSteps + (steps + steps')⟩, verdict && verdict'), last'', [], t''⟩ ∧
        (∀ i, sentTo i t'' = sentTo i t ++ sentTo i t') ∧ sentIn t'' = sentIn t ++ sentIn t' ∧
        (∃ totals : List Output,
          t'' = logs.flatMap (FileLog.trace identities.items) ++ totals.map .put) ∧
        ∀ front back, stepsOf logs = front ++ back →
          (front.foldl StepLog.apply both.initial).isSuccessful = false →
            (verdict && verdict') = false := by
  intro logs
  have readsBoth : List.Forall₂ (Reads G) both.featureFiles.items (xs ++ ys) := by
    rw [queue]
    exact List.rel_append readsFirst readsSecond
  have parsedBoth : ∀ content ∈ xs ++ ys, content.isParsed = true := fun content hmem =>
    (List.mem_append.mp hmem).elim (parsedFirst content) (parsedSecond content)
  obtain ⟨totals, hfirst⟩ := exec_run_parsed G fuel first identities w e readsFirst parsedFirst
  obtain ⟨totals', hsecond⟩ :=
    exec_run_parsed G fuel second identities w e' readsSecond parsedSecond
  obtain ⟨totals'', hboth⟩ := exec_run_parsed G fuel both identities w e'' readsBoth parsedBoth
  generalize hlogs₁ : (logEach (w.runFile identities.items) e xs).2 = logs₁ at hfirst
  generalize hlogs₂ : (logEach (w.runFile identities.items) e' ys).2 = logs₂ at hsecond
  -- The log of both queues is made of the logs of the two runs, which start in other worlds.
  have hlogs : (logEach (w.runFile identities.items) e'' (xs ++ ys)).2 = logs₁ ++ logs₂ := by
    rw [logEach_append, ← hlogs₁, ← hlogs₂,
      ScenarioLocal.runFiles_local identities.items isLocal e'' e xs,
      ScenarioLocal.runFiles_local identities.items isLocal _ e' ys]
  rw [hlogs] at hboth
  have hverdict := verdictOf_append logs₁ logs₂
  have hpickles : ((logs₁ ++ logs₂).flatMap FileLog.pickles).length =
      (logs₁.flatMap FileLog.pickles).length + (logs₂.flatMap FileLog.pickles).length := by
    rw [List.flatMap_append, List.length_append]
  have hsteps : (stepsOf (logs₁ ++ logs₂)).length =
      (stepsOf logs₁).length + (stepsOf logs₂).length := by
    rw [stepsOf, List.flatMap_append, List.length_append]
    rfl
  rw [hverdict, hpickles, hsteps] at hboth
  refine ⟨_, _, _, _, _, _, _, _, _, _, _, _, hfirst, hsecond, hboth, ?_, ?_, ?_, ?_⟩
  · intro i
    simp only [sentTo_append, sentTo_put, List.flatMap_append, List.append_nil]
  · simp only [sentIn_append, sentIn_put, List.flatMap_append, List.append_nil]
  · exact ⟨totals'', by rw [← hlogs]⟩
  · intro front back split negative
    rw [← hverdict, ← hlogs]
    exact verdictOf_of_front split rfl negative

end Runs

/-! ## Workers that remember the scenario -/

/-- Workers that keep the messages of the scenario in progress and answer by them. -/
def rememberingWorkers (answer : Frame → List Request → StepReply) :
    Workers (Frame → List Request) where
  start heard i id := Function.update heard i [.startScenario id]
  run heard i id text :=
    (Function.update heard i (heard i ++ [.runStep id text]),
      answer i (heard i ++ [.runStep id text]))
  stop heard i id := Function.update heard i (heard i ++ [.endScenario id])

/-- What they answer depends on the scenario only. -/
def rememberingWorkers_local (answer : Frame → List Request → StepReply) :
    ScenarioLocal (rememberingWorkers answer) where
  heard e := e
  answer := answer
  heard_start _ _ _ := rfl
  heard_run _ _ _ _ := rfl
  run_eq _ _ _ _ := rfl

/-- Workers that know how often they were asked: the first step of a scenario succeeds. -/
def failingLater : Workers (Frame → List Request) :=
  rememberingWorkers fun _ heard => if heard.length = 2 then .succeeded "OK" else .failed "boom"

/-- The run over a queue with the file twice asks what two runs over the file ask. -/
theorem run_append_twice :
    sentIn ((cucumberFeatureRunnerRun onePickle 0 ⟨⟨["f", "f"], 0⟩, 0, 0⟩ ⟨["A", "B"], 0⟩).exec
        failingLater.respond (fun _ => []) []).trace =
      sentIn ((cucumberFeatureRunnerRun onePickle 0 oneFile ⟨["A", "B"], 0⟩).exec
          failingLater.respond (fun _ => []) []).trace ++
        sentIn ((cucumberFeatureRunnerRun onePickle 0 oneFile ⟨["A", "B"], 0⟩).exec
          failingLater.respond (fun _ => []) []).trace := by
  have reads : List.Forall₂ (Reads onePickle) oneFile.featureFiles.items [onePickleContent] :=
    .cons (reads_onePickle "f") .nil
  have parsed : ∀ content ∈ [onePickleContent], content.isParsed = true := by
    simp [onePickleContent, FileContent.isParsed]
  have queue : (CucumberFeatureRunner.mk ⟨["f", "f"], 0⟩ 0 0).featureFiles.items =
      oneFile.featureFiles.items ++ oneFile.featureFiles.items := rfl
  obtain ⟨_, _, _, _, _, _, _, _, _, t, t', t'', hfirst, hsecond, hboth, -, hsent, -⟩ :=
    run_append onePickle ⟨["A", "B"], 0⟩ failingLater (rememberingWorkers_local _) queue reads reads
      parsed parsed 0 (fun _ => []) (fun _ => []) (fun _ => [])
  obtain rfl : t = t' := by
    rw [hfirst] at hsecond
    exact (Outcome.mk.inj hsecond).2.2.2
  rw [hboth, hfirst]
  exact hsent

end CucumberC
