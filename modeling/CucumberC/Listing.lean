import CucumberC.Simulation

/-!
# The order of the workers

The runner asks the workers in the order in which they are listed and collects their
replies, so nothing but the order of the collected lines depends on it. For workers that
are separate (each answers by what it was sent itself) a permuted list leads to the same
verdict, the same totals and the same reports up to the order of their lines, and a worker
that knows no step may be listed or not without a difference in what is printed.

For both, two runs with different lists go side by side (`Simulates`). Their worlds are
related by what the workers heard, at all times.

## Main definitions

* `Separate`: workers that share nothing.
* `StepLog.branch`: which of the reports is made.
* `StepLog.Reordered`, `StepLog.Joined`: how the two logs of a step are related.
* `listing_irrelevant`: both results.
-/

namespace CucumberC
open Interaction

variable {ε γ : Type}

/-! ## Separate workers -/

/-- Each worker answers by the requests that it was sent itself, which `heard` tells. -/
structure Separate (w : Workers ε) where
  heard : ε → Frame → List Request
  answer : Frame → List Request → StepReply
  heard_start : ∀ e i id, heard (w.start e i id) =
    Function.update (heard e) i (heard e i ++ [.startScenario id])
  heard_run : ∀ e i id text, heard (w.run e i id text).1 =
    Function.update (heard e) i (heard e i ++ [.runStep id text])
  heard_stop : ∀ e i id, heard (w.stop e i id) =
    Function.update (heard e) i (heard e i ++ [.endScenario id])
  run_eq : ∀ e i id text, (w.run e i id text).2 = answer i (heard e i ++ [.runStep id text])

/-! ## Reports -/

/-- Which of the reports is made for a step. -/
inductive ReportBranch
  | success
  | failure
  | notFound
  | none
  deriving DecidableEq, Repr

namespace StepLog

/-- The branch that `reportStep` takes. -/
def branch (log : StepLog) : ReportBranch :=
  if log.successLines ≠ [] then .success
  else if log.failureLines ≠ [] then .failure
  else if ∀ r ∈ log.replies, r.2.isNotFound then .notFound
  else .none

/-- Each branch has its lines. -/
theorem report_eq (log : StepLog) :
    log.report = match log.branch with
      | .success => log.successLines.map .puts
      | .failure => log.failureLines.map .puts
      | .notFound => [.puts (notFoundLine log.text)]
      | .none => [] := by
  unfold report branch
  split
  · rfl
  · split
    · rfl
    · split <;> rfl

/-- The branch depends on what kinds of replies there are. -/
theorem branch_congr {log log' : StepLog}
    (success : log.successLines = [] ↔ log'.successLines = [])
    (failure : log.failureLines = [] ↔ log'.failureLines = [])
    (notFound : (∀ r ∈ log.replies, r.2.isNotFound = true) ↔
      ∀ r ∈ log'.replies, r.2.isNotFound = true) : log.branch = log'.branch := by
  simp only [branch, ne_eq, success, failure, notFound]

/-! ### Replies in another order -/

/-- The same step with the same replies in another order. -/
structure Reordered (log log' : StepLog) : Prop where
  scenarioId : log.scenarioId = log'.scenarioId
  text : log.text = log'.text
  replies : log.replies.Perm log'.replies

namespace Reordered
variable {log log' : StepLog} (h : log.Reordered log')
include h

theorem successLines : log.successLines.Perm log'.successLines := by
  rw [StepLog.successLines, StepLog.successLines, h.text]
  exact h.replies.filterMap _

theorem failureLines : log.failureLines.Perm log'.failureLines := by
  rw [StepLog.failureLines, StepLog.failureLines, h.text]
  exact h.replies.filterMap _

/-- The same branch is taken. -/
theorem branch_eq : log.branch = log'.branch := by
  have hnil : ∀ {xs ys : List String}, xs.Perm ys → (xs = [] ↔ ys = []) := by
    intro xs ys p
    rw [← List.length_eq_zero_iff, p.length_eq, List.length_eq_zero_iff]
  exact branch_congr (hnil h.successLines) (hnil h.failureLines)
    (forall_congr' fun r => imp_congr_left h.replies.mem_iff)

/-- The report has the same lines. -/
theorem report : log.report.Perm log'.report := by
  rw [report_eq, report_eq, ← h.branch_eq]
  cases log.branch with
  | success => exact h.successLines.map _
  | failure => exact h.failureLines.map _
  | notFound => rw [h.text]
  | none => exact .refl _

/-- The step does the same to the verdict. -/
theorem clears_eq : log.clears = log'.clears := by
  rw [Bool.eq_iff_iff, log.clears_iff, log'.clears_iff]
  simp only [h.replies.mem_iff]

end Reordered

/-! ### One more worker that knows nothing -/

/-- The same step with one more reply, by which a worker `n` says that it does not know the
step. -/
structure Joined (n : Frame) (log log' : StepLog) : Prop where
  scenarioId : log.scenarioId = log'.scenarioId
  text : log.text = log'.text
  replies : ∃ front back, log.replies = front ++ back ∧
    log'.replies = front ++ (n, .notFound) :: back

namespace Joined
variable {n : Frame} {log log' : StepLog} (h : log.Joined n log')
include h

theorem successLines : log.successLines = log'.successLines := by
  obtain ⟨front, back, hreplies, hreplies'⟩ := h.replies
  simp [StepLog.successLines, hreplies, hreplies', h.text]

theorem failureLines : log.failureLines = log'.failureLines := by
  obtain ⟨front, back, hreplies, hreplies'⟩ := h.replies
  simp [StepLog.failureLines, hreplies, hreplies', h.text]

/-- The report is the same. -/
theorem report : log.report = log'.report := by
  have hbranch : log.branch = log'.branch := by
    obtain ⟨front, back, hreplies, hreplies'⟩ := h.replies
    refine branch_congr (by rw [h.successLines]) (by rw [h.failureLines]) ?_
    rw [hreplies, hreplies']
    simp only [List.forall_mem_append, List.forall_mem_cons, StepReply.isNotFound, true_and]
  rw [report_eq, report_eq, ← hbranch, h.successLines, h.failureLines, h.text]

/-- The step does the same to the verdict. -/
theorem clears_eq : log.clears = log'.clears := by
  obtain ⟨front, back, hreplies, hreplies'⟩ := h.replies
  simp [StepLog.clears, hreplies, hreplies', StepReply.isOther, StepReply.isFailed,
    StepReply.isSucceeded]

end Joined

/-- What a step prints: its text, a warning for each command of a worker's own, and the
report. -/
theorem putIn_trace (log : StepLog) :
    putIn log.trace = .printf (BLUE ++ "  Step: " ++ log.text ++ DEFAULT ++ "\r") ::
      (log.replies.flatMap (fun r => warning r.2) ++ log.report) := by
  have hone : ∀ r, putIn (replyTrace log.scenarioId log.text r) = warning r.2 :=
    fun r => putIn_put _
  simp only [trace, putIn_put_cons, putIn_append, putIn_flatMap, hone, putIn_put]

/-- The same is printed, up to the order of the lines after the first. -/
theorem Reordered.putIn_perm {log log' : StepLog} (h : log.Reordered log') :
    (putIn log.trace).Perm (putIn log'.trace) := by
  rw [putIn_trace, putIn_trace, h.text]
  exact ((h.replies.flatMap_right _).append h.report).cons _

/-- The worker that knows nothing is not heard of. -/
theorem Joined.putIn_eq {n : Frame} {log log' : StepLog} (h : log.Joined n log') :
    putIn log.trace = putIn log'.trace := by
  rw [putIn_trace, putIn_trace, h.report, h.text]
  obtain ⟨front, back, hreplies, hreplies'⟩ := h.replies
  simp [hreplies, hreplies', warning]

end StepLog

namespace Separate
variable {w : Workers ε} (separate : Separate w)

/-! ## Workers in another order -/

/-- One request to every worker, in either of two orders. -/
theorem heard_perm {κ : Type} {f : ε → Frame → ε × κ} {request : Request}
    (entry : Frame → List Request → κ)
    (hears : ∀ e i, separate.heard (f e i).1 =
      Function.update (separate.heard e) i (separate.heard e i ++ [request]))
    (entries : ∀ e i, (f e i).2 = entry i (separate.heard e i)) {ids ids' : List Frame}
    (reordered : ids.Perm ids') {e e' : ε} (h : separate.heard e = separate.heard e') :
    separate.heard (logEach f e ids).1 = separate.heard (logEach f e' ids').1 ∧
      (logEach f e ids).2.Perm (logEach f e' ids').2 := by
  refine logEach_perm f separate.heard ?_ ?_ reordered h
  · intro e e' i same
    rw [hears, hears, entries, entries, same]
    exact ⟨rfl, rfl⟩
  · intro e i j hij
    have hother : separate.heard (f e i).1 j = separate.heard e j := by
      rw [hears, Function.update_of_ne hij.symm]
    have hother' : separate.heard (f e j).1 i = separate.heard e i := by
      rw [hears, Function.update_of_ne hij]
    constructor
    · rw [hears, hears (f e j).1, hother, hother', hears, hears, Function.update_comm hij]
    · rw [entries, entries, hother]

/-- One message that is told to every worker. -/
theorem heard_foldl_perm {tell : ε → Frame → ε} {request : Request}
    (hears : ∀ e i, separate.heard (tell e i) =
      Function.update (separate.heard e) i (separate.heard e i ++ [request]))
    {ids ids' : List Frame} (reordered : ids.Perm ids') {e e' : ε}
    (h : separate.heard e = separate.heard e') :
    separate.heard (ids.foldl tell e) = separate.heard (ids'.foldl tell e') := by
  obtain ⟨last, -⟩ := separate.heard_perm (f := fun e i => (tell e i, i)) (fun i _ => i) hears
    (fun _ _ => rfl) reordered h
  rw [logEach_self, logEach_self] at last
  exact last

/-- Workers in another order give the same replies in that order. -/
theorem simulates_perm {ids ids' : List Frame} (reordered : ids.Perm ids') :
    Simulates w ids ids' (fun e e' => separate.heard e = separate.heard e')
      (fun e e' => separate.heard e = separate.heard e') StepLog.Reordered where
  start id h := separate.heard_foldl_perm (fun e i => separate.heard_start e i id) reordered h
  run {e e'} id text h := by
    obtain ⟨last, replies⟩ := separate.heard_perm (f := w.runOne id text)
      (fun i heard => (i, separate.answer i (heard ++ [.runStep id text])))
      (fun e i => separate.heard_run e i id text)
      (fun e i => congrArg (Prod.mk i) (separate.run_eq e i id text)) reordered h
    exact ⟨last, rfl, rfl, replies⟩
  stop id h := separate.heard_foldl_perm (fun e i => separate.heard_stop e i id) reordered h

/-! ## A worker more -/

/-- All workers but `n` heard the same in both worlds. -/
def AlikeBut (n : Frame) (e e' : ε) : Prop := ∀ i, i ≠ n → separate.heard e i = separate.heard e' i

/-- A request to `n` is not noticed by the others. -/
theorem alikeBut_of_hears {κ : Type} {f : ε → Frame → ε × κ} {request : Request}
    (hears : ∀ e i, separate.heard (f e i).1 =
      Function.update (separate.heard e) i (separate.heard e i ++ [request])) (n : Frame) (e : ε) :
    separate.AlikeBut n e (f e n).1 := by
  intro i hi
  rw [hears, Function.update_of_ne hi]

/-- One request to every worker, with `n` among them or not. -/
theorem heard_joined {κ : Type} {f : ε → Frame → ε × κ} {request : Request}
    (entry : Frame → List Request → κ) {n : Frame} {known : κ}
    (hears : ∀ e i, separate.heard (f e i).1 =
      Function.update (separate.heard e) i (separate.heard e i ++ [request]))
    (entries : ∀ e i, (f e i).2 = entry i (separate.heard e i)) (knows : ∀ e, (f e n).2 = known)
    (front back : List Frame) {e e' : ε} (h : separate.AlikeBut n e e') :
    separate.AlikeBut n (logEach f e (front ++ back)).1 (logEach f e' (front ++ n :: back)).1 ∧
      ∃ before after, (logEach f e (front ++ back)).2 = before ++ after ∧
        (logEach f e' (front ++ n :: back)).2 = before ++ known :: after := by
  have hsame : ∀ (ids : List Frame) {e e' : ε}, separate.AlikeBut n e e' →
      separate.AlikeBut n (logEach f e ids).1 (logEach f e' ids).1 ∧
        (logEach f e ids).2 = (logEach f e' ids).2 := by
    intro ids e e' h
    refine logEach_congr f ?_ h
    intro e e' i _ h
    by_cases hi : i = n
    · subst hi
      refine ⟨fun j hj => ?_, by rw [knows, knows]⟩
      rw [hears, hears, Function.update_of_ne hj, Function.update_of_ne hj, h j hj]
    · refine ⟨fun j hj => ?_, by rw [entries, entries, h i hi]⟩
      rw [hears, hears, Function.update_apply, Function.update_apply, h i hi, h j hj]
  obtain ⟨hmiddle, hfront⟩ := hsame front h
  have hjoined : separate.AlikeBut n (logEach f e front).1 (f (logEach f e' front).1 n).1 :=
    fun i hi => (hmiddle i hi).trans (separate.alikeBut_of_hears hears n _ i hi)
  obtain ⟨last, hback⟩ := hsame back hjoined
  rw [logEach_append, logEach_append, logEach_cons]
  refine ⟨last, _, _, rfl, ?_⟩
  rw [hfront, hback, knows]

/-- One message that is told to every worker, with `n` among them or not. -/
theorem heard_foldl_joined {tell : ε → Frame → ε} {request : Request} {n : Frame}
    (hears : ∀ e i, separate.heard (tell e i) =
      Function.update (separate.heard e) i (separate.heard e i ++ [request]))
    (front back : List Frame) {e e' : ε} (h : separate.AlikeBut n e e') :
    separate.AlikeBut n ((front ++ back).foldl tell e) ((front ++ n :: back).foldl tell e') := by
  obtain ⟨last, -⟩ := separate.heard_joined (f := fun e i => (tell e i, i)) (fun i _ => i) hears
    (fun _ _ => rfl) (fun _ => rfl) front back h
  rw [logEach_self, logEach_self] at last
  exact last

/-- A worker more that knows no step adds its reply. -/
theorem simulates_joined {n : Frame} (ignorant : ∀ e id text, (w.run e n id text).2 = .notFound)
    (front back : List Frame) :
    Simulates w (front ++ back) (front ++ n :: back) (separate.AlikeBut n)
      (separate.AlikeBut n) (StepLog.Joined n) where
  start id h :=
    separate.heard_foldl_joined (fun e i => separate.heard_start e i id) front back h
  run {e e'} id text h := by
    obtain ⟨last, replies⟩ := separate.heard_joined (f := w.runOne id text)
      (fun i heard => (i, separate.answer i (heard ++ [.runStep id text])))
      (fun e i => separate.heard_run e i id text)
      (fun e i => congrArg (Prod.mk i) (separate.run_eq e i id text))
      (fun e => congrArg (Prod.mk n) (ignorant e id text)) front back h
    exact ⟨last, rfl, rfl, replies⟩
  stop id h :=
    separate.heard_foldl_joined (fun e i => separate.heard_stop e i id) front back h

end Separate

/-! ## Both results -/

section Runs
variable (G : GherkinC γ) (fuel : ℕ) (self : CucumberFeatureRunner) {w : Workers ε}
variable {contents : List FileContent}

/-- The same step with the same report, up to the order of the lines. -/
structure StepLog.SameReport (log log' : StepLog) : Prop where
  scenarioId : log.scenarioId = log'.scenarioId
  text : log.text = log'.text
  branch : log.branch = log'.branch
  report : log.report.Perm log'.report
  printed : (putIn log.trace).Perm (putIn log'.trace)

theorem StepLog.Reordered.sameReport {log log' : StepLog} (h : log.Reordered log') :
    log.SameReport log' := ⟨h.scenarioId, h.text, h.branch_eq, h.report, h.putIn_perm⟩

/-- **How the workers are listed does not matter.** All feature files parse, and the workers
are separate.

* For a permuted list the run returns the same, the totals included, and takes the same
  branch of the report at every step, with the same lines up to their order.
* With one worker more, at any position, that does not know a single step, the run returns
  the same and prints the same. -/
theorem listing_irrelevant (separate : Separate w)
    (reads : List.Forall₂ (Reads G) self.featureFiles.items contents)
    (parsed : ∀ content ∈ contents, content.isParsed = true) (e : ε)
    (identities : CursorList Frame) :
    let logs := fun ids => (logEach (w.runFile ids) e contents).2
    (∀ identities' : CursorList Frame, identities.items.Perm identities'.items →
      ∃ (result : CucumberFeatureRunner × Bool) (totals : List Output) (last last' : ε),
        (cucumberFeatureRunnerRun G fuel self identities).exec w.respond e [] =
            ⟨.returned result, last, [],
              (logs identities.items).flatMap (FileLog.trace identities.items) ++
                totals.map .put⟩ ∧
          (cucumberFeatureRunnerRun G fuel self identities').exec w.respond e [] =
            ⟨.returned result, last', [],
              (logs identities'.items).flatMap (FileLog.trace identities'.items) ++
                totals.map .put⟩ ∧
          List.Forall₂ StepLog.SameReport (stepsOf (logs identities.items))
            (stepsOf (logs identities'.items))) ∧
      ∀ (front back : List Frame) (n : Frame) (identities' : CursorList Frame),
        identities.items = front ++ back → identities'.items = front ++ n :: back →
        (∀ e id text, (w.run e n id text).2 = .notFound) →
          ∃ (result : CucumberFeatureRunner × Bool) (last last' : ε)
            (t t' : List (Event Output (Frame × Msg) (Frame × Msg))),
            (cucumberFeatureRunnerRun G fuel self identities).exec w.respond e [] =
                ⟨.returned result, last, [], t⟩ ∧
              (cucumberFeatureRunnerRun G fuel self identities').exec w.respond e [] =
                ⟨.returned result, last', [], t'⟩ ∧
              putIn t = putIn t' := by
  intro logs
  constructor
  · intro identities' reordered
    have simulates := separate.simulates_perm reordered
    obtain ⟨result, totals, runs, runs'⟩ := simulates.exec_run G fuel self
      (fun _ _ h => h.clears_eq) (rfl : separate.heard e = separate.heard e) reads parsed
    have related := simulates.runFiles (rfl : separate.heard e = separate.heard e) contents
    refine ⟨result, totals, _, _, runs, runs', ?_⟩
    exact (forall₂_stepsOf related).imp fun _ _ h => h.sameReport
  · intro front back n identities' listed listed' ignorant
    have simulates := separate.simulates_joined ignorant front back
    rw [← listed, ← listed'] at simulates
    have alike : separate.AlikeBut n e e := fun _ _ => rfl
    obtain ⟨result, totals, runs, runs'⟩ := simulates.exec_run G fuel self
      (fun _ _ h => h.clears_eq) alike reads parsed
    have related := simulates.runFiles alike contents
    refine ⟨result, _, _, _, _, runs, runs', ?_⟩
    rw [putIn_append, putIn_append, putIn_filesTrace_eq (fun _ _ h => h.putIn_eq) related]

end Runs

/-! ## Workers that keep everything -/

/-- Workers that keep all their messages and answer by them. -/
def recordingWorkers (answer : Frame → List Request → StepReply) :
    Workers (Frame → List Request) where
  start heard i id := Function.update heard i (heard i ++ [.startScenario id])
  run heard i id text :=
    (Function.update heard i (heard i ++ [.runStep id text]),
      answer i (heard i ++ [.runStep id text]))
  stop heard i id := Function.update heard i (heard i ++ [.endScenario id])

/-- They are separate. -/
def recordingWorkers_separate (answer : Frame → List Request → StepReply) :
    Separate (recordingWorkers answer) where
  heard e := e
  answer := answer
  heard_start _ _ _ := rfl
  heard_run _ _ _ _ := rfl
  heard_stop _ _ _ := rfl
  run_eq _ _ _ _ := rfl

/-- `A` succeeds at its first step, `C` knows nothing, and everybody else fails. -/
def mixed : Workers (Frame → List Request) :=
  recordingWorkers fun i heard =>
    if i = "C" then .notFound
    else if i = "A" ∧ heard.length = 2 then .succeeded "OK" else .failed "boom"

/-- `B` before `A` leads to the same result, and so does `C` between `A` and `B`. -/
theorem listing_irrelevant_mixed :
    ((cucumberFeatureRunnerRun onePickle 0 oneFile ⟨["A", "B"], 0⟩).exec mixed.respond
          (fun _ => []) []).result =
        ((cucumberFeatureRunnerRun onePickle 0 oneFile ⟨["B", "A"], 0⟩).exec mixed.respond
          (fun _ => []) []).result ∧
      putIn ((cucumberFeatureRunnerRun onePickle 0 oneFile ⟨["A", "B"], 0⟩).exec mixed.respond
          (fun _ => []) []).trace =
        putIn ((cucumberFeatureRunnerRun onePickle 0 oneFile ⟨["A", "C", "B"], 0⟩).exec
          mixed.respond (fun _ => []) []).trace := by
  have separate : Separate mixed := recordingWorkers_separate _
  obtain ⟨permuted, joined⟩ := listing_irrelevant onePickle 0 oneFile separate
    (.cons (reads_onePickle "f") .nil) (by simp [onePickleContent, FileContent.isParsed])
    (fun _ => []) ⟨["A", "B"], 0⟩
  constructor
  · obtain ⟨result, totals, last, last', runs, runs', -⟩ :=
      permuted ⟨["B", "A"], 0⟩ (.swap _ _ _)
    rw [runs, runs']
  · obtain ⟨result, last, last', t, t', runs, runs', printed⟩ :=
      joined ["A"] ["B"] "C" ⟨["A", "C", "B"], 0⟩ rfl rfl (fun _ _ _ => rfl)
    rw [runs, runs']
    exact printed

end CucumberC
