import CucumberC.Run

/-!
# The verdict of a run

What a run returns and reports, against what its workers answered. Two things are asked
of a verdict: that no failure is lost, and that a positive one covers everything. Both
are decided by the replies to single steps, through `StepLog.clears` and
`StepLog.report`; here they are characterised exactly.

## Main definitions

* `NoFailureLost`, `noFailureLost_iff`: failures show, unless another worker succeeds.
* `CoversEverything`, `coversEverything_iff`: when a positive verdict means success.
-/

namespace CucumberC
open Interaction

variable {ε γ : Type}

/-! ## Reports -/

/-- The two kinds of lines differ in their colour. -/
theorem failureLine_ne_successLine (text text' reason result : String) :
    failureLine text reason ≠ successLine text' result := by
  intro h
  have hchars := congrArg String.toList h
  simp [failureLine, successLine, RED, GREEN] at hchars

/-- If some worker succeeded, no failure is reported. -/
theorem StepLog.failure_not_reported {log : StepLog} {r : Frame × StepReply}
    (hr : r ∈ log.replies) (succeeded : r.2.isSucceeded = true) (text reason : String) :
    .puts (failureLine text reason) ∉ log.report := by
  have hs : log.successLines ≠ [] :=
    log.successLines_ne_nil_iff.mpr (List.any_eq_true.mpr ⟨r, hr, succeeded⟩)
  rw [report, if_pos hs]
  intro hmem
  obtain ⟨line, hline, heq⟩ := List.mem_map.mp hmem
  obtain ⟨⟨i, reply⟩, -, hreply⟩ := List.mem_filterMap.mp hline
  cases reply with
  | succeeded result =>
    obtain rfl := Option.some.inj hreply
    exact failureLine_ne_successLine _ _ _ _ (Output.puts.inj heq).symm
  | failed | notFound | other => simp at hreply

/-- If nobody succeeded, every failure is reported with its reason. -/
theorem StepLog.failure_reported {log : StepLog} {i reason : Frame}
    (hr : (i, .failed reason) ∈ log.replies)
    (nobody : ∀ r ∈ log.replies, r.2.isSucceeded = false) :
    .puts (failureLine log.text reason) ∈ log.report := by
  have hs : ¬ log.successLines ≠ [] := by
    rw [log.successLines_ne_nil_iff, List.any_eq_true]
    rintro ⟨r, hr, succeeded⟩
    rw [nobody r hr] at succeeded
    exact absurd succeeded (by decide)
  have hline : failureLine log.text reason ∈ log.failureLines :=
    List.mem_filterMap.mpr ⟨_, hr, rfl⟩
  rw [report, if_neg hs, if_pos (List.ne_nil_of_mem hline)]
  exact List.mem_map.mpr ⟨_, hline, rfl⟩

/-- A step clears the verdict if a worker used a command of its own, or if some worker
failed and none succeeded. -/
theorem StepLog.clears_iff (log : StepLog) :
    log.clears = true ↔ (∃ r ∈ log.replies, r.2.isOther = true) ∨
      ((∃ r ∈ log.replies, r.2.isFailed = true) ∧
        ∀ r ∈ log.replies, r.2.isSucceeded = false) := by
  simp [clears]

/-! ## No failure is lost -/

/-- Every worker that failed at a step has made the verdict negative, and its reason is
part of the report of that step. -/
def NoFailureLost (verdict : Bool) (steps : List StepLog) : Prop :=
  ∀ step ∈ steps, ∀ r ∈ step.replies, ∀ reason, r.2 = .failed reason →
    verdict = false ∧ .puts (failureLine step.text reason) ∈ step.report

/-- The verdict of a transcript, as the runner computes it. -/
def verdictOf (logs : List FileLog) : Bool := !(stepsOf logs).any StepLog.clears

theorem isSuccessful_afterFiles (self : CucumberFeatureRunner) (logs : List FileLog) :
    (afterFiles self.initial logs).isSuccessful = verdictOf logs := by
  rw [afterFiles_eq]
  rfl

theorem noFailureLost_verdictOf_iff (logs : List FileLog) :
    NoFailureLost (verdictOf logs) (stepsOf logs) ↔
      ∀ step ∈ stepsOf logs, (∃ r ∈ step.replies, r.2.isFailed = true) →
        ∀ r ∈ step.replies, r.2.isSucceeded = false := by
  constructor
  · rintro lossless step hstep ⟨⟨i, reply⟩, hr, hfailed⟩ r' hr'
    cases reply with
    | failed reason =>
      obtain ⟨-, hreport⟩ := lossless step hstep _ hr reason rfl
      by_contra hsucceeded
      rw [Bool.not_eq_false] at hsucceeded
      exact StepLog.failure_not_reported hr' hsucceeded _ _ hreport
    | succeeded | notFound | other => simp [StepReply.isFailed] at hfailed
  · rintro unmixed step hstep ⟨i, _⟩ hr reason rfl
    have nobody := unmixed step hstep ⟨_, hr, rfl⟩
    have hclears : step.clears = true := step.clears_iff.mpr (.inr ⟨⟨_, hr, rfl⟩, nobody⟩)
    refine ⟨?_, StepLog.failure_reported hr nobody⟩
    rw [verdictOf, List.any_eq_true.mpr ⟨step, hstep, hclears⟩]
    rfl

section Runs
variable (G : GherkinC γ) (fuel : ℕ) (self : CucumberFeatureRunner)
variable (identities : CursorList Frame) (w : Workers ε) (e : ε)

/-- A run over files that all parse, told by its log. -/
theorem exec_run_parsed {contents : List FileContent}
    (reads : List.Forall₂ (Reads G) self.featureFiles.items contents)
    (parsed : ∀ content ∈ contents, content.isParsed = true) :
    let logged := logEach (w.runFile identities.items) e contents
    ∃ totals : List Output,
      (cucumberFeatureRunnerRun G fuel self identities).exec w.respond e [] =
        ⟨.returned
            (⟨.new, self.totalScenarios + (logged.2.flatMap FileLog.pickles).length,
              self.totalSteps + (stepsOf logged.2).length⟩, verdictOf logged.2), logged.1, [],
          logged.2.flatMap (FileLog.trace identities.items) ++ totals.map .put⟩ := by
  intro logged
  obtain ⟨-, runs⟩ := runs_run G fuel self (conforms_respond w identities.items) (e := e) trivial
    reads (isStuck_of_isParsed parsed)
  have hresult : (afterFiles self.initial logged.2).result =
      (⟨.new, self.totalScenarios + (logged.2.flatMap FileLog.pickles).length,
        self.totalSteps + (stepsOf logged.2).length⟩, verdictOf logged.2) := by
    rw [afterFiles_eq]
    rfl
  rw [hresult] at runs
  exact ⟨_, runs⟩

/-- **No failure is lost.** If all feature files parse then the run returns, whatever the
workers answer, and shows its transcript. The verdict is negative whenever a worker
failed at a step, and the report of the step contains the worker's reason, if and only
if no step has both a worker that failed and one that succeeded. -/
theorem noFailureLost_iff {contents : List FileContent}
    (reads : List.Forall₂ (Reads G) self.featureFiles.items contents)
    (parsed : ∀ content ∈ contents, content.isParsed = true) :
    let logged := logEach (w.runFile identities.items) e contents
    ∃ self' verdict,
      (cucumberFeatureRunnerRun G fuel self identities).exec w.respond e [] =
        ⟨.returned (self', verdict), logged.1, [],
          logged.2.flatMap (FileLog.trace identities.items) ++
            (afterFiles self.initial logged.2).totals.map .put⟩ ∧
      (NoFailureLost verdict (stepsOf logged.2) ↔
        ∀ step ∈ stepsOf logged.2, (∃ r ∈ step.replies, r.2.isFailed = true) →
          ∀ r ∈ step.replies, r.2.isSucceeded = false) := by
  intro logged
  obtain ⟨-, runs⟩ := runs_run G fuel self (conforms_respond w identities.items) trivial reads
    (isStuck_of_isParsed parsed)
  have hverdict := isSuccessful_afterFiles self logged.2
  refine ⟨_, _, runs, ?_⟩
  rw [hverdict]
  exact noFailureLost_verdictOf_iff logged.2

/-! ## A positive verdict covers everything -/

/-- If this is the ending of a run and the verdict is positive, then all files parsed and
every step has a worker that succeeded. -/
def CoversEverything (result : Result (CucumberFeatureRunner × Bool))
    (contents : List FileContent) (steps : List StepLog) : Prop :=
  ∀ self', result = .returned (self', true) →
    (∀ content ∈ contents, content.isParsed = true) ∧
      ∀ step ∈ steps, ∃ r ∈ step.replies, r.2.isSucceeded = true

/-- Where nothing clears the verdict, a step that somebody knows has somebody who
succeeded. -/
theorem StepLog.succeeded_iff_of_clears {log : StepLog} (h : log.clears = false) :
    (∃ r ∈ log.replies, r.2.isSucceeded = true) ↔ ∃ r ∈ log.replies, r.2.isNotFound = false := by
  constructor
  · rintro ⟨⟨i, reply⟩, hr, hsucceeded⟩
    refine ⟨_, hr, ?_⟩
    cases reply <;> simp_all [StepReply.isSucceeded, StepReply.isNotFound]
  · rintro ⟨⟨i, reply⟩, hr, hknown⟩
    by_contra hnone
    push Not at hnone
    have nobody : ∀ r ∈ log.replies, r.2.isSucceeded = false := by
      intro r hr
      simpa using hnone r hr
    have hclears : log.clears = true := by
      rw [log.clears_iff]
      cases reply with
      | succeeded result => exact absurd (nobody _ hr) (by simp [StepReply.isSucceeded])
      | failed reason => exact .inr ⟨⟨_, hr, rfl⟩, nobody⟩
      | notFound => simp [StepReply.isNotFound] at hknown
      | other command rest unknown => exact .inl ⟨_, hr, rfl⟩
    rw [h] at hclears
    exact absurd hclears (by decide)

/-- **A positive verdict covers everything**: if the run returns `true` then every file
parsed and every step was answered `STEP SUCCEEDED` by somebody. This is so if and only
if a file with parser errors keeps the run from returning, or some step clears the
verdict, or all files parse and every step has an answer other than `STEP NOT FOUND`. -/
theorem coversEverything_iff {contents : List FileContent}
    (reads : List.Forall₂ (Reads G) self.featureFiles.items contents) :
    let steps := stepsOf (logEach (w.runFile identities.items) e contents).2
    CoversEverything
        ((cucumberFeatureRunnerRun G fuel self identities).exec w.respond e []).result contents
        steps ↔
      (∃ content ∈ contents, content.isStuck = true) ∨
        (∃ step ∈ steps, (∃ r ∈ step.replies, r.2.isOther = true) ∨
          ((∃ r ∈ step.replies, r.2.isFailed = true) ∧
            ∀ r ∈ step.replies, r.2.isSucceeded = false)) ∨
        ((∀ content ∈ contents, content.isParsed = true) ∧
          ∀ step ∈ steps, ∃ r ∈ step.replies, r.2.isNotFound = false) := by
  intro steps
  by_cases stuck : ∃ content ∈ contents, content.isStuck = true
  · -- The run does not return, so there is no verdict to be positive.
    refine iff_of_true ?_ (.inl stuck)
    have hspins := result_run_stuck G fuel self (conforms_respond w identities.items) (e := e)
      trivial reads stuck
    intro self' hreturned
    rw [hspins] at hreturned
    cases hreturned
  · have passes : ∀ content ∈ contents, content.isStuck = false := by
      intro content hmem
      rw [← Bool.not_eq_true]
      exact fun h => stuck ⟨content, hmem, h⟩
    obtain ⟨-, runs⟩ := runs_run G fuel self (conforms_respond w identities.items)
      (e := e) trivial reads passes
    have hresult : ((cucumberFeatureRunnerRun G fuel self identities).exec w.respond e []).result =
        .returned ((afterFiles self.initial
          (logEach (w.runFile identities.items) e contents).2).result.1,
            !steps.any StepLog.clears) := by
      have hverdict := isSuccessful_afterFiles self
        (logEach (w.runFile identities.items) e contents).2
      rw [runs]
      exact congrArg (fun verdict => Result.returned (_, verdict)) hverdict
    rw [hresult]
    by_cases clears : ∃ step ∈ steps, step.clears = true
    · refine iff_of_true ?_ (.inr (.inl ?_))
      · intro self' hreturned
        rw [List.any_eq_true.mpr clears] at hreturned
        simp at hreturned
      · obtain ⟨step, hstep, h⟩ := clears
        exact ⟨step, hstep, step.clears_iff.mp h⟩
    · have hclears : ∀ step ∈ steps, step.clears = false := by
        intro step hstep
        rw [← Bool.not_eq_true]
        exact fun h => clears ⟨step, hstep, h⟩
      have hverdict : (!steps.any StepLog.clears) = true := by
        simpa using hclears
      have hknown : (∀ step ∈ steps, ∃ r ∈ step.replies, r.2.isSucceeded = true) ↔
          ∀ step ∈ steps, ∃ r ∈ step.replies, r.2.isNotFound = false :=
        forall₂_congr fun step hstep => StepLog.succeeded_iff_of_clears (hclears step hstep)
      rw [hverdict, ← hknown]
      constructor
      · intro covers
        exact .inr (.inr (covers _ rfl))
      · rintro (h | ⟨step, hstep, h⟩ | covered) self' -
        · exact absurd h stuck
        · exact absurd ⟨step, hstep, step.clears_iff.mpr h⟩ clears
        · exact covered

end Runs

/-! ## Workers that disagree, and workers that know nothing -/

/-- A parser that accepts every file, and a compiler that makes one pickle of it: the
scenario `1`, named `n`, with the step `a`. -/
def onePickle : GherkinC Unit where
  parserParse _ := .ok ()
  attachmentEventToString _ error := error.text
  compilerCompile _ := some ["pickle"]
  cJSONParse _ := some (.object [("pickle", .object [("id", .string "1"), ("name", .string "n"),
    ("steps", .array [.object [("text", .string "a")]])])])

/-- The content of a file as `onePickle` reads it. -/
def onePickleContent : FileContent := .parsed [⟨"1", "n", ⟨[⟨"a"⟩], 0⟩⟩]

theorem reads_onePickle (featureFile : String) : Reads onePickle featureFile onePickleContent :=
  ⟨(), ["pickle"], rfl, rfl, .cons rfl .nil⟩

/-- A runner of one feature file. -/
def oneFile : CucumberFeatureRunner := cucumberFeatureRunnerNew ⟨fun _ => false, fun _ => []⟩ "f"

/-- Workers without memory: each has one answer to every step. -/
def steadyWorkers (answer : Frame → StepReply) : Workers Unit where
  start _ _ _ := ()
  run _ identity _ _ := ((), answer identity)
  stop _ _ _ := ()

/-- `A` succeeds at every step, and everybody else fails. -/
def disagreeing : Workers Unit :=
  steadyWorkers fun identity => if identity = "A" then .succeeded "OK" else .failed "boom"

/-- `A` succeeds and `B` fails at the same step: the run returns `true`, and nothing is
reported of the failure. -/
theorem noFailureLost_masked :
    ((cucumberFeatureRunnerRun onePickle 0 oneFile ⟨["A", "B"], 0⟩).exec disagreeing.respond ()
        []).result = .returned (⟨.new, 1, 1⟩, true) ∧
      ¬ NoFailureLost true
        (stepsOf (logEach (disagreeing.runFile ["A", "B"]) () [onePickleContent]).2) := by
  refine ⟨by decide, ?_⟩
  intro lossless
  have h := lossless ⟨"n", "a", [("A", .succeeded "OK"), ("B", .failed "boom")]⟩ (by decide)
    ("B", .failed "boom") (by decide) "boom" rfl
  exact absurd h.1 (by decide)

/-- With `B` alone the failure shows. -/
theorem noFailureLost_alone :
    ∃ self', (cucumberFeatureRunnerRun onePickle 0 oneFile ⟨["B"], 0⟩).exec disagreeing.respond ()
        [] = ⟨.returned (self', false), (), [],
          (logEach (disagreeing.runFile ["B"]) () [onePickleContent]).2.flatMap
            (FileLog.trace ["B"]) ++
          (afterFiles oneFile.initial
            (logEach (disagreeing.runFile ["B"]) () [onePickleContent]).2).totals.map .put⟩ := by
  obtain ⟨self', verdict, h, hiff⟩ := noFailureLost_iff onePickle 0 oneFile ⟨["B"], 0⟩
    disagreeing () (.cons (reads_onePickle "f") .nil) (by simp [onePickleContent,
      FileContent.isParsed])
  have lossless := hiff.mpr (by decide) ⟨"n", "a", [("B", .failed "boom")]⟩ (by decide)
    ("B", .failed "boom") (by decide) "boom" rfl
  obtain rfl := lossless.1
  exact ⟨self', h⟩

/-- Workers that know no step. -/
def ignorant : Workers Unit := steadyWorkers fun _ => .notFound

/-- The only worker does not know the only step, and the run returns `true`. -/
theorem coversEverything_notFound :
    ¬ CoversEverything
      ((cucumberFeatureRunnerRun onePickle 0 oneFile ⟨["A"], 0⟩).exec ignorant.respond () []).result
      [onePickleContent] (stepsOf (logEach (ignorant.runFile ["A"]) () [onePickleContent]).2) := by
  intro covers
  have hresult : ((cucumberFeatureRunnerRun onePickle 0 oneFile ⟨["A"], 0⟩).exec ignorant.respond ()
      []).result = .returned (⟨.new, 1, 1⟩, true) := by decide
  obtain ⟨r, hr, hsucceeded⟩ := (covers ⟨.new, 1, 1⟩ hresult).2
    ⟨"n", "a", [("A", .notFound)]⟩ (by decide)
  obtain rfl := List.mem_singleton.mp hr
  exact absurd hsucceeded (by decide)

/-- With a worker that succeeds, the positive verdict covers the step. -/
theorem coversEverything_succeeded :
    CoversEverything
      ((cucumberFeatureRunnerRun onePickle 0 oneFile ⟨["A"], 0⟩).exec disagreeing.respond ()
        []).result [onePickleContent]
      (stepsOf (logEach (disagreeing.runFile ["A"]) () [onePickleContent]).2) :=
  (coversEverything_iff onePickle 0 oneFile ⟨["A"], 0⟩ disagreeing ()
    (.cons (reads_onePickle "f") .nil)).mpr (.inr (.inr ⟨by simp [onePickleContent,
      FileContent.isParsed], by decide⟩))

end CucumberC
