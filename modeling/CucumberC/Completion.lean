import CucumberC.Report
import CucumberC.Requests
import CucumberC.Lib.Schedule

/-!
# Every run comes to its end

The runner and its actors share nothing but pipes, and the scheduler may let them go on in
any order. It has no say in the outcome: no order makes the run go on for ever or get
stuck, and all of them lead to one configuration, in which the runner has returned what
the transcript of the actors says and every actor waits in the state the transcript says.
This takes an actor for every identity in the list. With one identity that is nobody's, no
order lets the run return.

It also takes the start of `runnerNetwork`, at which nothing is in flight, and actors that are
all there at the start. A run in which the runner takes a `HELLO` does not return
(`hello_refused`).

## Main definitions

* `run_completes`: how every run ends.
* `run_returns_iff`: which runs end.
-/

namespace CucumberC
open Interaction

section Interleaving
variable {υ σ γ : Type} {zrexMatches : String → String → Option (List String)}
  {args : Frame → CucumberStepsArgs υ σ} {globals : Frame → υ}
  {G : GherkinC γ} {fuel : ℕ} {self : CucumberFeatureRunner} {identities : CursorList Frame}

theorem resting_runnerNetwork (e : Frame → Option (CucumberSteps υ σ)) :
    Resting (runnerNetwork G fuel self identities e) e := ⟨fun _ => rfl, fun _ => rfl, fun _ => rfl⟩

/-- **Every run comes to its end.** Let nothing be in flight when the runner begins, every
`HELLO` having been taken, and let nobody join later. If no feature file has parser errors and
every identity has an actor, then there are a configuration in which the runner has returned
the result of the actors' transcript and the actors rest, and a number of steps, such that each
run goes on to this configuration and has made this number of steps when it is there. What the
runner has sent, received and printed by then is the transcript, in this order. -/
theorem run_completes {contents : List FileContent}
    (reads : List.Forall₂ (Reads G) self.featureFiles.items contents)
    (passes : ∀ content ∈ contents, content.isStuck = false)
    {e : Frame → Option (CucumberSteps υ σ)} (connected : Connected identities.items e) :
    let logged := logEach ((actorWorkers zrexMatches args).runFile identities.items) e contents
    ∃ (n : ℕ) (z : Network Frame Frame Output (Call σ) (CucumberSteps υ σ)
        (CucumberFeatureRunner × Bool)),
      z.client = .ret (afterFiles self.initial logged.2).result ∧ Resting z logged.1 ∧
      ∀ ls c, RunWhere (actorService zrexMatches args globals) NobodyJoins
          (runnerNetwork G fuel self identities e) ls c →
        ∃ more, RunWhere (actorService zrexMatches args globals) NobodyJoins c more z ∧
          ls.length + more.length = n ∧
          clientTrace (ls ++ more) = logged.2.flatMap (FileLog.trace identities.items) ++
            (afterFiles self.initial logged.2).totals.map .put := by
  intro logged
  obtain ⟨-, runs⟩ := runs_run G fuel self (conforms_actors zrexMatches args identities.items)
    connected reads passes
  exact RunWhere.completes (workers_implement zrexMatches args globals)
    (lockstep_run G fuel self identities) (resting_runnerNetwork e) runs

/-- The scenarios of a file are those that can be decoded. -/
theorem decodedPickles_of_reads {featureFile : String} {content : FileContent}
    (reads : Reads G featureFile content) : decodedPickles G featureFile = content.pickles := by
  cases content with
  | invalid errors =>
    rw [decodedPickles, show G.parserParse featureFile = .error errors from reads]
    rfl
  | parsed pickles =>
    obtain ⟨tree, events, hparse, hcompile, hdecode⟩ := reads
    simp only [decodedPickles, hparse, hcompile, Option.getD_some, FileContent.pickles]
    clear hcompile
    induction hdecode with
    | nil => rfl
    | cons head _ ih => rw [List.filterMap_cons, head, ih]

/-- **An identity that is nobody's** keeps the run from returning, whatever the order, if
there is a scenario to run. -/
theorem not_returned_of_absent {e : Frame → Option (CucumberSteps υ σ)} {i : Frame}
    (listed : i ∈ identities.items) (absent : e i = none) {pickle : CucPickle}
    (scenario : pickle ∈ self.featureFiles.items.flatMap (decodedPickles G))
    {ls : List (Label Frame Frame Output (Call σ))}
    {c : Network Frame Frame Output (Call σ) (CucumberSteps υ σ) (CucumberFeatureRunner × Bool)}
    (run : RunWhere (actorService zrexMatches args globals) NobodyJoins
      (runnerNetwork G fuel self identities e) ls c) (last : CucumberFeatureRunner × Bool) :
    c.client ≠ .ret last := by
  intro hreturned
  obtain ⟨e', inbox, -, hexec⟩ := run.sync (workers_implement zrexMatches args globals)
    (fun _ i h => h i rfl) (sync_runnerNetwork zrexMatches args G fuel self identities e)
  rw [hreturned] at hexec
  -- All that was sent was answered, so that all of it went to somebody.
  rw [Prog.exec_ret, Outcome.after, List.append_nil] at hexec
  have hbalanced := balanced_run G (.of_exec hexec)
  have hreceived := length_receivedIn_le (actorReact zrexMatches args)
    (cucumberFeatureRunnerRun G fuel self identities) e []
  have hpresent : ∀ x ∈ sentIn (clientTrace ls), (e x.1).isSome = true := by
    rw [← List.countP_eq_length]
    have htrace : ((cucumberFeatureRunnerRun G fuel self identities).exec
        (respond (actorReact zrexMatches args)) e []).trace = clientTrace ls :=
      congrArg Outcome.trace hexec
    rw [htrace, List.length_nil, Nat.zero_add, hbalanced] at hreceived
    exact Nat.le_antisymm List.countP_le_length hreceived
  have hsent : (i, (Request.startScenario (pickleId pickle)).frames) ∈
      sentIn (clientTrace ls) := by
    rw [(run.sends (sends_run G identities fuel self)).2 last hreturned]
    exact List.mem_flatMap.mpr ⟨pickle, scenario, List.mem_flatMap.mpr
      ⟨_, List.mem_cons_self, List.mem_map_of_mem listed⟩⟩
  have hi := hpresent _ hsent
  rw [absent] at hi
  cases hi

/-- With an actor for every identity, some order of the steps lets the runner return. -/
theorem exists_returned (fuel : ℕ) {contents : List FileContent}
    (reads : List.Forall₂ (Reads G) self.featureFiles.items contents)
    (passes : ∀ content ∈ contents, content.isStuck = false)
    {e : Frame → Option (CucumberSteps υ σ)} (connected : Connected identities.items e) :
    ∃ ls c last, RunWhere (actorService zrexMatches args globals) NobodyJoins
      (runnerNetwork G fuel self identities e) ls c ∧ c.client = .ret last := by
  obtain ⟨-, runs⟩ := runs_run G fuel self (conforms_actors zrexMatches args identities.items)
    connected reads passes
  obtain ⟨n, z, hclient, -, hruns⟩ := RunWhere.completes
    (workers_implement zrexMatches args globals) (lockstep_run G fuel self identities)
    (resting_runnerNetwork e) runs
  obtain ⟨more, run, -⟩ := hruns [] _ (.refl _)
  exact ⟨more, z, _, run, hclient⟩

/-- **Which runs return.** Let nothing be in flight when the runner begins, every `HELLO` having
been taken, and let nobody join later. Where there is a scenario to run and no feature file has
parser errors, the runner returns in some order of the steps if and only if each identity in
its list has an actor. Then no order keeps it from returning (`run_completes`). -/
theorem run_returns_iff {contents : List FileContent}
    (reads : List.Forall₂ (Reads G) self.featureFiles.items contents)
    (passes : ∀ content ∈ contents, content.isStuck = false)
    (scenario : contents.flatMap FileContent.pickles ≠ [])
    (e : Frame → Option (CucumberSteps υ σ)) :
    (∃ ls c last, RunWhere (actorService zrexMatches args globals) NobodyJoins
        (runnerNetwork G fuel self identities e) ls c ∧ c.client = .ret last) ↔
      Connected identities.items e := by
  constructor
  · rintro ⟨ls, c, last, run, hreturned⟩ i hi
    rw [← Option.not_isNone, Bool.not_eq_true', ← Bool.not_eq_true, Option.isNone_iff_eq_none]
    intro absent
    obtain ⟨pickle, hpickle⟩ := List.exists_mem_of_ne_nil _ scenario
    have hdecoded : self.featureFiles.items.flatMap (decodedPickles G) =
        contents.flatMap FileContent.pickles :=
      flatMap_eq_of_forall₂ (fun _ _ h => decodedPickles_of_reads h) reads
    exact not_returned_of_absent hi absent (by rwa [hdecoded]) run last hreturned
  · exact exists_returned fuel reads passes

end Interleaving

/-- The run of one step at the actor `A`, which knows no step: it always returns `true`. -/
theorem run_completes_ofA :
    ∃ (n : ℕ) (z : Network Frame Frame Output (Call Unit) (CucumberSteps Unit Unit)
        (CucumberFeatureRunner × Bool)),
      z.client = .ret (⟨.new, 1, 1⟩, true) ∧
      ∀ ls c, RunWhere plainService NobodyJoins networkOfA ls c →
        ∃ more, RunWhere plainService NobodyJoins c more z ∧ ls.length + more.length = n := by
  have connected : Connected ["A"] fun i =>
      if i = "A" then some (freshActor () : CucumberSteps Unit Unit) else none := by
    intro i hi
    obtain rfl := List.mem_singleton.mp hi
    rfl
  obtain ⟨n, z, hclient, -, hruns⟩ := @run_completes Unit Unit Unit literalMatches
    (fun _ => plainArgs) (fun _ => ()) onePickle 0 oneFile ⟨["A"], 0⟩ [onePickleContent]
    (.cons (reads_onePickle "f") .nil) (by simp [onePickleContent, FileContent.isStuck]) _ connected
  refine ⟨n, z, hclient, fun ls c run => ?_⟩
  obtain ⟨more, run', hlength, -⟩ := hruns ls c run
  exact ⟨more, run', hlength⟩

/-- With `B` in the list, who is not there, the runner does not return. -/
theorem run_returns_iff_absent :
    ¬ ∃ ls c last, RunWhere plainService NobodyJoins
      (runnerNetwork onePickle 0 oneFile ⟨["A", "B"], 0⟩ fun i =>
        if i = "A" then some (freshActor ()) else none) ls c ∧ c.client = .ret last := by
  have reads : List.Forall₂ (Reads onePickle) oneFile.featureFiles.items [onePickleContent] :=
    .cons (reads_onePickle "f") .nil
  rw [run_returns_iff reads (by simp [onePickleContent, FileContent.isStuck])
    (by simp [onePickleContent, FileContent.pickles])]
  intro connected
  exact absurd (connected "B" (by simp)) (by decide)

end CucumberC
