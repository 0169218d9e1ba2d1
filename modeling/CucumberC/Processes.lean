import CucumberC.Startup
import CucumberC.Meaning
import CucumberC.Lib.Greeting

/-!
# The runner and the step runners

The whole system: the runner, and a program of `cucumber_c.h` for each identity, every one of
them with two threads, and somebody who may press ctrl-d at any of them at any time. The
programs are ready when the runner begins, and nobody joins later.

What a program sends to be ready is `HELLO`, and nothing in the repository takes it off the
socket for the runner. From the start at which every `HELLO` is still on the way, no run
returns. So what the runner achieves is told for a start at which every `HELLO` has been taken
and nothing is in flight. Whatever the order of the steps then, and whoever leaves in the middle
of the run: nothing dies, and what the runner returns is what the transcript of the actors says.
If nobody leaves, the runner returns. What the step runners do is told for every start: no
assertion of an actor fails, and every state object of a step runner that is through has been
destructed once, also where the runner dies.

## Main definitions

* `processes`, `ProcessesRun`: the system and its runs.
* `refines_fits`, `refines_undisturbed`: it is a runner with its actors.
* `LosesNothing`: an actor to which orderly requests are sent.
* `member_survives`, `processes_destroy`: whatever is on the way to the runner.
* `processes_greeted`: where no `HELLO` was taken.
* `processes_safe`, `processes_complete`, `processes_meaning`: where every `HELLO` was taken.
-/

namespace CucumberC
open Interaction

section System
variable {υ σ γ : Type} (zrexMatches : String → String → Option (List String))
  (args : Frame → CucumberStepsArgs υ σ) (globals : Frame → υ)
  (G : GherkinC γ) (fuel : ℕ) (self : CucumberFeatureRunner) (identities : CursorList Frame)
  (started : Frame → Option Bool) (greetings : Frame → List Msg)

/-- The runner in front of its run, and the step runners that have been started, with or without
`--verbose`, and are ready. Of what they have sent, `greetings` is still on the way to the
runner: where nobody has taken it, their `HELLO`. -/
def processes : Ensemble Frame MainAct Frame Frame Output (Call σ) (CucumberSteps υ σ)
    (CucumberFeatureRunner × Bool) where
  client := cucumberFeatureRunnerRun G fuel self identities
  member i := (started i).map (readyStepRunner (globals i))
  outbound := greetings

/-- The programs of the actors. -/
abbrev stepsBodies (i : Frame) : ActorBody Frame Frame (Call σ) (CucumberSteps υ σ) :=
  stepsBody zrexMatches (args i) (globals i)

/-- The runs of the system. -/
abbrev ProcessesRun (ls : List (Ensemble.Label Frame MainAct Frame Frame Output (Call σ)))
    (c : Ensemble Frame MainAct Frame Frame Output (Call σ) (CucumberSteps υ σ)
      (CucumberFeatureRunner × Bool)) : Prop :=
  Ensemble.Run (stepsBodies zrexMatches args globals)
    (processes globals G fuel self identities started greetings) ls c

/-- The actors of the step runners. -/
def startedActors (i : Frame) : Option (CucumberSteps υ σ) :=
  (started i).map fun verbose => { freshActor (globals i) with verbose := verbose }

/-! ## It is a runner with its actors

Where no `HELLO` is on the way, as in `runnerNetwork`. -/

theorem serving_readyStepRunner (i : Frame) (verbose : Bool) :
    Ensemble.Serving (stepsBodies zrexMatches args globals i) (readyStepRunner (globals i) verbose)
      ⟨some (.ret { freshActor (globals i) with verbose := verbose }), [], none, []⟩ where
  serving := rfl
  stays := by
    intro t s h
    obtain ⟨-, rfl⟩ := h.ret_inv
    rfl
  thread := rfl
  inbound := rfl

theorem refines_fits :
    Ensemble.Refines (fun i => Ensemble.Fits (stepsBodies zrexMatches args globals i))
      (processes globals G fuel self identities started fun _ => [])
      (runnerNetwork G fuel self identities (startedActors globals started)) := by
  refine ⟨rfl, fun _ => List.prefix_rfl, fun _ _ => rfl, fun i => ?_⟩
  simp only [processes, Network.seat, runnerNetwork, startedActors]
  cases started i with
  | none => exact .absent rfl
  | some verbose =>
    refine .serving (by simp [readyStepRunner]) (fun command h => ?_)
      (serving_readyStepRunner zrexMatches args globals i verbose)
    have told : command = "$TERM" := by simpa [readyStepRunner] using h
    exact told

theorem refines_undisturbed :
    Ensemble.Refines (fun i => Ensemble.Undisturbed (stepsBodies zrexMatches args globals i))
      (processes globals G fuel self identities started fun _ => [])
      (runnerNetwork G fuel self identities (startedActors globals started)) := by
  refine ⟨rfl, fun _ => List.prefix_rfl, fun _ _ => rfl, fun i => ?_⟩
  simp only [processes, Network.seat, runnerNetwork, startedActors]
  cases started i with
  | none => exact .absent rfl
  | some verbose => exact .serving rfl (serving_readyStepRunner zrexMatches args globals i verbose)

/-- To quit, an actor only destroys its scenario. -/
theorem discreet_stepsBodies (i : Frame) :
    Ensemble.Discreet (stepsBodies zrexMatches args globals i) where
  hear self := by
    have stops : Finishing (.ret { self with terminated := true } : StepsProg σ (CucumberSteps υ σ))
        { self with terminated := true } := .ret _
    exact ⟨_, stops⟩
  finish self := by
    refine ⟨(cucumberDestroy self).1, ?_⟩
    have finishing : ∀ calls : List (Call σ), Finishing
        ((Prog.outputs calls).bind fun _ => (.ret (cucumberDestroy self).1 : StepsProg σ _))
        (cucumberDestroy self).1 := by
      intro calls
      induction calls with
      | nil => exact .ret _
      | cons call calls ih => exact .put ih
    exact finishing _

end System

/-! ## One system -/

/-- The step runner `A` of `step_defs.c`, and nobody else. -/
abbrev startedA : Frame → Option Bool := fun i => if i = "A" then some false else none

/-- The runs with one feature file that has one scenario of one step. -/
abbrev ProtocolRun (greetings : Frame → List Msg)
    (ls : List (Ensemble.Label Frame MainAct Frame Frame Output (Call MyState)))
    (c : Ensemble Frame MainAct Frame Frame Output (Call MyState) (CucumberSteps Unit MyState)
      (CucumberFeatureRunner × Bool)) : Prop :=
  ProcessesRun literalMatches (fun _ => protocolArgs) (fun _ => ()) onePickle 0 oneFile ⟨["A"], 0⟩
    startedA greetings ls c

/-- The scenario is started, and ctrl-d is pressed. The runner would die of a `HELLO`. -/
theorem runs_quitting (greetings : Frame → List Msg) : ∃ ls c, ProtocolRun greetings ls c ∧
    .member "A" (.parent (.act .readStdin)) ∈ ls ∧
    (∀ t, c.member "A" = some t → t.parent = []) ∧
    createdIn (Tandem.outputs (Ensemble.labelsOf "A" ls)) = [0] ∧
    (∃ k, c.client = .recv k ∧ k ("A", ["HELLO"]) = .fault .assertion) ∧
    c.outbound "A" = greetings "A" ++ [["SCENARIO STARTED", "n"]] := by
  refine ⟨_, _, .snoc (.snoc (.snoc (.snoc (.snoc (.snoc (.snoc (.snoc (.snoc (.snoc (.snoc
    (.snoc (.snoc (.snoc .refl (.put rfl)) (.send rfl))
    (.member (i := "A") rfl (.actor (by decide) (.serve rfl rfl rfl rfl rfl)) rfl))
    (.member (i := "A") rfl (.actor (by decide) (.move (.take rfl rfl))) rfl))
    (.member (i := "A") rfl (.actor (by decide) (.move (.put rfl))) rfl))
    (.member (i := "A") rfl (.actor (by decide) (.move (.send rfl))) rfl))
    (.member (i := "A") rfl (.parent (by decide) (.act rfl)) rfl))
    (.member (i := "A") rfl (.parent (by decide) (.tell rfl (by decide))) rfl))
    (.member (i := "A") rfl (.parent (by decide) (.release rfl)) rfl))
    (.member (i := "A") rfl (.actor (by decide) (.hear rfl rfl rfl rfl)) rfl))
    (.member (i := "A") rfl (.actor (by decide) (.stop rfl rfl rfl)) rfl))
    (.member (i := "A") rfl (.actor (by decide) (.move (.put rfl))) rfl))
    (.member (i := "A") rfl (.actor (by decide) (.exit rfl rfl)) rfl))
    (.member (i := "A") rfl (.parent (by decide) (.await rfl rfl)) rfl), by simp, ?_, rfl,
    ⟨_, rfl, rfl⟩, ?_⟩
  · intro t there
    obtain rfl := Option.some.inj there
    rfl
  · simp [processes, Tandem.events, sentIn, pickleId]

/-! ## Every run -/

section Runs
variable {υ σ γ : Type} {zrexMatches : String → String → Option (List String)}
  {args : Frame → CucumberStepsArgs υ σ} {globals : Frame → υ}
  {G : GherkinC γ} {fuel : ℕ} {self : CucumberFeatureRunner} {identities : CursorList Frame}
  {started : Frame → Option Bool} {greetings : Frame → List Msg}
  {ls : List (Ensemble.Label Frame MainAct Frame Frame Output (Call σ))}
  {c : Ensemble Frame MainAct Frame Frame Output (Call σ) (CucumberSteps υ σ)
    (CucumberFeatureRunner × Bool)}

/-- **What a run is for the runner**, where every `HELLO` was taken: one of the runs with its
actors. -/
theorem runs_network (taken : ∀ i, greetings i = [])
    (run : ProcessesRun zrexMatches args globals G fuel self identities started greetings ls c) :
    ∃ steps d, RunWhere (actorService zrexMatches args globals) NobodyJoins
        (runnerNetwork G fuel self identities (startedActors globals started)) steps d ∧
      clientTrace steps = Ensemble.clientEvents ls ∧ d.client = c.client := by
  obtain rfl : greetings = fun _ => [] := funext taken
  have sim : Ensemble.Simulation (β := MainAct) (actorService zrexMatches args globals)
      (stepsBodies zrexMatches args globals) (fun _ => True) 0
      fun i => Ensemble.Fits (stepsBodies zrexMatches args globals i) :=
    Ensemble.simulation_fits (fun _ => rfl) (discreet_stepsBodies zrexMatches args globals)
  obtain ⟨steps, d, hrun, hevents, -, h⟩ := sim.run
    (refines_fits zrexMatches args globals G fuel self identities started) run
    (fun l _ => by cases l <;> trivial)
  exact ⟨steps, d, hrun, hevents, h.client⟩

/-- **What a run is for a step runner**, whatever is on the way to the runner: a run from its
beginning, at which the first of the runner's requests arrive. -/
theorem runs_stepRunner
    (run : ProcessesRun zrexMatches args globals G fuel self identities started greetings ls c)
    {i : Frame} {verbose : Bool} (hstarted : started i = some verbose) (name : String) :
    ∃ t ks rs, c.member i = some t ∧
      StepRunnerRun zrexMatches (args i) (globals i) name false verbose ks t ∧
      Tandem.arrivals ks = rs.flatMap Request.frames ∧
      rs <+: ((self.featureFiles.items.flatMap (decodedPickles G)).flatMap pickleRequests).flatMap
        (fun r => List.replicate (identities.items.count i) r) ∧
      Tandem.outputs ks = Tandem.outputs (Ensemble.labelsOf i ls) := by
  obtain ⟨rs, hsent, front⟩ :=
    exists_requests_of_front G ((sends_run G identities fuel self).shows run.shows).1 i
  have there : (processes globals G fuel self identities started greetings).member i =
      some (readyStepRunner (globals i) verbose :
        Tandem MainAct Frame Frame (Call σ) (CucumberSteps υ σ)) := by
    simp [processes, hstarted]
  obtain ⟨t, ks, hmember, hks, harrivals, hown⟩ := run.member there
  obtain ⟨before, hbefore, nothing, hello⟩ := exists_start zrexMatches (args i) (globals i) name
    verbose
  refine ⟨t, before ++ ks, rs, hmember, hbefore.trans hks, ?_, front, ?_⟩
  · rw [Tandem.arrivals_append, nothing, harrivals, hsent, ← List.flatMap_def]
    rfl
  · rw [Tandem.outputs, Tandem.events_append, hello, hown]
    rfl

theorem connected_startedActors (globals : Frame → υ)
    (connected : ∀ i ∈ identities.items, (started i).isSome) :
    Connected identities.items
      (startedActors globals started : Frame → Option (CucumberSteps υ σ)) := by
  intro i hi
  rw [startedActors, Option.isSome_map]
  exact connected i hi

/-- What the runner has come to lies on the transcript. -/
theorem exec_processes (taken : ∀ i, greetings i = [])
    (run : ProcessesRun zrexMatches args globals G fuel self identities started greetings ls c)
    {contents : List FileContent}
    (reads : List.Forall₂ (Reads G) self.featureFiles.items contents)
    (passes : ∀ content ∈ contents, content.isStuck = false)
    (connected : ∀ i ∈ identities.items, (started i).isSome) :
    let logged := logEach ((actorWorkers zrexMatches args).runFile identities.items)
      (startedActors globals started) contents
    ∃ e inbox, (c.client.exec (respond (actorReact zrexMatches args)) e inbox).after
        (Ensemble.clientEvents ls) =
      ⟨.returned (afterFiles self.initial logged.2).result, logged.1, [],
        logged.2.flatMap (FileLog.trace identities.items) ++
          (afterFiles self.initial logged.2).totals.map .put⟩ := by
  intro logged
  obtain ⟨steps, d, hrun, hevents, hclient⟩ := runs_network taken run
  obtain ⟨-, runs⟩ := runs_run G fuel self (conforms_actors zrexMatches args identities.items)
    (connected_startedActors globals connected) reads passes
  obtain ⟨e, inbox, -, hexec⟩ := hrun.sync (workers_implement zrexMatches args globals)
    (fun _ i h => h i rfl) (sync_runnerNetwork zrexMatches args G fuel self identities _)
  rw [hclient, hevents] at hexec
  exact ⟨e, inbox, hexec.symm.trans runs⟩

/-- **A step runner survives**, whatever is on the way to the runner and whatever becomes of it:
no assertion of the actor fails, and when the step runner is through, its actor has ended and
has no scenario. -/
theorem member_survives
    (run : ProcessesRun zrexMatches args globals G fuel self identities started greetings ls c)
    {i : Frame} {verbose : Bool} (hstarted : started i = some verbose) :
    ∃ t, c.member i = some t ∧ (∀ why, t.thread ≠ .fault why) ∧
      (t.parent = [] → ∃ last, t.phase = .exited ∧ t.thread = .ret last ∧
        last.cucumber = none) := by
  obtain ⟨t, ks, rs, hmember, hks, arrived, front, -⟩ := runs_stepRunner run hstarted ""
  refine ⟨t, hmember, fun why at_fault => ?_, exited_of_returned hks⟩
  obtain ⟨_, _, h, -⟩ := exists_mayReturn (legal_of_front front) hks (arrived ▸ List.prefix_rfl)
  rw [at_fault] at h
  exact h.not_fault

/-- What the step runners have said to be ready. -/
def hellos (started : Frame → Option Bool) (i : Frame) : List Msg :=
  if (started i).isSome then [["HELLO"]] else []

theorem greets_processes (globals : Frame → υ) (G : GherkinC γ) (fuel : ℕ)
    (self : CucumberFeatureRunner) (identities : CursorList Frame)
    (started : Frame → Option Bool) (i : Frame) :
    Ensemble.Greets ["HELLO"]
      ((processes globals G fuel self identities started (hellos started) : Ensemble Frame MainAct
        Frame Frame Output (Call σ) (CucumberSteps υ σ) (CucumberFeatureRunner × Bool)).member i)
      (hellos started i) := by
  simp only [processes, hellos]
  cases started i with
  | none => exact .nobody
  | some verbose =>
    refine .first fun gone => ?_
    rcases gone with gone | gone <;> cases gone

/-- **By themselves, the programs do not get along.** Let the step runners be ready, and nobody
have taken what they said. If there is a scenario to run and somebody to ask then the runner
does not return, whatever the order of the steps and whoever leaves: it gets no answer without
taking a `HELLO` for one. -/
theorem processes_greeted
    (scenario : self.featureFiles.items.flatMap (decodedPickles G) ≠ [])
    (listed : identities.items ≠ [])
    (run : ProcessesRun zrexMatches args globals G fuel self identities started (hellos started)
      ls c) (last : CucumberFeatureRunner × Bool) : c.client ≠ .ret last := by
  intro returned
  have way : (cucumberFeatureRunnerRun G fuel self identities).Shows (Ensemble.clientEvents ls)
      (.ret last) := returned ▸ run.shows
  have h := MayReturn.of_shows way
  -- It has sent its script, in which there is a request, and received as many messages.
  have hsent := ((sends_run G identities fuel self).shows way).2 last rfl
  obtain ⟨pickle, hpickle⟩ := List.exists_mem_of_ne_nil _ scenario
  obtain ⟨i, hi⟩ := List.exists_mem_of_ne_nil _ listed
  have asked : (i, (Request.startScenario (pickleId pickle)).frames) ∈
      runnerScript G identities.items self.featureFiles.items := by
    have hstart : Request.startScenario (pickleId pickle) ∈ pickleRequests pickle :=
      List.mem_cons_self ..
    exact List.mem_flatMap.mpr ⟨pickle, hpickle,
      List.mem_flatMap.mpr ⟨_, hstart, List.mem_map.mpr ⟨i, hi, rfl⟩⟩⟩
  have balanced := balanced_run G h
  have some_sent := List.length_pos_of_mem asked
  rw [← hsent, ← balanced] at some_sent
  rcases Ensemble.Run.greeted (discreet_stepsBodies zrexMatches args globals)
    (greets_processes globals G fuel self identities started) run with nothing | ⟨j, hello⟩
  · rw [nothing] at some_sent
    exact absurd some_sent (Nat.lt_irrefl 0)
  · exact hello_refused G h j hello

/-- The runner asks `A`, and dies of its `HELLO`. -/
theorem processes_greeted_ofA :
    (∃ ls c, ProtocolRun (hellos startedA) ls c ∧ c.client = .fault .assertion) ∧
      ∀ ls c, ProtocolRun (hellos startedA) ls c → ∀ last, c.client ≠ .ret last := by
  refine ⟨?_, fun ls c run => processes_greeted ?_ (by simp) run⟩
  · obtain ⟨ls, c, run, -, -, -, ⟨k, at_recv, dies⟩, hqueue⟩ := runs_quitting (hellos startedA)
    exact ⟨_, _, run.snoc (.recv at_recv hqueue), dies⟩
  · exact List.ne_nil_of_length_pos (by decide)

/-- **The system is safe.** Let every `HELLO` have been taken and nothing be in flight when the
runner begins; let no feature file have parser errors, and let every identity in the list be
that of a step runner that is ready. Whatever the order of the steps, whenever ctrl-d is
pressed at some of the step runners, and whether or not the last messages of those that
leave get lost: no assertion of the runner or of an actor fails; what the runner has returned
is the result of the actors' transcript, and then it has sent, received and printed the
transcript; and the actor of a step runner that is through has ended and has no scenario. -/
theorem processes_safe (taken : ∀ i, greetings i = []) {contents : List FileContent}
    (reads : List.Forall₂ (Reads G) self.featureFiles.items contents)
    (passes : ∀ content ∈ contents, content.isStuck = false)
    (connected : ∀ i ∈ identities.items, (started i).isSome)
    (run : ProcessesRun zrexMatches args globals G fuel self identities started greetings ls c) :
    let logged := logEach ((actorWorkers zrexMatches args).runFile identities.items)
      (startedActors globals started) contents
    (∀ why, c.client ≠ .fault why) ∧
      (∀ last, c.client = .ret last → last = (afterFiles self.initial logged.2).result ∧
        Ensemble.clientEvents ls = logged.2.flatMap (FileLog.trace identities.items) ++
          (afterFiles self.initial logged.2).totals.map .put) ∧
      ∀ i verbose, started i = some verbose → ∃ t, c.member i = some t ∧
        (∀ why, t.thread ≠ .fault why) ∧
        (t.parent = [] → ∃ last, t.phase = .exited ∧ t.thread = .ret last ∧
          last.cucumber = none) := by
  intro logged
  obtain ⟨e, inbox, hexec⟩ := exec_processes taken run reads passes connected
  refine ⟨fun why hdied => ?_, fun last hreturned => ?_, fun i verbose => member_survives run⟩
  · rw [hdied] at hexec
    cases (Outcome.mk.inj hexec).1
  · rw [hreturned, Prog.exec_ret, Outcome.after, List.append_nil] at hexec
    obtain ⟨hresult, -, -, htrace⟩ := Outcome.mk.inj hexec
    exact ⟨Result.returned.inj hresult, htrace⟩

/-- Ctrl-d is pressed in the middle of the scenario. -/
theorem processes_safe_ctrlD : ∃ ls c, ProtocolRun (fun _ => []) ls c ∧
    .member "A" (.parent (.act .readStdin)) ∈ ls ∧ ∀ why, c.client ≠ .fault why := by
  obtain ⟨ls, c, run, hctrlD, -⟩ := runs_quitting fun _ => []
  obtain ⟨safe, -⟩ := processes_safe (fun _ => rfl) (.cons (reads_onePickle "f") .nil)
    (by simp [onePickleContent, FileContent.isStuck]) (by simp) run
  exact ⟨ls, c, run, hctrlD, safe⟩

/-- **The system comes to its end.** Let every `HELLO` have been taken and nothing be in flight
when the runner begins; let no feature file have parser errors, and let every identity in the
list be that of a step runner that is ready. Let nobody press ctrl-d. Then there is a number of
steps that no run exceeds, whatever their order; and where no step is left, the runner has
returned the result of the actors' transcript, and has sent, received and printed it. -/
theorem processes_complete (taken : ∀ i, greetings i = []) {contents : List FileContent}
    (reads : List.Forall₂ (Reads G) self.featureFiles.items contents)
    (passes : ∀ content ∈ contents, content.isStuck = false)
    (connected : ∀ i ∈ identities.items, (started i).isSome) :
    let logged := logEach ((actorWorkers zrexMatches args).runFile identities.items)
      (startedActors globals started) contents
    ∃ n, ∀ ls c,
      ProcessesRun zrexMatches args globals G fuel self identities started greetings ls c →
      (∀ l ∈ ls, l.Allowed Ensemble.Rests) → ls.length ≤ n ∧
        ((∃ l c', Ensemble.Step (stepsBodies zrexMatches args globals) c l c' ∧
            l.Allowed Ensemble.Rests) ∨
          c.client = .ret (afterFiles self.initial logged.2).result ∧
            Ensemble.clientEvents ls = logged.2.flatMap (FileLog.trace identities.items) ++
              (afterFiles self.initial logged.2).totals.map .put) := by
  intro logged
  obtain rfl : greetings = fun _ => [] := funext taken
  obtain ⟨-, runs⟩ := runs_run G fuel self (conforms_actors zrexMatches args identities.items)
    (connected_startedActors globals connected) reads passes
  exact Ensemble.Run.completes (workers_implement zrexMatches args globals)
    (lockstep_run G fuel self identities) (fun _ => rfl)
    (refines_undisturbed zrexMatches args globals G fuel self identities started)
    (resting_runnerNetwork _) runs

/-- No definition matches the step: it always returns `true`. -/
theorem processes_complete_ofA : ∃ n, ∀ ls c, ProtocolRun (fun _ => []) ls c →
    (∀ l ∈ ls, l.Allowed Ensemble.Rests) → ls.length ≤ n ∧
      ((∃ l c', Ensemble.Step (stepsBodies literalMatches (fun _ => protocolArgs) fun _ => ())
          c l c' ∧ l.Allowed Ensemble.Rests) ∨ c.client = .ret (⟨.new, 1, 1⟩, true)) := by
  obtain ⟨n, hruns⟩ := @processes_complete Unit MyState Unit literalMatches (fun _ => protocolArgs)
    (fun _ => ()) onePickle 0 oneFile ⟨["A"], 0⟩ startedA (fun _ => []) (fun _ => rfl)
    [onePickleContent] (.cons (reads_onePickle "f") .nil)
    (by simp [onePickleContent, FileContent.isStuck]) (by simp)
  refine ⟨n, fun ls c run rests => ?_⟩
  obtain ⟨hlength, hends⟩ := hruns ls c run rests
  exact ⟨hlength, hends.imp_right And.left⟩

/-- While nobody presses ctrl-d, some run comes to its end. -/
theorem exists_completed (zrexMatches : String → String → Option (List String))
    (args : Frame → CucumberStepsArgs υ σ) (globals : Frame → υ) (fuel : ℕ)
    {contents : List FileContent}
    (reads : List.Forall₂ (Reads G) self.featureFiles.items contents)
    (passes : ∀ content ∈ contents, content.isStuck = false)
    (connected : ∀ i ∈ identities.items, (started i).isSome) :
    ∃ ls c last, ProcessesRun zrexMatches args globals G fuel self identities started
        (fun _ => []) ls c ∧ c.client = .ret last := by
  obtain ⟨-, runs⟩ := runs_run G fuel self (conforms_actors zrexMatches args identities.items)
    (connected_startedActors globals connected) reads passes
  obtain ⟨ls, c, run, hreturned⟩ := Ensemble.Run.exists_completed
    (workers_implement zrexMatches args globals) (lockstep_run G fuel self identities)
    (fun _ => rfl) (refines_undisturbed zrexMatches args globals G fuel self identities started)
    (resting_runnerNetwork _) runs
  exact ⟨ls, c, _, run, hreturned⟩

/-- **What the system means.** Let every `HELLO` have been taken and nothing be in flight when
the runner begins; let no feature file have parser errors, and let every identity be listed
once and be that of a step runner that is ready. When the runner has returned, whatever the
order of the steps and whoever has left, then its verdict is positive exactly if every step
that fails where a worker plays all scenarios alone succeeds where another one does. -/
theorem processes_meaning (taken : ∀ i, greetings i = []) {contents : List FileContent}
    (reads : List.Forall₂ (Reads G) self.featureFiles.items contents)
    (passes : ∀ content ∈ contents, content.isStuck = false)
    (distinct : identities.items.Nodup) {verbose : Frame → Bool}
    (connected : ∀ i ∈ identities.items, started i = some (verbose i))
    (run : ProcessesRun zrexMatches args globals G fuel self identities started greetings ls c)
    {last : CucumberFeatureRunner} {verdict : Bool} (returned : c.client = .ret (last, verdict)) :
    verdict = true ↔ FailuresCovered identities.items fun i =>
      (playAll zrexMatches (args i) (verbose i) (globals i)
        (contents.flatMap FileContent.pickles)).2.flatten := by
  have waits : OffStages (σ := σ) verbose identities.items (startedActors globals started)
      globals := by
    intro i hi
    exact ⟨{ freshActor (globals i) with verbose := verbose i },
      by simp [startedActors, connected i hi], rfl, rfl, rfl⟩
  obtain ⟨hverdict, -⟩ := waits.verdict zrexMatches args distinct contents
  obtain ⟨e, inbox, hexec⟩ := exec_processes taken run reads passes
    (fun i hi => by rw [connected i hi]; rfl)
  rw [returned, Prog.exec_ret] at hexec
  obtain ⟨-, rfl⟩ := Prod.mk.inj (Result.returned.inj (Outcome.mk.inj hexec).1)
  rwa [isSuccessful_afterFiles]

/-- Alone, `A` fails at the only step, and so the verdict is negative. -/
theorem processes_meaning_failsOnce : ∃ ls c last,
    ProcessesRun literalMatches (fun _ => failsOnceArgs) (fun _ => false) onePickle 0 oneFile
      ⟨["A"], 0⟩ startedA (fun _ => []) ls c ∧ c.client = .ret (last, false) := by
  have reads : List.Forall₂ (Reads onePickle) oneFile.featureFiles.items [onePickleContent] :=
    .cons (reads_onePickle "f") .nil
  have passes : ∀ content ∈ [onePickleContent], content.isStuck = false := by
    simp [onePickleContent, FileContent.isStuck]
  have connected : ∀ i ∈ (CursorList.mk ["A"] 0).items, startedA i = some false := by simp
  have present : ∀ i ∈ (CursorList.mk ["A"] 0).items, (startedA i).isSome := by simp
  obtain ⟨ls, c, ⟨last, verdict⟩, run, hreturned⟩ := exists_completed literalMatches
    (fun _ => failsOnceArgs) (fun _ => false) 0 reads passes present
  have hverdict := processes_meaning (fun _ => rfl) reads passes (List.nodup_singleton "A")
    connected run hreturned
  cases verdict with
  | false => exact ⟨ls, c, last, run, hreturned⟩
  | true =>
    obtain ⟨j, -, result, h⟩ := hverdict.mp rfl 0 "A" (by simp) "boom" rfl
    have halone : (playAll literalMatches failsOnceArgs false false
        ([onePickleContent].flatMap FileContent.pickles)).2.flatten[0]? =
        some (.failed "boom") := rfl
    rw [halone] at h
    cases h

/-! ## State objects -/

section Orderly
variable {construct : υ → Bool → υ × Option σ} {destruct : υ → Option σ → υ}
variable {registerStepDefs : υ → Option σ → υ × List (String × CucumberStep υ σ)}
variable {rs : List Request} {n : ℕ} {t : List (Event (Call σ) Frame Msg)}
variable {self next : CucumberSteps υ σ}

/-- An actor that has handled `n` of the requests `rs` has lost no object, and the requests
to come are orderly. -/
structure LosesNothing (destruct : υ → Option σ → υ) (rs : List Request) (n : ℕ)
    (t : List (Event (Call σ) Frame Msg)) (actor : CucumberSteps υ σ) : Prop where
  books : Books destruct (putIn t) [] actor
  orderly : actor.terminated = false → Request.orderly actor.cucumber.isSome (rs.drop n) = true

/-- A scenario that is started in an orderly way takes the place of none. -/
theorem lostBy_of_orderly {r : Request} {rest : List Request}
    (h : Request.orderly self.cucumber.isSome (r :: rest) = true) : lostBy self r = [] := by
  cases r with
  | startScenario id =>
    have closed := (Request.orderly_cons h).1 id rfl
    rw [Option.isSome_eq_false_iff, Option.isNone_iff_eq_none] at closed
    simp [lostBy, CucumberSteps.heldSerial, CucumberSteps.held, closed]
  | endScenario id | runStep id text => rfl

/-- The next request is handled. -/
theorem LosesNothing.handle {r : Request} {rest : List Request} {calls : List (Call σ)}
    {reply : List Frame} (kept : LosesNothing destruct rs n t self)
    (running : self.terminated = false) (hdrop : rs.drop n = r :: rest)
    (hhandle : self.handle zrexMatches ⟨some construct, some destruct, registerStepDefs⟩ r =
      some (next, calls, reply)) :
    LosesNothing destruct rs (n + 1) (t ++ handleTrace self r calls reply) next := by
  have hopen := handle_isOpen zrexMatches ⟨some construct, some destruct, registerStepDefs⟩ self r
  rw [hhandle] at hopen
  have orderly := kept.orderly running
  rw [hdrop] at orderly
  have books := kept.books.handle zrexMatches construct destruct registerStepDefs hhandle
  rw [lostBy_of_orderly orderly, List.append_nil] at books
  refine ⟨?_, fun _ => ?_⟩
  · rw [putIn_append, putIn_handleTrace, ← List.append_assoc]
    split
    · exact books.printf _
    · rwa [List.append_nil]
  · rw [← List.drop_drop, hdrop, hopen.2]
    exact (Request.orderly_cons orderly).2

/-- The actor is told to go, and destroys its scenario. -/
theorem LosesNothing.cucumberDestroy (kept : LosesNothing destruct rs n t self)
    (terminated : self.terminated = true) :
    LosesNothing destruct rs n (t ++ (cucumberDestroy self).2.map .put)
      (cucumberDestroy self).1 := by
  refine ⟨?_, fun running => ?_⟩
  · rw [putIn_append, putIn_put]
    exact kept.books.cucumberDestroy
  · rw [terminated_cucumberDestroy] at running
    exact absurd (terminated.symm.trans running) (by decide)

/-- An actor that is sent orderly requests loses no object. -/
theorem lifeCycle_of_orderly {world : υ} {name : String} {verbose : Bool}
    {ks : List (Tandem.Label MainAct Frame Frame (Call σ))}
    {t : Tandem MainAct Frame Frame (Call σ) (CucumberSteps υ σ)}
    (run : StepRunnerRun zrexMatches ⟨some construct, some destruct, registerStepDefs⟩ world name
      false verbose ks t) (isLegal : Request.Legal false rs)
    (isOrderly : Request.orderly false rs = true)
    (arrived : Tandem.arrivals ks = rs.flatMap Request.frames) (returned : t.parent = []) :
    LifeCycle (Tandem.outputs ks) := by
  obtain ⟨last, -, at_ret, closed⟩ := exited_of_returned run returned
  have returns : MayReturn t.thread [] last := at_ret ▸ .ret last
  have fits : receivedIn (Tandem.events ks ++ []) <+: rs.flatMap Request.frames := by
    rw [List.append_nil, ← arrived, run.received]
    exact List.prefix_append _ _
  have fresh : LosesNothing destruct rs 0 [.sent ["HELLO"]]
      (freshActor world : CucumberSteps υ σ) :=
    ⟨books_freshActor destruct world, fun _ => isOrderly⟩
  have hkept : ∃ n, receivedIn (Tandem.events ks ++ []) = (rs.take n).flatMap Request.frames ∧
      LosesNothing destruct rs n (Tandem.events ks ++ []) last := by
    refine requests_keep fresh ?_ ?_ ?_ ?_ isLegal run returns fits
    · intro n t self kept
      exact ⟨kept.books.congr rfl rfl, kept.orderly⟩
    · intro n t self kept
      exact ⟨kept.books.congr rfl rfl, fun running => by cases running⟩
    · intro n t self r rest next calls reply kept running hdrop hhandle
      exact kept.handle running hdrop hhandle
    · intro n t self kept terminated
      exact kept.cucumberDestroy terminated
  obtain ⟨n, -, kept⟩ := hkept
  have books := kept.books
  rw [List.append_nil] at books
  refine (books.kept_iff ?_).mpr rfl
  rw [CucumberSteps.held, closed, Option.bind_none]

end Orderly

/-- **No state object is left behind.** Let a step runner be listed once at most, and be ready
when the runner begins; any messages may be on the way to the runner, such as `HELLO`. However
the run goes, and even if the runner dies or never returns: when the step runner is through,
every object that its constructor returned has been passed to its destructor exactly once, and
none was used after that. -/
theorem processes_destroy
    (run : ProcessesRun zrexMatches args globals G fuel self identities started greetings ls c)
    {i : Frame} {verbose : Bool} (hstarted : started i = some verbose)
    (once : identities.items.count i ≤ 1)
    {construct : υ → Bool → υ × Option σ} {destruct : υ → Option σ → υ}
    {registerStepDefs : υ → Option σ → υ × List (String × CucumberStep υ σ)}
    (hargs : args i = ⟨some construct, some destruct, registerStepDefs⟩) :
    ∃ t, c.member i = some t ∧
      (t.parent = [] → LifeCycle (Tandem.outputs (Ensemble.labelsOf i ls))) := by
  obtain ⟨t, ks, rs, hmember, hks, arrived, front, houtputs⟩ := runs_stepRunner run hstarted ""
  rw [hargs] at hks
  refine ⟨t, hmember, fun returned => ?_⟩
  rw [← houtputs]
  exact lifeCycle_of_orderly hks (legal_of_front front)
    (Request.orderly_front front (orderly_pickleRequests _ once)) arrived returned

/-- The object of the scenario that was open when ctrl-d was pressed. The runner takes the `HELLO`
for an answer, and dies. -/
theorem processes_destroy_ctrlD : ∃ ls c, ProtocolRun (hellos startedA) ls c ∧
    c.client = .fault .assertion ∧
    createdIn (Tandem.outputs (Ensemble.labelsOf "A" ls)) = [0] ∧
      LifeCycle (Tandem.outputs (Ensemble.labelsOf "A" ls)) := by
  obtain ⟨ls, c, run, -, through, hcreated, ⟨k, at_recv, dies⟩, hqueue⟩ :=
    runs_quitting (hellos startedA)
  have run' := run.snoc (.recv at_recv hqueue)
  have hlabels : ∀ event, Ensemble.labelsOf "A" (ls ++ [.client event]) =
      Ensemble.labelsOf "A" ls := by
    intro event
    simp [Ensemble.labelsOf]
  obtain ⟨t, hmember, hlife⟩ := processes_destroy run' (i := "A") rfl (by decide) rfl
  exact ⟨_, _, run', dies, (hlabels _).symm ▸ hcreated, hlife (through t hmember)⟩

end Runs

end CucumberC
