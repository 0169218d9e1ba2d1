import CucumberC.Verdict
import CucumberC.Handler
import CucumberC.Lib.Schedule

/-!
# The runner and its actors

The runner and any number of step actors as one network, whose steps interleave in any
order. The runner is a lockstep client, and the handler of an actor implements
`CucumberSteps.handle`; so a run of the network lies on the one execution of the runner
against the handlers, and that execution is the transcript of the actors as workers.

## Main definitions

* `actorService`, `runnerNetwork`: what the peers run, and where a run starts.
* `lockstep_run`, `workers_implement`: both sides keep to the lockstep discipline.
* `actorWorkers`, `conforms_actors`: actors as workers.
* `protocol_conformance`: what holds in every interleaving.
* `reply_attribution`: whose answers the runner takes, as actors join.

A run starts with nothing in flight (`runnerNetwork`). No function of the repository takes
the `HELLO` that an actor sends when it connects; whoever calls the runner has to take it
before, or the runner takes it for an answer (`reply_attribution_hello`).
-/

namespace CucumberC
open Interaction

/-! ## The runner is a lockstep client -/

section Runner

/-- The messages the runner sends. -/
def IsRequest (m : Msg) : Prop := ∃ r : Request, m = r.frames

theorem lockstep_assertStreq (actual : Option Frame) (expected : Frame) :
    Lockstep IsRequest (assertStreq actual expected) := by
  refine (Lockstep.deref actual).bind fun actual => ?_
  split
  · exact .ret _
  · exact .fault .assertion

theorem lockstep_askScenario {command : Frame}
    (isRequest : ∀ id, IsRequest [command, id]) (expected scenarioId : Frame) (u : Unit)
    (identity : Frame) :
    Lockstep IsRequest (askScenario command expected scenarioId u identity) :=
  .ask (isRequest scenarioId) fun _ =>
    (lockstep_assertStreq _ _).bind fun _ => lockstep_assertStreq _ _

theorem lockstep_askStep (scenarioId pickleStep : Frame) (r : StepState) (identity : Frame) :
    Lockstep IsRequest (askStep scenarioId pickleStep r identity) := by
  refine .ask ⟨.runStep scenarioId pickleStep, rfl⟩ fun _ =>
    (lockstep_assertStreq _ _).bind fun _ => (Lockstep.deref _).bind fun command => ?_
  split
  · exact .ret _
  · split
    · exact .ret _
    · split
      · exact .ret _
      · exact (Lockstep.output _).bind fun _ => .ret _

theorem lockstep_putsAll (messages : CursorList String) :
    Lockstep IsRequest (putsAll messages) :=
  .forEach (fun _ _ => .output _) messages ()

theorem lockstep_reportStep (pickleStep : Frame) (identities : CursorList Frame) (r : StepState) :
    Lockstep IsRequest (reportStep pickleStep identities r) := by
  unfold reportStep
  split
  · exact (lockstep_putsAll _).bind fun _ => .ret _
  · split
    · exact (lockstep_putsAll _).bind fun _ => .ret _
    · split
      · exact (Lockstep.output _).bind fun _ => .ret _
      · exact .ret _

theorem lockstep_runStep (identities : CursorList Frame) (scenarioId : Frame) (s : RunState)
    (pickleStep : Frame) : Lockstep IsRequest (runStep identities scenarioId s pickleStep) :=
  (Lockstep.output _).bind fun _ =>
    (Lockstep.forEach (lockstep_askStep scenarioId pickleStep) identities _).bind fun _ =>
      (lockstep_reportStep _ _ _).bind fun _ => .ret _

variable {γ : Type} (G : GherkinC γ)

theorem lockstep_runPickle (identities : CursorList Frame) (s : RunState) (pickleJson : String) :
    Lockstep IsRequest (runPickle G identities s pickleJson) := by
  refine (Lockstep.ofExcept _).bind fun pickle => ?_
  cases pickle with
  | none => exact .fault .assertion
  | some pickle =>
    exact (Lockstep.output _).bind fun _ =>
      (Lockstep.forEach (lockstep_askScenario (fun id => ⟨.startScenario id, rfl⟩) _ _)
        identities ()).bind fun _ =>
      (Lockstep.walk (lockstep_runStep identities _) _ _ _ _).bind fun _ =>
      (Lockstep.forEach (lockstep_askScenario (fun id => ⟨.endScenario id, rfl⟩) _ _)
        identities ()).bind fun _ =>
      (Lockstep.output _).bind fun _ => .ret _

theorem lockstep_runFile (fuel : ℕ) (identities : CursorList Frame) (s : RunState)
    (featureFile : String) : Lockstep IsRequest (runFile G fuel identities s featureFile) := by
  unfold runFile
  dsimp only
  split
  · exact (Lockstep.ofExcept _).bind fun pickles =>
      .forEach (lockstep_runPickle G identities) pickles s
  · refine (Lockstep.output _).bind fun _ => ?_
    cases gherkinDocumentErrors (gherkinDocumentNew G featureFile) with
    | none => exact Lockstep.bind (.fault .assertion) fun _ => .ret s
    | some errors =>
      exact Lockstep.bind ((Lockstep.walk (fun _ _ => .output _) _ _ _ _).bind fun _ => .ret _)
        fun _ => .ret s

/-- **The runner** waits for an answer after every message it sends, and all of them are
requests. -/
theorem lockstep_run (fuel : ℕ) (self : CucumberFeatureRunner) (identities : CursorList Frame) :
    Lockstep IsRequest (cucumberFeatureRunnerRun G fuel self identities) :=
  (Lockstep.walk (lockstep_runFile G fuel identities) _ _ _ _).bind fun _ =>
    (Lockstep.output _).bind fun _ => (Lockstep.output _).bind fun _ => .ret _

end Runner

/-! ## The actors implement their handler -/

section Actors
variable {υ σ : Type} (zrexMatches : String → String → Option (List String))
  (args : Frame → CucumberStepsArgs υ σ) (globals : Frame → υ)

/-- What an actor runs: `cucumber_steps_new` when it connects, and one invocation of
`cucumber_steps_recv_pickle` whenever its socket is readable. -/
def actorService : Service Frame Frame (Call σ) (CucumberSteps υ σ) where
  start i := cucumberStepsNew (globals i)
  serve i self := cucumberStepsRecvPickle zrexMatches (args i) self

/-- The handler as a function of the message. -/
def actorReact (i : Frame) (self : CucumberSteps υ σ) (m : Msg) :
    Option (CucumberSteps υ σ × Msg) :=
  match Request.ofFrames m with
  | none => none
  | some r => (self.handle zrexMatches (args i) r).map fun handled => (handled.1, handled.2.2)

@[simp] theorem actorReact_frames (i : Frame) (self : CucumberSteps υ σ) (r : Request) :
    actorReact zrexMatches args i self r.frames =
      (self.handle zrexMatches (args i) r).map fun handled => (handled.1, handled.2.2) := by
  simp [actorReact]

theorem finishing_printfVerbose (self last : CucumberSteps υ σ) (text : String) :
    Finishing ((printfVerbose self text).bind fun _ => Prog.ret last) last := by
  unfold printfVerbose
  split
  · exact .put (.ret last)
  · exact .ret last

/-- **The handler** takes exactly the frames of a request, sends its reply, and only
prints after that; or it dies, where there is no scenario to run a step in. -/
theorem workers_implement :
    Implements (actorService zrexMatches args globals) IsRequest (actorReact zrexMatches args) where
  nonempty := by
    rintro m ⟨r, rfl⟩
    exact r.frames_ne_nil
  answers := by
    rintro i self m next reply ⟨r, rfl⟩ h
    rw [actorReact_frames] at h
    cases r with
    | startScenario id =>
      simp only [CucumberSteps.handle, Option.map_some, Option.some.injEq, Prod.mk.injEq] at h
      obtain ⟨rfl, rfl⟩ := h
      exact .recv (.recv (.outputs (.send (finishing_printfVerbose _ _ _))))
    | endScenario id =>
      simp only [CucumberSteps.handle, Option.map_some, Option.some.injEq, Prod.mk.injEq] at h
      obtain ⟨rfl, rfl⟩ := h
      exact .recv (.recv (.outputs (.send (finishing_printfVerbose _ _ _))))
    | runStep id text =>
      cases hc : self.cucumber with
      | none => simp [CucumberSteps.handle, hc] at h
      | some cucumber =>
        rw [handle_runStep zrexMatches (args i) hc] at h
        simp only [Option.map_some, Option.some.injEq, Prod.mk.injEq] at h
        obtain ⟨rfl, rfl⟩ := h
        refine .recv (.recv (.recv ?_))
        simp only [hc]
        exact .outputs (.send (finishing_printfVerbose _ _ _))
  dies := by
    rintro i self m ⟨r, rfl⟩ h
    rw [actorReact_frames, Option.map_eq_none_iff] at h
    cases r with
    | startScenario id => simp [CucumberSteps.handle] at h
    | endScenario id => simp [CucumberSteps.handle] at h
    | runStep id text =>
      have hc : self.cucumber = none := by simpa [CucumberSteps.handle] using h
      refine .recv (.recv (.recv ?_))
      simp only [hc]
      exact .fault .assertion []

/-! ## Actors as workers -/

/-- The actors as workers. Whoever is not there, or has no open scenario, is taken not to
know the step. -/
def actorWorkers : Workers (Frame → Option (CucumberSteps υ σ)) where
  start e i _ := Function.update e i ((e i).map fun self => (startScenario (args i) self).1)
  run e i _ text :=
    match e i with
    | none => (e, .notFound)
    | some self =>
      match self.cucumber with
      | none => (e, .notFound)
      | some cucumber =>
        (Function.update e i (some (runStepDef zrexMatches self cucumber text).1),
          (runStepDef zrexMatches self cucumber text).2.2)
  stop e i _ := Function.update e i ((e i).map fun self => (cucumberDestroy self).1)

/-- The actors `ids` are there. -/
def Connected (ids : List Frame) (e : Frame → Option (CucumberSteps υ σ)) : Prop :=
  ∀ i ∈ ids, (e i).isSome = true

/-- The actors `ids` are there and have no scenario. -/
def Idle (ids : List Frame) (e : Frame → Option (CucumberSteps υ σ)) : Prop :=
  ∀ i ∈ ids, ∃ self, e i = some self ∧ self.cucumber = none

/-- The actor `i` is in a scenario. -/
def InScenario (e : Frame → Option (CucumberSteps υ σ)) (i : Frame) : Prop :=
  ∃ self, e i = some self ∧ self.cucumber.isSome = true

variable {ids : List Frame} {e : Frame → Option (CucumberSteps υ σ)} {i : Frame}
variable {self next : CucumberSteps υ σ}

theorem Idle.connected (h : Idle ids e) : Connected ids e := by
  intro i hi
  obtain ⟨self, hself, -⟩ := h i hi
  simp [hself]

theorem Connected.update (h : Connected ids e) (i : Frame) (next : CucumberSteps υ σ) :
    Connected ids (Function.update e i (some next)) := by
  intro j hj
  by_cases hji : j = i
  · subst hji
    simp
  · simpa [Function.update_of_ne hji] using h j hj

theorem InScenario.update (h : next.cucumber.isSome = true) (j : Frame)
    (hj : InScenario e j ∨ j = i) : InScenario (Function.update e i (some next)) j := by
  by_cases hji : j = i
  · subst hji
    exact ⟨next, Function.update_self .., h⟩
  · obtain ⟨self, hself, opened⟩ := hj.resolve_right hji
    exact ⟨self, by rw [Function.update_of_ne hji, hself], opened⟩

/-- **Actors conform.** The handlers answer like the actors as workers: they start and end
scenarios at any time, and run steps while a scenario is open. -/
theorem conforms_actors (ids : List Frame) :
    Conforms (actorWorkers zrexMatches args) (respond (actorReact zrexMatches args)) ids
      (Connected ids) InScenario where
  start := by
    intro e i hi connected id
    obtain ⟨self, hself⟩ := Option.isSome_iff_exists.mp (connected i hi)
    have hreact := actorReact_frames zrexMatches args i self (.startScenario id)
    have hopen : (startScenario (args i) self).1.cucumber.isSome = true := by
      simp [startScenario_eq]
    have hstart : (actorWorkers zrexMatches args).start e i id =
        Function.update e i (some (startScenario (args i) self).1) := by
      simp [actorWorkers, hself]
    rw [hstart]
    exact ⟨respond_answers hself hreact, connected.update i _, .update hopen i (.inr rfl),
      fun j hj => .update hopen j (.inl hj)⟩
  run := by
    rintro e i hi connected ⟨self, hself, opened⟩ id text
    obtain ⟨cucumber, hc⟩ := Option.isSome_iff_exists.mp opened
    have hreact := actorReact_frames zrexMatches args i self (.runStep id text)
    rw [handle_runStep zrexMatches (args i) hc] at hreact
    have hopen : (runStepDef zrexMatches self cucumber text).1.cucumber.isSome = true := by
      obtain ⟨cucumber', h⟩ := cucumber_runStepDef zrexMatches self cucumber text
      simp [h]
    have hrun : (actorWorkers zrexMatches args).run e i id text =
        (Function.update e i (some (runStepDef zrexMatches self cucumber text).1),
          (runStepDef zrexMatches self cucumber text).2.2) := by
      simp [actorWorkers, hself, hc]
    rw [hrun]
    exact ⟨respond_answers hself hreact, connected.update i _,
      fun j hj => .update hopen j (.inl hj)⟩
  stop := by
    intro e i hi connected id
    obtain ⟨self, hself⟩ := Option.isSome_iff_exists.mp (connected i hi)
    have hreact := actorReact_frames zrexMatches args i self (.endScenario id)
    have hstop : (actorWorkers zrexMatches args).stop e i id =
        Function.update e i (some (cucumberDestroy self).1) := by
      simp [actorWorkers, hself]
    rw [hstop]
    exact ⟨respond_answers hself hreact, connected.update i _⟩

/-! ### Between scenarios -/

end Actors

/-! ## Every interleaving -/

section Interleaving
variable {υ σ γ : Type} (zrexMatches : String → String → Option (List String))
  (args : Frame → CucumberStepsArgs υ σ) (globals : Frame → υ)
  (G : GherkinC γ) (fuel : ℕ) (self : CucumberFeatureRunner) (identities : CursorList Frame)

/-- The runner in front of its run, and the actors `e`, whose `HELLO` somebody has taken:
nothing is in flight. -/
def runnerNetwork (e : Frame → Option (CucumberSteps υ σ)) :
    Network Frame Frame Output (Call σ) (CucumberSteps υ σ) (CucumberFeatureRunner × Bool) where
  client := cucumberFeatureRunnerRun G fuel self identities
  issued := 0
  thread i := (e i).map .ret
  inbound _ := []
  serving _ := none
  outbound _ := []

theorem sync_runnerNetwork (e : Frame → Option (CucumberSteps υ σ)) :
    Sync IsRequest (actorReact zrexMatches args) (runnerNetwork G fuel self identities e) e []
      none := by
  refine .quiet (lockstep_run G fuel self identities) fun i => ⟨rfl, rfl, ?_⟩
  unfold runnerNetwork
  dsimp only
  cases e i with
  | none => exact .absent
  | some self => exact .present (.ret self)

/-- The frames an actor is to receive in a run of these files. -/
def FileContent.frames (contents : List FileContent) : List Frame :=
  ((contents.flatMap FileContent.requests).map Request.frames).flatten

variable {zrexMatches args globals G fuel self identities}

/-- **Reply attribution.** At the start nothing is in flight, so the `HELLO` of each actor that
is there has been taken. As long as no actor connects before the runner's last receive,
every message it takes is the answer of the actor it asked last, to that very request. A
`HELLO` has no request it answers, and is never taken; and if the runner fails then it
fails without the actors that connect, too. -/
theorem reply_attribution {e : Frame → Option (CucumberSteps υ σ)}
    {ls : List (Label Frame Frame Output (Call σ))}
    {c : Network Frame Frame Output (Call σ) (CucumberSteps υ σ) (CucumberFeatureRunner × Bool)}
    (run : RunWhere (actorService zrexMatches args globals) LateJoins
      (runnerNetwork G fuel self identities e) ls c) :
    Attributed ls ∧ (∀ i m, .received i none m ∉ ls) ∧
      ∀ why, c.client = .fault why →
        ((cucumberFeatureRunnerRun G fuel self identities).exec
          (respond (actorReact zrexMatches args)) e []).result = .faulted why := by
  obtain ⟨attributed, e', inbox, ends⟩ := run.attributed
    (workers_implement zrexMatches args globals)
    (sync_runnerNetwork zrexMatches args G fuel self identities e)
  refine ⟨attributed, ?_, ?_⟩
  · intro i m hmem
    obtain ⟨front, back, rfl⟩ := List.append_of_mem hmem
    obtain ⟨n, -, hcause⟩ := attributed front i none m back rfl
    cases hcause
  · intro why hfault
    rw [hfault] at ends
    exact ends

end Interleaving

/-! ## One actor, and another that joins -/

/-- The runner of one step in front of its run, and the actor `A`. -/
def networkOfA : Network Frame Frame Output (Call Unit) (CucumberSteps Unit Unit)
    (CucumberFeatureRunner × Bool) :=
  runnerNetwork onePickle 0 oneFile ⟨["A"], 0⟩ fun i =>
    if i = "A" then some (freshActor ()) else none

/-- Actors without step definitions. -/
abbrev plainService : Service Frame Frame (Call Unit) (CucumberSteps Unit Unit) :=
  actorService literalMatches (fun _ => plainArgs) fun _ => ()

/-- What the runner of one step still prints when it has its last answer. -/
def lastLines : RunnerProg (CucumberFeatureRunner × Bool) := do
  Prog.output (.printf "\n")
  Prog.output (.printf (YELLOW ++ "1 Scenarios" ++ DEFAULT ++ "\n"))
  Prog.output (.printf (YELLOW ++ "1 Steps" ++ DEFAULT ++ "\n"))
  pure (⟨.new, 1, 1⟩, true)

/-- A run up to the last answer of `A`. -/
theorem runs_lastAnswer : ∃ ls c, RunWhere plainService NobodyJoins networkOfA ls c ∧
    c.client = lastLines ∧ c.thread "B" = none ∧ c.outbound "B" = [] ∧
    receivedIn (clientTrace ls) = [("A", ["SCENARIO STARTED", "n"]), ("A", ["STEP NOT FOUND", "n"]),
      ("A", ["SCENARIO ENDED", "n"])] := by
  refine ⟨_, _, .snoc (.snoc (.snoc (.snoc (.snoc (.snoc (.snoc (.snoc (.snoc (.snoc (.snoc (.snoc
    (.snoc (.snoc (.snoc (.snoc (.snoc (.snoc (.snoc (.snoc (.snoc (.snoc (.refl _)
    (.clientPut rfl) ?_) (.clientSend rfl) ?_) (.wake (i := "A") rfl rfl) ?_)
    (.take (i := "A") rfl rfl) ?_) (.take (i := "A") rfl rfl) ?_) (.reply (i := "A") rfl) ?_)
    (.clientRecv (i := "A") rfl rfl) ?_)
    (.clientPut rfl) ?_) (.clientSend rfl) ?_) (.wake (i := "A") rfl rfl) ?_)
    (.take (i := "A") rfl rfl) ?_) (.take (i := "A") rfl rfl) ?_) (.take (i := "A") rfl rfl) ?_)
    (.reply (i := "A") rfl) ?_) (.clientRecv (i := "A") rfl rfl) ?_)
    (.clientPut rfl) ?_) (.clientSend rfl) ?_) (.wake (i := "A") rfl rfl) ?_)
    (.take (i := "A") rfl rfl) ?_) (.take (i := "A") rfl rfl) ?_) (.reply (i := "A") rfl) ?_)
    (.clientRecv (i := "A") rfl rfl) ?_, rfl, rfl, rfl, rfl⟩
  all_goals
    intro i h
    cases h

/-- The runner prints its last lines and returns. -/
theorem runs_lastLines {ok : Network Frame Frame Output (Call Unit) (CucumberSteps Unit Unit)
      (CucumberFeatureRunner × Bool) → Label Frame Frame Output (Call Unit) → Prop}
    (prints : ∀ c o, ok c (.clientPut o))
    {c : Network Frame Frame Output (Call Unit) (CucumberSteps Unit Unit)
      (CucumberFeatureRunner × Bool)} (hclient : c.client = lastLines) :
    ∃ more c', RunWhere plainService ok c more c' ∧ c'.client = .ret (⟨.new, 1, 1⟩, true) ∧
      c'.outbound = c.outbound ∧ receivedIn (clientTrace more) = [] :=
  ⟨_, _, .snoc (.snoc (.snoc (.refl c) (.clientPut hclient) (prints _ _)) (.clientPut rfl)
    (prints _ _)) (.clientPut rfl) (prints _ _), rfl, rfl, rfl⟩

/-- `B` connects when `A` has given its last answer, and sends `HELLO`. -/
theorem runs_lateJoin : ∃ ls c, RunWhere plainService LateJoins networkOfA ls c ∧
    c.client = lastLines ∧ .joined "B" ∈ ls ∧ c.outbound "B" = [(none, ["HELLO"])] ∧
    receivedIn (clientTrace ls) = [("A", ["SCENARIO STARTED", "n"]), ("A", ["STEP NOT FOUND", "n"]),
      ("A", ["SCENARIO ENDED", "n"])] := by
  obtain ⟨ls, c, run, hclient, fresh, quiet, hreceived⟩ := runs_lastAnswer
  have late : RunWhere plainService LateJoins networkOfA ls c :=
    run.mono fun _ _ nobody i hi => absurd hi (nobody i)
  have silent : Silent c.client := by
    rw [hclient]
    exact .put (.put (.put (.ret _)))
  have joined := late.snoc (.join (i := "B") fresh) fun _ _ => silent
  have at_send : Function.update c.thread "B" (some (plainService.start "B")) "B" =
      some (.send ["HELLO"] (.ret (freshActor ()))) := by
    rw [Function.update_self]
    rfl
  have greeted := joined.snoc (.reply (i := "B") at_send) fun _ h => by cases h
  refine ⟨_, _, greeted, hclient, by simp, ?_, ?_⟩
  · simp [quiet]
  · rw [clientTrace_snoc, clientTrace_snoc, receivedIn_append, receivedIn_append, hreceived]
    rfl

/-- In the run that goes on from there `A` is the one that answers, and the `HELLO` of `B` is
left where it is. -/
theorem reply_attribution_lateJoin : ∃ ls c,
    RunWhere plainService LateJoins networkOfA ls c ∧ c.client = .ret (⟨.new, 1, 1⟩, true) ∧
      .joined "B" ∈ ls ∧ c.outbound "B" = [(none, ["HELLO"])] ∧ Attributed ls ∧
      receivedIn (clientTrace ls) = [("A", ["SCENARIO STARTED", "n"]),
        ("A", ["STEP NOT FOUND", "n"]), ("A", ["SCENARIO ENDED", "n"])] := by
  obtain ⟨ls, c, late, hclient, joined, hello, hreceived⟩ := runs_lateJoin
  obtain ⟨more, c', run', hreturned, houtbound, hnone⟩ :=
    @runs_lastLines LateJoins (fun _ _ _ h => by cases h) _ hclient
  have whole := late.append run'
  refine ⟨_, c', whole, hreturned, List.mem_append_left _ joined, houtbound ▸ hello,
    (reply_attribution whole).1, ?_⟩
  rw [clientTrace, List.filterMap_append, receivedIn_append]
  exact (congrArg₂ (· ++ ·) hreceived hnone).trans (List.append_nil _)

/-- `B` connects while the runner waits for `A`, and the runner takes the `HELLO` for the
answer of `A`. -/
theorem reply_attribution_hello :
    ∃ ls c, RunWhere plainService (fun _ _ => True) networkOfA ls c ∧ ¬ Attributed ls ∧
      c.client = .fault .assertion := by
  refine ⟨_, _, .snoc (.snoc (.snoc (.snoc (.snoc (.refl _) (.clientPut rfl) trivial)
    (.clientSend rfl) trivial) (.join (i := "B") rfl) trivial) (.reply (i := "B") rfl) trivial)
    (.clientRecv (i := "B") rfl rfl) trivial, ?_, rfl⟩
  intro attributed
  obtain ⟨n, -, hcause⟩ := attributed _ _ _ _ [] rfl
  exact absurd hcause (by simp)

end CucumberC
