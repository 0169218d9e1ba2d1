import CucumberC.StepRunner
import CucumberC.Control

/-!
# The conversation of a step runner

The step runner of `cucumber_c.h` is two threads; the runner on the other side of the socket
sees one party. `stepRunner_refines` says that it sees the actor of `cucumber_steps.c` and
nothing of the thread that started it: whatever the two did, it is an execution of
`cucumber_steps_actor` on the frames that arrived. `stepRunner_answers` says what that party
is heard to say, at every moment, when the runner keeps to the protocol.

## Main definitions

* `turnPoll`, `program_stepsBody`: the programs of the actor in a row are its C function.
* `requests_keep`: what every request and every end of the program keep, a run keeps.
* `Answered`: a conversation that has come to the end of a request.
-/

namespace CucumberC
open Interaction

section Conversation
variable {υ σ : Type} {zrexMatches : String → String → Option (List String)}
variable {args : CucumberStepsArgs υ σ} {globals : υ} {name : String} {help verbose : Bool}
variable {ls : List (Tandem.Label MainAct Frame Frame (Call σ))}
variable {c : Tandem MainAct Frame Frame (Call σ) (CucumberSteps υ σ)}

/-! ## Both threads together are the actor -/

/-- What the poller reports in a turn of the actor. -/
def turnPoll : Option Frame → Poll
  | some command => .pipe command
  | none => .serverSocket

variable (zrexMatches args globals) in
/-- The programs of the actor in a row are `cucumber_steps_actor`. -/
theorem program_stepsBody (turns : List (Option Frame)) :
    (stepsBody zrexMatches args globals).program turns =
      cucumberStepsActor zrexMatches args globals (turns.map turnPoll) := by
  have loop : ∀ (turns : List (Option Frame)) self,
      (stepsBody zrexMatches args globals).loop turns self =
        cucumberStepsActorLoop zrexMatches args (turns.map turnPoll) self := by
    intro turns
    induction turns with
    | nil => exact fun _ => rfl
    | cons turn turns ih =>
      intro self
      have ih' := funext ih
      cases turn with
      | none | some =>
        rw [ActorBody.loop, ih']
        rfl
  have loop' := funext (loop turns)
  rw [ActorBody.program, ActorBody.service, loop']
  exact Prog.bind_assoc ..

/-- **The step runner refines its actor.** When `main` is through, the actor has executed
`cucumber_steps_actor`, on the frames that have arrived and for some reports of the poller;
the commands among them are `main`'s. -/
theorem stepRunner_refines
    (run : StepRunnerRun zrexMatches args globals name false verbose ls c)
    (returned : c.parent = []) :
    ∃ polls last, (∀ command, Poll.pipe command ∈ polls →
        command = "VERBOSE" ∨ command = "$TERM") ∧
      (cucumberStepsActor zrexMatches args globals polls).exec Prog.nobody ()
          (Tandem.arrivals ls) =
        ⟨.returned last, (), c.inbound, Tandem.events ls⟩ ∧ c.thread = .ret last := by
  obtain ⟨last, exited, at_ret, -⟩ := exited_of_returned run returned
  have returns : MayReturn c.thread [] last := at_ret ▸ .ret last
  obtain ⟨turns, hturns, hsession⟩ := run.session returns
  rw [exited] at hsession
  have hprogram := hsession.mayReturn
  rw [List.append_nil, program_stepsBody] at hprogram
  refine ⟨turns.map turnPoll, last, ?_, ?_, at_ret⟩
  · intro command hmem
    obtain ⟨turn, hturn, hpoll⟩ := List.mem_map.mp hmem
    cases turn with
    | none => cases hpoll
    | some command' =>
      cases hpoll
      rw [← List.reduceOption_mem_iff, hturns] at hturn
      exact told_stepRunnerMain (run.told_heard hturn)
  · rw [run.received]
    exact Prog.exec_nobody_append hprogram.exec_nobody c.inbound

theorem stepRunner_refines_ctrlD : ∃ ls c,
    StepRunnerRun literalMatches protocolArgs () "protocol" false false ls c ∧
      ∃ polls last, (cucumberStepsActor literalMatches protocolArgs () polls).exec Prog.nobody ()
          ["START SCENARIO", "n"] =
        ⟨.returned last, (), c.inbound, Tandem.events ls⟩ := by
  obtain ⟨ls, c, run, hends⟩ := runs_ctrlD
  obtain ⟨returned, -, -, arrived, -⟩ := of_decide_eq_true hends
  obtain ⟨polls, last, -, hexec, -⟩ := stepRunner_refines run returned
  exact ⟨ls, c, run, polls, last, arrived ▸ hexec⟩

/-! ## What the runner hears -/

variable {self next : CucumberSteps υ σ} {rs : List Request} {n : ℕ}
variable {t t' : List (Event (Call σ) Frame Msg)}

/-- **One more turn** at the socket handles one more request. -/
theorem handled_of_serve (received : receivedIn t = (rs.take n).flatMap Request.frames)
    (isLegal : Request.Legal self.cucumber.isSome (rs.drop n))
    (served : MayReturn (cucumberStepsRecvPickle zrexMatches args self) t' next)
    (fits : receivedIn (t ++ t') <+: rs.flatMap Request.frames) :
    ∃ r rest calls reply, rs.drop n = r :: rest ∧
      self.handle zrexMatches args r = some (next, calls, reply) ∧
      t' = handleTrace self r calls reply ∧ Request.Legal next.cucumber.isSome rest := by
  -- The frames it took are in front of those of the requests that are left.
  have hfront : receivedIn t' <+: (rs.drop n).flatMap Request.frames := by
    have hsplit : rs.flatMap Request.frames =
        receivedIn t ++ (rs.drop n).flatMap Request.frames := by
      rw [received, ← List.flatMap_append, List.take_append_drop]
    rw [receivedIn_append, hsplit] at fits
    exact (List.prefix_append_right_inj _).mp fits
  obtain ⟨more, hmore⟩ := hfront
  have hexec := Prog.exec_nobody_append served.exec_nobody more
  rw [hmore] at hexec
  rcases hdrop : rs.drop n with _ | ⟨r, rest⟩
  · rw [hdrop] at hexec
    cases hexec
  · rw [hdrop, List.flatMap_cons, exec_request] at hexec
    rw [hdrop, Request.Legal, List.map_cons, legal, Bool.and_eq_true] at isLegal
    obtain ⟨next', calls, reply, hhandle, hopen⟩ := handle_of_allowed zrexMatches args isLegal.1
    rw [hhandle] at hexec
    obtain ⟨hnext, -, -, rfl⟩ := Outcome.mk.inj hexec
    obtain rfl := Result.returned.inj hnext
    exact ⟨r, rest, calls, reply, rfl, hhandle, rfl, hopen ▸ isLegal.2⟩

/-- **The rule for requests.** Frames of legal requests arrive. Let `P` tell something about
how many requests an actor has handled, what it has done and the state it is in. If it is
true of a fresh actor, and commands, requests and the end of the actor keep it true, then
it is true in every interleaving, as soon as the program that is running is over. -/
theorem requests_keep {P : ℕ → List (Event (Call σ) Frame Msg) → CucumberSteps υ σ → Prop}
    (fresh : P 0 [.sent ["HELLO"]] (freshActor globals))
    (verbose : ∀ {n t self}, P n t self → P n t { self with verbose := true })
    (stop : ∀ {n t self}, P n t self → P n t { self with terminated := true })
    (handle : ∀ {n t self r rest next calls reply}, P n t self → self.terminated = false →
      rs.drop n = r :: rest → self.handle zrexMatches args r = some (next, calls, reply) →
      P (n + 1) (t ++ handleTrace self r calls reply) next)
    (destroy : ∀ {n t self}, P n t self → self.terminated = true →
      P n (t ++ (cucumberDestroy self).2.map .put) (cucumberDestroy self).1)
    (isLegal : Request.Legal false rs)
    (run : StepRunnerRun zrexMatches args globals name help v ls c)
    (h : MayReturn c.thread t next)
    (fits : receivedIn (Tandem.events ls ++ t) <+: rs.flatMap Request.frames) :
    ∃ n, receivedIn (Tandem.events ls ++ t) = (rs.take n).flatMap Request.frames ∧
      P n (Tandem.events ls ++ t) next := by
  suffices hkept : ∃ n, receivedIn (Tandem.events ls ++ t) = (rs.take n).flatMap Request.frames ∧
      (next.terminated = false → Request.Legal next.cucumber.isSome (rs.drop n)) ∧
      P n (Tandem.events ls ++ t) next by
    obtain ⟨n, received, -, hP⟩ := hkept
    exact ⟨n, received, hP⟩
  refine run.keeps (P := fun _ _ t self => receivedIn t <+: rs.flatMap Request.frames →
    ∃ n, receivedIn t = (rs.take n).flatMap Request.frames ∧
      (self.terminated = false → Request.Legal self.cucumber.isSome (rs.drop n)) ∧ P n t self)
    ?_ ?_ ?_ ?_ h fits
  · intro t next h _
    obtain ⟨rfl, rfl⟩ := cucumberStepsNew_inv globals h
    exact ⟨0, rfl, fun _ => isLegal, fresh⟩
  · intro _ t self command t' next keeps _ h fits
    obtain ⟨rfl, ⟨-, rfl⟩ | ⟨-, rfl⟩⟩ := cucumberStepsRecvApi_inv h
    all_goals
      rw [List.append_nil] at fits ⊢
      obtain ⟨n, received, ready, hP⟩ := keeps fits
    · exact ⟨n, received, ready, verbose hP⟩
    · exact ⟨n, received, (fun running => by cases running), stop hP⟩
  · intro _ t self t' next keeps running h fits
    have fits' := fits
    rw [receivedIn_append] at fits'
    obtain ⟨n, received, ready, hP⟩ := keeps ((List.prefix_append _ _).trans fits')
    obtain ⟨r, rest, calls, reply, hdrop, hhandle, rfl, isLegal⟩ :=
      handled_of_serve received (ready running) h fits
    refine ⟨n + 1, ?_, fun _ => ?_, handle hP running hdrop hhandle⟩
    · have hr : rs[n]? = some r := by rw [← List.head?_drop, hdrop, List.head?_cons]
      rw [receivedIn_append, received, receivedIn_handleTrace, List.take_add_one, hr,
        List.flatMap_append]
      simp
    · rw [← List.drop_drop, hdrop]
      exact isLegal
  · intro _ t self t' next keeps terminated h fits
    obtain ⟨rfl, rfl⟩ := cucumberStepsDestroy_inv h
    rw [receivedIn_append, receivedIn_put, List.append_nil] at fits
    obtain ⟨n, received, -, hP⟩ := keeps fits
    refine ⟨n, ?_, fun running => ?_, destroy hP terminated⟩
    · rw [receivedIn_append, receivedIn_put, List.append_nil, received]
    · rw [terminated_cucumberDestroy] at running
      exact absurd (terminated.symm.trans running) (by decide)

variable (zrexMatches args globals) in
/-- The actor has answered the first `n` of the requests, and would answer the others as if it
had not been disturbed, as long as it is not told to stop. -/
structure Answered (rs : List Request) (n : ℕ) (t : List (Event (Call σ) Frame Msg))
    (actor : CucumberSteps υ σ) : Prop where
  sent : sentIn t = ["HELLO"] :: ((freshActor globals).replies zrexMatches args rs).take n
  ready : actor.terminated = false →
    ((freshActor globals).replies zrexMatches args rs).drop n =
      actor.replies zrexMatches args (rs.drop n)

/-- **One more request** gets one more reply. -/
theorem Answered.handle (h : Answered zrexMatches args globals rs n t self)
    (running : self.terminated = false) {r : Request} {rest : List Request}
    (hdrop : rs.drop n = r :: rest) {calls : List (Call σ)} {reply : Msg}
    (hhandle : self.handle zrexMatches args r = some (next, calls, reply)) :
    Answered zrexMatches args globals rs (n + 1) (t ++ handleTrace self r calls reply) next := by
  have hreplies := h.ready running
  rw [hdrop, replies_cons zrexMatches args hhandle] at hreplies
  have hreply : ((freshActor globals).replies zrexMatches args rs)[n]? = some reply := by
    rw [← List.head?_drop, hreplies, List.head?_cons]
  refine ⟨?_, fun _ => ?_⟩
  · rw [sentIn_append, h.sent, sentIn_handleTrace, List.take_add_one, hreply]
    rfl
  · rw [← List.drop_drop, ← List.drop_drop, hdrop, hreplies]
    rfl

/-- What was sent on the way. -/
theorem Answered.sentIn_prefix (h : Answered zrexMatches args globals rs n (t ++ t') self) :
    sentIn t <+: ["HELLO"] :: (freshActor globals).replies zrexMatches args rs := by
  have hfront : sentIn t <+: sentIn (t ++ t') := by
    rw [sentIn_append]
    exact List.prefix_append _ _
  rw [h.sent] at hfront
  exact hfront.trans (List.cons_prefix_cons.mpr ⟨rfl, List.take_prefix _ _⟩)

/-- **Every run** answers one request after another. Neither the flag nor a stop changes what
was answered. -/
theorem answered_run (blind : args.FlagBlind) (isLegal : Request.Legal false rs)
    (run : StepRunnerRun zrexMatches args globals name help verbose ls c)
    (h : MayReturn c.thread t next)
    (fits : receivedIn (Tandem.events ls ++ t) <+: rs.flatMap Request.frames) :
    ∃ n, receivedIn (Tandem.events ls ++ t) = (rs.take n).flatMap Request.frames ∧
      Answered zrexMatches args globals rs n (Tandem.events ls ++ t) next := by
  refine requests_keep ⟨rfl, fun _ => rfl⟩ ?_ ?_ ?_ ?_ isLegal run h fits
  · intro n t self answered
    refine ⟨answered.sent, fun running => ?_⟩
    have hsame := replies_verbose zrexMatches args blind self true (rs.drop n)
    exact (answered.ready running).trans hsame.symm
  · intro n t self answered
    exact ⟨answered.sent, fun running => by cases running⟩
  · intro n t self r rest next calls reply answered running hdrop hhandle
    exact answered.handle running hdrop hhandle
  · intro n t self answered terminated
    refine ⟨?_, fun running => ?_⟩
    · rw [sentIn_append, sentIn_put, List.append_nil, answered.sent]
    · rw [terminated_cucumberDestroy] at running
      exact absurd (terminated.symm.trans running) (by decide)

/-- The same between two programs of the actor. -/
theorem answered_ret (blind : args.FlagBlind) (isLegal : Request.Legal false rs)
    (run : StepRunnerRun zrexMatches args globals name help verbose ls c)
    (at_ret : c.thread = .ret next)
    (fits : receivedIn (Tandem.events ls) <+: rs.flatMap Request.frames) :
    ∃ n, receivedIn (Tandem.events ls) = (rs.take n).flatMap Request.frames ∧
      Answered zrexMatches args globals rs n (Tandem.events ls) next := by
  have returns : MayReturn c.thread [] next := at_ret ▸ .ret next
  have hanswered := answered_run blind isLegal run returns
  rw [List.append_nil] at hanswered
  exact hanswered fits

/-- Given whole requests, the program that is running can be completed with frames of them. -/
theorem exists_mayReturn (isLegal : Request.Legal false rs)
    (run : StepRunnerRun zrexMatches args globals name help verbose ls c)
    (arrived : Tandem.arrivals ls <+: rs.flatMap Request.frames) :
    ∃ t self, MayReturn c.thread t self ∧
      receivedIn (Tandem.events ls ++ t) <+: rs.flatMap Request.frames := by
  obtain ⟨future, hfuture⟩ := arrived
  have hfed := fed_of_legal run isLegal hfuture
  rw [run.received] at hfuture
  cases hfed with
  | @serving taken self rest takes inbound =>
    obtain ⟨t, h, rfl⟩ := takes.mayReturn
    refine ⟨t, self, h, rest, ?_⟩
    rw [receivedIn_append, List.append_assoc, ← inbound, ← hfuture, List.append_assoc]
  | @ending self _ takes =>
    obtain ⟨t, h, hnone⟩ := takes.mayReturn
    refine ⟨t, self, h, c.inbound ++ future, ?_⟩
    rw [receivedIn_append, hnone, List.append_nil, ← hfuture, List.append_assoc]

/-- **What a step runner is heard to say.** The requests are legal, and their frames arrive
one by one while `main` and its actor go on in any order, and ctrl-d is pressed at any time;
the state constructor does not look at the flag. At every moment what was sent is the front
of `HELLO` and the replies of an actor that nobody disturbs. When `main` is through, the
actor has read whole requests, the first of them, has answered each, and has left the rest
unread. -/
theorem stepRunner_answers (blind : args.FlagBlind) (isLegal : Request.Legal false rs)
    (run : StepRunnerRun zrexMatches args globals name help verbose ls c)
    (arrived : Tandem.arrivals ls <+: rs.flatMap Request.frames) :
    sentIn (Tandem.events ls) <+:
        ["HELLO"] :: (freshActor globals).replies zrexMatches args rs ∧
      (help = false → c.parent = [] → ∃ n,
        Tandem.arrivals ls = (rs.take n).flatMap Request.frames ++ c.inbound ∧
          sentIn (Tandem.events ls) =
            ["HELLO"] :: (freshActor globals).replies zrexMatches args (rs.take n)) := by
  constructor
  · obtain ⟨t, self, h, fits⟩ := exists_mayReturn isLegal run arrived
    obtain ⟨n, -, answered⟩ := answered_run blind isLegal run h fits
    exact answered.sentIn_prefix
  · rintro rfl returned
    obtain ⟨last, -, at_ret, -⟩ := exited_of_returned run returned
    rw [run.received] at arrived ⊢
    obtain ⟨n, received, answered⟩ := answered_ret blind isLegal run at_ret
      ((List.prefix_append _ _).trans arrived)
    exact ⟨n, by rw [received], by rw [replies_take, answered.sent]⟩

/-- `my_state_new` does not look at the flag. -/
theorem flagBlind_protocolArgs : protocolArgs.FlagBlind := by
  rintro construct hconstruct globals verbose verbose'
  obtain rfl := Option.some.inj hconstruct
  rfl

/-- The end of the scenario has not arrived. -/
theorem stepRunner_answers_ctrlD : ∃ ls c,
    StepRunnerRun literalMatches protocolArgs () "protocol" false false ls c ∧
      Tandem.arrivals ls = ["START SCENARIO", "n"] ∧
      sentIn (Tandem.events ls) <+:
        [["HELLO"], ["SCENARIO STARTED", "n"], ["SCENARIO ENDED", "n"]] ∧
      sentIn (Tandem.events ls) = [["HELLO"], ["SCENARIO STARTED", "n"]] := by
  obtain ⟨ls, c, run, hends⟩ := runs_ctrlD
  obtain ⟨returned, -, -, arrived, hread⟩ := of_decide_eq_true hends
  have isLegal : Request.Legal false [.startScenario "n", .endScenario "n"] := rfl
  have front : Tandem.arrivals ls <+:
      [Request.startScenario "n", .endScenario "n"].flatMap Request.frames := by
    rw [arrived]
    exact ⟨["END SCENARIO", "n"], rfl⟩
  obtain ⟨hfront, hthrough⟩ := stepRunner_answers flagBlind_protocolArgs isLegal run front
  obtain ⟨n, hframes, hsent⟩ := hthrough rfl returned
  rw [arrived, hread, List.append_nil] at hframes
  -- It has read one request: none has no frames, and both have more.
  have hone : n = 1 := by
    rcases n with _ | _ | n
    · cases hframes
    · rfl
    · cases hframes
  subst hone
  exact ⟨ls, c, run, arrived, hfront, hsent⟩

/-- While `main` waits for ctrl-d, the actor serves. -/
theorem serving_of_waiting
    (run : StepRunnerRun zrexMatches args globals name help verbose ls c)
    (waiting : c.parent = [.act .readStdin, .tell "$TERM", .release]) :
    c.phase = .serving ∧ c.signals = 0 ∧
      Tandem.Stays (stepsBody zrexMatches args globals) c.thread := by
  cases run.ordered (lines_stepRunnerMain name help verbose) with
  | before lines =>
    rw [waiting] at lines
    cases lines with
    | act _ lines => cases lines
  | starting line | started line | told line | released line =>
    rw [waiting] at line
    cases line
  | working _ serving signals _ stays => exact ⟨serving, signals, stays⟩
  | through calm =>
    obtain ⟨b, hb⟩ := calm (.tell "$TERM") (by simp [waiting])
    cases hb

/-- **Nobody waits in vain.** Whole requests have arrived, and ctrl-d has not been pressed; the
state constructor does not look at the flag. The actor has something to do, or it has answered
all of them. -/
theorem stepRunner_serves (blind : args.FlagBlind) (isLegal : Request.Legal false rs)
    (run : StepRunnerRun zrexMatches args globals name help verbose ls c)
    (arrived : Tandem.arrivals ls = rs.flatMap Request.frames)
    (waiting : c.parent = [.act .readStdin, .tell "$TERM", .release])
    (idle : Tandem.Idle (stepsBody zrexMatches args globals) c) :
    sentIn (Tandem.events ls) = ["HELLO"] :: (freshActor globals).replies zrexMatches args rs ∧
      c.inbound = [] := by
  obtain ⟨serving, -, stays⟩ := serving_of_waiting run waiting
  have whole : Tandem.arrivals ls ++ [] = rs.flatMap Request.frames := by
    rw [List.append_nil, arrived]
  obtain ⟨self, at_ret, empty⟩ := (fed_of_legal run isLegal whole).served serving stays idle
  rw [run.received, empty, List.append_nil] at arrived
  obtain ⟨n, received, answered⟩ :=
    answered_ret blind isLegal run at_ret (arrived ▸ List.prefix_rfl)
  -- It has read all frames, so no request is left.
  have hnone : (rs.drop n).flatMap Request.frames = [] := by
    rw [arrived] at received
    conv at received => lhs; rw [← List.take_append_drop n rs, List.flatMap_append]
    exact List.append_right_eq_self.mp received
  have hdrop : rs.drop n = [] := by
    rcases hdrop : rs.drop n with _ | ⟨r, rest⟩
    · rfl
    · rw [hdrop, List.flatMap_cons] at hnone
      exact absurd (List.append_eq_nil_iff.mp hnone).1 r.frames_ne_nil
  have htake : rs.take n = rs := by
    conv_rhs => rw [← List.take_append_drop n rs, hdrop, List.append_nil]
  exact ⟨by rw [answered.sent, ← replies_take, htake], empty⟩

/-! ## The runner and the step runner -/

/-- **The two programs fit together.** The runner of `cucumber_feature_runner.c` sends requests
in any network, where the peers do what they like and not even the others are step runners.
A step runner to which these requests arrive, as far as they have arrived, does not die: no
assertion of its handler fails. If its state constructor does not look at the flag, it has
sent the front of `HELLO` and the replies to the requests. -/
theorem stepRunner_survives {γ ω' σ' : Type} (G : GherkinC γ) {S : Service Frame Frame ω' σ'}
    {ok : Network Frame Frame Output ω' σ' (CucumberFeatureRunner × Bool) →
      Label Frame Frame Output ω' → Prop}
    {net₀ net : Network Frame Frame Output ω' σ' (CucumberFeatureRunner × Bool)}
    {steps : List (Label Frame Frame Output ω')} (fuel : ℕ) (runner : CucumberFeatureRunner)
    (identities : CursorList Frame)
    (start : net₀.client = cucumberFeatureRunnerRun G fuel runner identities)
    (sends : RunWhere S ok net₀ steps net) (i : Frame)
    (run : StepRunnerRun zrexMatches args globals name help verbose ls c)
    (arrived : Tandem.arrivals ls <+: (sentTo i (clientTrace steps)).flatten) :
    (∀ why, c.thread ≠ .fault why) ∧ ∃ rs : List Request,
      sentTo i (clientTrace steps) = rs.map Request.frames ∧
        (args.FlagBlind → sentIn (Tandem.events ls) <+:
          ["HELLO"] :: (freshActor globals).replies zrexMatches args rs) := by
  obtain ⟨rs, hrequests, isLegal⟩ := exists_legal_sentTo G fuel runner identities start sends i
  rw [hrequests, ← List.flatMap_def] at arrived
  obtain ⟨t, self, h, fits⟩ := exists_mayReturn isLegal run arrived
  constructor
  · intro why at_fault
    rw [at_fault] at h
    exact h.not_fault
  · refine ⟨rs, hrequests, fun blind => ?_⟩
    obtain ⟨n, -, answered⟩ := answered_run blind isLegal run h fits
    exact answered.sentIn_prefix

end Conversation

/-- A scenario is started, and nobody presses ctrl-d. -/
def keepsWaiting : List (Tandem.Turn Frame) :=
  [.parent, .parent, .actor, .actor, .parent, .parent, .parent, .arrive "START SCENARIO",
    .arrive "n", .serve, .actor, .actor, .actor]

/-- Where the run comes to. -/
def endsWaiting (ls : List (Tandem.Label MainAct Frame Frame (Call MyState)))
    (c : Tandem MainAct Frame Frame (Call MyState) (CucumberSteps Unit MyState)) : Bool :=
  decide (c.parent = [.act .readStdin, .tell "$TERM", .release] ∧ c.phase ≠ .absent ∧
    (∀ turn ∈ Tandem.actorTurns,
      (Tandem.next (stepsBody literalMatches protocolArgs ()) c turn).isNone) ∧
    Tandem.arrivals ls = ["START SCENARIO", "n"])

theorem runs_waiting : ∃ ls c,
    StepRunnerRun literalMatches protocolArgs () "protocol" false false ls c ∧
      endsWaiting ls c = true :=
  Tandem.exists_run keepsWaiting (by decide +kernel)

theorem stepRunner_serves_protocol : ∃ ls c,
    StepRunnerRun literalMatches protocolArgs () "protocol" false false ls c ∧
      Tandem.arrivals ls = ["START SCENARIO", "n"] ∧
      sentIn (Tandem.events ls) = [["HELLO"], ["SCENARIO STARTED", "n"]] := by
  obtain ⟨ls, c, run, hends⟩ := runs_waiting
  obtain ⟨waiting, started, none, arrived⟩ := of_decide_eq_true hends
  have isLegal : Request.Legal false [.startScenario "n"] := rfl
  have idle := Tandem.idle_of_turns started none
  exact ⟨ls, c, run, arrived,
    (stepRunner_serves flagBlind_protocolArgs isLegal run arrived waiting idle).1⟩

/-- The runner dies of the `HELLO` of `B`, and the step runner that is called `A` does not. -/
theorem stepRunner_survives_hello : ∃ ls c,
    StepRunnerRun literalMatches protocolArgs () "protocol" false false ls c ∧
      Tandem.arrivals ls = ["START SCENARIO", "n"] ∧ (∀ why, c.thread ≠ .fault why) ∧
      sentIn (Tandem.events ls) <+: [["HELLO"], ["SCENARIO STARTED", "n"]] := by
  obtain ⟨steps, net, sends, -, hsent⟩ := runs_hello
  obtain ⟨ls, c, run, hends⟩ := runs_waiting
  obtain ⟨-, -, -, arrived⟩ := of_decide_eq_true hends
  have front : Tandem.arrivals ls <+: (sentTo "A" (clientTrace steps)).flatten := by
    rw [arrived, sentTo_eq, hsent]
    exact List.prefix_rfl
  obtain ⟨alive, rs, hrequests, hreplies⟩ :=
    stepRunner_survives onePickle 0 oneFile ⟨["A"], 0⟩ rfl sends "A" run front
  have hone : rs = [.startScenario "n"] := by
    rw [sentTo_eq, hsent] at hrequests
    exact Request.frames_injective.list_map hrequests.symm
  subst hone
  exact ⟨ls, c, run, arrived, alive, hreplies flagBlind_protocolArgs⟩

end CucumberC
