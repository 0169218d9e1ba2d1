import CucumberC.Lib.Session
import CucumberC.Lib.Turns
import CucumberC.Lifecycle
import CucumberC.Requests

/-!
# The step runner

`cucumber_c.h`: `STEP_RUNNER` makes a program of step definitions. Its `main` starts the
actor of `cucumber_steps.c`, gives it the addresses of the user's functions in a block that
it frees when the actor has started, and waits for ctrl-d. Then it tells the actor to stop,
and destroys it, which tells the actor to stop once more.

## Main definitions

* `stepRunnerMain`: the lines of `main`.
* `stepsBody`: the programs of the actor.
* `stepRunner_safe`, `stepRunner_returns`: every run of the program.
* `heldIn`, `Overwritten`, `stepRunner_destroys`: what becomes of the state objects.
-/

namespace CucumberC
open Interaction

/-! ## The program -/

/-- What `main` does besides dealing with the actor. `readStdin` is the loop that reads to the
end of the standard input. -/
inductive MainAct
  | printf (text : String)
  | argsNew
  | argsDestroy
  | readStdin
  deriving DecidableEq

/-- `CREATE_STEP_RUNNER_ACTOR`. `zactor_new` waits for the first signal of the actor. -/
def createStepRunnerActor (verbose : Bool) : List (ParentLine MainAct Frame) :=
  [.act .argsNew, .start, .await, .act .argsDestroy] ++
    if verbose then [.tell "VERBOSE"] else []

/-- `STEP_RUNNER`. `zactor_destroy` sends `$TERM` and waits for the last signal of the actor,
unless it is gone. -/
def stepRunnerMain (name : String) (help verbose : Bool) : List (ParentLine MainAct Frame) :=
  if help then [.act (.printf ("Usage: " ++ name ++ "_step_defs [--verbose]\n"))]
  else createStepRunnerActor verbose ++
    [.act (.printf "Terminate by pressing ctrl-d\n"), .act .readStdin, .tell "$TERM", .release]

/-- The block of arguments is freed when the actor has started. -/
theorem lines_stepRunnerMain (name : String) (help verbose : Bool) :
    Tandem.Lines (· ≠ .argsDestroy) "$TERM" (stepRunnerMain name help verbose) := by
  unfold stepRunnerMain createStepRunnerActor
  split
  · exact .act (by simp) .nil
  · have during : Tandem.During "$TERM" [ParentLine.act (MainAct.printf
        "Terminate by pressing ctrl-d\n"), .act .readStdin, .tell "$TERM", .release] :=
      .act _ (.act _ (.quit (by simp [Tandem.Calm])))
    refine .act (by simp) (.create (.act _ ?_))
    split
    · exact .tell (by decide) during
    · exact during

section Actor
variable {υ σ : Type} (zrexMatches : String → String → Option (List String))
  (args : CucumberStepsArgs υ σ) (globals : υ)

/-! ## What the programs of the actor return -/

variable {self next : CucumberSteps υ σ} {t : List (Event (Call σ) Frame Msg)}

theorem cucumberStepsNew_inv (h : MayReturn (cucumberStepsNew globals : StepsProg σ _) t next) :
    next = freshActor globals ∧ t = [.sent ["HELLO"]] := by
  cases h with
  | send rest =>
    obtain ⟨rfl, rfl⟩ := rest.ret_inv
    exact ⟨rfl, rfl⟩

theorem cucumberStepsRecvApi_inv {command : Frame}
    (h : MayReturn (cucumberStepsRecvApi self command) t next) :
    t = [] ∧ (command = "VERBOSE" ∧ next = { self with verbose := true } ∨
      command = "$TERM" ∧ next = { self with terminated := true }) := by
  unfold cucumberStepsRecvApi at h
  split at h
  · obtain ⟨rfl, rfl⟩ := h.ret_inv
    exact ⟨rfl, .inl ⟨‹_›, rfl⟩⟩
  · split at h
    · obtain ⟨rfl, rfl⟩ := h.ret_inv
      exact ⟨rfl, .inr ⟨‹_›, rfl⟩⟩
    · exact absurd h MayReturn.not_fault

/-- **The handler** that returns has handled a request, or thrown an unknown command away. -/
theorem cucumberStepsRecvPickle_inv
    (h : MayReturn (cucumberStepsRecvPickle zrexMatches args self) t next) :
    (∃ r calls reply, self.handle zrexMatches args r = some (next, calls, reply) ∧
      t = handleTrace self r calls reply) ∨ next = self ∧ putIn t = [] := by
  have hexec := h.exec_nobody
  -- The frames it received are those of a request, or an unknown command.
  have handled : ∀ (r : Request) rest, receivedIn t = r.frames ++ rest →
      ∃ r calls reply, self.handle zrexMatches args r = some (next, calls, reply) ∧
        t = handleTrace self r calls reply := by
    intro r rest hframes
    rw [hframes, exec_request] at hexec
    split at hexec
    · rename_i self' calls reply hhandle
      obtain ⟨hnext, -, -, rfl⟩ := Outcome.mk.inj hexec
      obtain rfl := Result.returned.inj hnext
      exact ⟨r, calls, reply, hhandle, rfl⟩
    · cases hexec
  have blocked : ∀ fs, receivedIn t = fs →
      ((cucumberStepsRecvPickle zrexMatches args self).exec Prog.nobody () fs).result ≠
        .blocked := by
    rintro fs rfl hblocked
    rw [hexec] at hblocked
    cases hblocked
  rcases hreceived : receivedIn t with _ | ⟨command, fs⟩
  · exact absurd rfl (blocked [] hreceived)
  · by_cases known : command ∈ knownCommands
    · left
      simp only [knownCommands, List.mem_cons, List.not_mem_nil, or_false] at known
      rcases known with rfl | rfl | rfl
      · rcases fs with _ | ⟨id, rest⟩
        · exact absurd rfl (blocked _ hreceived)
        · exact handled (.startScenario id) rest hreceived
      · rcases fs with _ | ⟨id, rest⟩
        · exact absurd rfl (blocked _ hreceived)
        · exact handled (.endScenario id) rest hreceived
      · rcases fs with _ | ⟨id, _ | ⟨text, rest⟩⟩
        · exact absurd rfl (blocked _ hreceived)
        · exact absurd rfl (blocked _ hreceived)
        · exact handled (.runStep id text) rest hreceived
    · rw [hreceived, exec_unknown zrexMatches args self known] at hexec
      obtain ⟨hnext, -, -, rfl⟩ := Outcome.mk.inj hexec
      exact .inr ⟨(Result.returned.inj hnext).symm, rfl⟩

theorem cucumberStepsDestroy_inv (h : MayReturn (cucumberStepsDestroy self) t next) :
    next = (cucumberDestroy self).1 ∧ t = (cucumberDestroy self).2.map .put := by
  have hexec := h.exec_nobody
  simp only [cucumberStepsDestroy, Prog.bind_eq, Prog.exec_outputs_bind, Prog.pure_eq,
    Prog.exec_ret, Outcome.after, List.append_nil, Outcome.mk.injEq, Result.returned.injEq] at hexec
  obtain ⟨rfl, -, -, rfl⟩ := hexec
  exact ⟨rfl, rfl⟩

/-- The actor of `cucumber_steps.c`. `zpoller_wait` is called with timeout 0; the turns of its
loop in which it reports nothing are no steps. -/
def stepsBody : ActorBody Frame Frame (Call σ) (CucumberSteps υ σ) where
  init := cucumberStepsNew globals
  hear := cucumberStepsRecvApi
  serve := cucumberStepsRecvPickle zrexMatches args
  finish := cucumberStepsDestroy
  quits := CucumberSteps.terminated
  term := "$TERM"
  serve_takes _ := ⟨_, rfl⟩
  init_stays h := by rw [(cucumberStepsNew_inv globals h).1]; rfl
  serve_stays := by
    intro self t next running h
    rcases cucumberStepsRecvPickle_inv zrexMatches args h with ⟨r, calls, reply, hhandle, -⟩ | h
    · rw [terminated_handle zrexMatches args hhandle, running]
    · rw [h.1, running]
  hear_stays := by
    intro self command t next running other h
    obtain ⟨-, h | h⟩ := cucumberStepsRecvApi_inv h
    · rw [h.2]
      exact running
    · exact absurd h.1 other
  term_quits := by
    intro self t next h
    obtain ⟨-, h | h⟩ := cucumberStepsRecvApi_inv h
    · exact absurd h.1 (by decide)
    · rw [h.2]

/-- The program in front of its run. -/
abbrev stepRunner (name : String) (help verbose : Bool) :
    Tandem MainAct Frame Frame (Call σ) (CucumberSteps υ σ) :=
  .initial (stepsBody zrexMatches args globals) (stepRunnerMain name help verbose)

/-- The runs of the program. -/
abbrev StepRunnerRun (name : String) (help verbose : Bool)
    (ls : List (Tandem.Label MainAct Frame Frame (Call σ)))
    (c : Tandem MainAct Frame Frame (Call σ) (CucumberSteps υ σ)) : Prop :=
  Tandem.Run (stepsBody zrexMatches args globals)
    (stepRunner zrexMatches args globals name help verbose) ls c

end Actor

/-- The number of calls of the state constructor. -/
def constructions {σ : Type} (calls : List (Call σ)) : ℕ :=
  calls.countP fun
    | .constructed _ _ => true
    | _ => false

/-! ## The step runner of `step_defs.c` -/

/-- `my_state_t` -/
structure MyState where
  filler : ℤ
  deriving DecidableEq, Repr

/-- `my_state_new`. `zmalloc` clears the object. -/
def myStateNew : Unit → Bool → Unit × Option MyState := fun _ _ => ((), some ⟨0⟩)

/-- `my_state_destroy` -/
def myStateDestroy : Unit → Option MyState → Unit := fun _ _ => ()

/-- `given_a_topic` -/
def givenATopic : CucumberStep Unit MyState :=
  fun _ _ _ => ⟨(), fun state => { state with filler := 1 }, []⟩

/-- `when_message_is_sent` -/
def whenMessageIsSent : CucumberStep Unit MyState :=
  fun _ _ _ => ⟨(), fun state => { state with filler := 2 }, []⟩

/-- `STEP_DEFS(protocol, my_state_new, my_state_destroy)` -/
def registerProtocolStepDefs :
    Unit → Option MyState → Unit × List (String × CucumberStep Unit MyState) :=
  fun _ _ => ((), [("a dafka (\\w+) subscribed to topic '(\\w+)'", givenATopic),
    ("a (\\w+) message with sequence larger 0 is sent on topic '(\\w+)'", whenMessageIsSent)])

/-- The arguments that `step_runner.c` gives to its actor. -/
abbrev protocolArgs : CucumberStepsArgs Unit MyState :=
  ⟨some myStateNew, some myStateDestroy, registerProtocolStepDefs⟩

/-- A scenario is started, and ctrl-d is pressed before it ends. -/
def ctrlD : List (Tandem.Turn Frame) :=
  [.parent, .parent, .actor, .actor, .parent, .parent, .arrive "START SCENARIO", .arrive "n",
    .serve, .actor, .actor, .actor, .parent, .parent, .parent, .parent, .hear, .actor, .actor,
    .actor, .parent]

/-- What is seen of the run, and where it comes to. -/
def endsCtrlD (ls : List (Tandem.Label MainAct Frame Frame (Call MyState)))
    (c : Tandem MainAct Frame Frame (Call MyState) (CucumberSteps Unit MyState)) : Bool :=
  decide (c.parent = [] ∧ ¬ Tandem.CanStep (stepsBody literalMatches protocolArgs ()) c ∧
    .parent (.act .argsDestroy) ∈ ls ∧ Tandem.arrivals ls = ["START SCENARIO", "n"] ∧
    c.inbound = [])

theorem runs_ctrlD : ∃ ls c,
    StepRunnerRun literalMatches protocolArgs () "protocol" false false ls c ∧
      endsCtrlD ls c = true :=
  Tandem.exists_run ctrlD (by decide +kernel)

/-! ## Every run of the program -/

section Runs
variable {υ σ : Type} {zrexMatches : String → String → Option (List String)}
variable {args : CucumberStepsArgs υ σ} {globals : υ} {name : String} {help verbose : Bool}
variable {ls : List (Tandem.Label MainAct Frame Frame (Call σ))}
variable {c : Tandem MainAct Frame Frame (Call σ) (CucumberSteps υ σ)}

/-- What `main` tells its actor. -/
theorem told_stepRunnerMain {command : Frame}
    (h : .tell command ∈ stepRunnerMain name help verbose ∨ command = "$TERM") :
    command = "VERBOSE" ∨ command = "$TERM" := by
  rcases h with h | h
  · unfold stepRunnerMain createStepRunnerActor at h
    cases help <;> cases verbose <;> simp at h <;> tauto
  · exact .inr h

/-- When `main` is through, the actor has ended. -/
theorem exited_of_returned (run : StepRunnerRun zrexMatches args globals name false verbose ls c)
    (returned : c.parent = []) :
    ∃ last, c.phase = .exited ∧ c.thread = .ret last ∧ last.cucumber = none := by
  cases run.ordered (lines_stepRunnerMain name false verbose) with
  | before _ absent =>
    have hstart : .start ∈ c.parent :=
      run.start_mem (by simp [stepRunnerMain, createStepRunnerActor]) absent
    rw [returned] at hstart
    cases hstart
  | starting line | started line | told line | released line =>
    rw [returned] at line
    cases line
  | working during =>
    rw [returned] at during
    cases during
  | through _ exited at_ret =>
    obtain ⟨last, at_ret⟩ := at_ret
    have returns : MayReturn c.thread [] last := at_ret ▸ .ret last
    obtain ⟨turns, -, hsession⟩ := run.session returns
    rw [exited] at hsession
    obtain ⟨self, t, -, finished⟩ := hsession.finished
    refine ⟨last, exited, at_ret, ?_⟩
    rw [(cucumberStepsDestroy_inv finished).1, cucumber_cucumberDestroy]

/-- **The step runner is safe.** However `main` and its actor interleave, and whatever
arrives at the socket: the block of arguments is freed after the actor has read it; the
actor gets no command but those it knows; when `main` is through, the actor has ended
and has no scenario; and until then one of them goes on, unless a program of the actor has
died or waits in the middle of a message. -/
theorem stepRunner_safe (run : StepRunnerRun zrexMatches args globals name help verbose ls c) :
    (.parent (.act .argsDestroy) ∈ ls → c.phase ≠ .absent ∧ c.phase ≠ .starting) ∧
      (∀ command ∈ c.commands, command = "VERBOSE" ∨ command = "$TERM") ∧
      (help = false → c.parent = [] →
        ∃ last, c.phase = .exited ∧ c.thread = .ret last ∧ last.cucumber = none) ∧
      (c.parent = [] ∨ c.Stalled ∨ Tandem.CanStep (stepsBody zrexMatches args globals) c) := by
  have lines := lines_stepRunnerMain name help verbose
  refine ⟨run.late lines (by simp), fun command h => told_stepRunnerMain (run.told.2 command h),
    ?_, (run.ordered lines).progress⟩
  rintro rfl returned
  exact exited_of_returned run returned

theorem stepRunner_safe_ctrlD : ∃ ls c,
    StepRunnerRun literalMatches protocolArgs () "protocol" false false ls c ∧ c.parent = [] ∧
      .parent (.act .argsDestroy) ∈ ls ∧ c.phase = .exited := by
  obtain ⟨ls, c, run, hends⟩ := runs_ctrlD
  obtain ⟨returned, -, hfreed, -⟩ := of_decide_eq_true hends
  obtain ⟨-, -, hexited, -⟩ := stepRunner_safe run
  obtain ⟨-, exited, -⟩ := hexited rfl returned
  exact ⟨ls, c, run, returned, hfreed, exited⟩

/-! ### Whole requests -/

/-- The frames are those of requests that the actor may be given. -/
def WholeRequests (self : CucumberSteps υ σ) (fs : List Frame) : Prop :=
  ∃ rs : List Request, Request.Legal self.cucumber.isSome rs ∧ fs = rs.flatMap Request.frames

/-- An actor that is given whole requests handles one after another. -/
theorem fares_stepsBody : Tandem.Fares (stepsBody zrexMatches args globals)
    (fun command => command = "VERBOSE" ∨ command = "$TERM") WholeRequests where
  serve := by
    rintro self f fs ⟨_ | ⟨r, rs⟩, isLegal, hfs⟩
    · simp at hfs
    · rw [Request.Legal, List.map_cons, legal, Bool.and_eq_true] at isLegal
      obtain ⟨next, calls, reply, hhandle, hopen⟩ :=
        handle_of_allowed zrexMatches args isLegal.1
      have hexec := exec_request zrexMatches args self r []
      rw [hhandle, List.append_nil] at hexec
      refine ⟨r.frames, next, rs.flatMap Request.frames, .of_exec hexec, hfs, rs, ?_, rfl⟩
      rw [hopen]
      exact isLegal.2
  hear := by
    rintro self fs command good (rfl | rfl)
    · exact ⟨_, .ret _, good⟩
    · exact ⟨_, .ret _, good⟩
  finish self := by
    refine ⟨(cucumberDestroy self).1, .of_exec (t := (cucumberDestroy self).2.map .put) ?_⟩
    simp [stepsBody, cucumberStepsDestroy, Outcome.after]

/-- The actor can handle the rest of legal requests. -/
theorem fed_of_legal (run : StepRunnerRun zrexMatches args globals name help verbose ls c)
    {rs : List Request} (isLegal : Request.Legal false rs) {future : List Frame}
    (whole : Tandem.arrivals ls ++ future = rs.flatMap Request.frames) :
    Tandem.Fed WholeRequests c future := by
  have init : Tandem.Takes (stepsBody zrexMatches args globals).init [] (freshActor globals) :=
    .send (.ret _)
  exact run.fed fares_stepsBody (fun _ => told_stepRunnerMain) init ⟨rs, isLegal, whole⟩

/-- **Ctrl-d ends the step runner.** No run goes on for ever, unless frames arrive for ever
(that the poller reports nothing is no step of a run); and where what has arrived are whole
requests that may be made, a run that cannot go on has come to the end of `main`. -/
theorem stepRunner_returns (run : StepRunnerRun zrexMatches args globals name help verbose ls c)
    {rs : List Request} (isLegal : Request.Legal false rs)
    (arrived : Tandem.arrivals ls = rs.flatMap Request.frames) :
    (WellFounded fun c' c : Tandem MainAct Frame Frame (Call σ) (CucumberSteps υ σ) =>
        ∃ l, Tandem.Step (stepsBody zrexMatches args globals) c l c' ∧ l.isArrival = false) ∧
      (¬ Tandem.CanStep (stepsBody zrexMatches args globals) c → c.parent = []) := by
  refine ⟨Tandem.wellFounded_step _, fun stuck => ?_⟩
  have whole : Tandem.arrivals ls ++ [] = rs.flatMap Request.frames := by
    rw [List.append_nil, arrived]
  exact run.returns (lines_stepRunnerMain name help verbose) (fed_of_legal run isLegal whole) stuck

theorem stepRunner_returns_ctrlD : ∃ ls c,
    StepRunnerRun literalMatches protocolArgs () "protocol" false false ls c ∧
      Tandem.arrivals ls = ["START SCENARIO", "n"] ∧ c.parent = [] := by
  obtain ⟨ls, c, run, hends⟩ := runs_ctrlD
  obtain ⟨-, stuck, -, arrived, -⟩ := of_decide_eq_true hends
  have isLegal : Request.Legal false [.startScenario "n"] := rfl
  exact ⟨ls, c, run, arrived, (stepRunner_returns run isLegal arrived).2 stuck⟩

end Runs

/-! ### State objects -/

section Objects
variable {υ σ : Type} {zrexMatches : String → String → Option (List String)}
variable {construct : υ → Bool → υ × Option σ} {destruct : υ → Option σ → υ}
variable {registerStepDefs : υ → Option σ → υ × List (String × CucumberStep υ σ)} {globals : υ}
variable {name : String} {help verbose : Bool} {self next : CucumberSteps υ σ}
variable {calls : List (Call σ)} {t : List (Event (Call σ) Frame Msg)}

/-- What is held after a call: the constructor makes a new object, and the destructor takes
the old one away. -/
def heldAfter (held : Option ℕ) : Call σ → Option ℕ
  | .constructed _ object => object.map StateObject.serial
  | .destructed _ => none
  | .printf _ | .invoked _ _ _ _ => held

/-- The number of the object that is held after the calls, if there is one. -/
def heldIn (calls : List (Call σ)) : Option ℕ := calls.foldl heldAfter none

/-- The constructor was called again while the object was held. -/
def Overwritten (calls : List (Call σ)) (n : ℕ) : Prop :=
  ∃ front verbose object back,
    calls = front ++ .constructed verbose object :: back ∧ heldIn front = some n

/-- The books of an actor that has lost the overwritten objects, and not the newest one. -/
structure KeepsNewest (destruct : υ → Option σ → υ) (calls : List (Call σ))
    (self : CucumberSteps υ σ) : Prop where
  count : constructions calls = self.constructed
  held : heldIn calls = self.held.map StateObject.serial
  books : ∃ lost, Books destruct calls lost self ∧ (∀ n ∈ lost, n + 1 < self.constructed) ∧
    ∀ n, n ∈ lost ↔ Overwritten calls n

@[simp] theorem constructions_append (calls calls' : List (Call σ)) :
    constructions (calls ++ calls') = constructions calls + constructions calls' :=
  List.countP_append

theorem heldIn_append (calls made : List (Call σ)) :
    heldIn (calls ++ made) = made.foldl heldAfter (heldIn calls) := List.foldl_append

theorem overwritten_snoc {call : Call σ} {n : ℕ} : Overwritten (calls ++ [call]) n ↔
    Overwritten calls n ∨ (∃ verbose object, call = .constructed verbose object) ∧
      heldIn calls = some n := by
  constructor
  · rintro ⟨front, verbose, object, back, split, hheld⟩
    obtain ⟨rfl, -, hlast⟩ | ⟨back, -, rfl⟩ := snoc_eq_append_cons split
    · exact .inr ⟨⟨verbose, object, hlast⟩, hheld⟩
    · exact .inl ⟨front, verbose, object, back, rfl, hheld⟩
  · rintro (⟨front, verbose, object, back, rfl, hheld⟩ | ⟨⟨verbose, object, rfl⟩, hheld⟩)
    · exact ⟨front, verbose, object, back ++ [call], by simp, hheld⟩
    · exact ⟨calls, verbose, object, [], rfl, hheld⟩

/-- Only the constructor overwrites. -/
theorem overwritten_append {made : List (Call σ)} (none_made : constructions made = 0) {n : ℕ} :
    Overwritten (calls ++ made) n ↔ Overwritten calls n := by
  induction made using List.reverseRecOn with
  | nil => rw [List.append_nil]
  | append_singleton made call ih =>
    rw [constructions_append, Nat.add_eq_zero_iff] at none_made
    rw [← List.append_assoc, overwritten_snoc, ih none_made.1, or_iff_left]
    rintro ⟨⟨verbose, object, rfl⟩, -⟩
    exact absurd none_made.2 Nat.one_ne_zero

/-- The object that is held was constructed before. -/
theorem Books.heldSerial_lt {lost : List ℕ} (h : Books destruct calls lost self) {n : ℕ}
    (hn : n ∈ self.heldSerial) : n < self.constructed := by
  refine h.fresh n (List.count_pos_iff.mp ?_)
  have hbalance := h.balance n
  have hheld := List.count_pos_iff.mpr hn
  omega

theorem constructed_cucumberDestroy (self : CucumberSteps υ σ) :
    (cucumberDestroy self).1.constructed = self.constructed ∧
      constructions (cucumberDestroy self).2 = 0 := by
  unfold cucumberDestroy
  split
  · exact ⟨rfl, rfl⟩
  · split <;> exact ⟨rfl, rfl⟩

/-- Where there is a destructor, nothing is let go without a call of it. -/
theorem held_cucumberDestroy {lost : List ℕ} (h : Books destruct calls lost self) :
    (cucumberDestroy self).2.foldl heldAfter (self.held.map StateObject.serial) =
      (cucumberDestroy self).1.held.map StateObject.serial := by
  cases hc : self.cucumber with
  | none => simp [cucumberDestroy, hc]
  | some cucumber =>
    simp [cucumberDestroy, hc, h.destructor cucumber hc, heldAfter, CucumberSteps.held]

variable (zrexMatches) in
theorem constructed_runStepDef (self : CucumberSteps υ σ) (cucumber : Cucumber υ σ)
    (text : Frame) :
    (runStepDef zrexMatches self cucumber text).1.constructed = self.constructed ∧
      constructions (runStepDef zrexMatches self cucumber text).2.1 = 0 := by
  unfold runStepDef
  split <;> exact ⟨rfl, rfl⟩

variable (zrexMatches) in
/-- A callback changes the object that is held, and leaves it in place. -/
theorem held_runStepDef {cucumber : Cucumber υ σ} (opened : self.cucumber = some cucumber)
    (text : Frame) :
    (runStepDef zrexMatches self cucumber text).2.1.foldl heldAfter
        (self.held.map StateObject.serial) =
      (runStepDef zrexMatches self cucumber text).1.held.map StateObject.serial := by
  have hheld : self.held = cucumber.state := by simp [CucumberSteps.held, opened]
  cases hfind : cucumber.stepDefs.items.findIdx? (CucumberStepDef.isMatch zrexMatches text) with
  | none =>
    rw [runStepDef_notFound zrexMatches self cucumber hfind, hheld]
    rfl
  | some i =>
    obtain ⟨hi, -⟩ := List.findIdx?_eq_some_iff_getElem.mp hfind
    have hfound := runStepDef_found zrexMatches self cucumber hfind (List.getElem?_eq_getElem hi)
    simp only at hfound
    rw [hfound, hheld]
    simp [heldAfter, CucumberSteps.held, Function.comp_def]

/-- A request constructs an object if it starts a scenario, and loses then what is held. -/
theorem constructed_handle {r : Request} {made : List (Call σ)} {reply : Msg}
    (hh : self.handle zrexMatches ⟨some construct, some destruct, registerStepDefs⟩ r =
      some (next, made, reply)) :
    next.constructed = self.constructed + constructions made ∧
      (lostBy self r = [] ∧ constructions made = 0 ∨
        lostBy self r = self.heldSerial ∧
          ∃ verbose object, made = [.constructed verbose object]) := by
  cases r with
  | startScenario id =>
    rw [CucumberSteps.handle, startScenario_eq] at hh
    obtain ⟨rfl, rfl, -⟩ : _ ∧ _ ∧ _ := by simpa using hh
    exact ⟨rfl, .inr ⟨rfl, _, _, rfl⟩⟩
  | endScenario id =>
    obtain ⟨hnext, hmade⟩ := constructed_cucumberDestroy self
    simp only [CucumberSteps.handle, Option.some.injEq, Prod.mk.injEq] at hh
    rw [← hh.1, ← hh.2.1, hnext, hmade]
    exact ⟨rfl, .inl ⟨rfl, rfl⟩⟩
  | runStep id text =>
    simp only [CucumberSteps.handle, Option.map_eq_some_iff, Prod.mk.injEq] at hh
    obtain ⟨cucumber, -, rfl, rfl, -⟩ := hh
    obtain ⟨hnext, hmade⟩ := constructed_runStepDef zrexMatches self cucumber text
    rw [hnext, hmade]
    exact ⟨rfl, .inl ⟨rfl, rfl⟩⟩

/-- The calls that a request makes tell what is held after it. -/
theorem Books.held_handle {lost : List ℕ} (h : Books destruct calls lost self) {r : Request}
    {made : List (Call σ)} {reply : Msg}
    (hh : self.handle zrexMatches ⟨some construct, some destruct, registerStepDefs⟩ r =
      some (next, made, reply)) :
    made.foldl heldAfter (self.held.map StateObject.serial) =
      next.held.map StateObject.serial := by
  cases r with
  | startScenario id =>
    rw [CucumberSteps.handle, startScenario_eq] at hh
    obtain ⟨rfl, rfl, -⟩ : _ ∧ _ ∧ _ := by simpa using hh
    rfl
  | endScenario id =>
    simp only [CucumberSteps.handle, Option.some.injEq, Prod.mk.injEq] at hh
    rw [← hh.1, ← hh.2.1]
    exact held_cucumberDestroy h
  | runStep id text =>
    simp only [CucumberSteps.handle, Option.map_eq_some_iff, Prod.mk.injEq] at hh
    obtain ⟨cucumber, opened, rfl, rfl, -⟩ := hh
    exact held_runStepDef zrexMatches opened text

theorem KeepsNewest.printf (h : KeepsNewest destruct calls self) (text : String) :
    KeepsNewest destruct (calls ++ [.printf text]) self := by
  obtain ⟨hcount, hheld, lost, books, older, hlost⟩ := h
  have none_made : constructions [Call.printf (σ := σ) text] = 0 := rfl
  refine ⟨by rw [constructions_append, hcount, none_made]; rfl, by rw [heldIn_append, hheld]; rfl,
    lost, books.printf text, older, ?_⟩
  intro n
  rw [overwritten_append none_made, hlost]

/-- A request loses what it overwrites. -/
theorem KeepsNewest.handle (h : KeepsNewest destruct calls self) {r : Request}
    {made : List (Call σ)} {reply : Msg}
    (hh : self.handle zrexMatches ⟨some construct, some destruct, registerStepDefs⟩ r =
      some (next, made, reply)) :
    KeepsNewest destruct (calls ++ putIn (handleTrace self r made reply)) next := by
  obtain ⟨hcount, hheld, lost, books, older, hlost⟩ := h
  obtain ⟨hnext, hmade⟩ := constructed_handle hh
  have handled : KeepsNewest destruct (calls ++ made) next := by
    refine ⟨by rw [constructions_append, hcount, hnext], ?_, _, books.handle _ _ _ _ hh, ?_, ?_⟩
    · rw [heldIn_append, hheld, books.held_handle hh]
    · intro n hn
      rcases List.mem_append.mp hn with hn | hn
      · have := older n hn
        omega
      · obtain ⟨hnone, -⟩ | ⟨hloses, verbose, object, rfl⟩ := hmade
        · rw [hnone] at hn
          cases hn
        · have := books.heldSerial_lt (hloses ▸ hn)
          have hone : constructions [Call.constructed verbose object] = 1 := rfl
          omega
    · intro n
      rw [List.mem_append, hlost]
      obtain ⟨hnone, hmade⟩ | ⟨hloses, verbose, object, rfl⟩ := hmade
      · rw [hnone, overwritten_append hmade, or_iff_left List.not_mem_nil]
      · rw [overwritten_snoc, hloses, hheld, CucumberSteps.heldSerial, Option.mem_toList]
        simp
  rw [putIn_handleTrace, ← List.append_assoc]
  split
  · exact handled.printf _
  · rwa [List.append_nil]

/-- **Every run** loses what it overwrites. -/
theorem keepsNewest_run {ls : List (Tandem.Label MainAct Frame Frame (Call σ))}
    {c : Tandem MainAct Frame Frame (Call σ) (CucumberSteps υ σ)}
    (run : StepRunnerRun zrexMatches ⟨some construct, some destruct, registerStepDefs⟩ globals name
      help verbose ls c) (h : MayReturn c.thread t next) :
    KeepsNewest destruct (putIn (Tandem.events ls ++ t)) next := by
  refine run.keeps (P := fun _ _ t self => KeepsNewest destruct (putIn t) self) ?_ ?_ ?_ ?_ h
  · intro t next h
    obtain ⟨rfl, rfl⟩ := cucumberStepsNew_inv globals h
    refine ⟨rfl, rfl, [], books_freshActor destruct globals, by simp, fun n => ?_⟩
    simp [Overwritten, putIn]
  · rintro - t self command t' next ⟨hcount, hheld, lost, books, older, hlost⟩ - h
    obtain ⟨rfl, ⟨-, rfl⟩ | ⟨-, rfl⟩⟩ := cucumberStepsRecvApi_inv h
    all_goals
      rw [List.append_nil]
      exact ⟨hcount, hheld, lost, books.congr rfl rfl, older, hlost⟩
  · intro _ t self t' next keeps _ h
    rw [putIn_append]
    rcases cucumberStepsRecvPickle_inv zrexMatches
        ⟨some construct, some destruct, registerStepDefs⟩ h with
      ⟨r, made, reply, hh, rfl⟩ | ⟨rfl, hputs⟩
    · exact keeps.handle hh
    · rwa [hputs, List.append_nil]
  · rintro - t self t' next ⟨hcount, hheld, lost, books, older, hlost⟩ - h
    obtain ⟨rfl, rfl⟩ := cucumberStepsDestroy_inv h
    obtain ⟨hsame, hnone⟩ := constructed_cucumberDestroy self
    rw [putIn_append, putIn_put]
    refine ⟨by rw [constructions_append, hcount, hnone, hsame]; rfl, ?_, lost,
      books.cucumberDestroy, hsame ▸ older, fun n => ?_⟩
    · rw [heldIn_append, hheld, held_cucumberDestroy books]
    · rw [overwritten_append hnone, hlost]

/-- **What becomes of the state objects.** When `main` is through, however it and its actor
interleaved and whatever arrived: no callback ran with an object that had been passed to the
destructor, and no object was passed to it twice. The objects that were never passed to it are
those in whose place another scenario started; so if the last call of the constructor
returned an object, it has been passed to the destructor, also where ctrl-d was pressed
before its scenario ended. -/
theorem stepRunner_destroys {ls : List (Tandem.Label MainAct Frame Frame (Call σ))}
    {c : Tandem MainAct Frame Frame (Call σ) (CucumberSteps υ σ)}
    (run : StepRunnerRun zrexMatches ⟨some construct, some destruct, registerStepDefs⟩ globals name
      false verbose ls c) (returned : c.parent = []) :
    NoUseAfter (Tandem.outputs ls) ∧ ∀ n ∈ createdIn (Tandem.outputs ls),
      (destroyedIn (Tandem.outputs ls)).count n ≤ 1 ∧
        ((destroyedIn (Tandem.outputs ls)).count n = 0 ↔ Overwritten (Tandem.outputs ls) n) ∧
        (n + 1 = constructions (Tandem.outputs ls) →
          (destroyedIn (Tandem.outputs ls)).count n = 1) := by
  obtain ⟨last, -, at_ret, closed⟩ := exited_of_returned run returned
  have returns : MayReturn c.thread [] last := at_ret ▸ .ret last
  have keeps : KeepsNewest destruct (Tandem.outputs ls) last := by
    have hkept := keepsNewest_run run returns
    rwa [List.append_nil] at hkept
  obtain ⟨hcount, -, lost, books, older, hlost⟩ := keeps
  have hheld : last.heldSerial = [] := by
    simp [CucumberSteps.heldSerial, CucumberSteps.held, closed]
  refine ⟨books.noUseAfter, fun n hn => ?_⟩
  -- Each object has been destructed or lost, and not both.
  have hbalance := books.balance n
  rw [List.count_eq_one_of_mem books.nodup hn, hheld, List.count_nil, Nat.add_zero] at hbalance
  refine ⟨by omega, ?_, fun newest => ?_⟩
  · rw [← hlost, ← List.count_pos_iff]
    omega
  · have hkept : lost.count n = 0 := by
      rw [List.count_eq_zero]
      intro hmem
      have := older n hmem
      omega
    omega

/-- Two scenarios are started, one in the place of the other, and ctrl-d is pressed. -/
def ctrlDTwice : List (Tandem.Turn Frame) :=
  [.parent, .parent, .actor, .actor, .parent, .parent, .arrive "START SCENARIO", .arrive "n",
    .serve, .actor, .actor, .actor, .arrive "START SCENARIO", .arrive "m", .serve, .actor, .actor,
    .actor, .parent, .parent, .parent, .parent, .hear, .actor, .actor, .actor, .parent]

theorem runs_ctrlDTwice : ∃ ls c,
    StepRunnerRun literalMatches protocolArgs () "protocol" false false ls c ∧
      decide (c.parent = [] ∧ Tandem.outputs ls =
        [.constructed false (some ⟨0, ⟨0⟩⟩), .constructed false (some ⟨1, ⟨0⟩⟩),
          .destructed (some ⟨1, ⟨0⟩⟩)]) = true :=
  Tandem.exists_run ctrlDTwice (by decide +kernel)

theorem stepRunner_destroys_ctrlD : ∃ ls c,
    StepRunnerRun literalMatches protocolArgs () "protocol" false false ls c ∧
      createdIn (Tandem.outputs ls) = [0, 1] ∧ (destroyedIn (Tandem.outputs ls)).count 0 = 0 ∧
      (destroyedIn (Tandem.outputs ls)).count 1 = 1 := by
  obtain ⟨ls, c, run, hends⟩ := runs_ctrlDTwice
  obtain ⟨returned, houtputs⟩ := of_decide_eq_true hends
  have created : createdIn (Tandem.outputs ls) = [0, 1] := by rw [houtputs]; rfl
  have overwritten : Overwritten (Tandem.outputs ls) 0 :=
    ⟨[_], _, _, [_], houtputs, rfl⟩
  obtain ⟨-, hdestroyed⟩ := stepRunner_destroys run returned
  have hfirst := (hdestroyed 0 (by simp [created])).2.1.mpr overwritten
  have hlast := (hdestroyed 1 (by simp [created])).2.2 (by rw [houtputs]; rfl)
  exact ⟨ls, c, run, created, hfirst, hlast⟩

end Objects
end CucumberC
