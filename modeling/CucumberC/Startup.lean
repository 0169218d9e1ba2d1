import CucumberC.Conversation

/-!
# The start of a step runner

Before a step runner waits for ctrl-d, its two threads have been through the handshake of
`zactor_new`, the actor has said `HELLO`, and `main` may have told it to be verbose. As long
as nothing arrives and nobody presses ctrl-d, the order in which they do so is without
consequence: every run comes to its end, and to the same configuration.

## Main definitions

* `readyStepRunner`: a step runner that waits for its first request.
* `actor_of_nothing`: what an actor is that has received nothing.
* `stepRunner_boots`: every run leads there.
-/

namespace CucumberC
open Interaction

/-- A step runner that waits for ctrl-d and for its first request. -/
def readyStepRunner {υ σ : Type} (globals : υ) (verbose : Bool) :
    Tandem MainAct Frame Frame (Call σ) (CucumberSteps υ σ) where
  parent := [.act .readStdin, .tell "$TERM", .release]
  phase := .serving
  thread := .ret { freshActor globals with verbose := verbose }
  commands := []
  signals := 0
  inbound := []

section Startup
variable {υ σ : Type} {zrexMatches : String → String → Option (List String)}
variable {args : CucumberStepsArgs υ σ} {globals : υ} {name : String} {verbose : Bool}
variable {ls : List (Tandem.Label MainAct Frame Frame (Call σ))}
variable {c : Tandem MainAct Frame Frame (Call σ) (CucumberSteps υ σ)}

/-- The lines of `main` up to its loop. -/
theorem stepRunnerMain_eq (name : String) (verbose : Bool) : ∃ front,
    stepRunnerMain name false verbose =
        front ++ .act .readStdin :: [.tell "$TERM", .release] ∧
      ∀ line ∈ front, line ≠ .act .readStdin := by
  refine ⟨createStepRunnerActor verbose ++ [.act (.printf "Terminate by pressing ctrl-d\n")],
    ?_, ?_⟩
  · simp [stepRunnerMain]
  · cases verbose <;> simp [createStepRunnerActor]

/-- **An actor that has received nothing** has said `HELLO`, and is as it was created, but
for the commands it has heard. -/
theorem actor_of_nothing (run : StepRunnerRun zrexMatches args globals name false verbose ls c)
    {t : List (Event (Call σ) Frame Msg)} {self : CucumberSteps υ σ}
    (h : MayReturn c.thread t self) (nothing : receivedIn (Tandem.events ls ++ t) = []) :
    self = { freshActor globals with
        verbose := decide ("VERBOSE" ∈ Tandem.heard ls)
        terminated := decide ("$TERM" ∈ Tandem.heard ls) } ∧
      sentIn (Tandem.events ls ++ t) = [["HELLO"]] := by
  refine run.keeps (P := fun _ cs t self => receivedIn t = [] →
    self = { freshActor globals with
        verbose := decide ("VERBOSE" ∈ cs), terminated := decide ("$TERM" ∈ cs) } ∧
      sentIn t = [["HELLO"]]) ?_ ?_ ?_ ?_ h nothing
  · intro t self h _
    obtain ⟨rfl, rfl⟩ := cucumberStepsNew_inv globals h
    exact ⟨rfl, rfl⟩
  · intro cs t self command t' next keeps _ h nothing
    obtain ⟨rfl, ⟨rfl, rfl⟩ | ⟨rfl, rfl⟩⟩ := cucumberStepsRecvApi_inv h
    all_goals
      rw [List.append_nil] at nothing ⊢
      obtain ⟨hself, hsent⟩ := keeps nothing
      exact ⟨by rw [hself]; simp, hsent⟩
  · intro cs t self t' next _ _ h nothing
    -- The handler begins with a frame.
    obtain ⟨k, takes⟩ := (stepsBody zrexMatches args globals).serve_takes self
    rw [takes] at h
    cases h
    rw [receivedIn_append] at nothing
    exact absurd (List.append_eq_nil_iff.mp nothing).2 (by simp [receivedIn])
  · intro cs t self t' next keeps _ h nothing
    obtain ⟨rfl, rfl⟩ := cucumberStepsDestroy_inv h
    rw [receivedIn_append, receivedIn_put, List.append_nil] at nothing
    obtain ⟨rfl, hsent⟩ := keeps nothing
    exact ⟨rfl, by rw [sentIn_append, sentIn_put, List.append_nil, hsent]⟩

/-- An actor to which nothing is sent is never in the middle of a message. -/
theorem fed_of_nothing (run : StepRunnerRun zrexMatches args globals name false verbose ls c)
    (nothing : Tandem.arrivals ls = []) : Tandem.Fed WholeRequests c [] := by
  have isLegal : Request.Legal false [] := rfl
  exact fed_of_legal run isLegal (by rw [nothing]; rfl)

/-- A step runner at which nothing has arrived, whose `main` waits and whose actor is idle. -/
theorem ready_of_idle (run : StepRunnerRun zrexMatches args globals name false verbose ls c)
    (nothing : Tandem.arrivals ls = [])
    (waiting : c.parent = [.act .readStdin, .tell "$TERM", .release])
    (idle : Tandem.Idle (stepsBody zrexMatches args globals) c) :
    c = readyStepRunner globals verbose ∧ sentIn (Tandem.events ls) = [["HELLO"]] := by
  obtain ⟨serving, signals, stays⟩ := serving_of_waiting run waiting
  obtain ⟨self, at_ret, empty⟩ := (fed_of_nothing run nothing).served serving stays idle
  have returns : MayReturn c.thread [] self := at_ret ▸ .ret self
  have running : self.terminated = false := stays returns
  have commands : c.commands = [] := by
    rcases hcommands : c.commands with _ | ⟨command, rest⟩
    · rfl
    · exact absurd (.hear serving at_ret running hcommands) (idle _ _)
  rw [run.received, List.append_eq_nil_iff] at nothing
  obtain ⟨hself, hsent⟩ := actor_of_nothing run returns (by rw [List.append_nil, nothing.1])
  -- The actor has heard what `main` has told it.
  have hverbose : "VERBOSE" ∈ Tandem.heard ls ↔ verbose = true := by
    constructor
    · intro heard
      rcases run.told_heard heard with told | told
      · cases verbose with
        | false => simp [stepRunnerMain, createStepRunnerActor] at told
        | true => rfl
      · have same : "VERBOSE" = "$TERM" := told
        exact absurd same (by decide)
    · rintro rfl
      have told : .tell "VERBOSE" ∈ stepRunnerMain name false true := by
        simp [stepRunnerMain, createStepRunnerActor]
      rcases run.heard_told told with told | told | heard
      · simp [waiting] at told
      · simp [commands] at told
      · exact heard
  have hterm : "$TERM" ∉ Tandem.heard ls := by
    rw [hself] at running
    exact of_decide_eq_false running
  refine ⟨?_, by rwa [List.append_nil] at hsent⟩
  rw [hself, decide_eq_false hterm] at at_ret
  simp only [hverbose, Bool.decide_eq_true] at at_ret
  rcases c with ⟨parent, phase, thread, heard, signalled, inbound⟩
  obtain rfl : parent = _ := waiting
  obtain rfl : phase = _ := serving
  obtain rfl : thread = _ := at_ret
  obtain rfl : heard = _ := commands
  obtain rfl : signalled = _ := signals
  obtain rfl : inbound = _ := empty
  rfl

/-- **No start gets stuck**: as long as nobody presses ctrl-d, it goes on until the step runner
is ready. -/
theorem ready_or_canStep (run : StepRunnerRun zrexMatches args globals name false verbose ls c)
    (nothing : Tandem.arrivals ls = []) (untouched : .parent (.act .readStdin) ∉ ls) :
    (c = readyStepRunner globals verbose ∧ sentIn (Tandem.events ls) = [["HELLO"]]) ∨
      ∃ l c', Tandem.Step (stepsBody zrexMatches args globals) c l c' ∧ l.isArrival = false ∧
        l ≠ .parent (.act .readStdin) := by
  obtain ⟨front, hmain, hfront⟩ := stepRunnerMain_eq name verbose
  have hrun := run
  rw [StepRunnerRun, stepRunner, hmain] at hrun
  obtain ⟨front', hparent, hfront'⟩ := hrun.ahead untouched
  rcases front' with _ | ⟨line, front'⟩
  · by_cases idle : Tandem.Idle (stepsBody zrexMatches args globals) c
    · exact .inl (ready_of_idle run nothing hparent idle)
    · obtain ⟨serving, -⟩ := serving_of_waiting run hparent
      simp only [Tandem.Idle, not_forall, not_not] at idle
      obtain ⟨l, c', step⟩ := idle
      refine .inr ⟨l, c', .actor (by simp [serving]) step, step.isArrival_eq, ?_⟩
      rintro rfl
      cases step with
      | move move => cases move
  · rcases (run.ordered (lines_stepRunnerMain name false verbose)).progress with
      returned | stalled | ⟨l, c', step, inside⟩
    · rw [hparent] at returned
      cases returned
    · exact absurd stalled (fed_of_nothing run nothing).not_stalled
    · refine .inr ⟨l, c', step, inside, ?_⟩
      rintro rfl
      cases step with
      | parent _ step =>
        cases step with
        | act line' =>
          rw [hparent] at line'
          obtain ⟨rfl, -⟩ := List.cons.inj line'
          rcases hfront' _ (List.mem_cons_self ..) with h | h
          · exact hfront _ h rfl
          · cases h
      | actor _ step =>
        cases step with
        | move move => cases move

/-- A start in which `main` and its actor take turns. -/
def startTurns (verbose : Bool) : List (Tandem.Turn Frame) :=
  [.parent, .parent, .actor, .actor, .parent, .parent, .parent] ++
    if verbose then [.parent, .hear] else []

variable (zrexMatches args globals name verbose) in
/-- There is a start, at which nothing happens but this. -/
theorem exists_start : ∃ ls, StepRunnerRun zrexMatches args globals name false verbose ls
    (readyStepRunner globals verbose) ∧ Tandem.arrivals ls = [] ∧
      Tandem.events ls = [.sent ["HELLO"]] := by
  have hdrive : ∃ ls, Tandem.drive (stepsBody zrexMatches args globals) (startTurns verbose)
      (stepRunner zrexMatches args globals name false verbose) =
        some (ls, readyStepRunner globals verbose) ∧ Tandem.arrivals ls = [] ∧
      Tandem.events ls = [.sent ["HELLO"]] := by
    cases verbose with
    | false | true => exact ⟨_, rfl, rfl, rfl⟩
  obtain ⟨ls, hdrive, nothing, hevents⟩ := hdrive
  exact ⟨ls, Tandem.drive_run hdrive, nothing, hevents⟩

/-- **Every start comes to the same end.** Whatever the order in which `main` and its actor
have gone on, as long as nothing has arrived and nobody has pressed ctrl-d they can go on by
themselves until the step runner is ready, and cannot come to rest anywhere else. The actor
has then said `HELLO`, once, and is verbose if `main` was told to be. -/
theorem stepRunner_boots
    (run : StepRunnerRun zrexMatches args globals name false verbose ls c)
    (nothing : Tandem.arrivals ls = []) (untouched : .parent (.act .readStdin) ∉ ls) :
    ∃ more, Tandem.Run (stepsBody zrexMatches args globals) c more
        (readyStepRunner globals verbose) ∧
      Tandem.arrivals (ls ++ more) = [] ∧ .parent (.act .readStdin) ∉ ls ++ more ∧
      sentIn (Tandem.events (ls ++ more)) = [["HELLO"]] := by
  induction c using (Tandem.wellFounded_step (stepsBody zrexMatches args globals)).induction
    generalizing ls with
  | _ c ih =>
    rcases ready_or_canStep run nothing untouched with ⟨rfl, hsent⟩ | ⟨l, c', step, inside, other⟩
    · exact ⟨[], .refl, by simpa using nothing, by simpa using untouched, by simpa using hsent⟩
    · obtain ⟨more, run', nothing', untouched', hsent⟩ := ih c' ⟨l, step, inside⟩ (run.snoc step)
        (by rw [Tandem.arrivals_append, nothing, Tandem.arrivals_of_inside inside]; rfl)
        (by simpa [untouched] using Ne.symm other)
      refine ⟨[l] ++ more, Tandem.Run.trans (.snoc .refl step) run', ?_⟩
      rw [← List.append_assoc]
      exact ⟨nothing', untouched', hsent⟩

end Startup

/-- A start from the beginning, with `--verbose`. -/
theorem stepRunner_boots_verbose : ∃ ls,
    StepRunnerRun literalMatches protocolArgs () "protocol" false true ls
        (readyStepRunner () true) ∧
      sentIn (Tandem.events ls) = [["HELLO"]] := by
  obtain ⟨ls, run, -, -, hsent⟩ := @stepRunner_boots Unit MyState literalMatches protocolArgs ()
    "protocol" true [] _ .refl rfl (by simp)
  exact ⟨ls, run, hsent⟩

end CucumberC
