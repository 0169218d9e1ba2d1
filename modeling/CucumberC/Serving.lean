import CucumberC.Handler

/-!
# What an actor does over time

`CucumberSteps.serve` handles a sequence of inputs: requests, `VERBOSE` commands on the
pipe, and turns in which the poller reports nothing. `exec_actorLoop` says that this is
what the loop of the actor does, when the socket delivers the frames of the requests;
`exec_actor_term` adds the start of the actor and its end by `$TERM`.
-/

namespace CucumberC
open Interaction

/-- What reaches an actor, one turn of its loop at a time. -/
inductive Input
  | request (r : Request)
  | verbose
  | timeout
  deriving DecidableEq, Repr

namespace Input

/-- What the poller reports. -/
def poll : Input → Poll
  | request _ => .serverSocket
  | verbose => .pipe "VERBOSE"
  | timeout => .timeout

/-- The frames that arrive on the socket. -/
def frames : Input → List Frame
  | request r => r.frames
  | verbose | timeout => []

end Input

/-- The frames of a sequence of inputs. -/
def socketFrames (inputs : List Input) : List Frame := inputs.flatMap Input.frames

@[simp] theorem socketFrames_nil : socketFrames [] = [] := rfl
@[simp] theorem socketFrames_cons (i : Input) (is : List Input) :
    socketFrames (i :: is) = i.frames ++ socketFrames is := rfl

section Serve
variable {υ σ : Type} (zrexMatches : String → String → Option (List String))
  (args : CucumberStepsArgs υ σ)

/-- Handle inputs one after another: the actor afterwards and all its effects. Nothing is
left of an actor that died. -/
def CucumberSteps.serve :
    CucumberSteps υ σ → List Input →
      Option (CucumberSteps υ σ) × List (Event (Call σ) Frame Msg)
  | self, [] => (some self, [])
  | self, .request r :: inputs =>
      match self.handle zrexMatches args r with
      | none => (none, r.frames.map .received)
      | some (next, calls, reply) =>
        ((serve next inputs).1, handleTrace self r calls reply ++ (serve next inputs).2)
  | self, .verbose :: inputs => serve { self with verbose := true } inputs
  | self, .timeout :: inputs => serve self inputs

@[simp] theorem serve_nil (self : CucumberSteps υ σ) :
    self.serve zrexMatches args [] = (some self, []) := by
  simp [CucumberSteps.serve]

@[simp] theorem serve_verbose (self : CucumberSteps υ σ) (inputs : List Input) :
    self.serve zrexMatches args (.verbose :: inputs) =
      { self with verbose := true }.serve zrexMatches args inputs := by
  simp [CucumberSteps.serve]

@[simp] theorem serve_timeout (self : CucumberSteps υ σ) (inputs : List Input) :
    self.serve zrexMatches args (.timeout :: inputs) = self.serve zrexMatches args inputs := by
  simp [CucumberSteps.serve]

theorem serve_request {self next : CucumberSteps υ σ} {r : Request} {calls : List (Call σ)}
    {reply : Msg} (h : self.handle zrexMatches args r = some (next, calls, reply))
    (inputs : List Input) :
    self.serve zrexMatches args (.request r :: inputs) =
      ((next.serve zrexMatches args inputs).1,
        handleTrace self r calls reply ++ (next.serve zrexMatches args inputs).2) := by
  simp [CucumberSteps.serve, h]

theorem serve_dies {self : CucumberSteps υ σ} {r : Request}
    (h : self.handle zrexMatches args r = none) (inputs : List Input) :
    self.serve zrexMatches args (.request r :: inputs) = (none, r.frames.map .received) := by
  simp [CucumberSteps.serve, h]

/-! ## Fields that no request changes -/

@[simp] theorem terminated_startScenario (self : CucumberSteps υ σ) :
    (startScenario args self).1.terminated = self.terminated := by
  have h : (startScenario args self).1.terminated = (constructState args self).1.terminated := rfl
  rw [h, constructState]
  split <;> rfl

@[simp] theorem terminated_cucumberDestroy (self : CucumberSteps υ σ) :
    (cucumberDestroy self).1.terminated = self.terminated := by
  unfold cucumberDestroy
  split
  · rfl
  · split <;> rfl

@[simp] theorem terminated_runStepDef (self : CucumberSteps υ σ) (cucumber : Cucumber υ σ)
    (text : Frame) :
    (runStepDef zrexMatches self cucumber text).1.terminated = self.terminated := by
  unfold runStepDef
  split <;> rfl

theorem terminated_handle {self next : CucumberSteps υ σ} {r : Request} {calls : List (Call σ)}
    {reply : Msg} (h : self.handle zrexMatches args r = some (next, calls, reply)) :
    next.terminated = self.terminated := by
  cases r with
  | startScenario id =>
    simp only [CucumberSteps.handle, Option.some.injEq, Prod.mk.injEq] at h
    rw [← h.1, terminated_startScenario]
  | endScenario id =>
    simp only [CucumberSteps.handle, Option.some.injEq, Prod.mk.injEq] at h
    rw [← h.1, terminated_cucumberDestroy]
  | runStep id text =>
    simp only [CucumberSteps.handle, Option.map_eq_some_iff, Prod.mk.injEq] at h
    obtain ⟨cucumber, -, rfl, -⟩ := h
    exact terminated_runStepDef _ _ _ _

theorem terminated_serve {self last : CucumberSteps υ σ} {inputs : List Input}
    (h : (self.serve zrexMatches args inputs).1 = some last) :
    last.terminated = self.terminated := by
  induction inputs generalizing self with
  | nil =>
    obtain rfl : self = last := by simpa using h
    rfl
  | cons input inputs ih =>
    cases input with
    | verbose =>
      have hih : last.terminated = { self with verbose := true }.terminated :=
        ih (by rwa [serve_verbose] at h)
      exact hih
    | timeout => exact ih (by rwa [serve_timeout] at h)
    | request r =>
      cases hh : self.handle zrexMatches args r with
      | none => simp [serve_dies zrexMatches args hh] at h
      | some handled =>
        rw [serve_request zrexMatches args hh] at h
        exact (ih h).trans (terminated_handle zrexMatches args hh)

/-! ## The loop -/

/-- **The loop of the actor** handles the inputs it polls, and goes on from there. An
actor that dies stops with a failed assertion. -/
theorem exec_actorLoop (self : CucumberSteps υ σ) (running : self.terminated = false)
    (inputs : List Input) (polls : List Poll) (rest : List Frame) :
    ∃ unread,
      (cucumberStepsActorLoop zrexMatches args (inputs.map Input.poll ++ polls) self).exec
          Prog.nobody () (socketFrames inputs ++ rest) =
        match self.serve zrexMatches args inputs with
        | (some last, t) =>
          ((cucumberStepsActorLoop zrexMatches args polls last).exec Prog.nobody () rest).after t
        | (none, t) => ⟨.faulted .assertion, (), unread, t⟩ := by
  induction inputs generalizing self with
  | nil => exact ⟨[], by simp⟩
  | cons input inputs ih =>
    cases input with
    | verbose =>
      obtain ⟨unread, h⟩ := ih { self with verbose := true } running
      refine ⟨unread, ?_⟩
      rw [serve_verbose, ← h]
      simp [cucumberStepsActorLoop, running, Input.poll, Input.frames, cucumberStepsRecvApi]
    | timeout =>
      obtain ⟨unread, h⟩ := ih self running
      refine ⟨unread, ?_⟩
      rw [serve_timeout, ← h]
      simp [cucumberStepsActorLoop, running, Input.poll, Input.frames]
    | request r =>
      have hreq := exec_request zrexMatches args self r (socketFrames inputs ++ rest)
      cases hh : self.handle zrexMatches args r with
      | none =>
        refine ⟨socketFrames inputs ++ rest, ?_⟩
        simp only [hh] at hreq
        rw [serve_dies zrexMatches args hh]
        simp [cucumberStepsActorLoop, running, Input.poll, Input.frames, Prog.exec_bind, hreq,
          Outcome.andThen]
      | some handled =>
        obtain ⟨next, calls, reply⟩ := handled
        obtain ⟨unread, h⟩ := ih next ((terminated_handle zrexMatches args hh).trans running)
        refine ⟨unread, ?_⟩
        simp only [hh] at hreq
        have hstep : (cucumberStepsActorLoop zrexMatches args
            ((Input.request r :: inputs).map Input.poll ++ polls) self).exec Prog.nobody ()
              (socketFrames (.request r :: inputs) ++ rest) =
            ((cucumberStepsActorLoop zrexMatches args (inputs.map Input.poll ++ polls) next).exec
              Prog.nobody () (socketFrames inputs ++ rest)).after
                (handleTrace self r calls reply) := by
          simp [cucumberStepsActorLoop, running, Input.poll, Input.frames, Prog.exec_bind, hreq]
        rw [hstep, h, serve_request zrexMatches args hh]
        rcases next.serve zrexMatches args inputs with ⟨_ | last, t⟩
        · simp [Outcome.after]
        · simp

/-- A loop that was told to stop stops. -/
theorem actorLoop_terminated (polls : List Poll) {self : CucumberSteps υ σ}
    (h : self.terminated = true) :
    cucumberStepsActorLoop zrexMatches args polls self = pure self := by
  cases polls <;> simp [cucumberStepsActorLoop, h]

theorem actorLoop_append (polls polls' : List Poll) (self : CucumberSteps υ σ) :
    cucumberStepsActorLoop zrexMatches args (polls ++ polls') self =
      (cucumberStepsActorLoop zrexMatches args polls self).bind
        (cucumberStepsActorLoop zrexMatches args polls') := by
  induction polls generalizing self with
  | nil => rfl
  | cons poll polls ih =>
    by_cases h : self.terminated = true
    · simp [actorLoop_terminated zrexMatches args _ h]
    · cases poll <;>
        simp only [cucumberStepsActorLoop, List.cons_append, if_neg h, Prog.bind_eq,
          Prog.bind_assoc, ih]

/-! ## From start to end -/

/-- What is left of an execution of the actor when it handles inputs: the actor, or a
failed assertion with some frames unread. -/
def servedOutcome (unread : List Frame) :
    Option (CucumberSteps υ σ) × List (Event (Call σ) Frame Msg) →
      Outcome (Call σ) Frame Msg Unit (CucumberSteps υ σ)
  | (some last, t) => ⟨.returned last, (), [], t⟩
  | (none, t) => ⟨.faulted .assertion, (), unread, t⟩

/-- The end of the actor: it is destroyed if it was told to stop. -/
def finishActor (self : CucumberSteps υ σ) : StepsProg σ (CucumberSteps υ σ) :=
  if self.terminated then cucumberStepsDestroy self else pure self

/-- An actor says `HELLO`, runs its loop, and ends. -/
theorem exec_actor (globals : υ) (polls : List Poll) (inbox : List Frame) :
    (cucumberStepsActor zrexMatches args globals polls).exec Prog.nobody () inbox =
      (((cucumberStepsActorLoop zrexMatches args polls (freshActor globals)).exec Prog.nobody ()
        inbox).andThen fun self _ inbox => (finishActor self).exec Prog.nobody () inbox).after
          [.sent ["HELLO"]] := by
  simp only [cucumberStepsActor, cucumberStepsNew, finishActor, Prog.bind_eq, Prog.post_bind,
    Prog.pure_eq, Prog.bind_ret, Prog.bind_send, Prog.exec_send, Prog.nobody_eq, List.append_nil,
    Prog.exec_bind]

theorem exec_finishActor_running {self : CucumberSteps υ σ} (running : self.terminated = false)
    (inbox : List Frame) :
    (finishActor self).exec Prog.nobody () inbox = ⟨.returned self, (), inbox, []⟩ := by
  simp [finishActor, running]

theorem exec_finishActor_terminated {self : CucumberSteps υ σ} (h : self.terminated = true)
    (inbox : List Frame) :
    (finishActor self).exec Prog.nobody () inbox =
      ⟨.returned (cucumberDestroy self).1, (), inbox, (cucumberDestroy self).2.map .put⟩ := by
  simp [finishActor, h, cucumberStepsDestroy, Outcome.after]

/-- **An actor with a past.** Whatever an actor did until now, if it is still polling and
has nothing left to read then it handles the inputs that follow. -/
theorem exec_actor_append {globals : υ} {polls : List Poll} {frames : List Frame}
    {self : CucumberSteps υ σ} {t : List (Event (Call σ) Frame Msg)}
    (history : (cucumberStepsActor zrexMatches args globals polls).exec Prog.nobody () frames =
      ⟨.returned self, (), [], t⟩)
    (running : self.terminated = false) (inputs : List Input) :
    ∃ unread,
      (cucumberStepsActor zrexMatches args globals (polls ++ inputs.map Input.poll)).exec
          Prog.nobody () (frames ++ socketFrames inputs) =
        (servedOutcome unread (self.serve zrexMatches args inputs)).after t := by
  have hloop : ∃ t', t = .sent ["HELLO"] :: t' ∧
      (cucumberStepsActorLoop zrexMatches args polls (freshActor globals)).exec Prog.nobody ()
        frames = ⟨.returned self, (), [], t'⟩ := by
    rw [exec_actor] at history
    obtain ⟨t', rfl, h⟩ := Outcome.of_after history
    refine ⟨t', rfl, ?_⟩
    rcases hexec : (cucumberStepsActorLoop zrexMatches args polls (freshActor globals)).exec
      Prog.nobody () frames with ⟨s | _ | _ | _, e, inbox, looped⟩
    · rw [hexec, Outcome.andThen_returned] at h
      by_cases hs : s.terminated = true
      · -- An actor that was told to stop is not polling any more.
        rw [exec_finishActor_terminated hs] at h
        obtain ⟨_, -, h⟩ := Outcome.of_after h
        have hself := Result.returned.inj (Outcome.mk.inj h).1
        have := terminated_cucumberDestroy s
        rw [hself, hs, running] at this
        exact absurd this (by decide)
      · rw [exec_finishActor_running (by simpa using hs)] at h
        simpa [Outcome.after] using h
    all_goals simp [hexec, Outcome.andThen] at h
  obtain ⟨t', rfl, hloop⟩ := hloop
  obtain ⟨unread, hserve⟩ := exec_actorLoop zrexMatches args self running inputs [] []
  have happend := Prog.exec_nobody_append hloop (socketFrames inputs)
  refine ⟨unread, ?_⟩
  simp only [List.append_nil, List.nil_append] at hserve happend
  rw [exec_actor, actorLoop_append, Prog.exec_bind, happend, Outcome.andThen_returned, hserve,
    Outcome.after_andThen, Outcome.after_after]
  rcases hs : self.serve zrexMatches args inputs with ⟨_ | last, served⟩
  · rfl
  · have hlast : last.terminated = false := by
      rw [← running]
      exact terminated_serve zrexMatches args (by rw [hs])
    simp [servedOutcome, cucumberStepsActorLoop, exec_finishActor_running hlast, Outcome.after]

/-- **An actor that is told to stop** after it handled inputs destroys its scenario. What
else waits on its sockets is not read. -/
theorem exec_actor_term (globals : υ) {inputs : List Input} {last : CucumberSteps υ σ}
    {t : List (Event (Call σ) Frame Msg)}
    (served : (freshActor globals).serve zrexMatches args inputs = (some last, t))
    (polls : List Poll) (rest : List Frame) :
    (cucumberStepsActor zrexMatches args globals
        (inputs.map Input.poll ++ .pipe "$TERM" :: polls)).exec Prog.nobody ()
          (socketFrames inputs ++ rest) =
      ⟨.returned (cucumberDestroy { last with terminated := true }).1, (), rest,
        .sent ["HELLO"] ::
          (t ++ (cucumberDestroy { last with terminated := true }).2.map .put)⟩ := by
  obtain ⟨unread, h⟩ := exec_actorLoop zrexMatches args (freshActor globals) rfl inputs
    (.pipe "$TERM" :: polls) rest
  have hlast : last.terminated = false :=
    (terminated_serve zrexMatches args (by rw [served])).trans
      (rfl : (freshActor (σ := σ) globals).terminated = false)
  have hstop : (cucumberStepsActorLoop zrexMatches args (.pipe "$TERM" :: polls) last).exec
      Prog.nobody () rest = ⟨.returned { last with terminated := true }, (), rest, []⟩ := by
    have hdone := actorLoop_terminated zrexMatches args polls
      (show ({ last with terminated := true } : CucumberSteps υ σ).terminated = true from rfl)
    simp [cucumberStepsActorLoop, hlast, cucumberStepsRecvApi, hdone]
  simp only [served, hstop] at h
  rw [exec_actor, h]
  simp [Outcome.after, exec_finishActor_terminated]

/-! ## Legal inputs -/

/-- Whether steps arrive in open scenarios only. -/
def legal : Bool → List Input → Bool
  | _, [] => true
  | isOpen, .request r :: inputs => r.allowed isOpen && legal (r.opensAfter isOpen) inputs
  | isOpen, .verbose :: inputs | isOpen, .timeout :: inputs => legal isOpen inputs

/-- An actor survives legal inputs. -/
theorem serve_legal (self : CucumberSteps υ σ) (inputs : List Input)
    (h : legal self.cucumber.isSome inputs = true) :
    ∃ last t, self.serve zrexMatches args inputs = (some last, t) := by
  induction inputs generalizing self with
  | nil => exact ⟨self, [], serve_nil zrexMatches args self⟩
  | cons input inputs ih =>
    cases input with
    | verbose =>
      rw [serve_verbose]
      exact ih _ h
    | timeout =>
      rw [serve_timeout]
      exact ih _ h
    | request r =>
      simp only [legal, Bool.and_eq_true] at h
      obtain ⟨next, calls, reply, hh, hopen⟩ := handle_of_allowed zrexMatches args h.1
      obtain ⟨last, t, hlast⟩ := ih next (by rw [hopen]; exact h.2)
      exact ⟨last, handleTrace self r calls reply ++ t, by
        rw [serve_request zrexMatches args hh, hlast]⟩

end Serve
end CucumberC
