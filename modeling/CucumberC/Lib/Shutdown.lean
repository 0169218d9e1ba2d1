import CucumberC.Lib.Actor
import Mathlib.Order.RelClasses

/-!
# The end of an actor

A parent that keeps to its lines is never stuck for its own fault: it can go on, or its
actor can, unless a program of the actor has died or waits in the middle of a message.
There is no run without end either, since every step leaves less to do. So the parent
comes to its last line if its actor is given whole messages that it can handle.

## Main definitions

* `Stalled`, `CanStep`, `Ordered.progress`: there is no deadlock.
* `wellFounded_step`: there is no run without end.
* `Takes`, `Fares`, `Run.returns`: the parent comes to its end.
-/

namespace Interaction
universe u

variable {β γ φ ω σ : Type u}

namespace Tandem
variable {body : ActorBody γ φ ω σ} {early : β → Prop} {c c' : Tandem β γ φ ω σ}
variable {l : Label β γ φ ω} {ls : List (Label β γ φ ω)}

/-! ## Progress -/

/-- The program of the actor cannot go on, unless a frame arrives for which it waits in the
middle of a message. -/
inductive Stalled (c : Tandem β γ φ ω σ) : Prop
  | died (started : c.phase ≠ .absent) {why} (at_fault : c.thread = .fault why)
  | spins (started : c.phase ≠ .absent) (at_spin : c.thread = .spin)
  | waits (started : c.phase ≠ .absent) {k} (at_recv : c.thread = .recv k) (empty : c.inbound = [])

/-- The tandem can go on by itself. -/
def CanStep (body : ActorBody γ φ ω σ) (c : Tandem β γ φ ω σ) : Prop :=
  ∃ l c', Step body c l c' ∧ l.isArrival = false

theorem ParentStep.canStep {line : ParentLine β γ} (step : ParentStep body c line c') :
    c.Stalled ∨ CanStep body c := by
  by_cases dead : c.Dead
  · obtain ⟨started, why, at_fault⟩ := dead
    exact .inl (.died started at_fault)
  · exact .inr ⟨_, _, .parent dead step, rfl⟩

variable (body) in
/-- A program of the actor that is not over goes on, or is stalled. -/
theorem canStep_thread (started : c.phase ≠ .absent) :
    (∃ s, c.thread = .ret s) ∨ c.Stalled ∨ CanStep body c := by
  cases hthread : c.thread with
  | ret s => exact .inl ⟨s, rfl⟩
  | put o k => exact .inr (.inr ⟨_, _, .actor started (.move (.put hthread)), rfl⟩)
  | send m k => exact .inr (.inr ⟨_, _, .actor started (.move (.send hthread)), rfl⟩)
  | recv k =>
    cases hinbound : c.inbound with
    | nil => exact .inr (.inl (.waits started hthread hinbound))
    | cons f rest =>
      exact .inr (.inr ⟨_, _, .actor started (.move (.take hthread hinbound)), rfl⟩)
  | fault why => exact .inr (.inl (.died started hthread))
  | spin => exact .inr (.inl (.spins started hthread))

/-- While the parent waits for the end of the actor, one of them goes on. -/
theorem Parting.canStep (h : Parting body c) {rest : List (ParentLine β γ)}
    (line : c.parent = .await :: rest) : c.Stalled ∨ CanStep body c := by
  have started : c.phase ≠ .absent := by
    intro absent
    cases h with
    | told phase | leaving phase | stopping phase | exited phase =>
      rw [absent] at phase
      cases phase
  rcases canStep_thread body started with ⟨s, at_ret⟩ | hgoes
  · cases h with
    | told serving _ told =>
      cases hquits : body.quits s with
      | true => exact .inr ⟨_, _, .actor started (.stop serving at_ret hquits), rfl⟩
      | false =>
        obtain ⟨command, commands, hcommands⟩ :=
          List.exists_cons_of_ne_nil (List.ne_nil_of_mem told)
        exact .inr ⟨_, _, .actor started (.hear serving at_ret hquits hcommands), rfl⟩
    | leaving serving _ leaves =>
      rw [at_ret] at leaves
      exact .inr ⟨_, _, .actor started (.stop serving at_ret (leaves (.ret s))), rfl⟩
    | stopping stopping => exact .inr ⟨_, _, .actor started (.exit stopping at_ret), rfl⟩
    | exited _ signals => exact (ParentStep.await line signals).canStep
  · exact hgoes

/-- **There is no deadlock.** A tandem in order can go on by itself until the parent is
through, unless the actor is stalled. -/
theorem Ordered.progress (h : Ordered body early c) :
    c.parent = [] ∨ c.Stalled ∨ CanStep body c := by
  cases h with
  | before lines absent =>
    cases hparent : c.parent with
    | nil => exact .inl rfl
    | cons line rest =>
      rw [hparent] at lines
      cases lines with
      | act => exact .inr (ParentStep.act hparent).canStep
      | create => exact .inr (ParentStep.start hparent absent).canStep
  | starting line during starting =>
    have started : c.phase ≠ .absent := by simp [starting]
    rcases canStep_thread body started with ⟨s, at_ret⟩ | hgoes
    · exact .inr (.inr ⟨_, _, .actor started (.begin starting at_ret), rfl⟩)
    · exact .inr hgoes
  | started line during serving signals => exact .inr (ParentStep.await line signals).canStep
  | working during serving =>
    have there : c.phase ≠ .exited := by simp [serving]
    cases hparent : c.parent with
    | nil => exact .inl rfl
    | cons line rest =>
      rw [hparent] at during
      cases during with
      | act b => exact .inr (ParentStep.act hparent).canStep
      | tell | quit => exact .inr (ParentStep.tell hparent there).canStep
      | release => exact .inr (ParentStep.release hparent).canStep
  | told line => exact .inr (ParentStep.release line).canStep
  | released line calm parting => exact .inr (parting.canStep line)
  | through calm =>
    cases hparent : c.parent with
    | nil => exact .inl rfl
    | cons line rest =>
      obtain ⟨b, rfl⟩ := calm line (by simp [hparent])
      exact .inr (ParentStep.act hparent).canStep

/-! ## Termination -/

/-- What is left of a program after an output. -/
def IsRest (q : Thread φ ω σ) : Thread φ ω σ → Prop
  | .put _ k => q = k
  | .send _ k => q = k
  | _ => False

theorem wellFounded_isRest : WellFounded (IsRest : Thread φ ω σ → Thread φ ω σ → Prop) := by
  refine ⟨fun p => ?_⟩
  induction p with
  | put o k ih | send m k ih =>
    refine ⟨_, fun q hq => ?_⟩
    obtain rfl := hq
    exact ih
  | ret | recv | fault | spin => exact ⟨_, fun q hq => hq.elim⟩

/-- The steps of the parent that are left. A release takes two. -/
def linesLeft : List (ParentLine β γ) → ℕ
  | [] => 0
  | .release :: rest => linesLeft rest + 2
  | _ :: rest => linesLeft rest + 1

/-- The phases an actor has in front of it. -/
def phasesLeft : Phase → ℕ
  | .absent => 4
  | .starting => 3
  | .serving => 2
  | .stopping => 1
  | .exited => 0

/-- What is left to do. A line counts twice, because it may leave a command in the pipe. -/
def left (c : Tandem β γ φ ω σ) : ℕ :=
  2 * linesLeft c.parent + phasesLeft c.phase + c.commands.length + c.inbound.length

theorem ParentStep.left_lt {line : ParentLine β γ} (step : ParentStep body c line c') :
    c'.left < c.left := by
  cases step with
  | start line phase =>
    simp only [left, line, phase, linesLeft, phasesLeft]
    omega
  | await line | act line | gone line =>
    simp only [left, line, linesLeft]
    omega
  | tell line | release line =>
    simp only [left, line, linesLeft, List.length_append, List.length_singleton]
    omega

/-- A step that is no arrival leaves less to do, or the rest of a program. -/
theorem Step.left_lt (step : Step body c l c') (internal : l.isArrival = false) :
    c'.left < c.left ∨ c'.left = c.left ∧ IsRest c'.thread c.thread := by
  cases step with
  | parent _ step => exact .inl step.left_lt
  | arrive => cases internal
  | actor _ step =>
    cases step with
    | move move =>
      cases move with
      | put at_put => exact .inr ⟨rfl, by rw [at_put]; rfl⟩
      | send at_send => exact .inr ⟨rfl, by rw [at_send]; rfl⟩
      | take _ ready => exact .inl (by simp [left, ready])
    | begin phase | stop phase | exit phase => exact .inl (by simp [left, phase, phasesLeft])
    | hear _ _ _ ready => exact .inl (by simp [left, ready])
    | serve _ _ _ ready => exact .inl (by simp [left, ready])

/-- **There is no run without end**, unless frames arrive for ever. -/
theorem wellFounded_step (body : ActorBody γ φ ω σ) :
    WellFounded fun c' c : Tandem β γ φ ω σ => ∃ l, Step body c l c' ∧ l.isArrival = false := by
  refine Subrelation.wf ?_ (InvImage.wf (fun c : Tandem β γ φ ω σ => (c.left, c.thread))
    (Nat.lt_wfRel.wf.prod_lex wellFounded_isRest))
  rintro c' c ⟨l, step, internal⟩
  exact Prod.lex_def.mpr (step.left_lt internal)

/-! ## Actors that are given whole messages -/

/-- Given these frames, the program takes all of them and returns `s`. -/
inductive Takes : Thread φ ω σ → List φ → σ → Prop
  | ret (s : σ) : Takes (.ret s) [] s
  | put {o k fs s} (rest : Takes k fs s) : Takes (.put o k) fs s
  | send {m k fs s} (rest : Takes k fs s) : Takes (.send m k) fs s
  | recv {k f fs s} (rest : Takes (k f) fs s) : Takes (.recv k) (f :: fs) s

/-- A program that can be completed may return. -/
theorem Takes.mayReturn {p : Thread φ ω σ} {fs : List φ} {s : σ} (h : Takes p fs s) :
    ∃ t, MayReturn p t s ∧ receivedIn t = fs := by
  induction h with
  | ret s => exact ⟨[], .ret s, rfl⟩
  | put _ ih =>
    obtain ⟨t, h, hfs⟩ := ih
    exact ⟨_, .put h, hfs⟩
  | send _ ih =>
    obtain ⟨t, h, hfs⟩ := ih
    exact ⟨_, .send h, hfs⟩
  | @recv _ f _ _ _ ih =>
    obtain ⟨t, h, hfs⟩ := ih
    exact ⟨_, .recv h, congrArg (f :: ·) hfs⟩

/-- What a program takes in an execution that leaves nothing. -/
theorem Takes.of_exec {p : Thread φ ω σ} {fs : List φ} {s : σ} {t : List (Event ω φ (List φ))}
    (h : p.exec Prog.nobody () fs = ⟨.returned s, (), [], t⟩) : Takes p fs s := by
  induction p generalizing fs t with
  | ret a =>
    simp only [Prog.exec_ret, Outcome.mk.injEq, Result.returned.injEq] at h
    obtain ⟨rfl, -, rfl, -⟩ := h
    exact .ret a
  | put o k ih =>
    rw [Prog.exec_put] at h
    obtain ⟨t', -, h'⟩ := Outcome.of_after h
    exact .put (ih h')
  | send m k ih =>
    rw [Prog.exec_send, Prog.nobody_eq, List.append_nil] at h
    obtain ⟨t', -, h'⟩ := Outcome.of_after h
    exact .send (ih h')
  | recv k ih =>
    cases fs with
    | nil => simp at h
    | cons f fs =>
      rw [Prog.exec_recv_cons] at h
      obtain ⟨t', -, h'⟩ := Outcome.of_after h
      exact .recv (ih f h')
  | fault why => simp at h
  | spin => simp at h

/-- `good s fs` says that the actor can handle the frames `fs` from the state `s` on. It is
kept by the programs, which take whole messages from the front of the frames. -/
structure Fares (body : ActorBody γ φ ω σ) (hears : γ → Prop) (good : σ → List φ → Prop) :
    Prop where
  serve : ∀ {s f fs}, good s (f :: fs) →
    ∃ taken s' rest, Takes (body.serve s) taken s' ∧ f :: fs = taken ++ rest ∧ good s' rest
  hear : ∀ {s fs command}, good s fs → hears command →
    ∃ s', Takes (body.hear s command) [] s' ∧ good s' fs
  finish : ∀ s, ∃ s', Takes (body.finish s) [] s'

/-- The program of the actor can be completed with the frames that are there or are still to
arrive, and so can those after it. -/
inductive Fed (good : σ → List φ → Prop) (c : Tandem β γ φ ω σ) (future : List φ) : Prop
  | serving {taken s rest} (takes : Takes c.thread taken s)
      (inbound : c.inbound ++ future = taken ++ rest) (isGood : good s rest)
  | ending {s} (ending : c.phase = .stopping ∨ c.phase = .exited) (takes : Takes c.thread [] s)

section Fed
variable {good : σ → List φ → Prop} {hears : γ → Prop} {future : List φ}

theorem Fed.move (h : Fed good c future) (move : Move c l c') : Fed good c' future := by
  cases h with
  | serving takes inbound isGood =>
    cases move with
    | put at_put =>
      rw [at_put] at takes
      cases takes with | put rest => exact .serving rest inbound isGood
    | send at_send =>
      rw [at_send] at takes
      cases takes with | send rest => exact .serving rest inbound isGood
    | take at_recv ready =>
      rw [at_recv] at takes
      rw [ready] at inbound
      cases takes with
      | recv rest =>
        obtain ⟨rfl, hrest⟩ := List.cons.inj inbound
        exact .serving rest hrest isGood
  | ending ending takes =>
    cases move with
    | put at_put =>
      rw [at_put] at takes
      cases takes with | put rest => exact .ending ending rest
    | send at_send =>
      rw [at_send] at takes
      cases takes with | send rest => exact .ending ending rest
    | take at_recv =>
      rw [at_recv] at takes
      cases takes

/-- Between two programs the frames are good. -/
theorem Fed.of_ret (h : Fed good c future) {s : σ} (at_ret : c.thread = .ret s)
    (serving : c.phase = .serving) : good s (c.inbound ++ future) := by
  cases h with
  | serving takes inbound isGood =>
    rw [at_ret] at takes
    cases takes
    rwa [inbound]
  | ending ending =>
    rw [serving] at ending
    rcases ending with ending | ending <;> cases ending

theorem Fed.actorStep (fares : Fares body hears good) (h : Fed good c future)
    (hhears : ∀ command ∈ c.commands, hears command) (step : ActorStep body c l c') :
    Fed good c' future := by
  cases step with
  | move move => exact h.move move
  | begin starting =>
    cases h with
    | serving takes inbound isGood => exact .serving takes inbound isGood
    | ending ending =>
      rw [starting] at ending
      rcases ending with ending | ending <;> cases ending
  | hear serving at_ret _ ready =>
    obtain ⟨s', takes, isGood⟩ := fares.hear (h.of_ret at_ret serving)
      (hhears _ (ready ▸ List.mem_cons_self ..))
    exact .serving takes rfl isGood
  | serve serving at_ret _ ready takes =>
    have isGood := h.of_ret at_ret serving
    rw [ready] at isGood
    obtain ⟨taken, s', rest, htakes, hsplit, isGood⟩ := fares.serve isGood
    rw [takes] at htakes
    cases htakes with
    | recv htakes =>
      obtain ⟨rfl, hrest⟩ := List.cons.inj hsplit
      exact .serving htakes hrest isGood
  | @stop s =>
    obtain ⟨s', takes⟩ := fares.finish s
    exact .ending (.inl rfl) takes
  | @exit s _ at_ret =>
    have takes : Takes c.thread [] s := by
      rw [at_ret]
      exact .ret s
    exact .ending (.inr rfl) takes

/-- An actor that is fed is not stalled, once all frames have arrived. -/
theorem Fed.not_stalled (h : Fed good c []) : ¬ c.Stalled := by
  intro stalled
  cases stalled with
  | died _ at_fault =>
    cases h with
    | serving takes | ending _ takes =>
      rw [at_fault] at takes
      cases takes
  | spins _ at_spin =>
    cases h with
    | serving takes | ending _ takes =>
      rw [at_spin] at takes
      cases takes
  | waits _ at_recv empty =>
    cases h with
    | serving takes inbound =>
      rw [at_recv] at takes
      rw [empty] at inbound
      cases takes
      cases inbound
    | ending _ takes =>
      rw [at_recv] at takes
      cases takes

/-- The actor has nothing to do. -/
def Idle (body : ActorBody γ φ ω σ) (c : Tandem β γ φ ω σ) : Prop :=
  ∀ l c', ¬ ActorStep body c l c'

/-- An actor that is fed, serves and has nothing to do is between two programs, and has taken
all frames. -/
theorem Fed.served (h : Fed good c []) (serving : c.phase = .serving)
    (stays : Stays body c.thread) (idle : Idle body c) :
    ∃ s, c.thread = .ret s ∧ c.inbound = [] := by
  have started : c.phase ≠ .absent := by simp [serving]
  cases hthread : c.thread with
  | ret s =>
    refine ⟨s, rfl, ?_⟩
    rw [hthread] at stays
    obtain ⟨k, takes⟩ := body.serve_takes s
    cases hinbound : c.inbound with
    | nil => rfl
    | cons f rest =>
      exact absurd (.serve serving hthread (stays (.ret s)) hinbound takes) (idle _ _)
  | put o k => exact absurd (.move (.put hthread)) (idle _ _)
  | send m k => exact absurd (.move (.send hthread)) (idle _ _)
  | recv k =>
    cases hinbound : c.inbound with
    | nil => exact absurd (.waits started hthread hinbound) h.not_stalled
    | cons f rest => exact absurd (.move (.take hthread hinbound)) (idle _ _)
  | fault why => exact absurd (.died started hthread) h.not_stalled
  | spin => exact absurd (.spins started hthread) h.not_stalled

theorem Run.fed (fares : Fares body hears good) {lines : List (ParentLine β γ)}
    (tells : ∀ command, .tell command ∈ lines ∨ command = body.term → hears command)
    (run : Run body (initial body lines) ls c) {s : σ} (init : Takes body.init [] s)
    (isGood : good s (arrivals ls ++ future)) : Fed good c future := by
  induction run generalizing future with
  | refl => exact .serving init rfl isGood
  | @snoc ls c' l c'' run step ih =>
    rw [arrivals_append, List.append_assoc] at isGood
    have hfed := ih isGood
    cases step with
    | parent _ step =>
      cases step with
      | start _ absent =>
        cases hfed with
        | serving takes inbound isGood => exact .serving takes inbound isGood
        | ending ending =>
          rw [absent] at ending
          rcases ending with ending | ending <;> cases ending
      | await | act | tell | release | gone =>
        cases hfed with
        | serving takes inbound isGood => exact .serving takes inbound isGood
        | ending ending takes => exact .ending ending takes
    | arrive f =>
      cases hfed with
      | serving takes inbound isGood =>
        exact .serving takes (by rw [← inbound, List.append_assoc]; rfl) isGood
      | ending ending takes => exact .ending ending takes
    | actor _ step =>
      rw [arrivals_of_inside step.isArrival_eq] at hfed
      exact hfed.actorStep fares (fun command h => tells command (run.told.2 command h)) step

/-- **The parent comes to its end.** A parent that keeps to its lines, and an actor that is
fed: if they cannot go on then the parent is through. -/
theorem Run.returns {lines : List (ParentLine β γ)} (h : Lines early body.term lines)
    (run : Run body (initial body lines) ls c) (hfed : Fed good c [])
    (stuck : ¬ CanStep body c) : c.parent = [] := by
  exact (run.ordered h).progress.resolve_right
    (not_or.mpr ⟨hfed.not_stalled, stuck⟩)

end Fed
end Tandem
end Interaction
