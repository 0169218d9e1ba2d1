import CucumberC.Lib.Actor
import Mathlib.Data.List.ReduceOption

/-!
# An actor by itself

An actor runs its programs one after another, and what its parent does meanwhile reaches it
through its pipe and its socket only. So whatever the two have done, in whatever order, it
is an execution of one sequential program (`Run.session`): the first program, one for each
turn in which the actor hears a command or serves its socket, and the last one when it
quits. What is proved of that program holds in every interleaving.

## Main definitions

* `ActorBody.loop`, `ActorBody.service`, `ActorBody.program`: the sequential program.
* `Run.keeps`: the rule for what the programs of an actor keep.
* `Session`, `Run.session`: every run is an execution of the sequential program.
* `Run.told_heard`, `Run.heard_told`: what the actor has heard is what it was told.
* `Run.received`: what the actor has taken of what arrived.
-/

namespace Interaction
universe u

variable {β γ φ ω σ : Type u}

/-! ## The sequential program -/

namespace ActorBody
variable (body : ActorBody γ φ ω σ)

/-- The program of one turn: the actor hears a command, or serves its socket. -/
def turn (s : σ) : Option γ → Thread φ ω σ
  | some command => body.hear s command
  | none => body.serve s

/-- The turns of an actor, until it quits. -/
def loop : List (Option γ) → σ → Thread φ ω σ
  | [], s => .ret s
  | turn :: turns, s => if body.quits s = true then .ret s else body.turn s turn >>= loop turns

/-- The first program and the turns. -/
def service (turns : List (Option γ)) : Thread φ ω σ := body.init >>= body.loop turns

/-- All programs of the actor. -/
def program (turns : List (Option γ)) : Thread φ ω σ :=
  body.service turns >>= fun s => if body.quits s = true then body.finish s else .ret s

end ActorBody

namespace Tandem
variable {body : ActorBody γ φ ω σ} {turns : List (Option γ)} {turn : Option γ}
variable {c c' : Tandem β γ φ ω σ} {l : Label β γ φ ω} {ls : List (Label β γ φ ω)}
variable {t t' : List (Event ω φ (List φ))} {s s' s'' : σ}

/-- One more turn of an actor that has not quit. -/
theorem mayReturn_loop_snoc (h : MayReturn (body.loop turns s) t s')
    (stays : body.quits s' = false) (h' : MayReturn (body.turn s' turn) t' s'') :
    MayReturn (body.loop (turns ++ [turn]) s) (t ++ t') s'' := by
  induction turns generalizing s t with
  | nil =>
    obtain ⟨rfl, rfl⟩ := h.ret_inv
    rw [List.nil_append, ActorBody.loop, if_neg (by simp [stays])]
    have last : MayReturn (body.loop [] s'') [] s'' := .ret s''
    simpa using h'.bind last
  | cons head turns ih =>
    rw [ActorBody.loop] at h
    rw [List.cons_append, ActorBody.loop]
    split at h
    · rename_i quits
      obtain ⟨-, rfl⟩ := h.ret_inv
      rw [stays] at quits
      cases quits
    · obtain ⟨t₁, s₁, t₂, rfl, hhead, hrest⟩ := h.bind_inv
      rw [if_neg ‹_›, List.append_assoc]
      exact hhead.bind (ih hrest)

theorem mayReturn_service_snoc (h : MayReturn (body.service turns) t s)
    (stays : body.quits s = false) (h' : MayReturn (body.turn s turn) t' s') :
    MayReturn (body.service (turns ++ [turn])) (t ++ t') s' := by
  obtain ⟨t₁, s₁, t₂, rfl, hinit, hloop⟩ := h.bind_inv
  rw [List.append_assoc]
  exact hinit.bind (mayReturn_loop_snoc hloop stays h')

/-! ## Every run is an execution of it -/

/-- The phases in which an actor has come to its last program. -/
def isEnding : Phase → Bool
  | .absent | .starting | .serving => false
  | .stopping | .exited => true

/-- What an actor may have done when it is in state `s`: its service, and its last program
if it is ending. -/
inductive Session (body : ActorBody γ φ ω σ) (turns : List (Option γ)) :
    Bool → List (Event ω φ (List φ)) → σ → Prop
  | serving {t : List (Event ω φ (List φ))} {s : σ}
      (served : MayReturn (body.service turns) t s) : Session body turns false t s
  | ending {t t' : List (Event ω φ (List φ))} {s s' : σ}
      (served : MayReturn (body.service turns) t s) (quits : body.quits s = true)
      (finished : MayReturn (body.finish s) t' s') :
      Session body turns true (t ++ t') s'

/-- A session that is over is an execution of the whole program. -/
theorem Session.mayReturn (h : Session body turns true t s) :
    MayReturn (body.program turns) t s := by
  cases h with
  | ending served quits finished =>
    refine served.bind ?_
    rwa [if_pos quits]

/-- The last program of a session that is over. -/
theorem Session.finished (h : Session body turns true t s) :
    ∃ s₀ t', body.quits s₀ = true ∧ MayReturn (body.finish s₀) t' s := by
  cases h with
  | ending _ quits finished => exact ⟨_, _, quits, finished⟩

/-- **The rule for actors.** Let `P` tell something about what an actor has heard and done and
the state it is in, before its last program and after. If the first program makes it true,
and the others keep it true, then it is true in every interleaving, as soon as the program
that is running is over. -/
theorem Run.keeps {P : Bool → List γ → List (Event ω φ (List φ)) → σ → Prop}
    (init : ∀ {t s}, MayReturn body.init t s → P false [] t s)
    (hear : ∀ {cs t s command t' s'}, P false cs t s → body.quits s = false →
      MayReturn (body.hear s command) t' s' → P false (cs ++ [command]) (t ++ t') s')
    (serve : ∀ {cs t s t' s'}, P false cs t s → body.quits s = false →
      MayReturn (body.serve s) t' s' → P false cs (t ++ t') s')
    (finish : ∀ {cs t s t' s'}, P false cs t s → body.quits s = true →
      MayReturn (body.finish s) t' s' → P true cs (t ++ t') s')
    {lines : List (ParentLine β γ)} (run : Run body (initial body lines) ls c)
    (h : MayReturn c.thread t s) : P (isEnding c.phase) (heard ls) (events ls ++ t) s := by
  induction run generalizing t s with
  | refl => exact init h
  | @snoc ls c' l c'' run step ih =>
    have unheard : heard [l] = [] → heard (ls ++ [l]) = heard ls := by
      intro hheard
      rw [heard_append, hheard, List.append_nil]
    -- A step that is no event of the actor changes nothing.
    have quiet : events [l] = [] → heard [l] = [] → c''.thread = c'.thread →
        isEnding c''.phase = isEnding c'.phase →
        P (isEnding c''.phase) (heard (ls ++ [l])) (events (ls ++ [l]) ++ t) s := by
      intro hevents hheard hthread hphase
      rw [hthread] at h
      rw [unheard hheard, events_append, hevents, List.append_nil, hphase]
      exact ih h
    -- Between two programs `P` holds of what the actor has done.
    have resting : ∀ {s}, c'.thread = .ret s → c'.phase = .serving →
        P false (heard ls) (events ls) s := by
      intro s at_ret serving
      rw [at_ret, serving] at ih
      simpa [isEnding] using ih (.ret s)
    cases step with
    | parent _ step =>
      cases step with
      | start _ absent =>
        refine quiet rfl rfl rfl ?_
        rw [absent]
        rfl
      | await | act | tell | release | gone => exact quiet rfl rfl rfl rfl
    | arrive => exact quiet rfl rfl rfl rfl
    | actor _ step =>
      cases step with
      | move move =>
        rw [unheard move.heard_eq, events_append, List.append_assoc, move.frame.2.1]
        exact ih (move.mayReturn h)
      | begin starting =>
        refine quiet rfl rfl rfl ?_
        rw [starting]
        rfl
      | hear serving at_ret stays =>
        rw [heard_append, events_append, List.append_assoc]
        dsimp only
        rw [serving]
        exact hear (resting at_ret serving) stays h
      | serve serving at_ret stays _ takes =>
        rw [unheard rfl, events_append, List.append_assoc]
        dsimp only
        rw [serving]
        exact serve (resting at_ret serving) stays (mayReturn_serve takes h)
      | stop serving at_ret quits =>
        rw [unheard rfl, events_append, List.append_assoc]
        exact finish (resting at_ret serving) quits h
      | exit stopping =>
        refine quiet rfl rfl rfl ?_
        rw [stopping]
        rfl

/-- **Every interleaving is a session.** What the actor has done, together with what the
program that is running may still do, is an execution of the sequential program, with some
turns. In these the actor heard what it has heard. -/
theorem Run.session {lines : List (ParentLine β γ)} (run : Run body (initial body lines) ls c)
    (h : MayReturn c.thread t s) : ∃ turns : List (Option γ),
      turns.reduceOption = heard ls ∧ Session body turns (isEnding c.phase) (events ls ++ t) s := by
  refine run.keeps (P := fun ending cs t s => ∃ turns : List (Option γ),
    turns.reduceOption = cs ∧ Session body turns ending t s) ?_ ?_ ?_ ?_ h
  · intro t s h
    have last : MayReturn (body.loop [] s) [] s := .ret s
    have served := h.bind last
    rw [List.append_nil] at served
    exact ⟨[], rfl, .serving served⟩
  · rintro cs t s command t' s' ⟨turns, rfl, served⟩ stays h
    cases served with
    | serving served =>
      refine ⟨turns ++ [some command], ?_, .serving (mayReturn_service_snoc served stays h)⟩
      rw [List.reduceOption_append]
      rfl
  · rintro cs t s t' s' ⟨turns, rfl, served⟩ stays h
    cases served with
    | serving served =>
      refine ⟨turns ++ [none], ?_, .serving (mayReturn_service_snoc served stays h)⟩
      rw [List.reduceOption_append]
      exact List.append_nil _
  · rintro cs t s t' s' ⟨turns, rfl, served⟩ quits h
    cases served with
    | serving served => exact ⟨turns, rfl, .ending served quits h⟩

/-- The actor has heard what the parent has told it. -/
theorem Run.told_heard {lines : List (ParentLine β γ)} (run : Run body (initial body lines) ls c)
    {command : γ} (h : command ∈ heard ls) : .tell command ∈ lines ∨ command = body.term := by
  induction run with
  | refl => cases h
  | @snoc ls c' l c'' run step ih =>
    rw [heard_append] at h
    rcases List.mem_append.mp h with h | h
    · exact ih h
    · cases step with
      | parent | arrive => cases h
      | actor _ step =>
        cases step with
        | move move =>
          rw [move.heard_eq] at h
          cases h
        | hear _ _ _ ready =>
          obtain rfl := List.mem_singleton.mp h
          exact run.told.2 _ (ready ▸ List.mem_cons_self ..)
        | begin | serve | stop | exit => cases h

/-- What the parent has told it, the actor has heard, or it is in the pipe. -/
theorem Run.heard_told {lines : List (ParentLine β γ)} (run : Run body (initial body lines) ls c)
    {command : γ} (h : .tell command ∈ lines) :
    .tell command ∈ c.parent ∨ command ∈ c.commands ∨ command ∈ heard ls := by
  induction run with
  | refl => exact .inl h
  | @snoc ls c' l c'' run step ih =>
    rw [heard_append]
    have ih := ih.imp_right (Or.imp_right (List.mem_append_left (heard [l])))
    cases step with
    | parent _ step =>
      cases step with
      | start line | await line | act line | gone line =>
        rw [line] at ih
        simpa using ih
      | tell line =>
        rw [line, List.mem_cons, ParentLine.tell.injEq] at ih
        rw [List.mem_append, List.mem_singleton]
        tauto
      | release line =>
        rw [line] at ih
        simp only [List.mem_cons, reduceCtorEq, false_or] at ih ⊢
        exact ih.imp_right (Or.imp_left (List.mem_append_left _))
    | arrive => exact ih
    | actor _ step =>
      rw [step.parent_eq]
      cases step with
      | move move =>
        rw [move.frame.2.2.2]
        exact ih
      | @hear _ command' _ _ _ _ ready =>
        rw [ready, List.mem_cons] at ih
        have hheard : command = command' → command ∈ heard ls ++ [command'] :=
          fun h => List.mem_append_right _ (List.mem_singleton.mpr h)
        change _ ∨ _ ∨ command ∈ heard ls ++ [command'] at ih
        change _ ∨ _ ∨ command ∈ heard ls ++ [command']
        tauto
      | begin | serve | stop | exit => exact ih

/-- What has arrived was taken by the actor, or is still there. -/
theorem Run.received {lines : List (ParentLine β γ)} (run : Run body (initial body lines) ls c) :
    arrivals ls = receivedIn (events ls) ++ c.inbound := by
  induction run with
  | refl => rfl
  | @snoc ls c' l c'' _ step ih =>
    -- Either nothing arrives and nothing is taken, or a frame moves along.
    have quiet : arrivals [l] = [] → receivedIn (events [l]) = [] → c''.inbound = c'.inbound →
        arrivals (ls ++ [l]) = receivedIn (events (ls ++ [l])) ++ c''.inbound := by
      intro harrivals hevents hinbound
      rw [arrivals_append, harrivals, events_append, receivedIn_append, hevents, hinbound, ih,
        List.append_nil, List.append_nil]
    have takes : ∀ {f}, l = .took f → c'.inbound = f :: c''.inbound →
        arrivals (ls ++ [l]) = receivedIn (events (ls ++ [l])) ++ c''.inbound := by
      rintro f rfl hinbound
      have harrivals : arrivals [(.took f : Label β γ φ ω)] = [] := rfl
      rw [arrivals_append, harrivals, List.append_nil, events_append, receivedIn_append, ih,
        hinbound, List.append_assoc]
      rfl
    cases step with
    | parent _ step => cases step <;> exact quiet rfl rfl rfl
    | arrive f =>
      rw [arrivals_append, events_append, receivedIn_append, ih, List.append_assoc,
        List.append_assoc]
      rfl
    | actor _ step =>
      cases step with
      | move move =>
        cases move with
        | put | send => exact quiet rfl rfl rfl
        | take _ ready => exact takes rfl ready
      | serve _ _ _ ready => exact takes rfl ready
      | begin | hear | stop | exit => exact quiet rfl rfl rfl

end Tandem
end Interaction
