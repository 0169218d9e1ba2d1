import CucumberC.Lib.MayReturn

/-!
# A thread and its actor

A parent thread starts another one, its actor, and gives it commands over a pipe. The
parent works off a list of lines. The actor has a program that it runs first, one for each
command, one for each message on a socket of its own, and one that it runs last; it hears
commands and messages in any order. An actor that polls with a timeout looks again when there
was nothing; such turns change nothing, and are no steps.

Two handshakes order what they do. The actor signals when its first program is over, and
the parent waits for that before it goes on; when the parent releases its actor it tells
it to stop, unless it is gone, and waits for the signal that its last program is over.

## Main definitions

* `ActorBody`: the programs of an actor, which stops when it is told to and not before.
* `Tandem`, `Tandem.Step`, `Tandem.Run`: a parent with its actor, and how they go on.
* `Lines`, `Ordered`, `Run.ordered`: the handshakes, and the invariant they establish.
* `Run.late`: what happens before what.
-/

namespace Interaction
universe u

/-! ## Actors -/

/-- The programs of an actor. The command `term`, and nothing else, makes it quit. -/
structure ActorBody (γ φ ω σ : Type u) where
  init : Thread φ ω σ
  hear : σ → γ → Thread φ ω σ
  serve : σ → Thread φ ω σ
  finish : σ → Thread φ ω σ
  quits : σ → Bool
  term : γ
  /-- The actor serves its socket by taking a frame first. -/
  serve_takes : ∀ s, ∃ k, serve s = .recv k
  init_stays : ∀ {t s}, MayReturn init t s → quits s = false
  serve_stays : ∀ {s t s'}, quits s = false → MayReturn (serve s) t s' → quits s' = false
  hear_stays : ∀ {s command t s'}, quits s = false → command ≠ term →
    MayReturn (hear s command) t s' → quits s' = false
  term_quits : ∀ {s t s'}, MayReturn (hear s term) t s' → quits s' = true

/-- A line of the parent. -/
inductive ParentLine (β γ : Type u)
  | start
  | await
  | act (b : β)
  | tell (command : γ)
  | release
  deriving DecidableEq

/-- How far the actor has come. -/
inductive Phase
  | absent
  | starting
  | serving
  | stopping
  | exited
  deriving DecidableEq

/-- A parent and its actor. -/
structure Tandem (β γ φ ω σ : Type u) where
  /-- What the parent has still to do. -/
  parent : List (ParentLine β γ)
  phase : Phase
  thread : Thread φ ω σ
  commands : List γ
  /-- The signals of the actor that the parent has not received. -/
  signals : ℕ
  inbound : List φ

variable {β γ φ ω σ : Type u}

/-- A parent in front of its first line. -/
def Tandem.initial (body : ActorBody γ φ ω σ) (lines : List (ParentLine β γ)) :
    Tandem β γ φ ω σ where
  parent := lines
  phase := .absent
  thread := body.init
  commands := []
  signals := 0
  inbound := []

namespace Tandem

/-- What a step does. -/
inductive Label (β γ φ ω : Type u)
  | parent (line : ParentLine β γ)
  | put (o : ω)
  | sent (m : List φ)
  | took (f : φ)
  | heard (command : γ)
  | turned (phase : Phase)
  | arrived (f : φ)
  deriving DecidableEq

/-- What comes from outside. -/
def Label.isArrival : Label β γ φ ω → Bool
  | arrived _ => true
  | _ => false

/-- What the actor has done, as it sees it. -/
def events (ls : List (Label β γ φ ω)) : List (Event ω φ (List φ)) :=
  ls.filterMap fun
    | .put o => some (.put o)
    | .sent m => some (.sent m)
    | .took f => some (.received f)
    | _ => none

@[simp] theorem events_append (ls ls' : List (Label β γ φ ω)) :
    events (ls ++ ls') = events ls ++ events ls' := List.filterMap_append

/-- The frames that have arrived. -/
def arrivals (ls : List (Label β γ φ ω)) : List φ :=
  ls.filterMap fun
    | .arrived f => some f
    | _ => none

@[simp] theorem arrivals_append (ls ls' : List (Label β γ φ ω)) :
    arrivals (ls ++ ls') = arrivals ls ++ arrivals ls' := List.filterMap_append

theorem arrivals_of_inside {l : Label β γ φ ω} (inside : l.isArrival = false) :
    arrivals [l] = [] := by
  cases l with
  | arrived => cases inside
  | parent | put | sent | took | heard | turned => rfl

/-- The commands the actor has heard. -/
def heard (ls : List (Label β γ φ ω)) : List γ :=
  ls.filterMap fun
    | .heard command => some command
    | _ => none

@[simp] theorem heard_append (ls ls' : List (Label β γ φ ω)) :
    heard (ls ++ ls') = heard ls ++ heard ls' := List.filterMap_append

/-- What the actor has put out. -/
abbrev outputs (ls : List (Label β γ φ ω)) : List ω := putIn (events ls)

variable (body : ActorBody γ φ ω σ)

/-- A line of the parent. A command needs somebody at the other end of the pipe. When the
actor has sent its last signal, its end may still be there for a while. -/
inductive ParentStep (c : Tandem β γ φ ω σ) : ParentLine β γ → Tandem β γ φ ω σ → Prop
  | start {rest} (line : c.parent = .start :: rest) (absent : c.phase = .absent) :
      ParentStep c .start { c with parent := rest, phase := .starting }
  | await {rest n} (line : c.parent = .await :: rest) (signalled : c.signals = n + 1) :
      ParentStep c .await { c with parent := rest, signals := n }
  | act {b rest} (line : c.parent = .act b :: rest) :
      ParentStep c (.act b) { c with parent := rest }
  | tell {command rest} (line : c.parent = .tell command :: rest) (there : c.phase ≠ .exited) :
      ParentStep c (.tell command)
        { c with parent := rest, commands := c.commands ++ [command] }
  | release {rest} (line : c.parent = .release :: rest) :
      ParentStep c .release
        { c with parent := .await :: rest, commands := c.commands ++ [body.term] }
  | gone {rest} (line : c.parent = .release :: rest) (gone : c.phase = .exited) :
      ParentStep c .release { c with parent := rest }

/-- A program of the actor goes on. -/
inductive Move (c : Tandem β γ φ ω σ) : Label β γ φ ω → Tandem β γ φ ω σ → Prop
  | put {o k} (at_put : c.thread = .put o k) : Move c (.put o) { c with thread := k }
  | send {m k} (at_send : c.thread = .send m k) : Move c (.sent m) { c with thread := k }
  | take {k f rest} (at_recv : c.thread = .recv k) (ready : c.inbound = f :: rest) :
      Move c (.took f) { c with thread := k f, inbound := rest }

/-- A step of the actor: a program goes on, or a program is over and the next one begins. -/
inductive ActorStep (c : Tandem β γ φ ω σ) : Label β γ φ ω → Tandem β γ φ ω σ → Prop
  | move {l c'} (move : Move c l c') : ActorStep c l c'
  | begin {s} (starting : c.phase = .starting) (at_ret : c.thread = .ret s) :
      ActorStep c (.turned .serving) { c with phase := .serving, signals := c.signals + 1 }
  | hear {s command rest} (serving : c.phase = .serving) (at_ret : c.thread = .ret s)
      (stays : body.quits s = false) (ready : c.commands = command :: rest) :
      ActorStep c (.heard command) { c with thread := body.hear s command, commands := rest }
  | serve {s k f rest} (serving : c.phase = .serving) (at_ret : c.thread = .ret s)
      (stays : body.quits s = false) (ready : c.inbound = f :: rest)
      (takes : body.serve s = .recv k) :
      ActorStep c (.took f) { c with thread := k f, inbound := rest }
  | stop {s} (serving : c.phase = .serving) (at_ret : c.thread = .ret s)
      (quits : body.quits s = true) :
      ActorStep c (.turned .stopping) { c with phase := .stopping, thread := body.finish s }
  | exit {s} (stopping : c.phase = .stopping) (at_ret : c.thread = .ret s) :
      ActorStep c (.turned .exited) { c with phase := .exited, signals := c.signals + 1 }

/-- The actor has died, and the process with it. -/
def Dead (c : Tandem β γ φ ω σ) : Prop := c.phase ≠ .absent ∧ ∃ why, c.thread = .fault why

/-- A step of either thread, or the arrival of a frame. That the actor polls its pipe and its
socket and finds both empty is no step. -/
inductive Step (c : Tandem β γ φ ω σ) : Label β γ φ ω → Tandem β γ φ ω σ → Prop
  | parent {line c'} (alive : ¬ c.Dead) (step : ParentStep body c line c') :
      Step c (.parent line) c'
  | actor {l c'} (started : c.phase ≠ .absent) (step : ActorStep body c l c') : Step c l c'
  | arrive (f : φ) : Step c (.arrived f) { c with inbound := c.inbound ++ [f] }

/-- A run, with what its steps did. -/
inductive Run (c : Tandem β γ φ ω σ) : List (Label β γ φ ω) → Tandem β γ φ ω σ → Prop
  | refl : Run c [] c
  | snoc {ls c' l c''} (run : Run c ls c') (step : Step body c' l c'') : Run c (ls ++ [l]) c''

/-! ## What the threads have of each other -/

section Frame
variable {body} {c c' : Tandem β γ φ ω σ} {l : Label β γ φ ω} {ls : List (Label β γ φ ω)}

/-- What a program may return after a move, with the event of the move in front. -/
theorem Move.mayReturn (move : Move c l c') {t : List (Event ω φ (List φ))} {s : σ}
    (h : MayReturn c'.thread t s) : MayReturn c.thread (events [l] ++ t) s := by
  cases move with
  | put at_put =>
    rw [at_put]
    exact .put h
  | send at_send =>
    rw [at_send]
    exact .send h
  | take at_recv =>
    rw [at_recv]
    exact .recv h

/-- A move is neither seen by the parent nor told to it. -/
theorem Move.frame (move : Move c l c') : c'.parent = c.parent ∧ c'.phase = c.phase ∧
    c'.signals = c.signals ∧ c'.commands = c.commands := by
  cases move <;> exact ⟨rfl, rfl, rfl, rfl⟩

/-- Nor is anything heard in it. -/
theorem Move.heard_eq (move : Move c l c') : heard [l] = [] := by
  cases move <;> rfl

theorem ActorStep.parent_eq (step : ActorStep body c l c') : c'.parent = c.parent := by
  cases step with
  | move move => exact move.frame.1
  | begin | hear | serve | stop | exit => rfl

theorem ActorStep.isArrival_eq (step : ActorStep body c l c') : l.isArrival = false := by
  cases step with
  | move move => cases move <;> rfl
  | begin | hear | serve | stop | exit => rfl

/-- The actor takes commands from the front of its pipe. -/
theorem ActorStep.commands_suffix (step : ActorStep body c l c') : c'.commands <:+ c.commands := by
  cases step with
  | move move => exact move.frame.2.2.2 ▸ List.suffix_rfl
  | hear _ _ _ ready => exact ready ▸ List.suffix_cons ..
  | begin | serve | stop | exit => exact List.suffix_rfl

/-- The program that serves the socket, after its first frame. -/
theorem mayReturn_serve {s s' : σ} {k : φ → Thread φ ω σ} (takes : body.serve s = .recv k) {f : φ}
    {t : List (Event ω φ (List φ))} (h : MayReturn (k f) t s') :
    MayReturn (body.serve s) (.received f :: t) s' := by
  rw [takes]
  exact .recv h

/-- The parent tells its actor what its lines say, and to quit when it releases it. -/
theorem Run.told {lines : List (ParentLine β γ)} (run : Run body (initial body lines) ls c) :
    (∀ line ∈ c.parent, line ∈ lines ∨ line = .await) ∧
      ∀ command ∈ c.commands, .tell command ∈ lines ∨ command = body.term := by
  induction run with
  | refl => exact ⟨fun line h => .inl h, by simp [initial]⟩
  | snoc _ step ih =>
    obtain ⟨hlines, hcommands⟩ := ih
    cases step with
    | parent _ step =>
      cases step with
      | start line | await line | act line | gone line =>
        rw [line] at hlines
        exact ⟨fun l h => hlines l (List.mem_cons_of_mem _ h), hcommands⟩
      | tell line =>
        rw [line] at hlines
        refine ⟨fun l h => hlines l (List.mem_cons_of_mem _ h), fun command h => ?_⟩
        rcases List.mem_append.mp h with h | h
        · exact hcommands command h
        · obtain rfl := List.mem_singleton.mp h
          exact .inl (by simpa using hlines _ (List.mem_cons_self ..))
      | release line =>
        rw [line] at hlines
        refine ⟨fun l h => ?_, fun command h => ?_⟩
        · rcases List.mem_cons.mp h with rfl | h
          · exact .inr rfl
          · exact hlines l (List.mem_cons_of_mem _ h)
        · rcases List.mem_append.mp h with h | h
          · exact hcommands command h
          · exact .inr (List.mem_singleton.mp h)
    | arrive => exact ⟨hlines, hcommands⟩
    | actor _ step =>
      refine ⟨step.parent_eq ▸ hlines, fun command h => hcommands command ?_⟩
      exact step.commands_suffix.subset h

/-- As long as the actor has not been started, the line that starts it is to come. -/
theorem Run.start_mem {lines : List (ParentLine β γ)} (h : .start ∈ lines)
    (run : Run body (initial body lines) ls c) (absent : c.phase = .absent) :
    .start ∈ c.parent := by
  induction run with
  | refl => exact h
  | snoc _ step ih =>
    cases step with
    | parent _ step =>
      cases step with
      | start => cases absent
      | await line | act line | tell line | gone line | release line =>
        have hmem := ih absent
        rw [line] at hmem
        simpa using hmem
    | arrive => exact ih absent
    | actor started step =>
      cases step with
      | move move => exact absurd (move.frame.2.1.symm.trans absent) started
      | begin | stop | exit => cases absent
      | hear serving | serve serving => exact absurd absent started

/-- As long as a line has not been worked off, it is to come, and what is behind it. -/
theorem Run.ahead {front back : List (ParentLine β γ)} {b : β}
    (run : Run body (initial body (front ++ .act b :: back)) ls c)
    (untouched : .parent (.act b) ∉ ls) :
    ∃ front', c.parent = front' ++ .act b :: back ∧
      ∀ line ∈ front', line ∈ front ∨ line = .await := by
  induction run with
  | refl => exact ⟨front, rfl, fun line h => .inl h⟩
  | @snoc ls c' l c'' _ step ih =>
    rw [List.mem_append, not_or] at untouched
    obtain ⟨front', hparent, hfront⟩ := ih untouched.1
    cases step with
    | arrive => exact ⟨front', hparent, hfront⟩
    | actor _ step => exact ⟨front', step.parent_eq ▸ hparent, hfront⟩
    | parent _ step =>
      cases front' with
      | nil =>
        cases step with
        | act line =>
          rw [hparent] at line
          cases line
          exact absurd (List.mem_singleton_self _) untouched.2
        | start line | await line | tell line | release line | gone line =>
          rw [hparent] at line
          cases line
      | cons line' front' =>
        have hrest : ∀ line ∈ front', line ∈ front ∨ line = .await :=
          fun line h => hfront line (List.mem_cons_of_mem _ h)
        cases step with
        | start line | await line | act line | tell line | gone line =>
          rw [hparent] at line
          obtain ⟨-, rfl⟩ := List.cons.inj line
          exact ⟨front', rfl, hrest⟩
        | release line =>
          rw [hparent] at line
          obtain ⟨-, rfl⟩ := List.cons.inj line
          refine ⟨.await :: front', rfl, fun line h => ?_⟩
          rcases List.mem_cons.mp h with rfl | h
          · exact .inr rfl
          · exact hrest line h

end Frame

/-! ## The handshakes -/

/-- Lines that do not concern the actor. -/
def Calm (lines : List (ParentLine β γ)) : Prop := ∀ line ∈ lines, ∃ b, line = .act b

/-- Lines after the actor was started, up to its release. It may be told to quit before it
is released, but must not be told anything after that. -/
inductive During (term : γ) : List (ParentLine β γ) → Prop
  | act (b : β) {rest} (during : During term rest) : During term (.act b :: rest)
  | tell {command rest} (other : command ≠ term) (during : During term rest) :
      During term (.tell command :: rest)
  | quit {rest} (calm : Calm rest) : During term (.tell term :: .release :: rest)
  | release {rest} (calm : Calm rest) : During term (.release :: rest)

/-- Lines that start one actor, or none. What comes before that is `early`. -/
inductive Lines (early : β → Prop) (term : γ) : List (ParentLine β γ) → Prop
  | nil : Lines early term []
  | act {b : β} (isEarly : early b) {rest} (lines : Lines early term rest) :
      Lines early term (.act b :: rest)
  | create {rest} (during : During term rest) : Lines early term (.start :: .await :: rest)

/-- What the program may return does not let the actor quit. -/
def Stays (q : Thread φ ω σ) : Prop := ∀ {t s}, MayReturn q t s → body.quits s = false

/-- The actor has been told to quit, is about to, or has done so. -/
inductive Parting (c : Tandem β γ φ ω σ) : Prop
  | told (serving : c.phase = .serving) (signals : c.signals = 0) (told : body.term ∈ c.commands)
  | leaving (serving : c.phase = .serving) (signals : c.signals = 0)
      (leaves : ∀ {t s}, MayReturn c.thread t s → body.quits s = true)
  | stopping (stopping : c.phase = .stopping) (signals : c.signals = 0)
  | exited (exited : c.phase = .exited) (signals : c.signals = 1) (at_ret : ∃ s, c.thread = .ret s)

/-- **The invariant of the handshakes**: where the parent is tells where the actor is. -/
inductive Ordered (early : β → Prop) (c : Tandem β γ φ ω σ) : Prop
  | before (lines : Lines early body.term c.parent) (absent : c.phase = .absent)
      (signals : c.signals = 0) (commands : c.commands = []) (thread : c.thread = body.init)
  | starting {rest} (line : c.parent = .await :: rest) (during : During body.term rest)
      (starting : c.phase = .starting) (signals : c.signals = 0) (commands : c.commands = [])
      (stays : Stays body c.thread)
  | started {rest} (line : c.parent = .await :: rest) (during : During body.term rest)
      (serving : c.phase = .serving) (signals : c.signals = 1) (commands : c.commands = [])
      (stays : Stays body c.thread)
  | working (during : During body.term c.parent) (serving : c.phase = .serving)
      (signals : c.signals = 0) (untold : body.term ∉ c.commands) (stays : Stays body c.thread)
  | told {rest} (line : c.parent = .release :: rest) (calm : Calm rest) (parting : Parting body c)
  | released {rest} (line : c.parent = .await :: rest) (calm : Calm rest)
      (parting : Parting body c)
  | through (calm : Calm c.parent) (exited : c.phase = .exited) (at_ret : ∃ s, c.thread = .ret s)

section Handshakes
variable {body} {early : β → Prop} {c c' : Tandem β γ φ ω σ} {l : Label β γ φ ω}
variable {ls : List (Label β γ φ ω)}

theorem ordered_initial {lines : List (ParentLine β γ)} (h : Lines early body.term lines) :
    Ordered body early (initial body lines) := .before h rfl rfl rfl rfl

theorem Stays.move (h : Stays body c.thread) (move : Move c l c') : Stays body c'.thread := by
  intro t s hreturn
  exact h (move.mayReturn hreturn)

theorem not_move_of_ret {s : σ} (at_ret : c.thread = .ret s) : ¬ Move c l c' := by
  intro move
  cases move with
  | put h | send h | take h =>
    rw [at_ret] at h
    cases h

theorem Parting.arrive (h : Parting body c) {f : φ} :
    Parting body { c with inbound := c.inbound ++ [f] } := by
  cases h with
  | told serving signals told => exact .told serving signals told
  | leaving serving signals leaves => exact .leaving serving signals leaves
  | stopping stopping signals => exact .stopping stopping signals
  | exited exited signals at_ret => exact .exited exited signals at_ret

/-- Once the actor is told to quit, it is on its way. -/
theorem Parting.actorStep (h : Parting body c) (step : ActorStep body c l c') :
    Parting body c' := by
  cases step with
  | move move =>
    obtain ⟨-, hphase, hsignals, hcommands⟩ := move.frame
    cases h with
    | told serving signals told =>
      exact .told (hphase ▸ serving) (hsignals ▸ signals) (hcommands ▸ told)
    | leaving serving signals leaves =>
      refine .leaving (hphase ▸ serving) (hsignals ▸ signals) fun hreturn => ?_
      exact leaves (move.mayReturn hreturn)
    | stopping stopping signals => exact .stopping (hphase ▸ stopping) (hsignals ▸ signals)
    | exited _ _ at_ret =>
      obtain ⟨s, at_ret⟩ := at_ret
      exact absurd move (not_move_of_ret at_ret)
  | begin starting =>
    cases h with
    | told phase | leaving phase | stopping phase | exited phase =>
      rw [starting] at phase
      cases phase
  | hear serving at_ret stays ready =>
    cases h with
    | told _ signals told =>
      rw [ready, List.mem_cons] at told
      rcases told with rfl | told
      · exact .leaving serving signals body.term_quits
      · exact .told serving signals told
    | leaving _ _ leaves =>
      rw [at_ret] at leaves
      rw [leaves (.ret _)] at stays
      cases stays
    | stopping phase | exited phase =>
      rw [serving] at phase
      cases phase
  | serve serving at_ret stays =>
    cases h with
    | told _ signals told => exact .told serving signals told
    | leaving _ _ leaves =>
      rw [at_ret] at leaves
      rw [leaves (.ret _)] at stays
      cases stays
    | stopping phase | exited phase =>
      rw [serving] at phase
      cases phase
  | stop serving =>
    cases h with
    | told _ signals | leaving _ signals => exact .stopping rfl signals
    | stopping phase | exited phase =>
      rw [serving] at phase
      cases phase
  | exit stopping at_ret =>
    cases h with
    | stopping _ signals => exact .exited rfl (by rw [signals]) ⟨_, at_ret⟩
    | told phase | leaving phase | exited phase =>
      rw [stopping] at phase
      cases phase

/-- As long as the actor has not been told to quit, it serves. -/
theorem working_actorStep (serving : c.phase = .serving) (untold : body.term ∉ c.commands)
    (stays : Stays body c.thread) (step : ActorStep body c l c') :
    c'.parent = c.parent ∧ c'.phase = .serving ∧ c'.signals = c.signals ∧
      c'.commands <:+ c.commands ∧ Stays body c'.thread := by
  cases step with
  | move move =>
    obtain ⟨hparent, hphase, hsignals, hcommands⟩ := move.frame
    exact ⟨hparent, hphase.trans serving, hsignals, hcommands ▸ List.suffix_rfl, stays.move move⟩
  | hear _ _ quits ready =>
    rw [ready, List.mem_cons, not_or] at untold
    refine ⟨rfl, serving, rfl, ready ▸ List.suffix_cons .., ?_⟩
    exact body.hear_stays quits (Ne.symm untold.1)
  | serve _ _ quits _ takes =>
    exact ⟨rfl, serving, rfl, List.suffix_rfl,
      fun hreturn => body.serve_stays quits (mayReturn_serve takes hreturn)⟩
  | stop _ at_ret quits =>
    rw [at_ret] at stays
    rw [stays (.ret _)] at quits
    cases quits
  | begin phase | exit phase =>
    rw [serving] at phase
    cases phase

/-- A step of the actor keeps the order. -/
theorem Ordered.actorStep (h : Ordered body early c) (started : c.phase ≠ .absent)
    (step : ActorStep body c l c') : Ordered body early c' := by
  cases h with
  | before _ absent => exact absurd absent started
  | starting line during starting signals commands stays =>
    cases step with
    | move move =>
      obtain ⟨hparent, hphase, hsignals, hcommands⟩ := move.frame
      exact .starting (hparent ▸ line) during (hphase ▸ starting) (hsignals ▸ signals)
        (hcommands ▸ commands) (stays.move move)
    | begin => exact .started line during rfl (by rw [signals]) commands stays
    | hear phase | serve phase | stop phase | exit phase =>
      rw [starting] at phase
      cases phase
  | started line during serving signals commands stays =>
    obtain ⟨hparent, hphase, hsignals, hcommands, stays'⟩ := working_actorStep serving
      (by simp [commands]) stays step
    rw [commands] at hcommands
    exact .started (hparent ▸ line) during hphase (hsignals ▸ signals)
      (List.suffix_nil.mp hcommands) stays'
  | working during serving signals untold stays =>
    obtain ⟨hparent, hphase, hsignals, hcommands, stays'⟩ := working_actorStep serving untold stays
      step
    exact .working (hparent ▸ during) hphase (hsignals ▸ signals)
      (fun hmem => untold (hcommands.subset hmem)) stays'
  | told line calm parting => exact .told (step.parent_eq ▸ line) calm (parting.actorStep step)
  | released line calm parting =>
    exact .released (step.parent_eq ▸ line) calm (parting.actorStep step)
  | through calm exited at_ret =>
    obtain ⟨s, at_ret⟩ := at_ret
    cases step with
    | move move => exact absurd move (not_move_of_ret at_ret)
    | begin phase | hear phase | serve phase | stop phase | exit phase =>
      rw [exited] at phase
      cases phase

/-- A line of the parent keeps the order. -/
theorem Ordered.parentStep (h : Ordered body early c) {line : ParentLine β γ}
    (step : ParentStep body c line c') : Ordered body early c' := by
  cases h with
  | before lines absent signals commands thread =>
    cases step with
    | start line =>
      rw [line] at lines
      cases lines with
      | create during => exact .starting rfl during rfl signals commands (thread ▸ body.init_stays)
    | act line =>
      rw [line] at lines
      cases lines with
      | act _ lines => exact .before lines absent signals commands thread
    | await line | tell line | release line | gone line =>
      rw [line] at lines
      cases lines
  | starting line during starting signals commands stays =>
    cases step with
    | await _ signalled =>
      rw [signals] at signalled
      cases signalled
    | start line' | act line' | tell line' | release line' | gone line' =>
      rw [line] at line'
      cases line'
  | started line during serving signals commands stays =>
    cases step with
    | await line' signalled =>
      rw [line] at line'
      obtain ⟨-, rfl⟩ := List.cons.inj line'
      rw [signals] at signalled
      exact .working during serving (Nat.succ.inj signalled).symm (by simp [commands]) stays
    | start line' | act line' | tell line' | release line' | gone line' =>
      rw [line] at line'
      cases line'
  | working during serving signals untold stays =>
    cases step with
    | act line =>
      rw [line] at during
      cases during with
      | act _ during => exact .working during serving signals untold stays
    | tell line =>
      rw [line] at during
      cases during with
      | tell other during =>
        exact .working during serving signals (by simp [untold, Ne.symm other]) stays
      | quit calm => exact .told rfl calm (.told serving signals (by simp))
    | release line =>
      rw [line] at during
      cases during with
      | release calm => exact .released rfl calm (.told serving signals (by simp))
    | gone _ gone =>
      rw [serving] at gone
      cases gone
    | start line | await line =>
      rw [line] at during
      cases during
  | told line calm parting =>
    cases step with
    | release line' =>
      rw [line] at line'
      obtain ⟨-, rfl⟩ := List.cons.inj line'
      refine .released rfl calm ?_
      cases parting with
      | told serving signals told => exact .told serving signals (List.mem_append_left _ told)
      | leaving serving signals leaves => exact .leaving serving signals leaves
      | stopping stopping signals => exact .stopping stopping signals
      | exited exited signals at_ret => exact .exited exited signals at_ret
    | gone line' gone =>
      rw [line] at line'
      obtain ⟨-, rfl⟩ := List.cons.inj line'
      cases parting with
      | exited _ _ at_ret => exact .through calm gone at_ret
      | told phase | leaving phase | stopping phase =>
        rw [gone] at phase
        cases phase
    | start line' | await line' | act line' | tell line' =>
      rw [line] at line'
      cases line'
  | released line calm parting =>
    cases step with
    | await line' signalled =>
      rw [line] at line'
      obtain ⟨-, rfl⟩ := List.cons.inj line'
      cases parting with
      | exited exited _ at_ret => exact .through calm exited at_ret
      | told _ signals | leaving _ signals | stopping _ signals =>
        rw [signals] at signalled
        cases signalled
    | start line' | act line' | tell line' | release line' | gone line' =>
      rw [line] at line'
      cases line'
  | through calm exited at_ret =>
    cases step with
    | act line =>
      rw [line] at calm
      exact .through (fun line hline => calm line (List.mem_cons_of_mem _ hline)) exited at_ret
    | start line | await line | tell line | release line | gone line =>
      rw [line] at calm
      obtain ⟨b, hb⟩ := calm _ (List.mem_cons_self ..)
      cases hb

/-- **One step** keeps the order. -/
theorem Ordered.step (h : Ordered body early c) (step : Step body c l c') :
    Ordered body early c' := by
  cases step with
  | parent _ step => exact h.parentStep step
  | actor started step => exact h.actorStep started step
  | arrive f =>
    cases h with
    | before lines absent signals commands thread =>
      exact .before lines absent signals commands thread
    | starting line during starting signals commands stays =>
      exact .starting line during starting signals commands stays
    | started line during serving signals commands stays =>
      exact .started line during serving signals commands stays
    | working during serving signals untold stays =>
      exact .working during serving signals untold stays
    | told line calm parting => exact .told line calm parting.arrive
    | released line calm parting => exact .released line calm parting.arrive
    | through calm exited at_ret => exact .through calm exited at_ret

/-- **Many steps** keep the order. -/
theorem Run.ordered {lines : List (ParentLine β γ)} (h : Lines early body.term lines)
    (run : Run body (initial body lines) ls c) : Ordered body early c := by
  induction run with
  | refl => exact ordered_initial h
  | snoc _ step ih => exact ih.step step

/-- **Happens before.** A line that is not early is worked off after the first program of the
actor is over. -/
theorem Run.late {lines : List (ParentLine β γ)} (h : Lines early body.term lines)
    (run : Run body (initial body lines) ls c) {b : β} (late : ¬ early b)
    (hmem : .parent (.act b) ∈ ls) : c.phase ≠ .absent ∧ c.phase ≠ .starting := by
  induction run with
  | refl => cases hmem
  | @snoc ls c' l c'' run step ih =>
    rcases List.mem_append.mp hmem with hmem | hmem
    · obtain ⟨hpresent, hstarted⟩ := ih hmem
      cases step with
      | parent _ step =>
        cases step with
        | start _ absent => exact absurd absent hpresent
        | await | act | tell | release | gone => exact ⟨hpresent, hstarted⟩
      | arrive => exact ⟨hpresent, hstarted⟩
      | actor _ step =>
        cases step with
        | move move => exact move.frame.2.1 ▸ ⟨hpresent, hstarted⟩
        | begin | stop | exit => exact ⟨by simp, by simp⟩
        | hear | serve => exact ⟨hpresent, hstarted⟩
    · obtain rfl := List.mem_singleton.mp hmem
      cases step with
      | actor _ step => cases step with | move move => cases move
      | parent _ step =>
        cases step with
        | act line =>
          cases run.ordered h with
          | before lines =>
            rw [line] at lines
            cases lines with
            | act isEarly => exact absurd isEarly late
          | starting line' | started line' | told line' | released line' =>
            rw [line] at line'
            cases line'
          | working _ phase | through _ phase => simp [phase]

end Handshakes
end Tandem
end Interaction
