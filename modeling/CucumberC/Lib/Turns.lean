import CucumberC.Lib.Shutdown

/-!
# Turn by turn

An interleaving of a parent and its actor is a list of turns: who goes on, and at which of
the two places where the actor may listen. `next` computes the step of a turn, and `drive`
the run of a list of turns. They compute the steps there are, and all of them.

## Main definitions

* `Turn`, `next`, `next_sound`, `next_complete`: the turns make the steps of the relation.
* `drive`, `drive_run`: the run of a list of turns.
* `decidableCanStep`: whether a tandem can go on by itself.
-/

namespace Interaction
universe u

variable {β γ φ ω σ : Type u}

namespace Tandem

/-- Whose turn it is. The parent works off a line, or finds that its actor is gone. The actor
goes on with its programs, or begins one because it hears a command or serves its socket. -/
inductive Turn (φ : Type u)
  | parent
  | gone
  | actor
  | hear
  | serve
  | arrive (f : φ)

/-- The turns of the actor. -/
def actorTurns : List (Turn φ) := [.actor, .hear, .serve]

/-- The turns of the two threads. -/
def ownTurns : List (Turn φ) := .parent :: .gone :: actorTurns

instance (c : Tandem β γ φ ω σ) : Decidable c.Dead :=
  match hthread : c.thread with
  | .fault why =>
      decidable_of_iff (c.phase ≠ .absent) ⟨fun started => ⟨started, why, hthread⟩, And.left⟩
  | .ret _ | .put .. | .send .. | .recv _ | .spin =>
      .isFalse fun ⟨_, _, h⟩ => by rw [hthread] at h; cases h

variable (body : ActorBody γ φ ω σ)

section Next
variable (c : Tandem β γ φ ω σ)

/-- The line of the parent. -/
def nextLine : Option (ParentLine β γ × Tandem β γ φ ω σ) :=
  match c.parent with
  | [] => none
  | .start :: rest =>
      if c.phase = .absent then some (.start, { c with parent := rest, phase := .starting })
      else none
  | .await :: rest =>
      match c.signals with
      | 0 => none
      | n + 1 => some (.await, { c with parent := rest, signals := n })
  | .act b :: rest => some (.act b, { c with parent := rest })
  | .tell command :: rest =>
      if c.phase = .exited then none
      else some (.tell command, { c with parent := rest, commands := c.commands ++ [command] })
  | .release :: rest =>
      some (.release, { c with parent := .await :: rest, commands := c.commands ++ [body.term] })

/-- The parent releases an actor that is gone. -/
def nextGone : Option (ParentLine β γ × Tandem β γ φ ω σ) :=
  match c.parent with
  | .release :: rest =>
      if c.phase = .exited then some (.release, { c with parent := rest }) else none
  | _ => none

/-- What the actor does when its program is over. -/
def nextProgram (s : σ) : Option (Label β γ φ ω × Tandem β γ φ ω σ) :=
  match c.phase with
  | .starting => some (.turned .serving, { c with phase := .serving, signals := c.signals + 1 })
  | .serving =>
      if body.quits s = true then
        some (.turned .stopping, { c with phase := .stopping, thread := body.finish s })
      else none
  | .stopping => some (.turned .exited, { c with phase := .exited, signals := c.signals + 1 })
  | .absent | .exited => none

/-- What the actor does by itself. -/
def nextActor : Option (Label β γ φ ω × Tandem β γ φ ω σ) :=
  match c.thread with
  | .put o k => some (.put o, { c with thread := k })
  | .send m k => some (.sent m, { c with thread := k })
  | .recv k =>
      match c.inbound with
      | [] => none
      | f :: rest => some (.took f, { c with thread := k f, inbound := rest })
  | .ret s => nextProgram body c s
  | .fault _ | .spin => none

/-- The actor hears a command. -/
def nextHear : Option (Label β γ φ ω × Tandem β γ φ ω σ) :=
  match c.thread, c.commands with
  | .ret s, command :: rest =>
      if body.quits s = false then
        some (.heard command, { c with thread := body.hear s command, commands := rest })
      else none
  | _, _ => none

/-- The actor serves its socket. -/
def nextServe : Option (Label β γ φ ω × Tandem β γ φ ω σ) :=
  match c.thread, c.inbound with
  | .ret s, f :: rest =>
      match body.serve s with
      | .recv k =>
          if body.quits s = false then
            some (.took f, { c with thread := k f, inbound := rest })
          else none
      | _ => none
  | _, _ => none

/-- The step of a turn, where it can be made. -/
def next : Turn φ → Option (Label β γ φ ω × Tandem β γ φ ω σ)
  | .parent => if c.Dead then none else (nextLine body c).map fun x => (.parent x.1, x.2)
  | .gone => if c.Dead then none else (nextGone c).map fun x => (.parent x.1, x.2)
  | .actor => if c.phase = .absent then none else nextActor body c
  | .hear => if c.phase = .serving then nextHear body c else none
  | .serve => if c.phase = .serving then nextServe body c else none
  | .arrive f => some (.arrived f, { c with inbound := c.inbound ++ [f] })

end Next

/-- The run of a list of turns, where all of them can be made. -/
def drive : List (Turn φ) → Tandem β γ φ ω σ → Option (List (Label β γ φ ω) × Tandem β γ φ ω σ)
  | [], c => some ([], c)
  | turn :: turns, c =>
      (next body c turn).bind fun x => (drive turns x.2).map fun y => (x.1 :: y.1, y.2)

variable {body} {c c' c'' : Tandem β γ φ ω σ} {l : Label β γ φ ω} {ls ls' : List (Label β γ φ ω)}

/-! ## The turns are the steps -/

theorem nextLine_sound {line : ParentLine β γ} (h : nextLine body c = some (line, c')) :
    ParentStep body c line c' := by
  unfold nextLine at h
  split at h
  · cases h
  · split at h <;> cases h
    exact .start ‹_› ‹_›
  · split at h <;> cases h
    exact .await ‹_› ‹_›
  · cases h
    exact .act ‹_›
  · split at h <;> cases h
    exact .tell ‹_› ‹_›
  · cases h
    exact .release ‹_›

theorem nextGone_sound {line : ParentLine β γ} (h : nextGone c = some (line, c')) :
    ParentStep body c line c' := by
  unfold nextGone at h
  split at h
  · split at h <;> cases h
    exact .gone ‹_› ‹_›
  · cases h

/-- A line of the parent is one of its turns. -/
theorem exists_parentTurn (alive : ¬ c.Dead) {line : ParentLine β γ}
    (step : ParentStep body c line c') :
    ∃ turn ∈ ownTurns, next body c turn = some (.parent line, c') := by
  have parent : nextLine body c = some (line, c') →
      ∃ turn ∈ ownTurns, next body c turn = some (.parent line, c') := by
    intro h
    refine ⟨.parent, by simp [ownTurns], ?_⟩
    rw [next, if_neg alive, h]
    rfl
  cases step with
  | start line absent => exact parent (by simp only [nextLine, line, absent, if_true])
  | await line signalled => exact parent (by simp only [nextLine, line, signalled])
  | act line | release line => exact parent (by simp only [nextLine, line])
  | tell line there => exact parent (by simp only [nextLine, line, there, if_false])
  | gone line gone =>
    refine ⟨.gone, by simp [ownTurns], ?_⟩
    rw [next, if_neg alive]
    simp only [nextGone, line, gone, if_true, Option.map_some]

/-- What the actor does by itself is a step of it. -/
theorem nextActor_sound (h : nextActor body c = some (l, c')) : ActorStep body c l c' := by
  unfold nextActor at h
  split at h
  · cases h
    exact .move (.put ‹_›)
  · cases h
    exact .move (.send ‹_›)
  · split at h <;> cases h
    exact .move (.take ‹_› ‹_›)
  · unfold nextProgram at h
    split at h
    · cases h
      exact .begin ‹_› ‹_›
    · split at h <;> cases h
      exact .stop ‹_› ‹_› ‹_›
    · cases h
      exact .exit ‹_› ‹_›
    · cases h
    · cases h
  · cases h
  · cases h

theorem nextHear_sound (serving : c.phase = .serving) (h : nextHear body c = some (l, c')) :
    ActorStep body c l c' := by
  unfold nextHear at h
  split at h
  · split at h <;> cases h
    exact .hear serving ‹_› ‹_› ‹_›
  · cases h

theorem nextServe_sound (serving : c.phase = .serving) (h : nextServe body c = some (l, c')) :
    ActorStep body c l c' := by
  unfold nextServe at h
  split at h
  · split at h
    · split at h <;> cases h
      exact .serve serving ‹_› ‹_› ‹_› ‹_›
    · cases h
  · cases h

/-- A turn makes a step, and a turn of one of the threads no arrival. -/
theorem next_sound {turn : Turn φ} (h : next body c turn = some (l, c')) :
    Step body c l c' ∧ (turn ∈ ownTurns → l.isArrival = false) := by
  have actor : c.phase ≠ .absent → ActorStep body c l c' → Step body c l c' ∧
      (turn ∈ ownTurns → l.isArrival = false) :=
    fun started step => ⟨.actor started step, fun _ => step.isArrival_eq⟩
  cases turn with
  | parent =>
    rw [next] at h
    split at h
    · cases h
    · obtain ⟨⟨line, c'⟩, hline, hpair⟩ := Option.map_eq_some_iff.mp h
      cases hpair
      exact ⟨.parent ‹_› (nextLine_sound hline), fun _ => rfl⟩
  | gone =>
    rw [next] at h
    split at h
    · cases h
    · obtain ⟨⟨line, c'⟩, hline, hpair⟩ := Option.map_eq_some_iff.mp h
      cases hpair
      exact ⟨.parent ‹_› (nextGone_sound hline), fun _ => rfl⟩
  | actor =>
    rw [next] at h
    split at h
    · cases h
    · exact actor ‹_› (nextActor_sound h)
  | hear =>
    rw [next] at h
    split at h
    · rename_i serving
      exact actor (by simp [serving]) (nextHear_sound serving h)
    · cases h
  | serve =>
    rw [next] at h
    split at h
    · rename_i serving
      exact actor (by simp [serving]) (nextServe_sound serving h)
    · cases h
  | arrive f =>
    cases h
    exact ⟨.arrive f, fun own => by simp [ownTurns, actorTurns] at own⟩

/-- A step of the actor is one of its turns. -/
theorem exists_actorTurn (started : c.phase ≠ .absent) (step : ActorStep body c l c') :
    ∃ turn ∈ actorTurns, next body c turn = some (l, c') := by
  cases step with
  | move move =>
    refine ⟨.actor, by simp [actorTurns], ?_⟩
    rw [next, if_neg started]
    cases move with
    | put at_put => simp only [nextActor, at_put]
    | send at_send => simp only [nextActor, at_send]
    | take at_recv ready => simp only [nextActor, at_recv, ready]
  | begin starting at_ret =>
    refine ⟨.actor, by simp [actorTurns], ?_⟩
    rw [next, if_neg started]
    simp only [nextActor, at_ret, nextProgram, starting]
  | stop serving at_ret quits =>
    refine ⟨.actor, by simp [actorTurns], ?_⟩
    rw [next, if_neg started]
    simp only [nextActor, at_ret, nextProgram, serving, quits, if_true]
  | exit stopping at_ret =>
    refine ⟨.actor, by simp [actorTurns], ?_⟩
    rw [next, if_neg started]
    simp only [nextActor, at_ret, nextProgram, stopping]
  | hear serving at_ret stays ready =>
    refine ⟨.hear, by simp [actorTurns], ?_⟩
    simp only [next, serving, nextHear, at_ret, ready, stays, if_true]
  | serve serving at_ret stays ready takes =>
    refine ⟨.serve, by simp [actorTurns], ?_⟩
    simp only [next, serving, nextServe, at_ret, ready, takes, stays, if_true]

/-- An actor none of whose turns can be made is idle. -/
theorem idle_of_turns (started : c.phase ≠ .absent)
    (none : ∀ turn ∈ actorTurns, (next body c turn).isNone) : Idle body c := by
  intro l c' step
  obtain ⟨turn, hturn, h⟩ := exists_actorTurn started step
  have hnone := none turn hturn
  rw [h] at hnone
  cases hnone

/-- Every step is a turn. -/
theorem next_complete (step : Step body c l c') :
    ∃ turn, next body c turn = some (l, c') ∧ (l.isArrival = false → turn ∈ ownTurns) := by
  cases step with
  | parent alive step =>
    obtain ⟨turn, hturn, h⟩ := exists_parentTurn alive step
    exact ⟨turn, h, fun _ => hturn⟩
  | arrive f => exact ⟨.arrive f, rfl, fun h => by cases h⟩
  | actor started step =>
    obtain ⟨turn, hturn, h⟩ := exists_actorTurn started step
    exact ⟨turn, h, fun _ => List.mem_cons_of_mem _ (List.mem_cons_of_mem _ hturn)⟩

/-- A tandem can go on by itself if one of its threads can. -/
theorem canStep_iff : CanStep body c ↔ ∃ turn ∈ ownTurns, (next body c turn).isSome := by
  constructor
  · rintro ⟨l, c', step, hinside⟩
    obtain ⟨turn, h, hown⟩ := next_complete step
    exact ⟨turn, hown hinside, by rw [h]; rfl⟩
  · rintro ⟨turn, hown, hsome⟩
    obtain ⟨⟨l, c'⟩, h⟩ := Option.isSome_iff_exists.mp hsome
    exact ⟨l, c', (next_sound h).1, (next_sound h).2 hown⟩

instance decidableCanStep : Decidable (CanStep body c) := decidable_of_iff _ canStep_iff.symm

/-! ## Runs -/

theorem Run.trans (run : Run body c ls c') (run' : Run body c' ls' c'') :
    Run body c (ls ++ ls') c'' := by
  induction run' with
  | refl => rwa [List.append_nil]
  | snoc _ step ih =>
    rw [← List.append_assoc]
    exact ih.snoc step

/-- **A list of turns makes a run.** -/
theorem drive_run {turns : List (Turn φ)} (h : drive body turns c = some (ls, c')) :
    Run body c ls c' := by
  induction turns generalizing c ls with
  | nil =>
    cases h
    exact .refl
  | cons turn turns ih =>
    obtain ⟨⟨l, c₁⟩, hnext, h⟩ := Option.bind_eq_some_iff.mp h
    obtain ⟨⟨ls, c₂⟩, hdrive, hpair⟩ := Option.map_eq_some_iff.mp h
    cases hpair
    exact Run.trans (.snoc .refl (next_sound hnext).1) (ih hdrive)

/-- Turns that lead somewhere make a run that leads there. -/
theorem exists_run (turns : List (Turn φ)) {p : List (Label β γ φ ω) → Tandem β γ φ ω σ → Bool}
    (h : (drive body turns c).any (fun x => p x.1 x.2) = true) :
    ∃ ls c', Run body c ls c' ∧ p ls c' = true := by
  cases hdrive : drive body turns c with
  | none => simp [hdrive] at h
  | some x => exact ⟨x.1, x.2, drive_run hdrive, by simpa [hdrive] using h⟩

end Tandem
end Interaction
