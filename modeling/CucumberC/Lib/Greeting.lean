import CucumberC.Lib.Ensemble

/-!
# Programs that speak first

A program that joins may say so before anybody asks it. While this greeting is on the way to
the client, nothing else gets there from the same program, whatever the order of the steps, and
even if programs leave and what they have sent is lost. So the client receives a greeting
before it receives anything else (`Run.greeted`).

## Main definitions

* `Hushed`: a program that says nothing more when it leaves.
* `Greets`: a greeting is the next message from an identity.
-/

namespace Interaction
universe u

variable {ι β γ φ ω ω' σ α : Type u}

namespace Ensemble

/-- If the program is gone then it takes output only. -/
def Hushed (t : Tandem β γ φ ω' σ) : Prop := t.Gone → ∃ s, Finishing t.thread s

/-- Programs that quit discreetly are hushed. -/
theorem Hushed.step {body : ActorBody γ φ ω' σ} (discreet : Discreet body)
    {t t' : Tandem β γ φ ω' σ} {l : Tandem.Label β γ φ ω'} (h : Hushed t)
    (step : Tandem.Step body t l t') : Hushed t' := by
  intro gone
  cases step with
  | arrive => exact h gone
  | parent _ step =>
    cases step with
    | start => rcases gone with gone | gone <;> cases gone
    | await | act | tell | release | gone => exact h gone
  | actor _ step =>
    cases step with
    | move move =>
      have before : t.Gone := by
        rw [Tandem.Gone, ← move.frame.2.1]
        exact gone
      obtain ⟨s, finishing⟩ := h before
      cases move with
      | put at_put =>
        rw [at_put] at finishing
        cases finishing with
        | put rest => exact ⟨s, rest⟩
      | send at_send =>
        rw [at_send] at finishing
        cases finishing
      | take at_recv =>
        rw [at_recv] at finishing
        cases finishing
    | begin => rcases gone with gone | gone <;> cases gone
    | hear serving | serve serving =>
      have here : t.phase = .stopping ∨ t.phase = .exited := gone
      rw [serving] at here
      rcases here with here | here <;> cases here
    | stop => exact discreet.finish _
    | @exit s _ at_ret =>
      have finishing : Finishing t.thread s := at_ret ▸ .ret s
      exact ⟨s, finishing⟩

/-- The next message from an identity, if there is one, is the greeting: nobody is there, or the
greeting is on the way, or it was lost with all that came after it. -/
inductive Greets (hello : List φ) : Option (Tandem β γ φ ω' σ) → List (List φ) → Prop
  | nobody : Greets hello none []
  | first {t rest} (hushed : Hushed t) : Greets hello (some t) (hello :: rest)
  | lost {t} (hushed : Hushed t) (gone : t.Gone) : Greets hello (some t) []

variable [DecidableEq ι] {bodies : ι → ActorBody γ φ ω' σ} {hello : List φ}
variable {c₀ c c' : Ensemble ι β γ φ ω ω' σ α} {l : Label ι β γ φ ω ω'}
variable {ls : List (Label ι β γ φ ω ω')}

/-- A message arrives at a program. -/
theorem Greets.deliver {o : Option (Tandem β γ φ ω' σ)} {out : List (List φ)}
    (h : Greets hello o out) (m : List φ) : Greets hello (o.map (Tandem.deliver m)) out := by
  cases h with
  | nobody => exact .nobody
  | first hushed => exact .first hushed
  | lost hushed gone => exact .lost hushed gone

/-- **One step** leaves the greetings in front, or the client receives one. -/
theorem Step.greeted (discreet : ∀ i, Discreet (bodies i))
    (greets : ∀ i, Greets hello (c.member i) (c.outbound i)) (step : Step bodies c l c') :
    receivedIn l.event.toList = [] ∧ (∀ i, Greets hello (c'.member i) (c'.outbound i)) ∨
      ∃ i, receivedIn l.event.toList = [(i, hello)] := by
  cases step with
  | put => exact .inl ⟨rfl, greets⟩
  | @send i m k =>
    refine .inl ⟨rfl, fun j => ?_⟩
    by_cases hj : j = i
    · subst hj
      simpa using (greets j).deliver m
    · simpa [Function.update_of_ne hj] using greets j
  | @recv i m rest k _ ready =>
    have hi := greets i
    rw [ready] at hi
    generalize c.member i = o at hi
    cases hi with
    | first => exact .inr ⟨i, rfl⟩
  | @member i t l t' there step =>
    refine .inl ⟨rfl, fun j => ?_⟩
    by_cases hj : j = i
    · subst hj
      have hi := greets j
      rw [there] at hi
      generalize c.outbound j = out at hi
      cases hi with
      | first hushed => simpa using Greets.first (hushed.step (discreet j) step)
      | lost hushed gone =>
        obtain ⟨s, finishing⟩ := hushed gone
        have silent := silent_of_finishing finishing step
        simpa [silent] using Greets.lost (hushed.step (discreet j) step) (gone.step step)
    · simpa [Function.update_of_ne hj] using greets j
  | @lose i t kept m there gone last =>
    refine .inl ⟨rfl, fun j => ?_⟩
    by_cases hj : j = i
    · subst hj
      have hi := greets j
      rw [there, last] at hi
      simp only [there, Function.update_self]
      cases kept with
      | nil =>
        cases hi with
        | first hushed => exact .lost hushed gone
      | cons first kept =>
        cases hi with
        | first hushed => exact .first hushed
    · simpa [Function.update_of_ne hj] using greets j

/-- **A client that receives anything** receives a greeting. -/
theorem Run.greeted (discreet : ∀ i, Discreet (bodies i))
    (greets : ∀ i, Greets hello (c₀.member i) (c₀.outbound i)) (run : Run bodies c₀ ls c) :
    receivedIn (clientEvents ls) = [] ∨ ∃ i, (i, hello) ∈ receivedIn (clientEvents ls) := by
  suffices hinv : receivedIn (clientEvents ls) = [] ∧
        (∀ i, Greets hello (c.member i) (c.outbound i)) ∨
      ∃ i, (i, hello) ∈ receivedIn (clientEvents ls) from hinv.imp_left And.left
  induction run with
  | refl => exact .inl ⟨rfl, greets⟩
  | snoc _ step ih =>
    rw [clientEvents_snoc, receivedIn_append]
    obtain ⟨nothing, greets'⟩ | ⟨i, hi⟩ := ih
    · obtain ⟨none_now, greets''⟩ | ⟨i, hi⟩ := step.greeted discreet greets'
      · exact .inl ⟨by rw [nothing, none_now]; rfl, greets''⟩
      · exact .inr ⟨i, by simp [hi]⟩
    · exact .inr ⟨i, List.mem_append_left _ hi⟩

end Ensemble
end Interaction
