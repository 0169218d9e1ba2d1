import CucumberC.Lib.Cursor

/-!
# Programs that keep to themselves

A program that neither sends nor receives does the same whoever is on the other side.
`Solitary φ p` says that of `p`, and that whatever it returns satisfies `φ`; it is built
with one rule for each construct, and a loop needs an invariant.

## Main definitions

* `Solitary φ p`: no messages, and a postcondition.
* `Solitary.exec`: what it says of an execution.
-/

namespace Interaction
universe u v w

variable {ω ι μ : Type u} {α β : Type v}

/-- Nothing is sent and nothing is received, and a returned value satisfies `φ`. -/
inductive Solitary (φ : α → Prop) : Prog ω ι μ α → Prop
  | ret {a : α} (h : φ a) : Solitary φ (.ret a)
  | put {o : ω} {k : Prog ω ι μ α} (rest : Solitary φ k) : Solitary φ (.put o k)
  | fault (why : Fault) : Solitary φ (.fault why)
  | spin : Solitary φ .spin

namespace Solitary
variable {φ : α → Prop} {ψ : β → Prop}

theorem bind {p : Prog ω ι μ α} {f : α → Prog ω ι μ β} (hp : Solitary φ p)
    (hf : ∀ a, φ a → Solitary ψ (f a)) : Solitary ψ (p >>= f) := by
  induction hp with
  | ret h => exact hf _ h
  | put _ ih => exact .put ih
  | fault why => exact .fault why
  | spin => exact .spin

theorem output (o : ω) : Solitary (fun _ => True) (Prog.output o : Prog ω ι μ PUnit) :=
  .put (.ret trivial)

theorem ofExcept (x : Except Fault α) :
    Solitary (fun a => x = .ok a) (Prog.ofExcept x : Prog ω ι μ α) := by
  cases x with
  | ok a => exact .ret rfl
  | error why => exact .fault why

theorem foldlM {body : β → α → Prog ω ι μ β} (turn : ∀ b x, ψ b → Solitary ψ (body b x))
    (xs : List α) {b : β} (start : ψ b) : Solitary ψ (xs.foldlM body b) := by
  induction xs generalizing b with
  | nil => exact .ret start
  | cons x xs ih =>
    rw [List.foldlM_cons]
    exact (turn b x start).bind fun b => ih

theorem forEach {body : β → α → Prog ω ι μ β} (turn : ∀ b x, ψ b → Solitary ψ (body b x))
    (l : CursorList α) {b : β} (start : ψ b) : Solitary ψ (forEach l body b) := by
  rw [forEach_eq_foldlM]
  exact foldlM turn l.items start

theorem walk {L : Type v} {advance : L → Option α × L} {body : β → α → Prog ω ι μ β}
    (turn : ∀ b x, ψ b → Solitary ψ (body b x)) (fuel : ℕ) (x : Option α) (l : L) {b : β}
    (start : ψ b) : Solitary (fun last => ψ last.2) (walk advance body fuel x l b) := by
  induction fuel generalizing x l b with
  | zero =>
    cases x with
    | none => exact .ret start
    | some x => exact .spin
  | succ fuel ih =>
    cases x with
    | none => exact .ret start
    | some x => exact (turn b x start).bind fun b hb => ih _ _ hb

/-- **An execution of a solitary program** sends nothing and returns as promised, whatever
is on the other side. -/
theorem exec {ε : Type w} {p : Prog ω ι μ α} (h : Solitary φ p) (respond : ε → μ → ε × List ι)
    (e : ε) (inbox : List ι) :
    sentIn (p.exec respond e inbox).trace = [] ∧
      ∀ a, (p.exec respond e inbox).result = .returned a → φ a := by
  induction h with
  | ret h =>
    refine ⟨rfl, fun a ha => ?_⟩
    cases ha
    exact h
  | put _ ih => exact ih
  | fault why => exact ⟨rfl, fun a ha => by cases ha⟩
  | spin => exact ⟨rfl, fun a ha => by cases ha⟩

end Solitary
end Interaction
