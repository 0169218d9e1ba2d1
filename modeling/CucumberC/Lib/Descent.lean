import Mathlib.Data.Nat.Notation
import Mathlib.Logic.Relation

/-!
# Steps that commute

Where two different steps from one state can always be joined by one step each, the order
in which steps are made is without consequence: if making them in one order comes to an
end, then every order does, after as many steps and in the same state. To know how all
runs of a system end it is then enough to look at one of them.

## Main definitions

* `StepsIn r n a b`: `n` steps of `r`.
* `Commuting r I`: the diamond property, on the states that satisfy an invariant.
* `Commuting.descent`: all runs are as long as one that ends.
-/

namespace Interaction
universe u

variable {α : Type u} {r : α → α → Prop} {I : α → Prop} {a b z : α} {n m : ℕ}

/-- `n` steps lead from one state to another. -/
inductive StepsIn (r : α → α → Prop) : ℕ → α → α → Prop
  | refl (a : α) : StepsIn r 0 a a
  | head {n : ℕ} {a b c : α} (step : r a b) (rest : StepsIn r n b c) : StepsIn r (n + 1) a c

/-- No step leads on from here. -/
def Terminal (r : α → α → Prop) (z : α) : Prop := ∀ y, ¬ r z y

/-- Two different steps can be joined by one step each. -/
structure Commuting (r : α → α → Prop) (I : α → Prop) : Prop where
  keeps : ∀ {a b}, I a → r a b → I b
  diamond : ∀ {a b c}, I a → r a b → r a c → b = c ∨ ∃ d, r b d ∧ r c d

namespace StepsIn

theorem snoc {c : α} (h : StepsIn r n a b) (step : r b c) : StepsIn r (n + 1) a c := by
  induction h with
  | refl => exact .head step (.refl _)
  | head first _ ih => exact .head first (ih step)

theorem of_reflTransGen (h : Relation.ReflTransGen r a b) : ∃ n, StepsIn r n a b := by
  induction h with
  | refl => exact ⟨0, .refl _⟩
  | tail _ step ih =>
    obtain ⟨n, h⟩ := ih
    exact ⟨n + 1, h.snoc step⟩

end StepsIn

namespace Commuting

/-- Whatever step is made, the end is one step nearer. -/
theorem step_nearer (h : Commuting r I) (ha : I a) (step : r a b) (toEnd : StepsIn r n a z)
    (final : Terminal r z) : ∃ k, n = k + 1 ∧ StepsIn r k b z := by
  induction toEnd generalizing b with
  | refl => exact absurd step (final b)
  | @head k a c z step' rest ih =>
    obtain rfl | ⟨d, hbd, hcd⟩ := h.diamond ha step step'
    · exact ⟨k, rfl, rest⟩
    · obtain ⟨k', rfl, hdz⟩ := ih (h.keeps ha step') hcd final
      exact ⟨k' + 1, rfl, .head hbd hdz⟩

/-- **All runs are equally long.** If `n` steps lead to a state from which no step leads on,
then every run can be continued to that state, with `n` steps in all. -/
theorem descent (h : Commuting r I) (ha : I a) (toEnd : StepsIn r n a z) (final : Terminal r z)
    (run : StepsIn r m a b) : ∃ k, m + k = n ∧ StepsIn r k b z := by
  induction run generalizing n with
  | refl => exact ⟨n, Nat.zero_add n, toEnd⟩
  | @head m a c b step _ ih =>
    obtain ⟨k, rfl, nearer⟩ := h.step_nearer ha step toEnd final
    obtain ⟨k', rfl, rest⟩ := ih (h.keeps ha step) nearer
    exact ⟨k', by omega, rest⟩

end Commuting
end Interaction
