import CucumberC.Lib.Log
import Mathlib.Data.List.Nodup

/-!
# Families of machines

A world that is a family, with one part for each index, and loops of two kinds over it. A
loop over distinct indices that touches one part in each turn does at each index what a
single turn does. A loop in which every turn moves all parts, each by itself, is a family
of loops: what happens at an index can be told without the others.

## Main definitions

* `logEach_distinct`: loops over distinct indices.
* `together`, `logEach_together`: machines that run side by side.
-/

namespace Interaction
universe u v w

section Distinct
variable {ι κ : Type v} {τ : Type w} {f : (ι → τ) → ι → (ι → τ) × κ}

/-- A part whose index is not in the list is left alone. -/
theorem logEach_elsewhere (elsewhere : ∀ e i j, j ≠ i → (f e i).1 j = e j) {xs : List ι} {j : ι}
    (hj : j ∉ xs) (e : ι → τ) : (logEach f e xs).1 j = e j := by
  induction xs generalizing e with
  | nil => rfl
  | cons i xs ih =>
    rw [List.mem_cons, not_or] at hj
    rw [logEach_cons, ih hj.2, elsewhere e i j hj.1]

/-- **One turn for each index.** If a turn changes its own part only, turns it from `P` to
`Q` and makes an entry that is known, then a loop over distinct indices turns all of them
from `P` to `Q`, and its log is known. -/
theorem logEach_distinct {P Q : ι → τ → Prop} {entry : ι → κ}
    (elsewhere : ∀ e i j, j ≠ i → (f e i).1 j = e j) {xs : List ι} (distinct : xs.Nodup)
    (here : ∀ e i, i ∈ xs → P i (e i) → Q i ((f e i).1 i) ∧ (f e i).2 = entry i) {e : ι → τ}
    (start : ∀ i ∈ xs, P i (e i)) :
    (∀ i ∈ xs, Q i ((logEach f e xs).1 i)) ∧ (logEach f e xs).2 = xs.map entry := by
  induction xs generalizing e with
  | nil => exact ⟨by simp, rfl⟩
  | cons i xs ih =>
    obtain ⟨hi, distinct⟩ := List.nodup_cons.mp distinct
    obtain ⟨hQ, hentry⟩ := here e i (by simp) (start i (by simp))
    have others : ∀ j ∈ xs, P j ((f e i).1 j) := by
      intro j hj
      have hji : j ≠ i := by
        rintro rfl
        exact hi hj
      rw [elsewhere e i j hji]
      exact start j (List.mem_cons_of_mem _ hj)
    obtain ⟨hrest, hlog⟩ := ih distinct
      (fun e j hj => here e j (List.mem_cons_of_mem _ hj)) others
    refine ⟨fun j hj => ?_, by rw [logEach_cons, List.map_cons, hentry, hlog]⟩
    rcases List.mem_cons.mp hj with rfl | hj
    · rw [logEach_cons, logEach_elsewhere elsewhere hi]
      exact hQ
    · exact hrest j hj

/-- One turn for each index, without a log. -/
theorem foldl_distinct {P Q : ι → τ → Prop} {h : (ι → τ) → ι → ι → τ}
    (elsewhere : ∀ e i j, j ≠ i → h e i j = e j) {xs : List ι} (distinct : xs.Nodup)
    (here : ∀ e i, i ∈ xs → P i (e i) → Q i (h e i i)) {e : ι → τ}
    (start : ∀ i ∈ xs, P i (e i)) : ∀ i ∈ xs, Q i (xs.foldl h e i) := by
  have turns := logEach_distinct (f := fun e i => (h e i, i)) elsewhere distinct
    (fun e i hi hP => ⟨here e i hi hP, rfl⟩) start
  rw [logEach_self] at turns
  exact turns.1

end Distinct

section Together
variable {ι τ α κ : Type u} (g : ι → τ → α → τ × κ)

/-- All machines of a family take the same input, each in its own state. -/
def together (e : ι → τ) (x : α) : (ι → τ) × (ι → κ) :=
  (fun i => (g i (e i) x).1, fun i => (g i (e i) x).2)

/-- **Machines that run side by side** do what each of them does alone. -/
theorem logEach_together (e : ι → τ) (xs : List α) (i : ι) :
    (logEach (together g) e xs).1 i = (logEach (g i) (e i) xs).1 ∧
      (logEach (together g) e xs).2.map (fun entry => entry i) =
        (logEach (g i) (e i) xs).2 := by
  induction xs generalizing e with
  | nil => exact ⟨rfl, rfl⟩
  | cons x xs ih =>
    obtain ⟨hstate, hlog⟩ := ih (together g e x).1
    refine ⟨hstate, ?_⟩
    rw [logEach_cons, logEach_cons, List.map_cons, hlog]
    rfl

end Together
end Interaction
