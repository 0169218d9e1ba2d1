import CucumberC.Lib.Network
import CucumberC.Lib.Cursor
import Mathlib.Data.List.Forall2

/-!
# What a program may return

`MayReturn p t a`: there is an environment in which `p` shows the trace `t` and then
returns `a`. Nothing is assumed of the environment. It may send what it likes, whenever
it likes, so what holds of everything a program may return holds of every execution
against a responder (`MayReturn.of_exec`) and of every run of a network in which the
program is the client (`RunWhere.mayReturn`).

A program is taken apart along its constructs. `MayReturn.foldlM_inv` does so for a
loop: if each turn that returns has made the entry of a log, then the loop has made a
log. Traces are compared with those of the log up to a relation that is kept by
concatenation, because an environment may add what the program does not look at.

## Main definitions

* `MayReturn`: traces and results in any environment.
* `MayReturn.bind_inv`, `MayReturn.foldlM_inv`, `MayReturn.walk_inv`: inversion.
-/

namespace Interaction
universe u v w

variable {ω ι μ : Type u} {α β κ : Type v}

/-- In some environment the program shows the trace and returns the value. -/
inductive MayReturn : Prog ω ι μ α → List (Event ω ι μ) → α → Prop
  | ret (a : α) : MayReturn (.ret a) [] a
  | put {o : ω} {k : Prog ω ι μ α} {t : List (Event ω ι μ)} {a : α} (rest : MayReturn k t a) :
      MayReturn (.put o k) (.put o :: t) a
  | send {m : μ} {k : Prog ω ι μ α} {t : List (Event ω ι μ)} {a : α} (rest : MayReturn k t a) :
      MayReturn (.send m k) (.sent m :: t) a
  | recv {k : ι → Prog ω ι μ α} {x : ι} {t : List (Event ω ι μ)} {a : α}
      (rest : MayReturn (k x) t a) : MayReturn (.recv k) (.received x :: t) a

namespace MayReturn
variable {p : Prog ω ι μ α} {t : List (Event ω ι μ)} {a : α} {b : β}

theorem ret_inv {a' : α} (h : MayReturn (.ret a : Prog ω ι μ α) t a') : t = [] ∧ a' = a := by
  cases h
  exact ⟨rfl, rfl⟩

theorem pure_inv {a' : α} (h : MayReturn (pure a : Prog ω ι μ α) t a') : t = [] ∧ a' = a :=
  h.ret_inv

/-- A request and the message that is taken for its answer, whatever it is. -/
theorem ask_inv {m : μ} {k : ι → Prog ω ι μ α} (h : MayReturn (.send m (.recv k)) t a) :
    ∃ x t', t = .sent m :: .received x :: t' ∧ MayReturn (k x) t' a := by
  cases h with
  | send rest =>
    cases rest with
    | recv rest => exact ⟨_, _, rfl, rest⟩

theorem deref_inv {x : Option α} (h : MayReturn (Prog.deref x : Prog ω ι μ α) t a) :
    t = [] ∧ x = some a := by
  cases x with
  | none => cases h
  | some x =>
    obtain ⟨rfl, rfl⟩ := h.ret_inv
    exact ⟨rfl, rfl⟩

theorem ofExcept_inv {x : Except Fault α} (h : MayReturn (Prog.ofExcept x : Prog ω ι μ α) t a) :
    t = [] ∧ x = .ok a := by
  cases x with
  | error why => cases h
  | ok x =>
    obtain ⟨rfl, rfl⟩ := h.ret_inv
    exact ⟨rfl, rfl⟩

theorem not_fault {why : Fault} : ¬ MayReturn (.fault why : Prog ω ι μ α) t a := by
  rintro ⟨⟩

theorem not_spin : ¬ MayReturn (.spin : Prog ω ι μ α) t a := by
  rintro ⟨⟩

/-- A sequence returns if both parts do. -/
theorem bind {f : α → Prog ω ι μ β} {t' : List (Event ω ι μ)} (h : MayReturn p t a)
    (h' : MayReturn (f a) t' b) : MayReturn (p >>= f) (t ++ t') b := by
  induction h with
  | ret a => exact h'
  | put _ ih => exact .put (ih h')
  | send _ ih => exact .send (ih h')
  | recv _ ih => exact .recv (ih h')

theorem bind_inv {f : α → Prog ω ι μ β} (h : MayReturn (p >>= f) t b) :
    ∃ t₁ a t₂, t = t₁ ++ t₂ ∧ MayReturn p t₁ a ∧ MayReturn (f a) t₂ b := by
  induction p generalizing t with
  | ret a => exact ⟨[], a, t, rfl, .ret a, h⟩
  | put o k ih =>
    cases h with
    | put rest =>
      obtain ⟨t₁, a, t₂, rfl, hk, hf⟩ := ih rest
      exact ⟨_, a, t₂, rfl, .put hk, hf⟩
  | send m k ih =>
    cases h with
    | send rest =>
      obtain ⟨t₁, a, t₂, rfl, hk, hf⟩ := ih rest
      exact ⟨_, a, t₂, rfl, .send hk, hf⟩
  | recv k ih =>
    cases h with
    | recv rest =>
      obtain ⟨t₁, a, t₂, rfl, hk, hf⟩ := ih _ rest
      exact ⟨_, a, t₂, rfl, .recv hk, hf⟩
  | fault why => cases h
  | spin => cases h

/-- An output in front of a program. -/
theorem output_bind_inv {o : ω} {f : PUnit.{v + 1} → Prog ω ι μ β}
    (h : MayReturn (Prog.output o >>= f) t b) :
    ∃ t', t = .put o :: t' ∧ MayReturn (f ⟨⟩) t' b := by
  cases h with
  | put rest => exact ⟨_, rfl, rest⟩

/-! ## Loops -/

/-- **A loop that returns has made a log.** Each turn that returns has made an entry that
fits its element and determines the state after it, and its trace is like that of the
entry. -/
theorem foldlM_inv (like : List (Event ω ι μ) → List (Event ω ι μ) → Prop) (nil : like [] [])
    (append : ∀ {t₁ t₂ s₁ s₂}, like t₁ s₁ → like t₂ s₂ → like (t₁ ++ t₂) (s₁ ++ s₂))
    {body : β → α → Prog ω ι μ β} (fits : α → κ → Prop) (g : β → κ → β)
    (trace : κ → List (Event ω ι μ))
    (turn : ∀ b x t b', MayReturn (body b x) t b' →
      ∃ entry, fits x entry ∧ b' = g b entry ∧ like t (trace entry))
    (xs : List α) {b' : β} (h : MayReturn (xs.foldlM body b) t b') :
    ∃ log, List.Forall₂ fits xs log ∧ b' = log.foldl g b ∧ like t (log.flatMap trace) := by
  induction xs generalizing b t with
  | nil =>
    obtain ⟨rfl, rfl⟩ := h.pure_inv
    exact ⟨[], .nil, rfl, nil⟩
  | cons x xs ih =>
    rw [List.foldlM_cons] at h
    obtain ⟨t₁, b₁, t₂, rfl, head, tail⟩ := h.bind_inv
    obtain ⟨entry, hfits, rfl, hlike⟩ := turn _ _ _ _ head
    obtain ⟨log, hlog, rfl, hlikes⟩ := ih tail
    exact ⟨entry :: log, .cons hfits hlog, rfl, append hlike hlikes⟩

/-- A loop that advances a cursor over elements that are known returns what the fold over
them returns. -/
theorem walk_inv {L : Type v} {advance : L → Option α × L} {body : β → α → Prog ω ι μ β}
    {x : Option α} {l l' : L} {xs : List α} (enum : Enumerates advance x l xs l') {fuel : ℕ}
    (enough : xs.length ≤ fuel) {last : L × β}
    (h : MayReturn (walk advance body fuel x l b) t last) :
    last.1 = l' ∧ MayReturn (xs.foldlM body b) t last.2 := by
  rw [walk_eq_foldlM body enum enough] at h
  obtain ⟨t₁, b', t₂, rfl, hfold, hlast⟩ := h.bind_inv
  obtain ⟨rfl, rfl⟩ := hlast.pure_inv
  exact ⟨rfl, by rwa [List.append_nil]⟩

/-! ## Environments -/

/-- What an execution against a responder returns, the program may return. -/
theorem of_exec {ε : Type w} {respond : ε → μ → ε × List ι} {e e' : ε} {inbox inbox' : List ι}
    (h : p.exec respond e inbox = ⟨.returned a, e', inbox', t⟩) : MayReturn p t a := by
  induction p generalizing e inbox t with
  | ret b =>
    simp only [Prog.exec_ret, Outcome.mk.injEq, Result.returned.injEq] at h
    obtain ⟨rfl, -, -, rfl⟩ := h
    exact .ret b
  | put o k ih =>
    rw [Prog.exec_put] at h
    obtain ⟨t', rfl, h'⟩ := Outcome.of_after h
    exact .put (ih h')
  | send m k ih =>
    rw [Prog.exec_send] at h
    obtain ⟨t', rfl, h'⟩ := Outcome.of_after h
    exact .send (ih h')
  | recv k ih =>
    cases inbox with
    | nil => simp at h
    | cons x inbox =>
      rw [Prog.exec_recv_cons] at h
      obtain ⟨t', rfl, h'⟩ := Outcome.of_after h
      exact .recv (ih x h')
  | fault why => simp at h
  | spin => simp at h

/-- What the program may return, it returns alone, given what it received. -/
theorem exec_nobody (h : MayReturn p t a) :
    p.exec Prog.nobody () (receivedIn t) = ⟨.returned a, (), [], t⟩ := by
  induction h with
  | ret => rfl
  | put _ ih => exact congrArg (Outcome.after [.put _]) ih
  | send _ ih =>
    rw [Prog.exec_send, receivedIn_sent_cons, Prog.nobody_eq, List.append_nil, ih]
    rfl
  | recv _ ih => exact congrArg (Outcome.after [.received _]) ih

/-- A program that returns without having received anything may return nothing else. -/
theorem eq_of_exec_nobody {e : Unit} {a' : α} {t' : List (Event ω ι μ)}
    (h : p.exec Prog.nobody e [] = ⟨.returned a, (), [], t⟩) (h' : MayReturn p t' a') :
    t' = t ∧ a' = a := by
  induction p generalizing t t' with
  | ret b =>
    simp only [Prog.exec_ret, Outcome.mk.injEq, Result.returned.injEq] at h
    obtain ⟨rfl, -, -, rfl⟩ := h
    exact h'.ret_inv
  | put o k ih =>
    rw [Prog.exec_put] at h
    obtain ⟨t₁, rfl, hk⟩ := Outcome.of_after h
    cases h' with
    | put rest =>
      obtain ⟨rfl, rfl⟩ := ih hk rest
      exact ⟨rfl, rfl⟩
  | send m k ih =>
    rw [Prog.exec_send] at h
    obtain ⟨t₁, rfl, hk⟩ := Outcome.of_after h
    cases h' with
    | send rest =>
      obtain ⟨rfl, rfl⟩ := ih hk rest
      exact ⟨rfl, rfl⟩
  | recv k ih => simp at h
  | fault why => cases h'
  | spin => cases h'

/-- What a program has shown on its way comes first. -/
theorem prepend {p p' : Prog ω ι μ α} {t t' : List (Event ω ι μ)} {a : α} (way : p.Shows t p')
    (h : MayReturn p' t' a) : MayReturn p (t ++ t') a := by
  induction way generalizing t' with
  | refl => exact h
  | put _ ih => exact List.append_assoc .. ▸ ih (.put h)
  | send _ ih => exact List.append_assoc .. ▸ ih (.send h)
  | recv _ x ih => exact List.append_assoc .. ▸ ih (.recv h)

/-- What a program has returned on its way, it may return. -/
theorem of_shows {p : Prog ω ι μ α} {t : List (Event ω ι μ)} {a : α} (way : p.Shows t (.ret a)) :
    MayReturn p t a := by
  have h := prepend way (.ret a)
  rwa [List.append_nil] at h

end MayReturn

section Networks
variable {φ ω' σ : Type u} {A I Ω : Type u} [DecidableEq I]
variable {S : Service I φ ω' σ} {ok : Network I φ Ω ω' σ A → Label I φ Ω ω' → Prop}

/-- **What the client of a network has returned**, however the steps interleaved and
whoever joined, it may return. -/
theorem RunWhere.mayReturn {c₀ c : Network I φ Ω ω' σ A} {ls : List (Label I φ Ω ω')}
    (run : RunWhere S ok c₀ ls c) {a : A} (returned : c.client = .ret a) :
    MayReturn c₀.client (clientTrace ls) a :=
  .of_shows (returned ▸ run.shows)

end Networks
end Interaction
