import CucumberC.Lib.Network
import CucumberC.Lib.Cursor

/-!
# Programs that send from a script

`Sends p ms`: whatever `p` receives, it sends the messages `ms`, one after another, and
no others. It may die or wait before it comes to the last of them; once it has returned it
has sent them all. What such a program sends tells nothing about what it was told.

The predicate is built with one rule for each construct. `Sends.exec` and
`RunWhere.sends` read it off executions against a responder and off runs of a network in
which the program is the client, whoever its peers are.

## Main definitions

* `Sends p ms`: the script of a program.
* `Sends.exec`, `RunWhere.sends`: every environment sees a prefix of the script.
-/

namespace Interaction
universe u v w

variable {ω ι μ : Type u} {α β : Type v}

/-- Until it dies, the program sends these messages, whatever it receives. -/
inductive Sends : Prog ω ι μ α → List μ → Prop
  | ret (a : α) : Sends (.ret a) []
  | put {o : ω} {k : Prog ω ι μ α} {ms : List μ} (rest : Sends k ms) : Sends (.put o k) ms
  | send {m : μ} {k : Prog ω ι μ α} {ms : List μ} (rest : Sends k ms) :
      Sends (.send m k) (m :: ms)
  | recv {k : ι → Prog ω ι μ α} {ms : List μ} (rest : ∀ x, Sends (k x) ms) : Sends (.recv k) ms
  | fault (why : Fault) (ms : List μ) : Sends (.fault why) ms
  | spin (ms : List μ) : Sends .spin ms

namespace Sends

theorem bind {p : Prog ω ι μ α} {f : α → Prog ω ι μ β} {ms ms' : List μ} (hp : Sends p ms)
    (hf : ∀ a, Sends (f a) ms') : Sends (p >>= f) (ms ++ ms') := by
  induction hp with
  | ret a => exact hf a
  | put _ ih => exact .put ih
  | send _ ih => exact .send ih
  | recv _ ih => exact .recv ih
  | fault why ms => exact .fault why _
  | spin ms => exact .spin _

/-- A first part that sends nothing. -/
theorem silent_bind {p : Prog ω ι μ α} {f : α → Prog ω ι μ β} {ms : List μ} (hp : Sends p [])
    (hf : ∀ a, Sends (f a) ms) : Sends (p >>= f) ms := hp.bind hf

/-- A second part that sends nothing. -/
theorem bind_silent {p : Prog ω ι μ α} {f : α → Prog ω ι μ β} {ms : List μ} (hp : Sends p ms)
    (hf : ∀ a, Sends (f a) []) : Sends (p >>= f) ms := by
  rw [← List.append_nil ms]
  exact hp.bind hf

theorem output (o : ω) : Sends (Prog.output o : Prog ω ι μ PUnit.{v + 1}) [] := .put (.ret _)

/-- A computation without effects sends nothing. If it fails then what comes after it is
not sent either, so that anything may stand in its place. -/
theorem ofExcept_bind {x : Except Fault α} {f : α → Prog ω ι μ β} {ms : List μ}
    (h : ∀ a, x = .ok a → Sends (f a) ms) : Sends (Prog.ofExcept x >>= f) ms := by
  cases x with
  | ok a => exact h a rfl
  | error why => exact .fault why ms

theorem deref (x : Option α) : Sends (Prog.deref x : Prog ω ι μ α) [] := by
  cases x with
  | some a => exact .ret a
  | none => exact .fault .nullPointer []

theorem foldlM {body : β → α → Prog ω ι μ β} {script : α → List μ} {xs : List α}
    (turn : ∀ b x, x ∈ xs → Sends (body b x) (script x)) (b : β) :
    Sends (xs.foldlM body b) (xs.flatMap script) := by
  induction xs generalizing b with
  | nil => exact .ret b
  | cons x xs ih =>
    rw [List.foldlM_cons, List.flatMap_cons]
    exact (turn b x (by simp)).bind (ih fun b y hy => turn b y (List.mem_cons_of_mem _ hy))

theorem forEach {body : β → α → Prog ω ι μ β} {script : α → List μ}
    (turn : ∀ b x, Sends (body b x) (script x)) (l : CursorList α) (b : β) :
    Sends (forEach l body b) (l.items.flatMap script) := by
  rw [forEach_eq_foldlM]
  exact foldlM (fun b x _ => turn b x) b

theorem walk {L : Type v} {advance : L → Option α × L} {body : β → α → Prog ω ι μ β}
    {script : α → List μ} {x : Option α} {l l' : L} {xs : List α}
    (enum : Enumerates advance x l xs l') {fuel : ℕ} (enough : xs.length ≤ fuel)
    (turn : ∀ b x, x ∈ xs → Sends (body b x) (script x)) (b : β) :
    Sends (walk advance body fuel x l b) (xs.flatMap script) := by
  rw [walk_eq_foldlM body enum enough]
  exact (foldlM turn b).bind_silent fun b => .ret (l', b)

/-- A loop that never sends, however it advances. -/
theorem walk_nil {L : Type v} {advance : L → Option α × L} {body : β → α → Prog ω ι μ β}
    (turn : ∀ b x, Sends (body b x) []) (fuel : ℕ) (x : Option α) (l : L) (b : β) :
    Sends (Interaction.walk advance body fuel x l b) [] := by
  induction fuel generalizing x l b with
  | zero =>
    cases x with
    | none => exact .ret _
    | some x => exact .spin []
  | succ fuel ih =>
    cases x with
    | none => exact .ret _
    | some x => exact (turn b x).bind fun b => ih _ _ b

/-! ## What an environment sees -/

/-- **An execution** against a responder sends a prefix of the script, and all of it if the
program returns. -/
theorem exec {ε : Type w} {p : Prog ω ι μ α} {ms : List μ} (h : Sends p ms)
    (respond : ε → μ → ε × List ι) (e : ε) (inbox : List ι) :
    sentIn (p.exec respond e inbox).trace <+: ms ∧
      ∀ a, (p.exec respond e inbox).result = .returned a →
        sentIn (p.exec respond e inbox).trace = ms := by
  induction h generalizing e inbox with
  | ret a => exact ⟨List.prefix_rfl, fun _ _ => rfl⟩
  | put _ ih => exact ih e inbox
  | send _ ih =>
    obtain ⟨hfront, hall⟩ := ih (respond e _).1 (inbox ++ (respond e _).2)
    rw [Prog.exec_send]
    simp only [Outcome.trace_after, Outcome.result_after, List.singleton_append,
      sentIn_sent_cons]
    exact ⟨List.cons_prefix_cons.mpr ⟨rfl, hfront⟩, fun a ha => by rw [hall a ha]⟩
  | recv _ ih =>
    cases inbox with
    | nil => exact ⟨List.nil_prefix, fun a ha => by cases ha⟩
    | cons x inbox => exact ih x e inbox
  | fault why ms => exact ⟨List.nil_prefix, fun a ha => by cases ha⟩
  | spin ms => exact ⟨List.nil_prefix, fun a ha => by cases ha⟩

/-- **A program on its way** has sent a prefix of the script, and all of it if it has
returned. -/
theorem shows {p p' : Prog ω ι μ α} {ms : List μ} (h : Sends p ms) {t : List (Event ω ι μ)}
    (way : p.Shows t p') : sentIn t <+: ms ∧ ∀ a, p' = .ret a → sentIn t = ms := by
  suffices hrest : ∃ rest, Sends p' rest ∧ ms = sentIn t ++ rest by
    obtain ⟨rest, hrest, rfl⟩ := hrest
    refine ⟨List.prefix_append _ _, ?_⟩
    rintro a rfl
    cases hrest
    rw [List.append_nil]
  induction way with
  | refl => exact ⟨ms, h, rfl⟩
  | put _ ih =>
    obtain ⟨rest, hrest, rfl⟩ := ih
    cases hrest with
    | put rest => exact ⟨_, rest, by simp [sentIn]⟩
  | send _ ih =>
    obtain ⟨rest, hrest, rfl⟩ := ih
    cases hrest with
    | send rest => exact ⟨_, rest, by simp [sentIn]⟩
  | recv _ x ih =>
    obtain ⟨rest, hrest, rfl⟩ := ih
    cases hrest with
    | recv rest => exact ⟨_, rest x, by simp [sentIn]⟩

end Sends

section Networks
variable {φ ω' σ A I Ω : Type u} [DecidableEq I]
variable {S : Service I φ ω' σ} {ok : Network I φ Ω ω' σ A → Label I φ Ω ω' → Prop}

/-- **The client of a network** sends a prefix of its script, however the steps interleave
and whoever joins, and all of it if it returns. -/
theorem RunWhere.sends {c₀ c : Network I φ Ω ω' σ A} {ls : List (Label I φ Ω ω')}
    (run : RunWhere S ok c₀ ls c) {ms : List (I × List φ)} (h : Sends c₀.client ms) :
    sentIn (clientTrace ls) <+: ms ∧ ∀ a, c.client = .ret a → sentIn (clientTrace ls) = ms :=
  h.shows run.shows

end Networks
end Interaction
