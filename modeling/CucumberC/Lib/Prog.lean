import Mathlib.Data.List.Basic
import Mathlib.Logic.Function.Basic

/-!
# Interactive programs

A process that prints, sends and receives is written as a `Prog`: the tree of the
effects it performs, with one branch for every message a receive may deliver. The
tree is finite, so a loop of the modelled program is a recursion that is shown to
end, or carries fuel and turns into `spin` when the fuel is used up.

The same tree has two readings. `exec` runs it alone against a peer that answers
every message at once; it is a total function, and `Runs` is its big-step form with
one rule for each construct. `Interaction.Network` runs it as one of several
processes whose steps interleave.

## Main definitions

* `Prog ω ι μ α`: output `ω`, incoming messages `ι`, outgoing messages `μ`, result `α`.
* `Shows`: how a program goes on among others, effect by effect.
* `exec`, `Outcome`: execution against a responder, with the trace of all effects.
* `Runs`: the executions that return.
-/

namespace Interaction
universe u v w

/-- Why a process dies. -/
inductive Fault
  | assertion
  | nullPointer
  deriving DecidableEq, Repr

/-- An interactive program, as the tree of its effects. -/
inductive Prog (ω ι μ : Type u) (α : Type v) : Type (max u v)
  | ret (a : α)
  | put (o : ω) (k : Prog ω ι μ α)
  | send (m : μ) (k : Prog ω ι μ α)
  | recv (k : ι → Prog ω ι μ α)
  | fault (why : Fault)
  | spin

/-- One observable effect of an execution. -/
inductive Event (ω ι μ : Type u)
  | put (o : ω)
  | sent (m : μ)
  | received (x : ι)
  deriving DecidableEq, Repr

/-- The messages a trace sends, in order. -/
def sentIn {ω ι μ : Type u} (t : List (Event ω ι μ)) : List μ :=
  t.filterMap fun
    | .sent m => some m
    | _ => none

@[simp] theorem sentIn_nil {ω ι μ : Type u} : sentIn ([] : List (Event ω ι μ)) = [] := rfl
@[simp] theorem sentIn_append {ω ι μ : Type u} (t t' : List (Event ω ι μ)) :
    sentIn (t ++ t') = sentIn t ++ sentIn t' := by simp [sentIn]

@[simp] theorem sentIn_put {ω ι μ : Type u} (os : List ω) :
    sentIn (os.map (Event.put : ω → Event ω ι μ)) = [] := by simp [sentIn]
@[simp] theorem sentIn_put_cons {ω ι μ : Type u} (o : ω) (t : List (Event ω ι μ)) :
    sentIn (.put o :: t) = sentIn t := rfl
theorem sentIn_sent_cons {ω ι μ : Type u} (m : μ) (t : List (Event ω ι μ)) :
    sentIn (.sent m :: t) = m :: sentIn t := rfl

/-- The messages of a loop are those of its turns, in order. -/
theorem sentIn_flatMap {ω ι μ : Type u} {α : Type v} (f : α → List (Event ω ι μ)) (xs : List α) :
    sentIn (xs.flatMap f) = xs.flatMap fun x => sentIn (f x) := List.filterMap_flatMap

/-- The messages a trace receives, in order. -/
def receivedIn {ω ι μ : Type u} (t : List (Event ω ι μ)) : List ι :=
  t.filterMap fun
    | .received x => some x
    | _ => none

@[simp] theorem receivedIn_append {ω ι μ : Type u} (t t' : List (Event ω ι μ)) :
    receivedIn (t ++ t') = receivedIn t ++ receivedIn t' := by simp [receivedIn]
@[simp] theorem receivedIn_received {ω ι μ : Type u} (xs : List ι) :
    receivedIn (xs.map (Event.received : ι → Event ω ι μ)) = xs := by
  simp [receivedIn]

@[simp] theorem receivedIn_put {ω ι μ : Type u} (os : List ω) :
    receivedIn (os.map (Event.put : ω → Event ω ι μ)) = [] := by simp [receivedIn]
theorem receivedIn_sent_cons {ω ι μ : Type u} (m : μ) (t : List (Event ω ι μ)) :
    receivedIn (.sent m :: t) = receivedIn t := rfl

/-- The output of a trace, in order. -/
def putIn {ω ι μ : Type u} (t : List (Event ω ι μ)) : List ω :=
  t.filterMap fun
    | .put o => some o
    | _ => none

@[simp] theorem putIn_nil {ω ι μ : Type u} : putIn ([] : List (Event ω ι μ)) = [] := rfl
@[simp] theorem putIn_append {ω ι μ : Type u} (t t' : List (Event ω ι μ)) :
    putIn (t ++ t') = putIn t ++ putIn t' := by simp [putIn]
@[simp] theorem putIn_put {ω ι μ : Type u} (os : List ω) :
    putIn (os.map (Event.put : ω → Event ω ι μ)) = os := by simp [putIn]
@[simp] theorem putIn_received {ω ι μ : Type u} (xs : List ι) :
    putIn (xs.map (Event.received : ι → Event ω ι μ)) = [] := by simp [putIn]
@[simp] theorem putIn_put_cons {ω ι μ : Type u} (o : ω) (t : List (Event ω ι μ)) :
    putIn (.put o :: t) = o :: putIn t := rfl

/-- The output of a loop is that of its turns, in order. -/
theorem putIn_flatMap {ω ι μ : Type u} {α : Type v} (f : α → List (Event ω ι μ)) (xs : List α) :
    putIn (xs.flatMap f) = xs.flatMap fun x => putIn (f x) := List.filterMap_flatMap

/-- How an execution ends. `blocked` waits for a message that never comes. -/
inductive Result (α : Type v)
  | returned (a : α)
  | faulted (why : Fault)
  | blocked
  | spinning
  deriving DecidableEq, Repr

/-- How an execution ends, without the value it returns. -/
def Result.ending {α : Type v} : Result α → Result Unit
  | returned _ => .returned ()
  | faulted why => .faulted why
  | blocked => .blocked
  | spinning => .spinning

/-- What an execution leaves behind. -/
structure Outcome (ω ι μ : Type u) (ε : Type w) (α : Type v) where
  result : Result α
  env : ε
  inbox : List ι
  trace : List (Event ω ι μ)
  deriving DecidableEq, Repr

namespace Prog
variable {ω ι μ : Type u} {α β γ : Type v}

/-- Sequencing grafts the continuation at every returned result. -/
def bind : Prog ω ι μ α → (α → Prog ω ι μ β) → Prog ω ι μ β
  | ret a, f => f a
  | put o k, f => put o (bind k f)
  | send m k, f => send m (bind k f)
  | recv k, f => recv fun x => bind (k x) f
  | fault why, _ => fault why
  | spin, _ => spin

instance : Monad (Prog ω ι μ) where
  pure := ret
  bind := bind

@[simp] theorem pure_eq (a : α) : (pure a : Prog ω ι μ α) = ret a := rfl
@[simp] theorem bind_eq (p : Prog ω ι μ α) (f : α → Prog ω ι μ β) : (p >>= f) = p.bind f := rfl
@[simp] theorem bind_ret (a : α) (f : α → Prog ω ι μ β) : (ret a : Prog ω ι μ α).bind f = f a := rfl
@[simp] theorem bind_put (o : ω) (k : Prog ω ι μ α) (f : α → Prog ω ι μ β) :
    (put o k).bind f = put o (k.bind f) := rfl
@[simp] theorem bind_send (m : μ) (k : Prog ω ι μ α) (f : α → Prog ω ι μ β) :
    (send m k).bind f = send m (k.bind f) := rfl
@[simp] theorem bind_recv (k : ι → Prog ω ι μ α) (f : α → Prog ω ι μ β) :
    (recv k).bind f = recv fun x => (k x).bind f := rfl
@[simp] theorem bind_fault (why : Fault) (f : α → Prog ω ι μ β) :
    (fault why : Prog ω ι μ α).bind f = fault why := rfl
@[simp] theorem bind_spin (f : α → Prog ω ι μ β) : (spin : Prog ω ι μ α).bind f = spin := rfl

theorem bind_assoc (p : Prog ω ι μ α) (f : α → Prog ω ι μ β) (g : β → Prog ω ι μ γ) :
    (p.bind f).bind g = p.bind fun a => (f a).bind g := by
  induction p with
  | ret a => rfl
  | put o k ih => simp only [bind_put, ih]
  | send m k ih => simp only [bind_send, ih]
  | recv k ih => simp only [bind_recv, ih]
  | fault why => rfl
  | spin => rfl

theorem bind_ret_right (p : Prog ω ι μ α) : p.bind ret = p := by
  induction p with
  | ret a => rfl
  | put o k ih => simp only [bind_put, ih]
  | send m k ih => simp only [bind_send, ih]
  | recv k ih => simp only [bind_recv, ih]
  | fault why => rfl
  | spin => rfl

instance : LawfulMonad (Prog ω ι μ) := LawfulMonad.mk' _
  (by intro α p; exact bind_ret_right p)
  (by intro α β a f; rfl)
  (by intro α β γ p f g; exact bind_assoc p f g)

/-- Emit one piece of output. -/
def output (o : ω) : Prog ω ι μ PUnit.{v + 1} := put o (ret ⟨⟩)

/-- Emit several pieces of output. -/
def outputs : List ω → Prog ω ι μ PUnit.{v + 1}
  | [] => ret ⟨⟩
  | o :: os => put o (outputs os)

/-- Send one message. -/
def post (m : μ) : Prog ω ι μ PUnit.{v + 1} := send m (ret ⟨⟩)

/-- Wait for the next message. -/
def await {ι : Type u} {ω μ : Type u} : Prog ω ι μ ι := recv ret

/-- Go on with the value of a computation that has no effect but may fault. -/
def ofExcept : Except Fault α → Prog ω ι μ α
  | .ok a => ret a
  | .error why => fault why

/-- Read through a pointer that may be null. -/
def deref : Option α → Prog ω ι μ α
  | none => fault .nullPointer
  | some a => ret a

@[simp] theorem deref_none : (deref none : Prog ω ι μ α) = fault .nullPointer := rfl
@[simp] theorem deref_some (a : α) : (deref (some a) : Prog ω ι μ α) = ret a := rfl
@[simp] theorem ofExcept_ok (a : α) : (ofExcept (.ok a) : Prog ω ι μ α) = ret a := rfl
@[simp] theorem ofExcept_error (why : Fault) :
    (ofExcept (.error why) : Prog ω ι μ α) = fault why := rfl
@[simp] theorem output_bind (o : ω) (f : PUnit → Prog ω ι μ β) :
    (output o).bind f = put o (f ⟨⟩) := rfl
@[simp] theorem post_bind (m : μ) (f : PUnit → Prog ω ι μ β) :
    (post m).bind f = send m (f ⟨⟩) := rfl
@[simp] theorem await_bind {β : Type u} (f : ι → Prog ω ι μ β) :
    (await : Prog ω ι μ ι).bind f = recv f := rfl

/-- The program shows the effects `t` on its way to a program that is left of it. -/
inductive Shows (p : Prog ω ι μ α) : List (Event ω ι μ) → Prog ω ι μ α → Prop
  | refl : Shows p [] p
  | put {t : List (Event ω ι μ)} {o : ω} {k : Prog ω ι μ α} (h : Shows p t (.put o k)) :
      Shows p (t ++ [.put o]) k
  | send {t : List (Event ω ι μ)} {m : μ} {k : Prog ω ι μ α} (h : Shows p t (.send m k)) :
      Shows p (t ++ [.sent m]) k
  | recv {t : List (Event ω ι μ)} {k : ι → Prog ω ι μ α} (h : Shows p t (.recv k)) (x : ι) :
      Shows p (t ++ [.received x]) (k x)

end Prog

/-! ## Execution against a responder

The peer is a state `ε` and a function that tells, for a message sent to it, its
next state and the messages that reach the inbox in consequence. -/

section Exec
variable {ω ι μ : Type u} {ε : Type w} {α β : Type v}

namespace Outcome

/-- Put earlier effects in front of the trace. -/
def after (t : List (Event ω ι μ)) (o : Outcome ω ι μ ε α) : Outcome ω ι μ ε α :=
  { o with trace := t ++ o.trace }

@[simp] theorem result_after (t : List (Event ω ι μ)) (o : Outcome ω ι μ ε α) :
    (o.after t).result = o.result := rfl
@[simp] theorem env_after (t : List (Event ω ι μ)) (o : Outcome ω ι μ ε α) :
    (o.after t).env = o.env := rfl
@[simp] theorem inbox_after (t : List (Event ω ι μ)) (o : Outcome ω ι μ ε α) :
    (o.after t).inbox = o.inbox := rfl
@[simp] theorem trace_after (t : List (Event ω ι μ)) (o : Outcome ω ι μ ε α) :
    (o.after t).trace = t ++ o.trace := rfl
@[simp] theorem after_nil (o : Outcome ω ι μ ε α) : o.after [] = o := rfl
@[simp] theorem after_after (t t' : List (Event ω ι μ)) (o : Outcome ω ι μ ε α) :
    (o.after t').after t = o.after (t ++ t') := by simp [after]

theorem of_after {t t' : List (Event ω ι μ)} {o : Outcome ω ι μ ε α} {r : Result α} {e : ε}
    {inbox : List ι} (h : o.after t = ⟨r, e, inbox, t'⟩) :
    ∃ t'', t' = t ++ t'' ∧ o = ⟨r, e, inbox, t''⟩ := by
  obtain ⟨r', e', inbox', t''⟩ := o
  obtain ⟨rfl, rfl, rfl, rfl⟩ := mk.inj h
  exact ⟨t'', rfl, rfl⟩

/-- Go on from a returned result; every other ending is final. -/
def andThen (o : Outcome ω ι μ ε α) (f : α → ε → List ι → Outcome ω ι μ ε β) :
    Outcome ω ι μ ε β :=
  match o.result with
  | .returned a => (f a o.env o.inbox).after o.trace
  | .faulted why => ⟨.faulted why, o.env, o.inbox, o.trace⟩
  | .blocked => ⟨.blocked, o.env, o.inbox, o.trace⟩
  | .spinning => ⟨.spinning, o.env, o.inbox, o.trace⟩

@[simp] theorem andThen_returned (a : α) (e : ε) (inbox : List ι) (t : List (Event ω ι μ))
    (f : α → ε → List ι → Outcome ω ι μ ε β) :
    (⟨.returned a, e, inbox, t⟩ : Outcome ω ι μ ε α).andThen f = (f a e inbox).after t := rfl

theorem after_andThen (t : List (Event ω ι μ)) (o : Outcome ω ι μ ε α)
    (f : α → ε → List ι → Outcome ω ι μ ε β) : (o.after t).andThen f = (o.andThen f).after t := by
  rcases o with ⟨_ | _ | _ | _, e, inbox, t'⟩ <;> simp [andThen, after]

end Outcome

namespace Prog

/-- Run a program alone against a responder. -/
def exec (respond : ε → μ → ε × List ι) : Prog ω ι μ α → ε → List ι → Outcome ω ι μ ε α
  | ret a, e, inbox => ⟨.returned a, e, inbox, []⟩
  | put o k, e, inbox => (exec respond k e inbox).after [.put o]
  | send m k, e, inbox =>
      (exec respond k (respond e m).1 (inbox ++ (respond e m).2)).after [.sent m]
  | recv _, e, [] => ⟨.blocked, e, [], []⟩
  | recv k, e, x :: inbox => (exec respond (k x) e inbox).after [.received x]
  | fault why, e, inbox => ⟨.faulted why, e, inbox, []⟩
  | spin, e, inbox => ⟨.spinning, e, inbox, []⟩

variable (respond : ε → μ → ε × List ι) (e : ε) (inbox : List ι)

@[simp] theorem exec_ret (a : α) :
    exec respond (ret a : Prog ω ι μ α) e inbox = ⟨.returned a, e, inbox, []⟩ := by
  simp [exec]
@[simp] theorem exec_put (o : ω) (k : Prog ω ι μ α) :
    exec respond (put o k) e inbox = (exec respond k e inbox).after [.put o] := by
  simp [exec]
@[simp] theorem exec_send (m : μ) (k : Prog ω ι μ α) :
    exec respond (send m k) e inbox =
      (exec respond k (respond e m).1 (inbox ++ (respond e m).2)).after [.sent m] := by
  simp [exec]
@[simp] theorem exec_recv_nil (k : ι → Prog ω ι μ α) :
    exec respond (recv k) e [] = ⟨.blocked, e, [], []⟩ := by simp [exec]
@[simp] theorem exec_recv_cons (k : ι → Prog ω ι μ α) (x : ι) :
    exec respond (recv k) e (x :: inbox) =
      (exec respond (k x) e inbox).after [.received x] := by simp [exec]
@[simp] theorem exec_fault (why : Fault) :
    exec respond (fault why : Prog ω ι μ α) e inbox = ⟨.faulted why, e, inbox, []⟩ := by
  simp [exec]
@[simp] theorem exec_spin :
    exec respond (spin : Prog ω ι μ α) e inbox = ⟨.spinning, e, inbox, []⟩ := by simp [exec]

/-- Execution of a sequence: the second part starts in the world the first leaves. -/
theorem exec_bind (p : Prog ω ι μ α) (f : α → Prog ω ι μ β) :
    exec respond (p.bind f) e inbox =
      (exec respond p e inbox).andThen fun a e inbox => exec respond (f a) e inbox := by
  induction p generalizing e inbox with
  | ret a => simp
  | put o k ih => simp [ih, Outcome.after_andThen]
  | send m k ih => simp [ih, Outcome.after_andThen]
  | recv k ih =>
    cases inbox with
    | nil => rfl
    | cons x inbox => simp [ih, Outcome.after_andThen]
  | fault why => rfl
  | spin => rfl

/-- Nobody answers. -/
def nobody (_ : Unit) (_ : μ) : Unit × List ι := ((), [])

@[simp] theorem nobody_eq (m : μ) : (nobody () m : Unit × List ι) = ((), []) := rfl

/-- A program that returns without the rest of its inbox returns the same with it. -/
theorem exec_nobody_append {p : Prog ω ι μ α} {a : α} {inbox inbox' : List ι}
    {t : List (Event ω ι μ)}
    (h : p.exec nobody () inbox = ⟨.returned a, (), inbox', t⟩) (more : List ι) :
    p.exec nobody () (inbox ++ more) = ⟨.returned a, (), inbox' ++ more, t⟩ := by
  induction p generalizing inbox t with
  | ret b =>
    simp only [exec_ret, Outcome.mk.injEq, Result.returned.injEq] at h ⊢
    obtain ⟨rfl, -, rfl, rfl⟩ := h
    simp
  | put o k ih =>
    rw [exec_put] at h ⊢
    obtain ⟨t', rfl, h'⟩ := Outcome.of_after h
    rw [ih h']
    rfl
  | send m k ih =>
    rw [exec_send] at h ⊢
    obtain ⟨t', rfl, h'⟩ := Outcome.of_after h
    simp only [nobody_eq, List.append_nil] at h' ⊢
    rw [ih h']
    rfl
  | recv k ih =>
    cases inbox with
    | nil => simp at h
    | cons x inbox =>
      rw [exec_recv_cons] at h
      obtain ⟨t', rfl, h'⟩ := Outcome.of_after h
      rw [List.cons_append, exec_recv_cons, ih x h']
      rfl
  | fault why => simp at h
  | spin => simp at h

@[simp] theorem exec_outputs_bind (os : List ω) (f : PUnit → Prog ω ι μ β) :
    exec respond ((outputs os).bind f) e inbox =
      (exec respond (f ⟨⟩) e inbox).after (os.map .put) := by
  induction os with
  | nil => rfl
  | cons o os ih => simp [outputs, ih]

end Prog

/-! ### Executions that return -/

/-- From `e` and `inbox`, `p` returns `a`, leaves `e'` and `inbox'`, and shows `t`. -/
def Runs (respond : ε → μ → ε × List ι) (p : Prog ω ι μ α) (e : ε) (inbox : List ι)
    (a : α) (e' : ε) (inbox' : List ι) (t : List (Event ω ι μ)) : Prop :=
  p.exec respond e inbox = ⟨.returned a, e', inbox', t⟩

namespace Runs
variable {respond : ε → μ → ε × List ι} {e e' e'' : ε} {inbox inbox' inbox'' : List ι}
variable {t t' : List (Event ω ι μ)}

theorem pure (a : α) : Runs respond (pure a : Prog ω ι μ α) e inbox a e inbox [] := by
  simp [Runs]

theorem bind {p : Prog ω ι μ α} {f : α → Prog ω ι μ β} {a : α} {b : β}
    (hp : Runs respond p e inbox a e' inbox' t)
    (hf : Runs respond (f a) e' inbox' b e'' inbox'' t') :
    Runs respond (p >>= f) e inbox b e'' inbox'' (t ++ t') := by
  simp only [Runs] at hp hf ⊢
  rw [Prog.bind_eq, Prog.exec_bind, hp, Outcome.andThen_returned, hf]
  rfl

theorem output (o : ω) :
    Runs respond (Prog.output o) e inbox PUnit.unit e inbox [.put o] := by
  simp [Runs, Prog.output, Outcome.after]

/-- A request whose answer is the only message that arrives. -/
theorem ask {m : μ} {x : ι} {k : ι → Prog ω ι μ α} {a : α}
    (answer : respond e m = (e', [x])) (hk : Runs respond (k x) e' [] a e'' inbox t) :
    Runs respond (Prog.send m (Prog.recv k)) e [] a e'' inbox (.sent m :: .received x :: t) := by
  simp only [Runs] at hk ⊢
  simp [answer, hk, Outcome.after]

theorem foldlM_nil (body : β → α → Prog ω ι μ β) (b : β) :
    Runs respond ([].foldlM body b) e inbox b e inbox [] := by
  simp [Runs]

theorem foldlM_cons {body : β → α → Prog ω ι μ β} {x : α} {xs : List α} {b b' b'' : β}
    (head : Runs respond (body b x) e inbox b' e' inbox' t)
    (tail : Runs respond (xs.foldlM body b') e' inbox' b'' e'' inbox'' t') :
    Runs respond ((x :: xs).foldlM body b) e inbox b'' e'' inbox'' (t ++ t') := by
  rw [List.foldlM_cons]
  exact head.bind tail

end Runs
end Exec
end Interaction
