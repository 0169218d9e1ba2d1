import CucumberC.Lib.Network
import CucumberC.Lib.Cursor

/-!
# Lockstep clients

A client that waits for an answer after every request, and peers that give one answer
to every request, leave the scheduler no choice: whatever the interleaving, at most
one message is in flight and at most one process has something to do besides its own
output. `Sync` says which configurations a run can be in, and `RunWhere.sync` that
each of them lies on the one execution of the client against a responder that calls
the peers' handlers as functions. What holds of that execution holds of every
interleaving.

The peers' handlers are programs; `Implements` relates them to a function `react`
that gives the next state and the answer, or nothing when the handler dies.

## Main definitions

* `Lockstep R`: every send of the client satisfies `R` and is followed by a receive.
* `Finishing`, `Answers`, `Dies`: what is left of a peer's handler.
* `Implements`, `respond`: the handler as a function, and the responder it makes.
* `RunWhere.sync`, `RunWhere.attributed`: the reduction, and what it says of replies.
-/

namespace Interaction
universe u

variable {ι φ ω ω' σ α β : Type u}

/-! ## The client -/

/-- Every request satisfies `R` and is followed at once by a receive. -/
inductive Lockstep (R : List φ → Prop) : Client ι φ ω α → Prop
  | ret (a : α) : Lockstep R (.ret a)
  | put {o : ω} {k : Client ι φ ω α} (rest : Lockstep R k) : Lockstep R (.put o k)
  | ask {i : ι} {m : List φ} {k : ι × List φ → Client ι φ ω α} (request : R m)
      (rest : ∀ x, Lockstep R (k x)) : Lockstep R (.send (i, m) (.recv k))
  | fault (why : Fault) : Lockstep R (.fault why)
  | spin : Lockstep R .spin

/-- A client that will receive nothing any more. -/
inductive Silent : Client ι φ ω α → Prop
  | ret (a : α) : Silent (.ret a)
  | put {o : ω} {k : Client ι φ ω α} (rest : Silent k) : Silent (.put o k)
  | send {m : ι × List φ} {k : Client ι φ ω α} (rest : Silent k) : Silent (.send m k)
  | fault (why : Fault) : Silent (.fault why)
  | spin : Silent .spin

namespace Lockstep
variable {R : List φ → Prop}

theorem bind {p : Client ι φ ω α} {f : α → Client ι φ ω β} (hp : Lockstep R p)
    (hf : ∀ a, Lockstep R (f a)) : Lockstep R (p >>= f) := by
  induction hp with
  | ret a => exact hf a
  | put _ ih => exact .put ih
  | ask request _ ih => exact .ask request ih
  | fault why => exact .fault why
  | spin => exact .spin

theorem foldlM {body : β → α → Client ι φ ω β} (h : ∀ b x, Lockstep R (body b x))
    (xs : List α) (b : β) : Lockstep R (xs.foldlM body b) := by
  induction xs generalizing b with
  | nil => exact .ret b
  | cons x xs ih =>
    rw [List.foldlM_cons]
    exact (h b x).bind ih

theorem walk {L α β : Type u} {advance : L → Option α × L} {body : β → α → Client ι φ ω β}
    (h : ∀ b x, Lockstep R (body b x)) (fuel : ℕ) (x : Option α) (l : L) (b : β) :
    Lockstep R (walk advance body fuel x l b) := by
  induction fuel generalizing x l b with
  | zero =>
    cases x with
    | none => exact .ret _
    | some x => exact .spin
  | succ fuel ih =>
    cases x with
    | none => exact .ret _
    | some x => exact (h b x).bind fun b => ih _ _ b

theorem forEach {α β : Type u} {body : β → α → Client ι φ ω β} (h : ∀ b x, Lockstep R (body b x))
    (l : CursorList α) (b : β) : Lockstep R (forEach l body b) := by
  rw [forEach_eq_foldlM]
  exact foldlM h l.items b

theorem output (o : ω) : Lockstep R (Prog.output o : Client ι φ ω PUnit) := .put (.ret _)

theorem ofExcept (x : Except Fault α) : Lockstep R (Prog.ofExcept x : Client ι φ ω α) := by
  cases x with
  | ok a => exact .ret a
  | error why => exact .fault why

theorem deref (x : Option α) : Lockstep R (Prog.deref x : Client ι φ ω α) := by
  cases x with
  | some a => exact .ret a
  | none => exact .fault .nullPointer

end Lockstep

/-! ## The peers -/

/-- Only output is left before the handler returns `s`. -/
inductive Finishing : Thread φ ω' σ → σ → Prop
  | ret (s : σ) : Finishing (.ret s) s
  | put {o : ω'} {q : Thread φ ω' σ} {s : σ} (rest : Finishing q s) : Finishing (.put o q) s

/-- Given the frames `fs`, the handler takes all of them, then sends `r`, then only
finishes, with `s`. -/
inductive Answers : Thread φ ω' σ → List φ → List φ → σ → Prop
  | put {o : ω'} {q : Thread φ ω' σ} {fs r : List φ} {s : σ} (rest : Answers q fs r s) :
      Answers (.put o q) fs r s
  | recv {k : φ → Thread φ ω' σ} {f : φ} {fs r : List φ} {s : σ} (rest : Answers (k f) fs r s) :
      Answers (.recv k) (f :: fs) r s
  | send {q : Thread φ ω' σ} {r : List φ} {s : σ} (rest : Finishing q s) :
      Answers (.send r q) [] r s

theorem Answers.outputs {os : List ω'} {f : PUnit → Thread φ ω' σ} {fs r : List φ} {s : σ}
    (h : Answers (f ⟨⟩) fs r s) : Answers ((Prog.outputs os).bind f) fs r s := by
  induction os with
  | nil => exact h
  | cons o os ih => exact .put ih

/-- Given the frames `fs`, the handler dies without an answer. -/
inductive Dies : Thread φ ω' σ → List φ → Prop
  | put {o : ω'} {q : Thread φ ω' σ} {fs : List φ} (rest : Dies q fs) : Dies (.put o q) fs
  | recv {k : φ → Thread φ ω' σ} {f : φ} {fs : List φ} (rest : Dies (k f) fs) :
      Dies (.recv k) (f :: fs)
  | fault (why : Fault) (fs : List φ) : Dies (.fault why) fs

/-- On the requests `R`, the handlers compute `react`. -/
structure Implements (S : Service ι φ ω' σ) (R : List φ → Prop)
    (react : ι → σ → List φ → Option (σ × List φ)) : Prop where
  nonempty : ∀ {m}, R m → m ≠ []
  answers : ∀ {i s m s' r}, R m → react i s m = some (s', r) → Answers (S.serve i s) m r s'
  dies : ∀ {i s m}, R m → react i s m = none → Dies (S.serve i s) m

section Reduction
variable [DecidableEq ι]

/-- The responder that answers with `react`. `none` is a peer that is not there, or
not there any more. -/
def respond (react : ι → σ → List φ → Option (σ × List φ)) (e : ι → Option σ)
    (x : ι × List φ) : (ι → Option σ) × List (ι × List φ) :=
  match e x.1 with
  | none => (e, [])
  | some s =>
    match react x.1 s x.2 with
    | none => (Function.update e x.1 none, [])
    | some (s', r) => (Function.update e x.1 (some s'), [(x.1, r)])

variable {react : ι → σ → List φ → Option (σ × List φ)}

@[simp] theorem respond_absent {e : ι → Option σ} {i : ι} (h : e i = none) (m : List φ) :
    respond react e (i, m) = (e, []) := by simp [respond, h]

theorem respond_dies {e : ι → Option σ} {i : ι} {s : σ} {m : List φ} (h : e i = some s)
    (hr : react i s m = none) :
    respond react e (i, m) = (Function.update e i none, []) := by simp [respond, h, hr]

theorem respond_answers {e : ι → Option σ} {i : ι} {s s' : σ} {m r : List φ} (h : e i = some s)
    (hr : react i s m = some (s', r)) :
    respond react e (i, m) = (Function.update e i (some s'), [(i, r)]) := by
  simp [respond, h, hr]

/-! ## Configurations of a lockstep run -/

/-- A peer that is absent, and one that is present with the state `s`. -/
inductive Present : Option (Thread φ ω' σ) → Option σ → Prop
  | absent : Present none none
  | present {q : Thread φ ω' σ} {s : σ} (finishing : Finishing q s) : Present (some q) (some s)

/-- Nothing is in flight between the client and `j`, and `j` is in the state `e j`. -/
structure Settled (c : Network ι φ ω ω' σ α) (e : ι → Option σ) (j : ι) : Prop where
  inbound : c.inbound j = []
  outbound : c.outbound j = []
  thread : Present (c.thread j) (e j)

/-- Where request `n` to `i` is, from the moment it was sent to the moment the answer
is taken. The last two arguments are the peer's state after it and the answer. -/
inductive Exchange (R : List φ → Prop) (react : ι → σ → List φ → Option (σ × List φ))
    (c : Network ι φ ω ω' σ α) (i : ι) (n : ℕ) : Option σ → Option (List φ) → Prop
  | absent (nobody : c.thread i = none) (outbound : c.outbound i = []) :
      Exchange R react c i n none none
  | delivered {q : Thread φ ω' σ} {s : σ} {m : List φ} (request : R m)
      (thread : c.thread i = some q) (finishing : Finishing q s)
      (inbound : c.inbound i = m.map (n, ·)) (outbound : c.outbound i = []) :
      Exchange R react c i n ((react i s m).map Prod.fst) ((react i s m).map Prod.snd)
  | answering {q : Thread φ ω' σ} {fs r : List φ} {s : σ}
      (thread : c.thread i = some q) (answers : Answers q fs r s)
      (inbound : c.inbound i = fs.map (n, ·)) (serving : c.serving i = some n)
      (outbound : c.outbound i = []) :
      Exchange R react c i n (some s) (some r)
  | dying {q : Thread φ ω' σ} {fs : List φ} (thread : c.thread i = some q) (dies : Dies q fs)
      (inbound : c.inbound i = fs.map (n, ·)) (outbound : c.outbound i = []) :
      Exchange R react c i n none none
  | answered {q : Thread φ ω' σ} {r : List φ} {s : σ} (thread : c.thread i = some q)
      (finishing : Finishing q s) (inbound : c.inbound i = [])
      (outbound : c.outbound i = [(some n, r)]) :
      Exchange R react c i n (some s) (some r)

/-- The configuration `c` corresponds to the client's own execution in the environment
`e` with the inbox `inbox`; `last` is the latest request. -/
inductive Sync (R : List φ → Prop) (react : ι → σ → List φ → Option (σ × List φ))
    (c : Network ι φ ω ω' σ α) (e : ι → Option σ) :
    List (ι × List φ) → Option (ι × ℕ) → Prop
  | quiet {last : Option (ι × ℕ)} (lockstep : Lockstep R c.client)
      (settled : ∀ j, Settled c e j) : Sync R react c e [] last
  | busy {i : ι} {n : ℕ} {k : ι × List φ → Client ι φ ω α} {r : Option (List φ)}
      (waiting : c.client = .recv k) (lockstep : ∀ x, Lockstep R (k x))
      (settled : ∀ j, j ≠ i → Settled c e j) (exchange : Exchange R react c i n (e i) r) :
      Sync R react c e (r.toList.map (i, ·)) (some (i, n))

/-! ## One step -/

variable {S : Service ι φ ω' σ} {R : List φ → Prop}
variable {c c' : Network ι φ ω ω' σ α} {e e' : ι → Option σ}

theorem Present.of_some {t : Option (Thread φ ω' σ)} {o : Option σ} (h : Present t o)
    {q : Thread φ ω' σ} (ht : t = some q) : ∃ s, o = some s ∧ Finishing q s := by
  subst ht
  cases h with
  | present finishing => exact ⟨_, rfl, finishing⟩

theorem Present.of_none {t : Option (Thread φ ω' σ)} {o : Option σ} (h : Present t o)
    (ht : t = none) : o = none := by
  subst ht
  cases h
  rfl

omit [DecidableEq ι] in
/-- What is settled between the client and `j` depends on `j`'s own pipes, thread and
state only. -/
theorem Settled.congr {j : ι} (h : Settled c e j) (hin : c'.inbound j = c.inbound j)
    (hout : c'.outbound j = c.outbound j) (ht : c'.thread j = c.thread j) (he : e' j = e j) :
    Settled c' e' j := by
  refine ⟨hin.trans h.inbound, hout.trans h.outbound, ?_⟩
  rw [ht, he]
  exact h.thread

omit [DecidableEq ι] in
/-- The same for a request on its way to `i`. -/
theorem Exchange.congr {i : ι} {n : ℕ} {o : Option σ} {r : Option (List φ)}
    (h : Exchange R react c i n o r) (hin : c'.inbound i = c.inbound i)
    (hout : c'.outbound i = c.outbound i) (ht : c'.thread i = c.thread i)
    (hs : c'.serving i = c.serving i) : Exchange R react c' i n o r := by
  cases h with
  | absent nobody outbound => exact .absent (ht.trans nobody) (hout.trans outbound)
  | delivered request thread finishing inbound outbound =>
    exact .delivered request (ht.trans thread) finishing (hin.trans inbound) (hout.trans outbound)
  | answering thread answers inbound serving outbound =>
    exact .answering (ht.trans thread) answers (hin.trans inbound) (hs.trans serving)
      (hout.trans outbound)
  | dying thread dies inbound outbound =>
    exact .dying (ht.trans thread) dies (hin.trans inbound) (hout.trans outbound)
  | answered thread finishing inbound outbound =>
    exact .answered (ht.trans thread) finishing (hin.trans inbound) (hout.trans outbound)

/-- A finishing thread puts out and stays settled. -/
theorem Settled.peerPut {j : ι} {o : ω'} {q : Thread φ ω' σ} (h : Settled c e j)
    (ht : c.thread j = some (.put o q)) :
    Settled { c with thread := Function.update c.thread j (some q) } e j := by
  refine ⟨h.inbound, h.outbound, ?_⟩
  obtain ⟨s, hs, hq⟩ := h.thread.of_some ht
  cases hq with
  | put rest => simpa [hs] using Present.present rest

/-- The thread that serves the request puts out. -/
theorem Exchange.peerPut {i : ι} {n : ℕ} {o : ω'} {q : Thread φ ω' σ} {os : Option σ}
    {r : Option (List φ)} (h : Exchange R react c i n os r) (ht : c.thread i = some (.put o q)) :
    Exchange R react { c with thread := Function.update c.thread i (some q) } i n os r := by
  cases h with
  | absent nobody _ => simp [nobody] at ht
  | delivered request thread finishing inbound outbound =>
    obtain rfl := Option.some.inj (thread.symm.trans ht)
    cases finishing with
    | put rest => exact .delivered request (by simp) rest inbound outbound
  | answering thread answers inbound serving outbound =>
    obtain rfl := Option.some.inj (thread.symm.trans ht)
    cases answers with
    | put rest => exact .answering (by simp) rest inbound serving outbound
  | dying thread dies inbound outbound =>
    obtain rfl := Option.some.inj (thread.symm.trans ht)
    cases dies with
    | put rest => exact .dying (by simp) rest inbound outbound
  | answered thread finishing inbound outbound =>
    obtain rfl := Option.some.inj (thread.symm.trans ht)
    cases finishing with
    | put rest => exact .answered (by simp) rest inbound outbound

/-- The thread that was sent the request wakes. -/
theorem Exchange.wake (impl : Implements S R react) {i : ι} {n : ℕ} {s : σ} {m : ℕ} {f : φ}
    {rest : List (ℕ × φ)} {os : Option σ} {r : Option (List φ)}
    (h : Exchange R react c i n os r) (ht : c.thread i = some (.ret s))
    (hin : c.inbound i = (m, f) :: rest) :
    Exchange R react
      { c with
        thread := Function.update c.thread i (some (S.serve i s))
        serving := Function.update c.serving i (some m) } i n os r := by
  cases h with
  | absent nobody _ => simp [nobody] at ht
  | @delivered q s' msg request thread finishing inbound outbound =>
    obtain rfl := Option.some.inj (thread.symm.trans ht)
    cases finishing
    have hm : m = n := by
      cases msg with
      | nil => exact absurd rfl (impl.nonempty request)
      | cons f' msg =>
        have heq := inbound.symm.trans hin
        simp only [List.map_cons, List.cons.injEq, Prod.mk.injEq] at heq
        exact heq.1.1.symm
    subst hm
    cases hr : react i s msg with
    | none => exact .dying (by simp) (impl.dies request hr) inbound outbound
    | some sr => exact .answering (by simp) (impl.answers request hr) inbound (by simp) outbound
  | answering thread answers =>
    obtain rfl := Option.some.inj (thread.symm.trans ht)
    cases answers
  | dying thread dies =>
    obtain rfl := Option.some.inj (thread.symm.trans ht)
    cases dies
  | answered _ _ inbound => simp [inbound] at hin

/-- The thread that serves the request takes a frame of it. -/
theorem Exchange.take {i : ι} {n m : ℕ} {f : φ} {rest : List (ℕ × φ)} {k : φ → Thread φ ω' σ}
    {os : Option σ} {r : Option (List φ)} (h : Exchange R react c i n os r)
    (ht : c.thread i = some (.recv k)) (hin : c.inbound i = (m, f) :: rest) :
    Exchange R react
      { c with
        thread := Function.update c.thread i (some (k f))
        inbound := Function.update c.inbound i rest } i n os r := by
  cases h with
  | absent nobody _ => simp [nobody] at ht
  | delivered _ thread finishing =>
    obtain rfl := Option.some.inj (thread.symm.trans ht)
    cases finishing
  | answering thread answers inbound serving outbound =>
    obtain rfl := Option.some.inj (thread.symm.trans ht)
    cases answers with
    | recv more =>
      have heq := inbound.symm.trans hin
      simp only [List.map_cons, List.cons.injEq, Prod.mk.injEq] at heq
      obtain ⟨⟨-, rfl⟩, rfl⟩ := heq
      exact .answering (by simp) more (by simp) serving outbound
  | dying thread dies inbound outbound =>
    obtain rfl := Option.some.inj (thread.symm.trans ht)
    cases dies with
    | recv more =>
      have heq := inbound.symm.trans hin
      simp only [List.map_cons, List.cons.injEq, Prod.mk.injEq] at heq
      obtain ⟨⟨-, rfl⟩, rfl⟩ := heq
      exact .dying (by simp) more (by simp) outbound
  | answered _ _ inbound => simp [inbound] at hin

/-- The thread that serves the request sends the answer. -/
theorem Exchange.reply {i : ι} {n : ℕ} {m : List φ} {q : Thread φ ω' σ} {os : Option σ}
    {r : Option (List φ)} (h : Exchange R react c i n os r)
    (ht : c.thread i = some (.send m q)) :
    Exchange R react
      { c with
        thread := Function.update c.thread i (some q)
        outbound := Function.update c.outbound i (c.outbound i ++ [(c.serving i, m)]) }
      i n os r := by
  cases h with
  | absent nobody _ => simp [nobody] at ht
  | delivered _ thread finishing =>
    obtain rfl := Option.some.inj (thread.symm.trans ht)
    cases finishing
  | answering thread answers inbound serving outbound =>
    obtain rfl := Option.some.inj (thread.symm.trans ht)
    cases answers with
    | send finishing =>
      exact .answered (by simp) finishing (by simpa using inbound) (by simp [outbound, serving])
  | dying thread dies =>
    obtain rfl := Option.some.inj (thread.symm.trans ht)
    cases dies
  | answered thread finishing =>
    obtain rfl := Option.some.inj (thread.symm.trans ht)
    cases finishing

/-- Effects of the peers do not show in the client's trace. -/
def SameClient (respond : (ι → Option σ) → ι × List φ → (ι → Option σ) × List (ι × List φ))
    (l : Label ι φ ω ω') (p : Client ι φ ω α) (e : ι → Option σ) (inbox : List (ι × List φ))
    (p' : Client ι φ ω α) (e' : ι → Option σ) (inbox' : List (ι × List φ)) : Prop :=
  p.exec respond e inbox = (p'.exec respond e' inbox').after l.event.toList

/-- The client sends a request: the exchange with its addressee begins. -/
theorem Sync.clientSend {i : ι} {m : List φ}
    {k : Client ι φ ω α} {inbox : List (ι × List φ)} {last : Option (ι × ℕ)}
    (h : Sync R react c e inbox last) (at_send : c.client = .send (i, m) k) :
    ∃ e' inbox',
      Sync R react
        { c with client := k, issued := c.issued + 1, inbound := c.route i c.issued m }
        e' inbox' (some (i, c.issued)) ∧
      SameClient (respond react) (.sent i c.issued m : Label ι φ ω ω') c.client e inbox k e'
        inbox' := by
  cases h with
  | busy waiting => simp [at_send] at waiting
  | quiet lockstep settled =>
    rw [at_send] at lockstep ⊢
    cases lockstep with
    | @ask _ _ k request rest =>
    -- Whoever is not addressed stays settled, whatever became of the environment.
    have others : ∀ (o : Option σ) j, j ≠ i →
        Settled { c with client := .recv k, issued := c.issued + 1,
                         inbound := c.route i c.issued m } (Function.update e i o) j := by
      intro o j hj
      refine (settled j).congr ?_ rfl rfl (Function.update_of_ne hj _ _)
      show c.route i c.issued m j = c.inbound j
      unfold Network.route
      split
      · exact Function.update_of_ne hj _ _
      · rfl
    cases ht : c.thread i with
    | none =>
      have he : e i = none := (settled i).thread.of_none ht
      refine ⟨e, [], ?_, ?_⟩
      · have hex : Exchange R react
            { c with client := .recv k, issued := c.issued + 1,
                     inbound := c.route i c.issued m } i c.issued (e i) none := by
          rw [he]
          exact .absent ht (settled i).outbound
        have hothers := others none
        rw [← he, Function.update_eq_self] at hothers
        exact .busy rfl rest hothers hex
      · simp [SameClient, Label.event, respond_absent he]
    | some q =>
      obtain ⟨s, hs, finishing⟩ := (settled i).thread.of_some ht
      have hin : c.route i c.issued m i = m.map (c.issued, ·) := by
        simp [Network.route, ht, (settled i).inbound]
      have hex : ∀ o : Option σ, o = (react i s m).map Prod.fst → Exchange R react
          { c with client := .recv k, issued := c.issued + 1,
                   inbound := c.route i c.issued m } i c.issued (Function.update e i o i)
          ((react i s m).map Prod.snd) := by
        rintro o rfl
        rw [Function.update_self]
        exact .delivered request ht finishing hin (settled i).outbound
      cases hr : react i s m with
      | none =>
        refine ⟨Function.update e i none, [], ?_, ?_⟩
        · exact .busy rfl rest (others none) (by simpa [hr] using hex none (by simp [hr]))
        · simp [SameClient, Label.event, respond_dies hs hr]
      | some sr =>
        obtain ⟨s', r⟩ := sr
        refine ⟨Function.update e i (some s'), [(i, r)], ?_, ?_⟩
        · exact .busy rfl rest (others (some s'))
            (by simpa [hr] using hex (some s') (by simp [hr]))
        · simp [SameClient, Label.event, respond_answers hs hr]

/-- The client takes a message: it is the answer it waits for. -/
theorem Sync.clientRecv {i : ι} {cause : Option ℕ} {m : List φ}
    {rest : List (Option ℕ × List φ)} {k : ι × List φ → Client ι φ ω α}
    {inbox : List (ι × List φ)} {last : Option (ι × ℕ)} (h : Sync R react c e inbox last)
    (at_recv : c.client = .recv k) (ready : c.outbound i = (cause, m) :: rest) :
    (∃ n, last = some (i, n) ∧ cause = some n) ∧
      Sync R react
        { c with client := k (i, m), outbound := Function.update c.outbound i rest } e [] last ∧
      SameClient (respond react) (.received i cause m : Label ι φ ω ω') c.client e inbox (k (i, m))
        e [] := by
  cases h with
  | quiet lockstep settled =>
    rw [at_recv] at lockstep
    cases lockstep
  | @busy j n k' r waiting lockstep settled exchange =>
    obtain rfl : k' = k := by simpa [at_recv] using waiting.symm
    obtain rfl : i = j := by
      by_contra hne
      have := (settled i hne).outbound
      simp [ready] at this
    generalize hi : e i = o at exchange
    cases exchange with
    | absent _ outbound => simp [ready] at outbound
    | delivered _ _ _ _ outbound => simp [ready] at outbound
    | answering _ _ _ _ outbound => simp [ready] at outbound
    | dying _ _ _ outbound => simp [ready] at outbound
    | @answered q r s thread finishing inbound outbound =>
      simp only [ready, List.cons.injEq, Prod.mk.injEq] at outbound
      obtain ⟨⟨rfl, rfl⟩, rfl⟩ := outbound
      refine ⟨⟨n, rfl, rfl⟩, .quiet (lockstep _) fun j => ?_, ?_⟩
      · by_cases hj : j = i
        · subst hj
          refine ⟨inbound, by simp, ?_⟩
          rw [hi, thread]
          exact .present finishing
        · exact (settled j hj).congr rfl (Function.update_of_ne hj _ _) rfl rfl
      · simp [SameClient, Label.event, at_recv]

/-- A peer acts: if it is the one that was asked, the exchange goes on; otherwise it is
finishing and only puts out. -/
theorem Sync.peer (i : ι) {l : Label ι φ ω ω'} {inbox : List (ι × List φ)}
    {last : Option (ι × ℕ)} (h : Sync R react c e inbox last)
    (client : c'.client = c.client)
    (elsewhere : ∀ j, j ≠ i → c'.inbound j = c.inbound j ∧ c'.outbound j = c.outbound j ∧
      c'.thread j = c.thread j ∧ c'.serving j = c.serving j)
    (settled : Settled c e i → Settled c' e i)
    (exchange : ∀ {n o r}, Exchange R react c i n o r → Exchange R react c' i n o r)
    (event : l.event = none) (latest : Label.latest last l = last) :
    Sync R react c' e inbox (Label.latest last l) ∧
      SameClient (respond react) l c.client e inbox c'.client e inbox := by
  have others : ∀ j, Settled c e j → Settled c' e j := by
    intro j hj
    by_cases hji : j = i
    · subst hji
      exact settled hj
    · obtain ⟨hin, hout, ht, -⟩ := elsewhere j hji
      exact hj.congr hin hout ht rfl
  refine ⟨?_, by simp [SameClient, event, client]⟩
  rw [latest]
  cases h with
  | quiet lockstep settled => exact .quiet (client ▸ lockstep) fun j => others j (settled j)
  | @busy j n k r waiting lockstep settled ex =>
    refine .busy (client.trans waiting) lockstep (fun j' hj' => others j' (settled j' hj')) ?_
    by_cases hji : j = i
    · subst hji
      exact exchange ex
    · obtain ⟨hin, hout, ht, hs⟩ := elsewhere j hji
      exact ex.congr hin hout ht hs

/-- **One step of a lockstep network** keeps the correspondence with the client's own
execution, and a message the client takes is the answer to its latest request. -/
theorem Sync.step (impl : Implements S R react) {l : Label ι φ ω ω'}
    {inbox : List (ι × List φ)} {last : Option (ι × ℕ)} (h : Sync R react c e inbox last)
    (step : Step S c l c') (nojoin : ∀ i, l ≠ .joined i) :
    (∃ e' inbox', Sync R react c' e' inbox' (Label.latest last l) ∧
      SameClient (respond react) l c.client e inbox c'.client e' inbox') ∧
    ∀ i cause m, l = .received i cause m → ∃ n, last = some (i, n) ∧ cause = some n := by
  cases step with
  | @clientPut o k at_put =>
    refine ⟨⟨e, inbox, ?_, by simp [SameClient, Label.event, at_put]⟩, by simp⟩
    cases h with
    | quiet lockstep settled =>
      rw [at_put] at lockstep
      cases lockstep with
      | put rest => exact .quiet rest fun j => (settled j).congr rfl rfl rfl rfl
    | busy waiting => simp [at_put] at waiting
  | clientSend at_send => exact ⟨h.clientSend at_send, by simp⟩
  | clientRecv at_recv ready =>
    obtain ⟨answer, sync, same⟩ := h.clientRecv at_recv ready
    refine ⟨⟨e, [], sync, same⟩, ?_⟩
    rintro i cause m heq
    cases heq
    exact answer
  | @join i => exact absurd rfl (nojoin i)
  | @wake i s n f rest idle readable =>
    refine ⟨⟨e, inbox, h.peer i rfl (fun j hj => ?_) (fun hs => ?_) (fun ex => ?_) rfl rfl⟩,
      by simp⟩
    · simp [Function.update_of_ne hj]
    · simp [hs.inbound] at readable
    · exact ex.wake impl idle readable
  | @take i n f rest k at_recv readable =>
    refine ⟨⟨e, inbox, h.peer i rfl (fun j hj => ?_) (fun hs => ?_) (fun ex => ?_) rfl rfl⟩,
      by simp⟩
    · simp [Function.update_of_ne hj]
    · simp [hs.inbound] at readable
    · exact ex.take at_recv readable
  | @reply i m k at_send =>
    refine ⟨⟨e, inbox, h.peer i rfl (fun j hj => ?_) (fun hs => ?_) (fun ex => ?_) rfl rfl⟩,
      by simp⟩
    · simp [Function.update_of_ne hj]
    · obtain ⟨s, -, finishing⟩ := hs.thread.of_some at_send
      cases finishing
    · exact ex.reply at_send
  | @peerPut i o k at_put =>
    refine ⟨⟨e, inbox, h.peer i rfl (fun j hj => ?_) (fun hs => ?_) (fun ex => ?_) rfl rfl⟩,
      by simp⟩
    · simp [Function.update_of_ne hj]
    · exact hs.peerPut at_put
    · exact ex.peerPut at_put

/-! ## Whole runs -/

variable {c₀ : Network ι φ ω ω' σ α} {e₀ : ι → Option σ} {ls : List (Label ι φ ω ω')}
variable {ok : Network ι φ ω ω' σ α → Label ι φ ω ω' → Prop}

/-- **Reduction.** However the steps of a lockstep network interleave, the client has
shown a prefix of the trace it shows when it is executed alone against `react`, and
goes on as that execution does. -/
theorem RunWhere.sync (impl : Implements S R react) (run : RunWhere S ok c₀ ls c)
    (nojoin : ∀ c i, ¬ ok c (.joined i)) (start : Sync R react c₀ e₀ [] none) :
    ∃ e inbox, Sync R react c e inbox (lastSent ls) ∧
      c₀.client.exec (respond react) e₀ [] =
        (c.client.exec (respond react) e inbox).after (clientTrace ls) := by
  induction run with
  | refl => exact ⟨e₀, [], start, by simp⟩
  | @snoc c c' ls l _ step meets ih =>
    obtain ⟨e, inbox, sync, same⟩ := ih
    have hnj : ∀ i, l ≠ .joined i := by
      rintro i rfl
      exact nojoin c i meets
    obtain ⟨⟨e', inbox', sync', same'⟩, -⟩ := sync.step impl step hnj
    refine ⟨e', inbox', by simpa using sync', ?_⟩
    rw [same, same', Outcome.after_after, clientTrace_snoc]

/-- The step is not a join. -/
def NobodyJoins (_ : Network ι φ ω ω' σ α) (l : Label ι φ ω ω') : Prop := ∀ i, l ≠ .joined i

/-- A peer joins only when the client has nothing to receive any more. -/
def LateJoins (c : Network ι φ ω ω' σ α) (l : Label ι φ ω ω') : Prop :=
  ∀ i, l = .joined i → Silent c.client

omit [DecidableEq ι] in
theorem Silent.not_recv {k : ι × List φ → Client ι φ ω α} : ¬ Silent (.recv k) := by
  intro h
  cases h

theorem Silent.step (h : Silent c.client) {l : Label ι φ ω ω'} (step : Step S c l c') :
    Silent c'.client ∧ ∀ i cause m, l ≠ .received i cause m := by
  cases step with
  | clientPut at_put =>
    rw [at_put] at h
    cases h with
    | put rest => exact ⟨rest, by simp⟩
  | clientSend at_send =>
    rw [at_send] at h
    cases h with
    | send rest => exact ⟨rest, by simp⟩
  | clientRecv at_recv =>
    rw [at_recv] at h
    exact absurd h Silent.not_recv
  | join | wake | take | reply | peerPut => exact ⟨h, by simp⟩

/-- What is left of a silent client ends the same way, whatever its peers do. -/
theorem Silent.exec_step (h : Silent c.client) {l : Label ι φ ω ω'} (step : Step S c l c')
    (respond : (ι → Option σ) → ι × List φ → (ι → Option σ) × List (ι × List φ))
    (e : ι → Option σ) (inbox : List (ι × List φ)) :
    ∃ e' inbox', (c.client.exec respond e inbox).result =
      (c'.client.exec respond e' inbox').result := by
  cases step with
  | clientPut at_put => exact ⟨e, inbox, by simp [at_put]⟩
  | @clientSend i m k at_send =>
    exact ⟨(respond e (i, m)).1, inbox ++ (respond e (i, m)).2, by simp [at_send]⟩
  | clientRecv at_recv =>
    rw [at_recv] at h
    exact absurd h Silent.not_recv
  | join | wake | take | reply | peerPut => exact ⟨e, inbox, rfl⟩

/-- **Attribution.** As long as nobody joins before the client's last receive, every
message it takes is the answer of the peer it asked last, to that very request; and the
client ends as it does when it is executed alone. -/
theorem RunWhere.attributed (impl : Implements S R react) (run : RunWhere S LateJoins c₀ ls c)
    (start : Sync R react c₀ e₀ [] none) :
    Attributed ls ∧ ∃ e inbox, (c₀.client.exec (respond react) e₀ []).result =
      (c.client.exec (respond react) e inbox).result := by
  suffices h : Attributed ls ∧ ∃ e inbox,
      (Sync R react c e inbox (lastSent ls) ∨ Silent c.client) ∧
      (c₀.client.exec (respond react) e₀ []).result =
        (c.client.exec (respond react) e inbox).result by
    obtain ⟨attributed, e, inbox, -, ends⟩ := h
    exact ⟨attributed, e, inbox, ends⟩
  induction run with
  | refl => exact ⟨attributed_nil, e₀, [], .inl start, rfl⟩
  | @snoc c c' ls l _ step meets ih =>
    obtain ⟨attributed, e, inbox, phase, ends⟩ := ih
    -- The first join ends the phase in which the client is in step with its peers.
    have hsilent : Silent c.client → Attributed (ls ++ [l]) ∧ ∃ e inbox,
        (Sync R react c' e inbox (lastSent (ls ++ [l])) ∨ Silent c'.client) ∧
        (c₀.client.exec (respond react) e₀ []).result =
          (c'.client.exec (respond react) e inbox).result := by
      intro silent
      obtain ⟨silent', noreceive⟩ := silent.step step
      obtain ⟨e', inbox', same⟩ := silent.exec_step step (respond react) e inbox
      exact ⟨attributed.snoc fun i cause m h => absurd h (noreceive i cause m), e', inbox',
        .inr silent', ends.trans same⟩
    rcases phase with sync | silent
    · by_cases hj : ∃ i, l = .joined i
      · obtain ⟨i, rfl⟩ := hj
        exact hsilent (meets i rfl)
      · have hnj : ∀ i, l ≠ .joined i := fun i h => hj ⟨i, h⟩
        obtain ⟨⟨e', inbox', sync', same'⟩, answer⟩ := sync.step impl step hnj
        refine ⟨attributed.snoc answer, e', inbox', .inl (by simpa using sync'), ?_⟩
        rw [ends, same', Outcome.result_after]
    · exact hsilent silent

/-! ## What a configuration owes to the execution it lies on -/

omit [DecidableEq ι] in
/-- Once the client has returned, nothing is in flight. -/
theorem Sync.returned {inbox : List (ι × List φ)} {last : Option (ι × ℕ)} {a : α}
    (h : Sync R react c e inbox last) (client : c.client = .ret a) :
    inbox = [] ∧ ∀ j, Settled c e j := by
  cases h with
  | quiet _ settled => exact ⟨rfl, settled⟩
  | busy waiting => simp [client] at waiting

/-- If the execution returns, then no peer dies on the way to it. -/
theorem Sync.alive {inbox : List (ι × List φ)} {last : Option (ι × ℕ)} {a : α}
    (h : Sync R react c e inbox last)
    (returns : (c.client.exec (respond react) e inbox).result = .returned a) (j : ι)
    (why : Fault) : c.thread j ≠ some (.fault why) := by
  have settled_alive : Settled c e j → c.thread j ≠ some (.fault why) := by
    intro hs ht
    obtain ⟨s, -, finishing⟩ := hs.thread.of_some ht
    cases finishing
  cases h with
  | quiet _ settled => exact settled_alive (settled j)
  | @busy i n k r waiting _ settled exchange =>
    by_cases hji : j = i
    · subst hji
      intro hfault
      generalize e j = o at exchange
      cases exchange with
      | absent nobody => simp [nobody] at hfault
      | delivered _ thread finishing =>
        obtain rfl := Option.some.inj (thread.symm.trans hfault)
        cases finishing
      | answering thread answers =>
        obtain rfl := Option.some.inj (thread.symm.trans hfault)
        cases answers
      | dying => simp [waiting] at returns
      | answered thread finishing =>
        obtain rfl := Option.some.inj (thread.symm.trans hfault)
        cases finishing
    · exact settled_alive (settled j hji)

/-- If the execution returns, then the network can go on until the client has returned:
no interleaving runs into a deadlock. -/
theorem Sync.progress (impl : Implements S R react) {inbox : List (ι × List φ)}
    {last : Option (ι × ℕ)} {a : α} (h : Sync R react c e inbox last)
    (returns : (c.client.exec (respond react) e inbox).result = .returned a) :
    (∃ a, c.client = .ret a) ∨ ∃ l c', Step S c l c' ∧ NobodyJoins c l := by
  cases h with
  | quiet lockstep _ =>
    cases hc : c.client with
    | ret a => exact .inl ⟨a, rfl⟩
    | put o k => exact .inr ⟨_, _, .clientPut hc, by simp [NobodyJoins]⟩
    | send m k => exact .inr ⟨_, _, .clientSend (m := m.2) (i := m.1) hc, by simp [NobodyJoins]⟩
    | recv k =>
      rw [hc] at lockstep
      cases lockstep
    | fault why => simp [hc] at returns
    | spin => simp [hc] at returns
  | @busy i n k r waiting _ _ exchange =>
    generalize e i = o at exchange
    cases exchange with
    | absent => simp [waiting] at returns
    | dying => simp [waiting] at returns
    | @delivered q s m request thread finishing inbound =>
      cases finishing with
      | put rest => exact .inr ⟨_, _, .peerPut thread, by simp [NobodyJoins]⟩
      | ret =>
        cases m with
        | nil => exact absurd rfl (impl.nonempty request)
        | cons f m => exact .inr ⟨_, _, .wake thread inbound, by simp [NobodyJoins]⟩
    | answering thread answers inbound =>
      cases answers with
      | put rest => exact .inr ⟨_, _, .peerPut thread, by simp [NobodyJoins]⟩
      | recv rest => exact .inr ⟨_, _, .take thread inbound, by simp [NobodyJoins]⟩
      | send rest => exact .inr ⟨_, _, .reply thread, by simp [NobodyJoins]⟩
    | answered _ _ _ outbound =>
      exact .inr ⟨_, _, .clientRecv waiting outbound, by simp [NobodyJoins]⟩

end Reduction
end Interaction
