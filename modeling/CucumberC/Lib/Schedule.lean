import CucumberC.Lib.Descent
import CucumberC.Lib.Lockstep

/-!
# Schedules of a lockstep network

In a lockstep network the processes take turns, except that a peer may still be busy with
its own output while the others go on. Steps of different processes commute, and no
process has a choice. So all runs are alike: one that serves every request to its end
before the client goes on shows how every run ends, and after how many steps.

## Main definitions

* `Seat`, `PeerStep`: what belongs to one peer, and its steps.
* `moves`, `commuting_moves`: steps other than joins, and that they commute.
* `Resting`, `Lockstep.schedule`: the run that serves one request after another.
* `RunWhere.completes`: every run can be completed, to the same configuration.
-/

namespace Interaction
universe u

variable {ι φ ω ω' σ α : Type u}

/-! ## One peer -/

/-- What belongs to one peer: its thread, its pipes, and the request it was woken for. -/
structure Seat (φ ω' σ : Type u) where
  thread : Option (Thread φ ω' σ)
  inbound : List (ℕ × φ)
  serving : Option ℕ
  outbound : List (Option ℕ × List φ)

/-- A step of the peer `i`. -/
inductive PeerStep (S : Service ι φ ω' σ) (i : ι) : Seat φ ω' σ → Seat φ ω' σ → Prop
  | wake {t : Seat φ ω' σ} {s : σ} {n : ℕ} {f : φ} {rest : List (ℕ × φ)}
      (idle : t.thread = some (.ret s)) (readable : t.inbound = (n, f) :: rest) :
      PeerStep S i t { t with thread := some (S.serve i s), serving := some n }
  | take {t : Seat φ ω' σ} {n : ℕ} {f : φ} {rest : List (ℕ × φ)} {k : φ → Thread φ ω' σ}
      (at_recv : t.thread = some (.recv k)) (readable : t.inbound = (n, f) :: rest) :
      PeerStep S i t { t with thread := some (k f), inbound := rest }
  | reply {t : Seat φ ω' σ} {m : List φ} {k : Thread φ ω' σ}
      (at_send : t.thread = some (.send m k)) :
      PeerStep S i t
        { t with thread := some k, outbound := t.outbound ++ [(t.serving, m)] }
  | put {t : Seat φ ω' σ} {o : ω'} {k : Thread φ ω' σ} (at_put : t.thread = some (.put o k)) :
      PeerStep S i t { t with thread := some k }

namespace PeerStep
variable {S : Service ι φ ω' σ} {i : ι} {t t' t'' : Seat φ ω' σ}

/-- A peer has no choice. -/
theorem unique (h : PeerStep S i t t') (h' : PeerStep S i t t'') : t' = t'' := by
  cases h with
  | wake idle readable =>
    cases h' <;> simp_all
  | take at_recv readable =>
    cases h' <;> simp_all
  | reply at_send =>
    cases h' <;> simp_all
  | put at_put =>
    cases h' <;> simp_all

theorem thread_isSome (h : PeerStep S i t t') : t.thread.isSome ∧ t'.thread.isSome := by
  cases h <;> simp_all

/-- Frames that arrive behind the others do not matter to the step. -/
theorem extend (h : PeerStep S i t t') (more : List (ℕ × φ)) :
    PeerStep S i { t with inbound := t.inbound ++ more }
      { t' with inbound := t'.inbound ++ more } := by
  cases h with
  | wake idle readable => exact .wake idle (congrArg (· ++ more) readable)
  | take at_recv readable => exact .take at_recv (congrArg (· ++ more) readable)
  | reply at_send => exact .reply at_send
  | put at_put => exact .put at_put

/-- Nor does it matter which messages have left already. -/
theorem give (h : PeerStep S i t t') : ∃ given, t'.outbound = t.outbound ++ given ∧
    ∀ out, PeerStep S i { t with outbound := out } { t' with outbound := out ++ given } := by
  cases h with
  | wake idle readable => exact ⟨[], by simp, fun out => by simpa using .wake idle readable⟩
  | take at_recv readable => exact ⟨[], by simp, fun out => by simpa using .take at_recv readable⟩
  | reply at_send => exact ⟨_, rfl, fun out => .reply at_send⟩
  | put at_put => exact ⟨[], by simp, fun out => by simpa using .put at_put⟩

end PeerStep

/-! ### From request to answer -/

section Serving
variable {S : Service ι φ ω' σ} {i : ι} {q : Thread φ ω' σ} {fs r : List φ} {s : σ}

/-- A thread that only finishes does so. -/
theorem Finishing.peerSteps (h : Finishing q s) (inbound : List (ℕ × φ)) (serving : Option ℕ)
    (outbound : List (Option ℕ × List φ)) :
    Relation.ReflTransGen (PeerStep S i) ⟨some q, inbound, serving, outbound⟩
      ⟨some (.ret s), inbound, serving, outbound⟩ := by
  induction h with
  | ret s => exact .refl
  | put _ ih => exact .head (.put rfl) ih

/-- A thread that answers takes the request, gives the answer and finishes. -/
theorem Answers.peerSteps (h : Answers q fs r s) (n : ℕ) (serving : Option ℕ)
    (outbound : List (Option ℕ × List φ)) :
    Relation.ReflTransGen (PeerStep S i) ⟨some q, fs.map (n, ·), serving, outbound⟩
      ⟨some (.ret s), [], serving, outbound ++ [(serving, r)]⟩ := by
  induction h with
  | put _ ih => exact .head (.put rfl) ih
  | recv _ ih => exact .head (.take rfl rfl) ih
  | send finishing => exact .head (.reply rfl) (finishing.peerSteps _ _ _)

/-- A thread that dies does so without an answer. -/
theorem Dies.peerSteps (h : Dies q fs) (n : ℕ) (serving : Option ℕ)
    (outbound : List (Option ℕ × List φ)) :
    ∃ why rest, Relation.ReflTransGen (PeerStep S i) ⟨some q, fs.map (n, ·), serving, outbound⟩
      ⟨some (.fault why), rest, serving, outbound⟩ := by
  induction h with
  | put _ ih =>
    obtain ⟨why, rest, steps⟩ := ih
    exact ⟨why, rest, .head (.put rfl) steps⟩
  | recv _ ih =>
    obtain ⟨why, rest, steps⟩ := ih
    exact ⟨why, rest, .head (.take rfl rfl) steps⟩
  | fault why fs => exact ⟨why, _, .refl⟩

end Serving

/-! ## Steps of different processes -/

section Networks
variable [DecidableEq ι]

/-- What belongs to the peer `i`. -/
def Network.seat (c : Network ι φ ω ω' σ α) (i : ι) : Seat φ ω' σ :=
  ⟨c.thread i, c.inbound i, c.serving i, c.outbound i⟩

/-- The configuration in which `t` belongs to the peer `i`. -/
def Network.setSeat (c : Network ι φ ω ω' σ α) (i : ι) (t : Seat φ ω' σ) :
    Network ι φ ω ω' σ α :=
  { c with
    thread := Function.update c.thread i t.thread
    inbound := Function.update c.inbound i t.inbound
    serving := Function.update c.serving i t.serving
    outbound := Function.update c.outbound i t.outbound }

variable {c c' : Network ι φ ω ω' σ α} {i j : ι} {t t' : Seat φ ω' σ}

@[simp] theorem Network.seat_setSeat_self : (c.setSeat i t).seat i = t := by
  simp [Network.seat, Network.setSeat]

@[simp] theorem Network.seat_setSeat_of_ne (h : j ≠ i) : (c.setSeat i t).seat j = c.seat j := by
  simp [Network.seat, Network.setSeat, Function.update_of_ne h]

@[simp] theorem Network.setSeat_seat : c.setSeat i (c.seat i) = c := by
  simp [Network.seat, Network.setSeat]

@[simp] theorem Network.setSeat_setSeat : (c.setSeat i t).setSeat i t' = c.setSeat i t' := by
  simp [Network.setSeat]

theorem Network.setSeat_comm (h : i ≠ j) :
    (c.setSeat i t).setSeat j t' = (c.setSeat j t').setSeat i t := by
  simp only [Network.setSeat, Function.update_comm h]

/-- A step of the network that is not a join. -/
def moves (S : Service ι φ ω' σ) (c c' : Network ι φ ω ω' σ α) : Prop :=
  ∃ l, Step S c l c' ∧ NobodyJoins c l

variable {S : Service ι φ ω' σ}

/-- A peer's step is a step of the network, which the client does not see. -/
theorem PeerStep.step (h : PeerStep S i (c.seat i) t) :
    ∃ l, Step S c l (c.setSeat i t) ∧ NobodyJoins c l ∧ l.event = none := by
  cases h with
  | wake idle readable =>
    have step := Step.wake (S := S) idle readable
    exact ⟨_, by simpa [Network.setSeat, Network.seat] using step, by simp [NobodyJoins], rfl⟩
  | take at_recv readable =>
    have step := Step.take (S := S) at_recv readable
    exact ⟨_, by simpa [Network.setSeat, Network.seat] using step, by simp [NobodyJoins], rfl⟩
  | reply at_send =>
    have step := Step.reply (S := S) at_send
    exact ⟨_, by simpa [Network.setSeat, Network.seat] using step, by simp [NobodyJoins], rfl⟩
  | put at_put =>
    have step := Step.peerPut (S := S) at_put
    exact ⟨_, by simpa [Network.setSeat, Network.seat] using step, by simp [NobodyJoins], rfl⟩

theorem PeerStep.moves (h : PeerStep S i (c.seat i) t) : moves S c (c.setSeat i t) := by
  obtain ⟨l, step, nojoin, -⟩ := h.step
  exact ⟨l, step, nojoin⟩

/-- A step of the network that is not a join is one of the client or one of a peer. -/
theorem Step.split {l : Label ι φ ω ω'} (step : Step S c l c') (nojoin : NobodyJoins c l) :
    l.event.isSome ∨ ∃ i t, PeerStep S i (c.seat i) t ∧ c' = c.setSeat i t := by
  cases step with
  | clientPut | clientSend | clientRecv => exact .inl rfl
  | @join i => exact absurd rfl (nojoin i)
  | @wake i _ _ _ _ idle readable =>
    exact .inr ⟨i, _, .wake idle readable, by simp [Network.setSeat, Network.seat]⟩
  | @take i _ _ _ _ at_recv readable =>
    exact .inr ⟨i, _, .take at_recv readable, by simp [Network.setSeat, Network.seat]⟩
  | @reply i _ _ at_send =>
    exact .inr ⟨i, _, .reply at_send, by simp [Network.setSeat, Network.seat]⟩
  | @peerPut i _ _ at_put =>
    exact .inr ⟨i, _, .put at_put, by simp [Network.setSeat, Network.seat]⟩

/-- The pipe to a peer that is there, after a message to `j`. -/
theorem Network.route_apply (h : (c.thread i).isSome) (n : ℕ) (m : List φ) :
    c.route j n m i = c.inbound i ++ if i = j then m.map (n, ·) else [] := by
  by_cases hij : i = j
  · subst hij
    simp [Network.route, h]
  · by_cases hj : (c.thread j).isSome <;> simp [Network.route, hj, hij]

/-- A peer's step in front of a message to `j`, and behind it. -/
theorem Network.route_setSeat (h : (c.thread i).isSome) (ht : t.thread.isSome) (n : ℕ)
    (m : List φ) :
    (c.setSeat i t).route j n m =
      Function.update (c.route j n m) i (t.inbound ++ if i = j then m.map (n, ·) else []) := by
  by_cases hij : i = j
  · subst hij
    simp [Network.route, Network.setSeat, h, ht]
  · have hne : j ≠ i := Ne.symm hij
    by_cases hj : (c.thread j).isSome <;>
      simp [Network.route, Network.setSeat, hij, hj, Function.update_of_ne hne,
        Function.update_comm hij]

/-- **The client and a peer** do not get in each other's way. -/
theorem Step.client_peer {l : Label ι φ ω ω'} (step : Step S c l c') (client : l.event.isSome)
    (peer : PeerStep S i (c.seat i) t) :
    ∃ t', PeerStep S i (c'.seat i) t' ∧ Step S (c.setSeat i t) l (c'.setSeat i t') := by
  cases step with
  | @clientPut o k at_put => exact ⟨t, peer, .clientPut (c := c.setSeat i t) at_put⟩
  | @clientSend j m k at_send =>
    obtain ⟨before, after⟩ := peer.thread_isSome
    let more := if i = j then m.map (c.issued, ·) else []
    have hstep := Step.clientSend (S := S) (c := c.setSeat i t) at_send
    refine ⟨{ t with inbound := t.inbound ++ more }, ?_, ?_⟩
    · have hseat := peer.extend more
      simpa only [Network.seat, Network.route_apply before] using hseat
    · rw [Network.route_setSeat before after] at hstep
      exact hstep
  | @clientRecv j cause m rest k at_recv ready =>
    obtain ⟨given, hgiven, hgive⟩ := peer.give
    by_cases hij : i = j
    · subst hij
      have ready' : (c.setSeat i t).outbound i = (cause, m) :: (rest ++ given) := by
        have hout : (c.setSeat i t).outbound i = t.outbound := by simp [Network.setSeat]
        rw [hout, hgiven]
        exact congrArg (· ++ given) ready
      have hstep := Step.clientRecv (S := S) (c := c.setSeat i t) at_recv ready'
      refine ⟨{ t with outbound := rest ++ given }, ?_, ?_⟩
      · have hseat := hgive rest
        simpa [Network.seat] using hseat
      · simpa [Network.setSeat] using hstep
    · have hne : j ≠ i := Ne.symm hij
      have ready' : (c.setSeat i t).outbound j = (cause, m) :: rest := by
        simpa [Network.setSeat, Function.update_of_ne hne] using ready
      have hstep := Step.clientRecv (S := S) (c := c.setSeat i t) at_recv ready'
      refine ⟨t, ?_, ?_⟩
      · simpa [Network.seat, Function.update_of_ne hij] using peer
      · simpa [Network.setSeat, Function.update_comm hne] using hstep
  | join | wake | take | reply | peerPut => simp [Label.event] at client

/-! ## Steps commute -/

variable {R : List φ → Prop} {react : ι → σ → List φ → Option (σ × List φ)}
variable {e e' : ι → Option σ} {inbox : List (ι × List φ)} {last : Option (ι × ℕ)}

/-- There is one message at most that the client can take. -/
theorem Sync.ready_unique (h : Sync R react c e inbox last) {x y : Option ℕ × List φ}
    {xs ys : List (Option ℕ × List φ)} (hi : c.outbound i = x :: xs)
    (hj : c.outbound j = y :: ys) : i = j := by
  cases h with
  | quiet _ settled => simp [(settled i).outbound] at hi
  | @busy k n cont r _ _ settled _ =>
    have asked : ∀ {l z zs}, c.outbound l = z :: zs → l = k := by
      intro l z zs hl
      by_contra hne
      simp [(settled l hne).outbound] at hl
    exact (asked hi).trans (asked hj).symm

/-- The client has no choice. -/
theorem Sync.client_unique (h : Sync R react c e inbox last) {b d : Network ι φ ω ω' σ α}
    {l l' : Label ι φ ω ω'} (step : Step S c l b) (client : l.event.isSome) (step' : Step S c l' d)
    (client' : l'.event.isSome) : b = d := by
  cases step with
  | clientPut at_put =>
    cases step' with
    | clientPut at_put' =>
      obtain ⟨rfl, rfl⟩ := Prog.put.inj (at_put.symm.trans at_put')
      rfl
    | clientSend at_send => simp [at_put] at at_send
    | clientRecv at_recv => simp [at_put] at at_recv
    | join | wake | take | reply | peerPut => simp [Label.event] at client'
  | clientSend at_send =>
    cases step' with
    | clientPut at_put => simp [at_put] at at_send
    | clientSend at_send' =>
      obtain ⟨hm, rfl⟩ := Prog.send.inj (at_send.symm.trans at_send')
      obtain ⟨rfl, rfl⟩ := Prod.mk.inj hm
      rfl
    | clientRecv at_recv => simp [at_send] at at_recv
    | join | wake | take | reply | peerPut => simp [Label.event] at client'
  | clientRecv at_recv ready =>
    cases step' with
    | clientPut at_put => simp [at_put] at at_recv
    | clientSend at_send => simp [at_send] at at_recv
    | clientRecv at_recv' ready' =>
      obtain rfl := h.ready_unique ready ready'
      obtain rfl := Prog.recv.inj (at_recv.symm.trans at_recv')
      obtain ⟨hm, rfl⟩ := List.cons.inj (ready.symm.trans ready')
      obtain ⟨-, rfl⟩ := Prod.mk.inj hm
      rfl
    | join | wake | take | reply | peerPut => simp [Label.event] at client'
  | join | wake | take | reply | peerPut => simp [Label.event] at client

/-- **Steps commute** as long as the client and its peers are in step. -/
theorem commuting_moves (impl : Implements S R react) :
    Commuting (moves S) fun c : Network ι φ ω ω' σ α =>
      ∃ e inbox last, Sync R react c e inbox last where
  keeps := by
    rintro c c' ⟨e, inbox, last, sync⟩ ⟨l, step, nojoin⟩
    obtain ⟨⟨e', inbox', sync', -⟩, -⟩ := sync.step impl step nojoin
    exact ⟨e', inbox', _, sync'⟩
  diamond := by
    rintro c b d ⟨e, inbox, last, sync⟩ ⟨l, step, nojoin⟩ ⟨l', step', nojoin'⟩
    rcases step.split nojoin with client | ⟨i, t, peer, rfl⟩
    · rcases step'.split nojoin' with client' | ⟨j, t', peer', rfl⟩
      · exact .inl (sync.client_unique step client step' client')
      · obtain ⟨t'', peer'', step''⟩ := step.client_peer client peer'
        exact .inr ⟨_, peer''.moves, _, step'', nojoin⟩
    · rcases step'.split nojoin' with client' | ⟨j, t', peer', rfl⟩
      · obtain ⟨t'', peer'', step''⟩ := step'.client_peer client' peer
        exact .inr ⟨_, ⟨_, step'', nojoin'⟩, peer''.moves⟩
      · by_cases hij : i = j
        · subst hij
          rw [peer.unique peer']
          exact .inl rfl
        · refine .inr ⟨(c.setSeat i t).setSeat j t', ?_, ?_⟩
          · exact PeerStep.moves (by rwa [Network.seat_setSeat_of_ne (Ne.symm hij)])
          · rw [Network.setSeat_comm hij]
            exact PeerStep.moves (by rwa [Network.seat_setSeat_of_ne hij])

/-! ## One request after another -/

/-- Steps of one peer are steps of the network. -/
theorem reflTransGen_setSeat (h : Relation.ReflTransGen (PeerStep S i) t t')
    (c : Network ι φ ω ω' σ α) :
    Relation.ReflTransGen (moves S) (c.setSeat i t) (c.setSeat i t') := by
  induction h with
  | refl => exact .refl
  | tail _ step ih =>
    have hmoves := PeerStep.moves (c := c.setSeat i _) (by rwa [Network.seat_setSeat_self])
    rw [Network.setSeat_setSeat] at hmoves
    exact ih.tail hmoves

/-- Nothing is in flight, and every peer that is there waits, in the state `e` tells. -/
structure Resting (c : Network ι φ ω ω' σ α) (e : ι → Option σ) : Prop where
  thread : ∀ i, c.thread i = (e i).map .ret
  inbound : ∀ i, c.inbound i = []
  outbound : ∀ i, c.outbound i = []

/-- Where the client can at best wait, nothing is on its way to it, and no peer can go on. -/
theorem terminal_of_stuck (put : ∀ o k, c.client ≠ .put o k) (send : ∀ m k, c.client ≠ .send m k)
    (outbound : ∀ i, c.outbound i = []) (peers : ∀ i t, ¬ PeerStep S i (c.seat i) t) :
    Terminal (moves S) c := by
  rintro b ⟨l, step, nojoin⟩
  rcases step.split nojoin with client | ⟨i, t, peer, -⟩
  · cases step with
    | clientPut at_put => exact put _ _ at_put
    | clientSend at_send => exact send _ _ at_send
    | clientRecv _ ready => simp [outbound] at ready
    | join | wake | take | reply | peerPut => simp [Label.event] at client
  · exact peers i t peer

omit [DecidableEq ι] in
/-- A peer that waits makes no step. -/
theorem Resting.not_peerStep (h : Resting c e) (i : ι) (t : Seat φ ω' σ) :
    ¬ PeerStep S i (c.seat i) t := by
  intro peer
  have hthread : c.thread i = (e i).map .ret := h.thread i
  have hempty : c.inbound i = [] := h.inbound i
  cases peer with
  | wake idle readable => simp [Network.seat, hempty] at readable
  | take at_recv readable => simp [Network.seat, hempty] at readable
  | reply at_send => cases hi : e i <;> simp [Network.seat, hthread, hi] at at_send
  | put at_put => cases hi : e i <;> simp [Network.seat, hthread, hi] at at_put

/-- A request to a peer that is there leads to its thread being woken. -/
theorem Resting.delivered (impl : Implements S R react) (h : Resting c e) {m : List φ} {s : σ}
    {k : Client ι φ ω α} (at_send : c.client = .send (i, m) k) (request : R m)
    (present : e i = some s) :
    Relation.ReflTransGen (moves S) c
      (({ c with client := k, issued := c.issued + 1 } : Network ι φ ω ω' σ α).setSeat i
        ⟨some (S.serve i s), m.map (c.issued, ·), some c.issued, []⟩) := by
  have hthread : c.thread i = some (.ret s) := by simp [h.thread, present]
  obtain ⟨f, fs, rfl⟩ := List.exists_cons_of_ne_nil (impl.nonempty request)
  have hsend : moves S c
      { c with client := k, issued := c.issued + 1, inbound := c.route i c.issued (f :: fs) } :=
    ⟨_, .clientSend at_send, by simp [NobodyJoins]⟩
  have hin : c.route i c.issued (f :: fs) i = (c.issued, f) :: fs.map (c.issued, ·) := by
    simp [Network.route_apply, hthread, h.inbound]
  have hwake := PeerStep.moves (PeerStep.wake (S := S) (i := i)
    (t := Network.seat
      { c with client := k, issued := c.issued + 1, inbound := c.route i c.issued (f :: fs) } i)
    hthread hin)
  refine .head hsend (.head hwake ?_)
  have hroute : c.route i c.issued (f :: fs) =
      Function.update c.inbound i ((c.issued, f) :: fs.map (c.issued, ·)) := by
    simp [Network.route, hthread, h.inbound]
  simp only [Network.setSeat, Network.seat, hroute, Function.update_idem, Function.update_self,
    h.outbound, List.map_cons]
  exact .refl

/-- The answer is given and taken. -/
theorem Resting.answered (h : Resting c e) {m r : List φ} {s s' : σ}
    {k : ι × List φ → Client ι φ ω α} {n : ℕ} (at_recv : c.client = .recv k)
    (answers : Answers (S.serve i s) m r s') :
    ∃ d : Network ι φ ω ω' σ α, d.client = k (i, r) ∧
      Resting d (Function.update e i (some s')) ∧
      Relation.ReflTransGen (moves S)
        (c.setSeat i ⟨some (S.serve i s), m.map (n, ·), some n, []⟩) d := by
  have hserved := reflTransGen_setSeat (answers.peerSteps (S := S) (i := i) n (some n) []) c
  have hready : (c.setSeat i ⟨some (.ret s'), [], some n, [(some n, r)]⟩).outbound i =
      [(some n, r)] := by simp [Network.setSeat]
  have hrecv := Step.clientRecv (S := S)
    (c := c.setSeat i ⟨some (.ret s'), [], some n, [(some n, r)]⟩) at_recv hready
  have htaken : moves S _ _ := ⟨_, hrecv, by simp [NobodyJoins]⟩
  refine ⟨_, rfl, ⟨fun j => ?_, fun j => ?_, fun j => ?_⟩, hserved.tail htaken⟩
  · by_cases hj : j = i
    · subst hj
      simp [Network.setSeat]
    · simpa [Network.setSeat, Function.update_of_ne hj] using h.thread j
  · by_cases hj : j = i
    · subst hj
      simp [Network.setSeat]
    · simpa [Network.setSeat, Function.update_of_ne hj] using h.inbound j
  · by_cases hj : j = i
    · subst hj
      simp [Network.setSeat]
    · simpa [Network.setSeat, Function.update_of_ne hj] using h.outbound j

/-- A peer that dies is the last that happens. -/
theorem Resting.died (h : Resting c e) {m : List φ} {s : σ} {k : ι × List φ → Client ι φ ω α}
    {n : ℕ} (at_recv : c.client = .recv k) (dies : Dies (S.serve i s) m) :
    ∃ d : Network ι φ ω ω' σ α, Terminal (moves S) d ∧ Relation.ReflTransGen (moves S)
      (c.setSeat i ⟨some (S.serve i s), m.map (n, ·), some n, []⟩) d := by
  obtain ⟨why, rest, hserve⟩ := dies.peerSteps (S := S) (i := i) n (some n) []
  refine ⟨_, terminal_of_stuck ?_ ?_ ?_ ?_, reflTransGen_setSeat hserve c⟩
  · intro o q hput
    exact absurd (at_recv.symm.trans hput) (by simp)
  · intro x q hsend
    exact absurd (at_recv.symm.trans hsend) (by simp)
  · intro j
    by_cases hj : j = i
    · subst hj
      simp [Network.setSeat]
    · simpa [Network.setSeat, Function.update_of_ne hj] using h.outbound j
  · intro j t peer
    by_cases hj : j = i
    · subst hj
      rw [Network.seat_setSeat_self] at peer
      cases peer <;> simp_all
    · rw [Network.seat_setSeat_of_ne hj] at peer
      exact h.not_peerStep j t peer

/-- **The run that serves one request after another**, from a configuration that rests. It
ends where nothing can happen any more; and if the execution of the client against
`react` returns then so has the client, and its peers rest. -/
theorem Lockstep.schedule (impl : Implements S R react) {p : Client ι φ ω α}
    (lockstep : Lockstep R p) (client : c.client = p) (resting : Resting c e) :
    ∃ z, Relation.ReflTransGen (moves S) c z ∧ Terminal (moves S) z ∧
      ∀ a e' rest t, p.exec (respond react) e [] = ⟨.returned a, e', rest, t⟩ →
        z.client = .ret a ∧ Resting z e' := by
  induction lockstep generalizing c e with
  | ret a =>
    refine ⟨c, .refl, terminal_of_stuck (by simp [client]) (by simp [client]) resting.outbound
      resting.not_peerStep, ?_⟩
    intro a' e' rest t hexec
    simp only [Prog.exec_ret, Outcome.mk.injEq, Result.returned.injEq] at hexec
    obtain ⟨rfl, rfl, -, -⟩ := hexec
    exact ⟨client, resting⟩
  | @put o k _ ih =>
    obtain ⟨z, hz, hterminal, hreturns⟩ := ih (c := { c with client := k }) rfl
      ⟨resting.thread, resting.inbound, resting.outbound⟩
    refine ⟨z, .head ⟨_, .clientPut client, by simp [NobodyJoins]⟩ hz, hterminal, ?_⟩
    intro a e' rest t hexec
    obtain ⟨t', -, hk⟩ := Outcome.of_after hexec
    exact hreturns a e' rest t' hk
  | @ask i m k request _ ih =>
    cases hi : e i with
    | none =>
      -- Nobody is there: the message is dropped, and the client waits for ever.
      have hthread : c.thread i = none := by simp [resting.thread, hi]
      refine ⟨{ c with client := .recv k, issued := c.issued + 1, inbound := c.route i c.issued m },
        .single ⟨_, .clientSend client, by simp [NobodyJoins]⟩,
        terminal_of_stuck (by simp) (by simp) resting.outbound ?_, ?_⟩
      · have hroute : c.route i c.issued m = c.inbound := by simp [Network.route, hthread]
        rw [hroute]
        exact Resting.not_peerStep (c := { c with client := .recv k, issued := c.issued + 1 })
          ⟨resting.thread, resting.inbound, resting.outbound⟩
      · intro a e' rest t hexec
        simp [respond_absent hi, Outcome.after] at hexec
    | some s =>
      have hdelivered := resting.delivered impl client request hi
      have hrests : Resting
          ({ c with client := .recv k, issued := c.issued + 1 } : Network ι φ ω ω' σ α) e :=
        ⟨resting.thread, resting.inbound, resting.outbound⟩
      cases hr : react i s m with
      | none =>
        obtain ⟨d, hterminal, hdied⟩ := hrests.died rfl (impl.dies request hr)
        refine ⟨d, hdelivered.trans hdied, hterminal, ?_⟩
        intro a e' rest t hexec
        simp [respond_dies hi hr, Outcome.after] at hexec
      | some sr =>
        obtain ⟨s', r⟩ := sr
        obtain ⟨d, hclient, hrests', hanswered⟩ :=
          hrests.answered rfl (impl.answers request hr)
        obtain ⟨z, hz, hterminal, hreturns⟩ := ih (i, r) hclient hrests'
        refine ⟨z, hdelivered.trans (hanswered.trans hz), hterminal, ?_⟩
        intro a e' rest t hexec
        simp only [Prog.exec_send, respond_answers hi hr, List.nil_append, Prog.exec_recv_cons,
          Outcome.after_after] at hexec
        obtain ⟨t', -, hk⟩ := Outcome.of_after hexec
        exact hreturns a e' rest t' hk
  | fault why =>
    refine ⟨c, .refl, terminal_of_stuck (by simp [client]) (by simp [client]) resting.outbound
      resting.not_peerStep, ?_⟩
    intro a e' rest t hexec
    simp at hexec
  | spin =>
    refine ⟨c, .refl, terminal_of_stuck (by simp [client]) (by simp [client]) resting.outbound
      resting.not_peerStep, ?_⟩
    intro a e' rest t hexec
    simp at hexec

/-! ## Every run -/

variable {c₀ : Network ι φ ω ω' σ α} {ls ls' : List (Label ι φ ω ω')}
variable {ok : Network ι φ ω ω' σ α → Label ι φ ω ω' → Prop}

theorem RunWhere.append (run : RunWhere S ok c₀ ls c) (more : RunWhere S ok c ls' c') :
    RunWhere S ok c₀ (ls ++ ls') c' := by
  induction more with
  | refl => rwa [List.append_nil]
  | snoc _ step meets ih =>
    rw [← List.append_assoc]
    exact .snoc ih step meets

theorem RunWhere.stepsIn (run : RunWhere S NobodyJoins c₀ ls c) :
    StepsIn (moves S) ls.length c₀ c := by
  induction run with
  | refl => exact .refl _
  | snoc _ step meets ih =>
    rw [List.length_append]
    exact ih.snoc ⟨_, step, meets⟩

theorem StepsIn.run {n : ℕ} (h : StepsIn (Interaction.moves S) n c c') :
    ∃ ls, RunWhere S NobodyJoins c ls c' ∧ ls.length = n := by
  induction h with
  | refl => exact ⟨[], .refl _, rfl⟩
  | head step _ ih =>
    obtain ⟨l, step, meets⟩ := step
    obtain ⟨ls, run, rfl⟩ := ih
    exact ⟨l :: ls, RunWhere.append (.snoc (.refl _) step meets) run, rfl⟩

/-- Steps of one peer are a run, of which the client sees nothing. -/
theorem StepsIn.peerRun {n : ℕ} (h : StepsIn (PeerStep S i) n t t')
    (c : Network ι φ ω ω' σ α) : ∃ ls, RunWhere S NobodyJoins (c.setSeat i t) ls (c.setSeat i t') ∧
      ls.length = n ∧ clientTrace ls = [] := by
  induction h with
  | refl => exact ⟨[], .refl _, rfl, rfl⟩
  | head step _ ih =>
    obtain ⟨l, step, nojoin, silent⟩ := PeerStep.step (c := c.setSeat i _) (by
      rwa [Network.seat_setSeat_self])
    rw [Network.setSeat_setSeat] at step
    obtain ⟨ls, run, rfl, hls⟩ := ih
    refine ⟨l :: ls, RunWhere.append (.snoc (.refl _) step nojoin) run, rfl, ?_⟩
    rw [clientTrace, List.filterMap_cons_none silent]
    exact hls

omit [DecidableEq ι] in
theorem Resting.settled (h : Resting c e) (j : ι) : Settled c e j := by
  refine ⟨h.inbound j, h.outbound j, ?_⟩
  rw [h.thread j]
  cases e j with
  | none => exact .absent
  | some s => exact .present (.ret s)

/-- **Every run can be completed, to the same configuration.** Let the execution of the
client against `react` return. Then there are a configuration in which the client has
returned the same and its peers rest, and a number of steps, such that each run without
joins goes on to this configuration, and has made this number of steps when it is there.
So no run is longer, none gets stuck, and all of them show the trace of the execution. -/
theorem RunWhere.completes (impl : Implements S R react) (lockstep : Lockstep R c₀.client)
    (resting : Resting c₀ e) {a : α} {rest : List (ι × List φ)}
    {t : List (Event ω (ι × List φ) (ι × List φ))}
    (returns : c₀.client.exec (respond react) e [] = ⟨.returned a, e', rest, t⟩) :
    ∃ (n : ℕ) (z : Network ι φ ω ω' σ α), z.client = .ret a ∧ Resting z e' ∧
      ∀ ls c, RunWhere S NobodyJoins c₀ ls c → ∃ more, RunWhere S NobodyJoins c more z ∧
        ls.length + more.length = n ∧ clientTrace (ls ++ more) = t := by
  obtain ⟨z, hz, hterminal, hreturns⟩ := lockstep.schedule impl rfl resting
  obtain ⟨hclient, hrests⟩ := hreturns a e' rest t returns
  obtain ⟨n, toEnd⟩ := StepsIn.of_reflTransGen hz
  have start : Sync R react c₀ e [] none := .quiet lockstep resting.settled
  refine ⟨n, z, hclient, hrests, fun ls c run => ?_⟩
  obtain ⟨k, hk, nearer⟩ := (commuting_moves impl).descent ⟨e, [], none, start⟩ toEnd hterminal
    run.stepsIn
  obtain ⟨more, run', rfl⟩ := nearer.run
  refine ⟨more, run', hk, ?_⟩
  obtain ⟨e'', inbox, -, hexec⟩ := (run.append run').sync impl (fun _ i h => h i rfl) start
  rw [returns, hclient, Prog.exec_ret] at hexec
  have htrace : t = clientTrace (ls ++ more) ++ [] := congrArg Outcome.trace hexec
  rw [htrace, List.append_nil]

/-! ## Peers that are not there -/

/-- Nobody appears because of a message. -/
theorem isSome_of_respond {x : ι × List φ} (h : ((respond react e x).1 i).isSome) :
    (e i).isSome := by
  obtain ⟨j, m⟩ := x
  cases hj : e j with
  | none => rwa [respond_absent hj] at h
  | some s =>
    by_cases hij : i = j
    · subst hij
      simp [hj]
    · cases hr : react j s m with
      | none => simpa [respond_dies hj hr, Function.update_of_ne hij] using h
      | some sr => simpa [respond_answers hj hr, Function.update_of_ne hij] using h

/-- Whoever is not there does not answer, and nobody answers twice. -/
theorem length_respond_le (x : ι × List φ) :
    (respond react e x).2.length ≤ if (e x.1).isSome then 1 else 0 := by
  obtain ⟨j, m⟩ := x
  cases hj : e j with
  | none => simp [respond_absent hj]
  | some s =>
    cases hr : react j s m with
    | none => simp [respond_dies hj hr]
    | some sr => simp [respond_answers hj hr]

/-- **What is received** was on its way at first, or answers a message to somebody who was
there. -/
theorem length_receivedIn_le (react : ι → σ → List φ → Option (σ × List φ))
    (p : Client ι φ ω α) (e : ι → Option σ) (inbox : List (ι × List φ)) :
    (receivedIn (p.exec (respond react) e inbox).trace).length ≤
      inbox.length + (sentIn (p.exec (respond react) e inbox).trace).countP
        fun x => (e x.1).isSome := by
  induction p generalizing e inbox with
  | ret a => simp [receivedIn]
  | put o k ih => exact ih e inbox
  | send x k ih =>
    have hrest := ih (respond react e x).1 (inbox ++ (respond react e x).2)
    have hanswer : (respond react e x).2.length ≤ _ := length_respond_le x
    have hfewer := List.countP_mono_left (l := sentIn (k.exec (respond react)
        (respond react e x).1 (inbox ++ (respond react e x).2)).trace)
      (fun y _ (hy : ((respond react e x).1 y.1).isSome = true) => isSome_of_respond hy)
    rw [Prog.exec_send, Outcome.trace_after, List.singleton_append, receivedIn_sent_cons,
      sentIn_sent_cons, List.countP_cons]
    rw [List.length_append] at hrest
    omega
  | recv k ih =>
    cases inbox with
    | nil => simp [receivedIn]
    | cons x inbox =>
      have hrest := ih x e inbox
      rw [Prog.exec_recv_cons, Outcome.trace_after, List.singleton_append]
      simp only [receivedIn, sentIn, List.filterMap_cons, List.length_cons] at hrest ⊢
      omega
  | fault why => simp [receivedIn]
  | spin => simp [receivedIn]

end Networks
end Interaction
