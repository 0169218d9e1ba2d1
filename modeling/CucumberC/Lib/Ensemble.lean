import CucumberC.Lib.Turns
import CucumberC.Lib.Schedule

/-!
# A client and programs of two threads

In a network the peers of the client are handlers. What is there in fact, at each identity,
is a program with a life of its own: a parent with its actor, each of which goes on when it
likes, hears commands, and may leave. An ensemble is the client together with these
programs. It refines the network: what the client does in a run of the ensemble, it does in
a run of the network, too, even if programs leave in the middle of it and what they have
sent last is lost (`Simulation.run`, `simulation_fits`). As long as the parents rest, the
ensemble does not get stuck before the network does (`Run.completes`).

## Main definitions

* `Ensemble`, `Step`, `Run`: the programs together, and how they go on.
* `Run.member`, `Run.shows`: what a run of the ensemble is for one of the programs, and for the
  client.
* `Simulation`, `Refines`, `Simulation.run`: programs that do as peers do.
* `Fits`, `Undisturbed`: how a program and a peer correspond.
-/

namespace Interaction
universe u

variable {ι β γ φ ω ω' σ α : Type u}

/-- A message arrives at the socket of an actor. -/
def Tandem.deliver (m : List φ) (t : Tandem β γ φ ω' σ) : Tandem β γ φ ω' σ :=
  { t with inbound := t.inbound ++ m }

/-- The frames of a message arrive one after another. -/
theorem Tandem.run_deliver (body : ActorBody γ φ ω' σ) (m : List φ) (t : Tandem β γ φ ω' σ) :
    ∃ ls, Tandem.Run body t ls (t.deliver m) ∧ Tandem.arrivals ls = m ∧ Tandem.events ls = [] := by
  induction m generalizing t with
  | nil =>
    have same : t.deliver [] = t := by rw [deliver, List.append_nil]
    exact ⟨[], by rw [same]; exact .refl, rfl, rfl⟩
  | cons f m ih =>
    obtain ⟨ls, run, rfl, quiet⟩ := ih (t.deliver [f])
    have same : (t.deliver [f]).deliver (arrivals ls) = t.deliver (f :: arrivals ls) := by
      simp [deliver]
    refine ⟨[.arrived f] ++ ls, .trans (.snoc .refl (.arrive f)) (same ▸ run), rfl, ?_⟩
    rw [events_append, quiet]
    rfl

/-- A thread that only finishes may return. -/
theorem Finishing.mayReturn {q : Thread φ ω' σ} {s : σ} (h : Finishing q s) :
    ∃ t, MayReturn q t s := by
  induction h with
  | ret s => exact ⟨[], .ret s⟩
  | put _ ih =>
    obtain ⟨t, h⟩ := ih
    exact ⟨_, .put h⟩

/-- The actor is in its last program, or has ended. -/
def Tandem.Gone (t : Tandem β γ φ ω' σ) : Prop := t.phase = .stopping ∨ t.phase = .exited

/-- Who is gone does not come back. -/
theorem Tandem.Gone.step {body : ActorBody γ φ ω' σ} {t t' : Tandem β γ φ ω' σ}
    {l : Tandem.Label β γ φ ω'} (h : t.Gone) (step : Tandem.Step body t l t') : t'.Gone := by
  unfold Gone at h ⊢
  cases step with
  | arrive => exact h
  | parent _ step =>
    cases step with
    | start _ absent =>
      rw [absent] at h
      rcases h with h | h <;> cases h
    | await | act | tell | release | gone => exact h
  | actor _ step =>
    cases step with
    | move move =>
      rw [move.frame.2.1]
      exact h
    | begin phase | hear phase | serve phase =>
      rw [phase] at h
      rcases h with h | h <;> cases h
    | stop => exact .inl rfl
    | exit => exact .inr rfl

/-- A client, and at each identity a program or nobody. -/
structure Ensemble (ι β γ φ ω ω' σ α : Type u) where
  client : Client ι φ ω α
  member : ι → Option (Tandem β γ φ ω' σ)
  /-- The messages on the way to the client. -/
  outbound : ι → List (List φ)

namespace Ensemble

/-- What a step does. -/
inductive Label (ι β γ φ ω ω' : Type u)
  | client (event : Event ω (ι × List φ) (ι × List φ))
  | member (i : ι) (l : Tandem.Label β γ φ ω')
  | lost (i : ι) (m : List φ)

namespace Label

/-- The effect as the client shows it. -/
def event : Label ι β γ φ ω ω' → Option (Event ω (ι × List φ) (ι × List φ))
  | client event => some event
  | member _ _ | lost _ _ => none

/-- The programs do only what is allowed. -/
def Allowed (allowed : Tandem.Label β γ φ ω' → Prop) : Label ι β γ φ ω ω' → Prop
  | client _ | lost _ _ => True
  | member _ l => allowed l

end Label

/-- The client's own trace of a run. -/
def clientEvents (ls : List (Label ι β γ φ ω ω')) : List (Event ω (ι × List φ) (ι × List φ)) :=
  ls.filterMap Label.event

@[simp] theorem clientEvents_snoc (ls : List (Label ι β γ φ ω ω')) (l : Label ι β γ φ ω ω') :
    clientEvents (ls ++ [l]) = clientEvents ls ++ l.event.toList := by
  cases h : l.event <;> simp [clientEvents, h]

variable [DecidableEq ι]

/-- What one of the programs has done. -/
def labelsOf (i : ι) (ls : List (Label ι β γ φ ω ω')) : List (Tandem.Label β γ φ ω') :=
  ls.filterMap fun
    | .member j l => if j = i then some l else none
    | .client _ | .lost _ _ => none

/-- A step of the client, or of one of the programs. A message arrives as a whole. What a
program has sent last may be lost when it closes its socket. -/
inductive Step (bodies : ι → ActorBody γ φ ω' σ) (c : Ensemble ι β γ φ ω ω' σ α) :
    Label ι β γ φ ω ω' → Ensemble ι β γ φ ω ω' σ α → Prop
  | put {o k} (at_put : c.client = .put o k) :
      Step bodies c (.client (.put o)) { c with client := k }
  | send {i m k} (at_send : c.client = .send (i, m) k) :
      Step bodies c (.client (.sent (i, m)))
        { c with
          client := k
          member := Function.update c.member i ((c.member i).map (Tandem.deliver m)) }
  | recv {i m rest k} (at_recv : c.client = .recv k) (ready : c.outbound i = m :: rest) :
      Step bodies c (.client (.received (i, m)))
        { c with client := k (i, m), outbound := Function.update c.outbound i rest }
  | member {i t l t'} (there : c.member i = some t) (step : Tandem.Step (bodies i) t l t')
      (inside : l.isArrival = false) :
      Step bodies c (.member i l)
        { c with
          member := Function.update c.member i (some t')
          outbound := Function.update c.outbound i
            (c.outbound i ++ sentIn (Tandem.events [l])) }
  | lose {i t kept m} (there : c.member i = some t) (gone : t.Gone)
      (last : c.outbound i = kept ++ [m]) :
      Step bodies c (.lost i m) { c with outbound := Function.update c.outbound i kept }

/-- A run, with what its steps did. -/
inductive Run (bodies : ι → ActorBody γ φ ω' σ) (c : Ensemble ι β γ φ ω ω' σ α) :
    List (Label ι β γ φ ω ω') → Ensemble ι β γ φ ω ω' σ α → Prop
  | refl : Run bodies c [] c
  | snoc {ls c' l c''} (run : Run bodies c ls c') (step : Step bodies c' l c'') :
      Run bodies c (ls ++ [l]) c''

variable {bodies : ι → ActorBody γ φ ω' σ} {c₀ c c' : Ensemble ι β γ φ ω ω' σ α}
variable {l : Label ι β γ φ ω ω'} {ls : List (Label ι β γ φ ω ω')} {i : ι}

/-! ## One of the programs -/

/-- **What a run is for one of the programs**: a run of its own, at which the messages arrive
that the client sends to it. -/
theorem Run.member (run : Run bodies c₀ ls c) {t₀ : Tandem β γ φ ω' σ}
    (there : c₀.member i = some t₀) :
    ∃ t ks, c.member i = some t ∧ Tandem.Run (bodies i) t₀ ks t ∧
      Tandem.arrivals ks = (sentTo i (clientEvents ls)).flatten ∧
      Tandem.events ks = Tandem.events (labelsOf i ls) := by
  induction run with
  | refl => exact ⟨t₀, [], there, .refl, rfl, rfl⟩
  | @snoc ls c' l c'' _ step ih =>
    obtain ⟨t, ks, hmember, run, harrivals, hevents⟩ := ih
    have labels : labelsOf i (ls ++ [l]) = labelsOf i ls ++ labelsOf i [l] :=
      List.filterMap_append
    rw [clientEvents_snoc, sentTo_append, List.flatten_append, ← harrivals, labels,
      Tandem.events_append, ← hevents]
    -- A step that does not concern the program leaves it as it is.
    have elsewhere : c''.member i = some t → sentTo i l.event.toList = [] → labelsOf i [l] = [] →
        ∃ t ks', c''.member i = some t ∧ Tandem.Run (bodies i) t₀ ks' t ∧
          Tandem.arrivals ks' = Tandem.arrivals ks ++ (sentTo i l.event.toList).flatten ∧
          Tandem.events ks' = Tandem.events ks ++ Tandem.events (labelsOf i [l]) := by
      intro hmember hsent hlabels
      rw [hsent, hlabels]
      exact ⟨t, ks, hmember, run, (List.append_nil _).symm, (List.append_nil _).symm⟩
    cases step with
    | put | recv | lose => exact elsewhere hmember rfl rfl
    | @send j m =>
      by_cases hj : j = i
      · subst hj
        obtain ⟨ks', run', rfl, quiet⟩ := Tandem.run_deliver (bodies j) m t
        refine ⟨_, ks ++ ks', by simp [hmember], run.trans run', ?_, ?_⟩
        · rw [Tandem.arrivals_append]
          simp [Label.event, sentTo]
        · rw [Tandem.events_append, quiet]
          rfl
      · refine elsewhere ?_ (by simp [Label.event, sentTo, hj]) rfl
        simpa [Function.update_of_ne (Ne.symm hj)] using hmember
    | @member j t' l t'' hthere step inside =>
      by_cases hj : j = i
      · subst hj
        obtain rfl := Option.some.inj (hmember.symm.trans hthere)
        refine ⟨t'', ks ++ [l], by simp, run.snoc step, ?_, ?_⟩
        · rw [Tandem.arrivals_append, Tandem.arrivals_of_inside inside]
          rfl
        · rw [Tandem.events_append]
          simp [labelsOf]
      · refine elsewhere ?_ rfl (by simp [labelsOf, hj])
        simpa [Function.update_of_ne (Ne.symm hj)] using hmember

/-- **The client of a run** has shown its trace, whatever the programs do. -/
theorem Run.shows (run : Run bodies c₀ ls c) : c₀.client.Shows (clientEvents ls) c.client := by
  induction run with
  | refl => exact .refl
  | snoc _ step ih =>
    rw [clientEvents_snoc]
    cases step with
    | put at_put => exact .put (at_put ▸ ih)
    | send at_send => exact .send (at_send ▸ ih)
    | recv at_recv => exact .recv (at_recv ▸ ih) _
    | member | lose =>
      rw [Label.event, Option.toList_none, List.append_nil]
      exact ih

/-! ## Programs that do as peers do -/

/-- `fits` is kept by the steps that are allowed: each step of a program is some steps of the
peer, `least` of them at least, and sends what they send. Who is gone sends nothing. -/
structure Simulation (S : Service ι φ ω' σ) (bodies : ι → ActorBody γ φ ω' σ)
    (allowed : Tandem.Label β γ φ ω' → Prop) (least : ℕ)
    (fits : ι → Option (Tandem β γ φ ω' σ) → Seat φ ω' σ → Prop) : Prop where
  least_le : least ≤ 1
  present : ∀ {i t r}, fits i t r → t.isSome = r.thread.isSome
  outbound : ∀ {i t r}, fits i t r → ∀ out, fits i t { r with outbound := out }
  deliver : ∀ {i t r}, fits i (some t) r → ∀ (n : ℕ) (m : List φ),
    fits i (some (t.deliver m)) { r with inbound := r.inbound ++ m.map (n, ·) }
  step : ∀ {i t l t' r}, fits i (some t) r → Tandem.Step (bodies i) t l t' →
    l.isArrival = false → allowed l →
    ∃ n r', least ≤ n ∧ StepsIn (PeerStep S i) n r r' ∧ fits i (some t') r' ∧
      r'.outbound.map Prod.snd = r.outbound.map Prod.snd ++ sentIn (Tandem.events [l])
  gone : ∀ {i t r}, fits i (some t) r → t.Gone → least = 0 ∧
    ∀ {l t'}, Tandem.Step (bodies i) t l t' → sentIn (Tandem.events [l]) = []

/-- The ensemble and the network have the same client, the same messages on the way to it,
apart from those that are lost, and at each identity a program and a peer that fit. -/
structure Refines (fits : ι → Option (Tandem β γ φ ω' σ) → Seat φ ω' σ → Prop)
    (c : Ensemble ι β γ φ ω ω' σ α) (d : Network ι φ ω ω' σ α) : Prop where
  client : d.client = c.client
  front : ∀ i, c.outbound i <+: (d.outbound i).map Prod.snd
  outbound : ∀ i, (∀ t, c.member i = some t → ¬ t.Gone) →
    (d.outbound i).map Prod.snd = c.outbound i
  seats : ∀ i, fits i (c.member i) (d.seat i)

variable {S : Service ι φ ω' σ} {allowed : Tandem.Label β γ φ ω' → Prop} {least : ℕ}
variable {fits : ι → Option (Tandem β γ φ ω' σ) → Seat φ ω' σ → Prop}
variable {d d₀ : Network ι φ ω ω' σ α}

/-- The client sends a message. -/
theorem Simulation.send (sim : Simulation S bodies allowed least fits) (h : Refines fits c d)
    (n : ℕ) (m : List φ) (k : Client ι φ ω α) :
    Refines fits
      { c with
        client := k
        member := Function.update c.member i ((c.member i).map (Tandem.deliver m)) }
      { d with client := k, issued := d.issued + 1, inbound := d.route i n m } := by
  have outbound : ∀ j, (∀ t, Function.update c.member i ((c.member i).map (Tandem.deliver m)) j =
      some t → ¬ t.Gone) → (d.outbound j).map Prod.snd = c.outbound j := by
    refine fun j present => h.outbound j fun t there => ?_
    by_cases hj : j = i
    · subst hj
      exact present (t.deliver m) (by simp [there])
    · exact present t (by simpa [Function.update_of_ne hj] using there)
  refine ⟨rfl, h.front, outbound, fun j => ?_⟩
  have hseat := h.seats j
  have hpresent : (c.member j).isSome = (d.thread j).isSome := sim.present hseat
  by_cases hj : j = i
  · subst hj
    cases hmember : c.member j with
    | none =>
      rw [hmember] at hpresent hseat
      simpa [Network.seat, Network.route, ← hpresent, hmember] using hseat
    | some t =>
      rw [hmember] at hpresent hseat
      simpa [Network.seat, Network.route, ← hpresent, hmember] using sim.deliver hseat n m
  · have hroute : d.route i n m j = d.inbound j := by
      unfold Network.route
      split
      · exact Function.update_of_ne hj _ _
      · rfl
    simpa [Network.seat, hroute, Function.update_of_ne hj] using hseat

/-- **One step** of the ensemble is some steps of the network. -/
theorem Simulation.ensembleStep (sim : Simulation S bodies allowed least fits)
    (h : Refines fits c d) (step : Step bodies c l c') (ok : l.Allowed allowed) :
    ∃ ms d', RunWhere S NobodyJoins d ms d' ∧ clientTrace ms = l.event.toList ∧
      least ≤ ms.length ∧ Refines fits c' d' := by
  cases step with
  | put at_put =>
    exact ⟨_, _, .snoc (.refl d) (.clientPut (h.client.trans at_put)) (by simp [NobodyJoins]), rfl,
      sim.least_le, rfl, h.front, h.outbound, h.seats⟩
  | send at_send =>
    exact ⟨_, _, .snoc (.refl d) (.clientSend (h.client.trans at_send)) (by simp [NobodyJoins]),
      rfl, sim.least_le, sim.send h d.issued _ _⟩
  | @recv i m rest k at_recv ready =>
    obtain ⟨after, hready⟩ := h.front i
    rw [ready, List.cons_append, eq_comm, List.map_eq_cons_iff] at hready
    obtain ⟨⟨cause, m'⟩, rest', hready, rfl, hrest⟩ := hready
    refine ⟨_, _, .snoc (.refl d) (.clientRecv (h.client.trans at_recv) hready)
      (by simp [NobodyJoins]), rfl, sim.least_le, rfl, fun j => ?_, fun j there => ?_, fun j => ?_⟩
    · by_cases hj : j = i
      · subst hj
        simp [hrest]
      · simpa [Function.update_of_ne hj] using h.front j
    · have hall := h.outbound j there
      by_cases hj : j = i
      · subst hj
        rw [hready, ready, List.map_cons] at hall
        simpa using List.tail_eq_of_cons_eq hall
      · simpa [Function.update_of_ne hj] using hall
    · have hseat := sim.outbound (h.seats j)
      simpa [Network.seat] using hseat (Function.update d.outbound i rest' j)
  | @member i t l t' there step inside =>
    have hseat := h.seats i
    rw [there] at hseat
    obtain ⟨n, r, hleast, steps, hfits, hsent⟩ := sim.step hseat step inside ok
    obtain ⟨ms, run, rfl, hms⟩ := steps.peerRun d
    rw [Network.setSeat_seat] at run
    have whole (here : ¬ t.Gone) : (d.outbound i).map Prod.snd = c.outbound i :=
      h.outbound i fun t' there' => Option.some.inj (there.symm.trans there') ▸ here
    refine ⟨ms, _, run, hms, hleast, h.client, fun j => ?_, fun j present => ?_, fun j => ?_⟩
    · by_cases hj : j = i
      · subst hj
        have front : c.outbound j ++ sentIn (Tandem.events [l]) <+: r.outbound.map Prod.snd := by
          rw [hsent]
          by_cases gone : t.Gone
          · rw [(sim.gone hseat gone).2 step, List.append_nil, List.append_nil]
            exact h.front j
          · rw [← whole gone]
            exact List.prefix_rfl
        simpa [Network.setSeat] using front
      · simpa [Network.setSeat, Function.update_of_ne hj] using h.front j
    · by_cases hj : j = i
      · subst hj
        have gone : ¬ t.Gone := fun gone => present t' (by simp) (gone.step step)
        simpa [Network.setSeat, Network.seat, ← whole gone] using hsent
      · have hall := h.outbound j fun t there =>
          present t (by simpa [Function.update_of_ne hj] using there)
        simpa [Network.setSeat, Function.update_of_ne hj] using hall
    · by_cases hj : j = i
      · subst hj
        simpa using hfits
      · simpa [Function.update_of_ne hj, hj] using h.seats j
  | @lose i t kept m there gone last =>
    have hseat := h.seats i
    rw [there] at hseat
    -- The network keeps the message, and its client does not come to it.
    refine ⟨[], d, .refl d, rfl, Nat.le_of_eq (sim.gone hseat gone).1, h.client, fun j => ?_,
      fun j present => ?_, h.seats⟩
    · by_cases hj : j = i
      · subst hj
        have front := h.front j
        rw [last] at front
        simpa using (List.prefix_append kept [m]).trans front
      · simpa [Function.update_of_ne hj] using h.front j
    · by_cases hj : j = i
      · subst hj
        exact absurd gone (present t there)
      · simpa [Function.update_of_ne hj] using h.outbound j present

/-- **Many steps** of the ensemble are many steps of the network, in which the client does the
same. -/
theorem Simulation.run (sim : Simulation S bodies allowed least fits) (start : Refines fits c₀ d₀)
    (run : Run bodies c₀ ls c) (ok : ∀ l ∈ ls, l.Allowed allowed) :
    ∃ ms d, RunWhere S NobodyJoins d₀ ms d ∧ clientTrace ms = clientEvents ls ∧
      least * ls.length ≤ ms.length ∧ Refines fits c d := by
  induction run with
  | refl => exact ⟨[], d₀, .refl _, rfl, Nat.le_of_eq (Nat.mul_zero least), start⟩
  | @snoc ls c' l c'' _ step ih =>
    obtain ⟨ms, d, hrun, hevents, hlength, h⟩ := ih fun l hl => ok l (List.mem_append_left _ hl)
    obtain ⟨ms', d', hrun', hevent, hleast, h'⟩ := sim.ensembleStep h step (ok l (by simp))
    refine ⟨ms ++ ms', d', hrun.append hrun', ?_, ?_, h'⟩
    · rw [clientEvents_snoc, ← hevents, ← hevent]
      exact List.filterMap_append
    · rw [List.length_append, List.length_append, Nat.mul_add, List.length_singleton, Nat.mul_one]
      exact Nat.add_le_add hlength hleast

/-! ## How a program and a peer correspond -/

/-- The program serves, and is where the peer is. -/
structure Serving (body : ActorBody γ φ ω' σ) (t : Tandem β γ φ ω' σ) (r : Seat φ ω' σ) :
    Prop where
  serving : t.phase = .serving
  stays : Tandem.Stays body t.thread
  thread : r.thread = some t.thread
  inbound : r.inbound.map Prod.snd = t.inbound

/-- The program is that of the peer, which has been told nothing but to quit; or it is leaving,
and the peer rests. -/
inductive Fits (body : ActorBody γ φ ω' σ) : Option (Tandem β γ φ ω' σ) → Seat φ ω' σ → Prop
  | absent {r} (nobody : r.thread = none) : Fits body none r
  | serving {t r} (told : ∀ command ∈ t.commands, command = body.term)
      (tells : ∀ command, .tell command ∈ t.parent → command = body.term)
      (serving : Serving body t r) : Fits body (some t) r
  | leaving {t r s s'} (finishing : Finishing t.thread s')
      (phase : t.phase = .serving ∧ body.quits s' = true ∨ t.phase = .stopping ∨ t.phase = .exited)
      (thread : r.thread = some (.ret s)) (inbound : r.inbound.map Prod.snd = t.inbound) :
      Fits body (some t) r

/-- The program is that of the peer, and has not been told anything. -/
inductive Undisturbed (body : ActorBody γ φ ω' σ) :
    Option (Tandem β γ φ ω' σ) → Seat φ ω' σ → Prop
  | absent {r} (nobody : r.thread = none) : Undisturbed body none r
  | serving {t r} (untold : t.commands = []) (serving : Serving body t r) :
      Undisturbed body (some t) r

/-- The parent rests. -/
def Rests (l : Tandem.Label β γ φ ω') : Prop := ∀ line, l ≠ .parent line

/-- Quitting takes output only. -/
structure Discreet (body : ActorBody γ φ ω' σ) : Prop where
  hear : ∀ s, ∃ s', Finishing (body.hear s body.term) s'
  finish : ∀ s, ∃ s', Finishing (body.finish s) s'

omit [DecidableEq ι]
variable {body : ActorBody γ φ ω' σ} {t t' : Tandem β γ φ ω' σ} {r : Seat φ ω' σ}
variable {k : Tandem.Label β γ φ ω'}

theorem rests_of_actorStep (step : Tandem.ActorStep body t k t') : Rests k := by
  rintro line rfl
  cases step with
  | move move => cases move

theorem Serving.deliver (h : Serving body t r) (n : ℕ) (m : List φ) :
    Serving body (t.deliver m) { r with inbound := r.inbound ++ m.map (n, ·) } where
  serving := h.serving
  stays := h.stays
  thread := h.thread
  inbound := by simp [h.inbound, Tandem.deliver, Function.comp_def]

theorem Serving.not_gone (h : Serving body t r) : ¬ t.Gone := by
  simp [Tandem.Gone, h.serving]

/-- **A step of an actor** that serves, and does not hear a command, is one step of the peer,
or two: the peer is woken before it takes the first frame of a message. -/
theorem Serving.actorStep (h : Serving body t r) (serve : S.serve i = body.serve)
    (step : Tandem.ActorStep body t k t') (unheard : ∀ command, k ≠ .heard command) :
    ∃ n r', 1 ≤ n ∧ StepsIn (PeerStep S i) n r r' ∧ Serving body t' r' ∧
      r'.outbound.map Prod.snd = r.outbound.map Prod.snd ++ sentIn (Tandem.events [k]) ∧
      t'.parent = t.parent ∧ t'.commands = t.commands := by
  have hthread := h.thread
  cases step with
  | move move =>
    obtain ⟨hparent, hphase, -, hcommands⟩ := move.frame
    have stays : Tandem.Stays body t'.thread := Tandem.Stays.move h.stays move
    cases move with
    | put at_put =>
      rw [at_put] at hthread
      exact ⟨1, _, Nat.le_refl 1, .head (.put hthread) (.refl _),
        ⟨h.serving, stays, rfl, h.inbound⟩, (List.append_nil _).symm, rfl, rfl⟩
    | send at_send =>
      rw [at_send] at hthread
      exact ⟨1, _, Nat.le_refl 1, .head (.reply hthread) (.refl _),
        ⟨h.serving, stays, rfl, h.inbound⟩, by rw [List.map_append]; rfl, rfl, rfl⟩
    | take at_recv ready =>
      have hinbound := h.inbound
      rw [ready, List.map_eq_cons_iff] at hinbound
      obtain ⟨⟨n, f⟩, rest, hinbound, rfl, rfl⟩ := hinbound
      rw [at_recv] at hthread
      exact ⟨1, _, Nat.le_refl 1, .head (.take hthread hinbound) (.refl _),
        ⟨h.serving, stays, rfl, rfl⟩, (List.append_nil _).symm, rfl, rfl⟩
  | hear => exact absurd rfl (unheard _)
  | @serve s k f rest serving at_ret stays ready takes =>
    have hinbound := h.inbound
    rw [ready, List.map_eq_cons_iff] at hinbound
    obtain ⟨⟨n, f⟩, rest, hinbound, rfl, rfl⟩ := hinbound
    rw [at_ret] at hthread
    have woken : some (S.serve i s) = some (.recv k) := by rw [serve, takes]
    have stays' : Tandem.Stays body (k f) :=
      fun hreturn => body.serve_stays stays (Tandem.mayReturn_serve takes hreturn)
    exact ⟨2, _, by decide, .head (.wake hthread hinbound)
      (.head (.take (t := { r with thread := some (S.serve i s), serving := some n }) woken
        hinbound) (.refl _)), ⟨serving, stays', rfl, rfl⟩, (List.append_nil _).symm, rfl, rfl⟩
  | @stop s _ at_ret quits =>
    have returns : MayReturn t.thread [] s := at_ret ▸ .ret s
    rw [h.stays returns] at quits
    cases quits
  | begin phase | exit phase =>
    rw [h.serving] at phase
    cases phase

/-- A step of the parent changes neither the actor nor its socket. -/
theorem Serving.parentStep (h : Serving body t r) {line : ParentLine β γ}
    (step : Tandem.ParentStep body t line t') : Serving body t' r := by
  cases step with
  | start _ absent =>
    have serving := h.serving
    rw [absent] at serving
    cases serving
  | await | act | tell | release | gone => exact ⟨h.serving, h.stays, h.thread, h.inbound⟩

/-- The parent of a program that serves goes on: at most it tells the actor to leave. -/
theorem Serving.fits_parentStep (h : Serving body t r)
    (told : ∀ command ∈ t.commands, command = body.term)
    (tells : ∀ command, .tell command ∈ t.parent → command = body.term)
    {line : ParentLine β γ} (step : Tandem.ParentStep body t line t') : Fits body (some t') r := by
  have serving := h.parentStep step
  cases step with
  | start line | await line | act line | gone line =>
    rw [line] at tells
    exact .serving told (fun command h => tells command (List.mem_cons_of_mem _ h)) serving
  | tell line =>
    rw [line] at tells
    refine .serving (fun command h => ?_)
      (fun command h => tells command (List.mem_cons_of_mem _ h)) serving
    rcases List.mem_append.mp h with h | h
    · exact told command h
    · obtain rfl := List.mem_singleton.mp h
      exact tells _ (List.mem_cons_self ..)
  | release line =>
    rw [line] at tells
    refine .serving (fun command h => ?_) (fun command h => ?_) serving
    · rcases List.mem_append.mp h with h | h
      · exact told command h
      · exact List.mem_singleton.mp h
    · rcases List.mem_cons.mp h with h | h
      · cases h
      · exact tells command (List.mem_cons_of_mem _ h)

/-- The only command there is makes the actor leave. -/
theorem Serving.fits_heard (h : Serving body t r) (discreet : Discreet body)
    (told : ∀ command ∈ t.commands, command = body.term) {command : γ}
    (step : Tandem.ActorStep body t (.heard command) t') : Fits body (some t') r := by
  cases step with
  | move move => cases move
  | @hear s _ rest phase at_ret _ ready =>
    obtain rfl := told command (ready ▸ List.mem_cons_self ..)
    obtain ⟨s', finishing⟩ := discreet.hear s
    obtain ⟨_, hreturn⟩ := finishing.mayReturn
    have hthread := h.thread
    rw [at_ret] at hthread
    exact .leaving finishing (.inl ⟨phase, body.term_quits hreturn⟩) hthread h.inbound

/-- A program that only finishes sends nothing more. -/
theorem silent_of_finishing {s : σ} (finishing : Finishing t.thread s)
    (step : Tandem.Step body t k t') : sentIn (Tandem.events [k]) = [] := by
  cases step with
  | arrive | parent => rfl
  | actor _ step =>
    cases step with
    | move move =>
      cases move with
      | send at_send =>
        rw [at_send] at finishing
        cases finishing
      | put | take => rfl
    | begin | hear | serve | stop | exit => rfl

/-- A program that leaves goes on leaving. -/
theorem fits_of_leaving {s s' : σ} (discreet : Discreet body)
    (finishing : Finishing t.thread s')
    (phase : t.phase = .serving ∧ body.quits s' = true ∨ t.phase = .stopping ∨ t.phase = .exited)
    (thread : r.thread = some (.ret s)) (inbound : r.inbound.map Prod.snd = t.inbound)
    (step : Tandem.Step body t k t') (inside : k.isArrival = false) : Fits body (some t') r := by
  cases step with
  | arrive => cases inside
  | parent _ step =>
    cases step with
    | start _ absent =>
      rw [absent] at phase
      rcases phase with ⟨phase, -⟩ | phase | phase <;> cases phase
    | await | act | tell | release | gone => exact .leaving finishing phase thread inbound
  | actor _ step =>
    cases step with
    | move move =>
      cases move with
      | put at_put =>
        rw [at_put] at finishing
        cases finishing with
        | put rest => exact .leaving rest phase thread inbound
      | send at_send =>
        rw [at_send] at finishing
        cases finishing
      | take at_recv =>
        rw [at_recv] at finishing
        cases finishing
    | begin starting =>
      rw [starting] at phase
      rcases phase with ⟨phase, -⟩ | phase | phase <;> cases phase
    | hear serving at_ret stays | serve serving at_ret stays =>
      -- An actor that is to quit hears and serves nothing more.
      rw [at_ret] at finishing
      cases finishing
      rw [serving, stays] at phase
      rcases phase with ⟨-, phase⟩ | phase | phase <;> cases phase
    | stop =>
      obtain ⟨_, finishing'⟩ := discreet.finish _
      exact .leaving finishing' (.inr (.inl rfl)) thread inbound
    | exit => exact .leaving finishing (.inr (.inr rfl)) thread inbound

/-- **Programs that may leave** do as peers do, as long as they are there. -/
theorem simulation_fits (serve : ∀ i, S.serve i = (bodies i).serve)
    (discreet : ∀ i, Discreet (bodies i)) :
    Simulation (β := β) S bodies (fun _ => True) 0 fun i => Fits (bodies i) where
  least_le := Nat.zero_le 1
  present := by
    intro i t r h
    cases h with
    | absent nobody => rw [nobody]; rfl
    | serving _ _ serving => rw [serving.thread]; rfl
    | leaving _ _ thread => rw [thread]; rfl
  outbound := by
    intro i t r h out
    cases h with
    | absent nobody => exact .absent nobody
    | serving told tells serving =>
      exact .serving told tells ⟨serving.serving, serving.stays, serving.thread, serving.inbound⟩
    | leaving finishing phase thread inbound => exact .leaving finishing phase thread inbound
  deliver := by
    intro i t r h n m
    cases h with
    | serving told tells serving => exact .serving told tells (serving.deliver n m)
    | leaving finishing phase thread inbound =>
      refine .leaving finishing phase thread ?_
      simp [inbound, Tandem.deliver, Function.comp_def]
  step := by
    intro i t k t' r h step inside _
    -- A step of the program that the peer does not make.
    have stutter : sentIn (Tandem.events [k]) = [] → Fits (bodies i) (some t') r →
        ∃ n r', 0 ≤ n ∧ StepsIn (PeerStep S i) n r r' ∧ Fits (bodies i) (some t') r' ∧
          r'.outbound.map Prod.snd = r.outbound.map Prod.snd ++ sentIn (Tandem.events [k]) :=
      fun silent h => ⟨0, r, Nat.le_refl 0, .refl r, h, by rw [silent, List.append_nil]⟩
    cases h with
    | serving told tells serving =>
      cases step with
      | arrive => cases inside
      | parent _ step => exact stutter rfl (serving.fits_parentStep told tells step)
      | actor _ step =>
        by_cases unheard : ∀ command, k ≠ .heard command
        · obtain ⟨n, r', -, steps, serving', hsent, hparent, hcommands⟩ :=
            serving.actorStep (serve i) step unheard
          exact ⟨n, r', Nat.zero_le n, steps,
            .serving (hcommands ▸ told) (hparent ▸ tells) serving', hsent⟩
        · simp only [not_forall, not_not] at unheard
          obtain ⟨command, rfl⟩ := unheard
          exact stutter rfl (serving.fits_heard (discreet i) told step)
    | leaving finishing phase thread inbound =>
      exact stutter (silent_of_finishing finishing step)
        (fits_of_leaving (discreet i) finishing phase thread inbound step inside)
  gone := by
    intro i t r h gone
    refine ⟨rfl, fun step => ?_⟩
    cases h with
    | serving _ _ serving => exact absurd gone serving.not_gone
    | leaving finishing => exact silent_of_finishing finishing step

/-- **Programs whose parents rest** do as peers do, step by step. -/
theorem simulation_undisturbed (serve : ∀ i, S.serve i = (bodies i).serve) :
    Simulation (β := β) S bodies Rests 1 fun i => Undisturbed (bodies i) where
  least_le := Nat.le_refl 1
  present := by
    intro i t r h
    cases h with
    | absent nobody => rw [nobody]; rfl
    | serving _ serving => rw [serving.thread]; rfl
  outbound := by
    intro i t r h out
    cases h with
    | absent nobody => exact .absent nobody
    | serving untold serving =>
      exact .serving untold ⟨serving.serving, serving.stays, serving.thread, serving.inbound⟩
  deliver := by
    intro i t r h n m
    cases h with
    | serving untold serving => exact .serving untold (serving.deliver n m)
  step := by
    intro i t k t' r h step inside rests
    cases h with
    | serving untold serving =>
      cases step with
      | arrive => cases inside
      | parent => exact absurd rfl (rests _)
      | actor _ step =>
        have unheard : ∀ command, k ≠ .heard command := by
          rintro command rfl
          cases step with
          | move move => cases move
          | hear _ _ _ ready =>
            rw [untold] at ready
            cases ready
        obtain ⟨n, r', hn, steps, serving', hsent, -, hcommands⟩ :=
          serving.actorStep (serve i) step unheard
        exact ⟨n, r', hn, steps, .serving (hcommands.trans untold) serving', hsent⟩
  gone := by
    intro i t r h gone
    cases h with
    | serving _ serving => exact absurd gone serving.not_gone

/-! ## Runs that come to an end -/

/-- A program whose parent rests can make the step of its peer. -/
theorem Serving.canStep (h : Serving body t r) {r' : Seat φ ω' σ} (peer : PeerStep S i r r') :
    ∃ k t', Tandem.ActorStep body t k t' := by
  have hthread := h.thread
  have hinbound := h.inbound
  cases peer with
  | @wake s n f rest idle readable =>
    have at_ret := Option.some.inj (hthread.symm.trans idle)
    rw [readable] at hinbound
    obtain ⟨q, takes⟩ := body.serve_takes s
    have returns : MayReturn t.thread [] s := at_ret ▸ .ret s
    exact ⟨_, _, .serve h.serving at_ret (h.stays returns) hinbound.symm takes⟩
  | take at_recv readable =>
    rw [readable] at hinbound
    exact ⟨_, _, .move (.take (Option.some.inj (hthread.symm.trans at_recv)) hinbound.symm)⟩
  | reply at_send => exact ⟨_, _, .move (.send (Option.some.inj (hthread.symm.trans at_send)))⟩
  | put at_put => exact ⟨_, _, .move (.put (Option.some.inj (hthread.symm.trans at_put)))⟩

variable [DecidableEq ι]

/-- **The ensemble does not get stuck** before the network does. -/
theorem Refines.canStep (h : Refines (fun i => Undisturbed (bodies i)) c d)
    {d' : Network ι φ ω ω' σ α} (move : moves S d d') :
    ∃ l c', Step bodies c l c' ∧ l.Allowed Rests := by
  obtain ⟨l, step, nojoin⟩ := move
  rcases step.split nojoin with client | ⟨i, r', peer, -⟩
  · cases step with
    | clientPut at_put => exact ⟨_, _, .put (h.client.symm.trans at_put), trivial⟩
    | clientSend at_send => exact ⟨_, _, .send (h.client.symm.trans at_send), trivial⟩
    | @clientRecv i cause m rest k at_recv ready =>
      have present : ∀ t, c.member i = some t → ¬ t.Gone := by
        intro t there
        have hseat := h.seats i
        rw [there] at hseat
        cases hseat with
        | serving _ serving => exact serving.not_gone
      have hready := h.outbound i present
      rw [ready] at hready
      exact ⟨_, _, .recv (h.client.symm.trans at_recv) hready.symm, trivial⟩
    | join | wake | take | reply | peerPut => simp [Interaction.Label.event] at client
  · have hseat := h.seats i
    generalize hmember : c.member i = o at hseat
    cases hseat with
    | absent nobody =>
      have hpresent := peer.thread_isSome.1
      rw [nobody] at hpresent
      cases hpresent
    | @serving t _ _ serving =>
      obtain ⟨k, t', step⟩ := serving.canStep peer
      have started : t.phase ≠ .absent := by simp [serving.serving]
      exact ⟨_, _, .member hmember (.actor started step) step.isArrival_eq, rests_of_actorStep step⟩

variable {R : List φ → Prop} {react : ι → σ → List φ → Option (σ × List φ)}

/-- **Every run comes to its end** while the parents rest. If the execution of the client
against `react` returns, then there is a number that no run of the ensemble exceeds; and a run
that cannot go on has come to where the client has returned the same, and has shown the
trace of the execution. -/
theorem Run.completes (impl : Implements S R react) (lockstep : Lockstep R d₀.client)
    (serve : ∀ i, S.serve i = (bodies i).serve)
    (start : Refines (fun i => Undisturbed (bodies i)) c₀ d₀) {e e' : ι → Option σ}
    (resting : Resting d₀ e) {a : α} {rest : List (ι × List φ)}
    {t : List (Event ω (ι × List φ) (ι × List φ))}
    (returns : d₀.client.exec (respond react) e [] = ⟨.returned a, e', rest, t⟩) :
    ∃ n, ∀ ls c, Run bodies c₀ ls c → (∀ l ∈ ls, l.Allowed Rests) → ls.length ≤ n ∧
      ((∃ l c', Step bodies c l c' ∧ l.Allowed Rests) ∨
        c.client = .ret a ∧ clientEvents ls = t) := by
  obtain ⟨n, z, hclient, -, hruns⟩ := RunWhere.completes impl lockstep resting returns
  refine ⟨n, fun ls c run rests => ?_⟩
  obtain ⟨ms, d, hrun, hevents, hlength, h⟩ := (simulation_undisturbed serve).run start run rests
  obtain ⟨more, hmore, hn, htrace⟩ := hruns ms d hrun
  rw [Nat.one_mul] at hlength
  refine ⟨by omega, ?_⟩
  have steps := hmore.stepsIn
  cases more with
  | nil =>
    cases steps
    rw [List.append_nil, hevents] at htrace
    exact .inr ⟨h.client.symm.trans hclient, htrace⟩
  | cons l more =>
    cases steps with
    | head move _ => exact .inl (h.canStep move)

/-- Some run comes there. -/
theorem Run.exists_completed (impl : Implements S R react) (lockstep : Lockstep R d₀.client)
    (serve : ∀ i, S.serve i = (bodies i).serve)
    (start : Refines (fun i => Undisturbed (bodies i)) c₀ d₀) {e e' : ι → Option σ}
    (resting : Resting d₀ e) {a : α} {rest : List (ι × List φ)}
    {t : List (Event ω (ι × List φ) (ι × List φ))}
    (returns : d₀.client.exec (respond react) e [] = ⟨.returned a, e', rest, t⟩) :
    ∃ ls c, Run bodies c₀ ls c ∧ c.client = .ret a := by
  obtain ⟨n, hruns⟩ := Run.completes impl lockstep serve start resting returns
  suffices hcompleted : ∀ k ls c, Run bodies c₀ ls c → (∀ l ∈ ls, l.Allowed Rests) →
      n ≤ ls.length + k → ∃ ls c, Run bodies c₀ ls c ∧ c.client = .ret a from
    hcompleted n [] c₀ .refl (by simp) (Nat.le_add_left _ _)
  intro k
  induction k with
  | zero =>
    intro ls c run rests hlength
    rcases (hruns ls c run rests).2 with ⟨l, c', step, ok⟩ | ⟨hreturned, -⟩
    · have hrests : ∀ l' ∈ ls ++ [l], l'.Allowed Rests := by
        simpa [or_imp, forall_and] using ⟨rests, ok⟩
      have hlonger := (hruns _ c' (run.snoc step) hrests).1
      rw [List.length_append, List.length_singleton] at hlonger
      omega
    · exact ⟨ls, c, run, hreturned⟩
  | succ k ih =>
    intro ls c run rests hlength
    rcases (hruns ls c run rests).2 with ⟨l, c', step, ok⟩ | ⟨hreturned, -⟩
    · refine ih _ c' (run.snoc step) (by simpa [or_imp, forall_and] using ⟨rests, ok⟩) ?_
      rw [List.length_append, List.length_singleton]
      omega
    · exact ⟨ls, c, run, hreturned⟩

end Ensemble
end Interaction
