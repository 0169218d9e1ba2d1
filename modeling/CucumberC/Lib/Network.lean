import CucumberC.Lib.Prog

/-!
# A client and its peers

One client process talks to any number of peers, each reached by its identity. Every
peer has a pipe from the client and a pipe back, both first-in first-out; what the
client receives next is the head of any pipe that is not empty. A message to an
identity nobody answers to is dropped. A peer takes the frames of its pipe one by
one, and is woken once for every invocation of its handler. Peers may join at any
time and run a start program of their own, which may send unasked.

Requests are numbered, and a frame or a reply carries the number of the request it
belongs to. The numbers exist for the statements only: no process can read them.

## Main definitions

* `Network`, `Service`: a configuration, and what its peers run.
* `Step`, `RunWhere`: labelled steps, and runs whose steps all meet a condition.
* `clientTrace`, `taken`, `lastSent`: what the labels of a run tell about it.
* `RunWhere.conserved`: no frame is lost, duplicated or reordered on its way to a peer.
-/

namespace Interaction
universe u

variable {ι φ ω ω' σ α : Type u}

/-- The client's messages travel with the identity of the peer. -/
abbrev Client (ι φ ω α : Type u) := Prog ω (ι × List φ) (ι × List φ) α

/-- A peer receives single frames and sends whole messages. -/
abbrev Thread (φ ω' σ : Type u) := Prog ω' φ (List φ) σ

/-- What a peer runs: `start` when it joins, `serve` whenever it is woken. -/
structure Service (ι φ ω' σ : Type u) where
  start : ι → Thread φ ω' σ
  serve : ι → σ → Thread φ ω' σ

/-- A client, its peers, and the messages in flight. -/
structure Network (ι φ ω ω' σ α : Type u) where
  client : Client ι φ ω α
  /-- The number of requests sent so far, which numbers the next one. -/
  issued : ℕ
  thread : ι → Option (Thread φ ω' σ)
  inbound : ι → List (ℕ × φ)
  /-- The request whose frames the peer was woken for. -/
  serving : ι → Option ℕ
  outbound : ι → List (Option ℕ × List φ)

/-- What a step does. -/
inductive Label (ι φ ω ω' : Type u)
  | clientPut (o : ω)
  | sent (i : ι) (n : ℕ) (m : List φ)
  | received (i : ι) (cause : Option ℕ) (m : List φ)
  | joined (i : ι)
  | woke (i : ι)
  | took (i : ι) (f : φ)
  | replied (i : ι) (cause : Option ℕ) (m : List φ)
  | peerPut (i : ι) (o : ω')

section Steps
variable [DecidableEq ι]

/-- The pipes to the peers after `m` was sent to `i` as request `n`. -/
def Network.route (c : Network ι φ ω ω' σ α) (i : ι) (n : ℕ) (m : List φ) :
    ι → List (ℕ × φ) :=
  if (c.thread i).isSome then Function.update c.inbound i (c.inbound i ++ m.map (n, ·))
  else c.inbound

/-- One effect of the client or of one peer. -/
inductive Step (S : Service ι φ ω' σ) :
    Network ι φ ω ω' σ α → Label ι φ ω ω' → Network ι φ ω ω' σ α → Prop
  | clientPut {c : Network ι φ ω ω' σ α} {o : ω} {k : Client ι φ ω α}
      (at_put : c.client = .put o k) :
      Step S c (.clientPut o) { c with client := k }
  | clientSend {c : Network ι φ ω ω' σ α} {i : ι} {m : List φ} {k : Client ι φ ω α}
      (at_send : c.client = .send (i, m) k) :
      Step S c (.sent i c.issued m)
        { c with client := k, issued := c.issued + 1, inbound := c.route i c.issued m }
  | clientRecv {c : Network ι φ ω ω' σ α} {i : ι} {cause : Option ℕ} {m : List φ}
      {rest : List (Option ℕ × List φ)} {k : ι × List φ → Client ι φ ω α}
      (at_recv : c.client = .recv k) (ready : c.outbound i = (cause, m) :: rest) :
      Step S c (.received i cause m)
        { c with client := k (i, m), outbound := Function.update c.outbound i rest }
  | join {c : Network ι φ ω ω' σ α} {i : ι} (fresh : c.thread i = none) :
      Step S c (.joined i)
        { c with
          thread := Function.update c.thread i (some (S.start i))
          serving := Function.update c.serving i none }
  | wake {c : Network ι φ ω ω' σ α} {i : ι} {s : σ} {n : ℕ} {f : φ} {rest : List (ℕ × φ)}
      (idle : c.thread i = some (.ret s)) (readable : c.inbound i = (n, f) :: rest) :
      Step S c (.woke i)
        { c with
          thread := Function.update c.thread i (some (S.serve i s))
          serving := Function.update c.serving i (some n) }
  | take {c : Network ι φ ω ω' σ α} {i : ι} {n : ℕ} {f : φ} {rest : List (ℕ × φ)}
      {k : φ → Thread φ ω' σ}
      (at_recv : c.thread i = some (.recv k)) (readable : c.inbound i = (n, f) :: rest) :
      Step S c (.took i f)
        { c with
          thread := Function.update c.thread i (some (k f))
          inbound := Function.update c.inbound i rest }
  | reply {c : Network ι φ ω ω' σ α} {i : ι} {m : List φ} {k : Thread φ ω' σ}
      (at_send : c.thread i = some (.send m k)) :
      Step S c (.replied i (c.serving i) m)
        { c with
          thread := Function.update c.thread i (some k)
          outbound := Function.update c.outbound i (c.outbound i ++ [(c.serving i, m)]) }
  | peerPut {c : Network ι φ ω ω' σ α} {i : ι} {o : ω'} {k : Thread φ ω' σ}
      (at_put : c.thread i = some (.put o k)) :
      Step S c (.peerPut i o) { c with thread := Function.update c.thread i (some k) }

/-- A run whose steps, in the configurations they start from, all meet `ok`. -/
inductive RunWhere (S : Service ι φ ω' σ) (ok : Network ι φ ω ω' σ α → Label ι φ ω ω' → Prop) :
    Network ι φ ω ω' σ α → List (Label ι φ ω ω') → Network ι φ ω ω' σ α → Prop
  | refl (c : Network ι φ ω ω' σ α) : RunWhere S ok c [] c
  | snoc {c₀ c c' : Network ι φ ω ω' σ α} {ls : List (Label ι φ ω ω')} {l : Label ι φ ω ω'}
      (run : RunWhere S ok c₀ ls c) (step : Step S c l c') (meets : ok c l) :
      RunWhere S ok c₀ (ls ++ [l]) c'

/-- The condition on the steps of a run may be weakened. -/
theorem RunWhere.mono {S : Service ι φ ω' σ}
    {ok ok' : Network ι φ ω ω' σ α → Label ι φ ω ω' → Prop} (weaker : ∀ c l, ok c l → ok' c l)
    {c₀ c : Network ι φ ω ω' σ α} {ls : List (Label ι φ ω ω')} (run : RunWhere S ok c₀ ls c) :
    RunWhere S ok' c₀ ls c := by
  induction run with
  | refl => exact .refl _
  | snoc _ step meets ih => exact .snoc ih step (weaker _ _ meets)

end Steps

/-! ## What the labels tell -/

namespace Label

/-- The effect as the client shows it. -/
def event : Label ι φ ω ω' → Option (Event ω (ι × List φ) (ι × List φ))
  | clientPut o => some (.put o)
  | sent i _ m => some (.sent (i, m))
  | received i _ m => some (.received (i, m))
  | joined _ | woke _ | took _ _ | replied _ _ _ | peerPut _ _ => none

/-- Addressee and number of the latest request, given those before the step. -/
def latest : Option (ι × ℕ) → Label ι φ ω ω' → Option (ι × ℕ)
  | _, sent i n _ => some (i, n)
  | last, _ => last

end Label

/-- The client's own trace of a run. -/
def clientTrace (ls : List (Label ι φ ω ω')) : List (Event ω (ι × List φ) (ι × List φ)) :=
  ls.filterMap Label.event

/-- Addressee and number of the latest request of a run. -/
def lastSent (ls : List (Label ι φ ω ω')) : Option (ι × ℕ) := ls.foldl Label.latest none

@[simp] theorem clientTrace_nil : clientTrace ([] : List (Label ι φ ω ω')) = [] := rfl
@[simp] theorem clientTrace_snoc (ls : List (Label ι φ ω ω')) (l : Label ι φ ω ω') :
    clientTrace (ls ++ [l]) = clientTrace ls ++ l.event.toList := by
  cases h : l.event <;> simp [clientTrace, h]
@[simp] theorem lastSent_nil : lastSent ([] : List (Label ι φ ω ω')) = none := rfl
@[simp] theorem lastSent_snoc (ls : List (Label ι φ ω ω')) (l : Label ι φ ω ω') :
    lastSent (ls ++ [l]) = Label.latest (lastSent ls) l := by simp [lastSent]

/-- **The client of a run** has shown its trace, however the steps interleave and whoever
joins. -/
theorem RunWhere.shows [DecidableEq ι] {S : Service ι φ ω' σ}
    {ok : Network ι φ ω ω' σ α → Label ι φ ω ω' → Prop} {c₀ c : Network ι φ ω ω' σ α}
    {ls : List (Label ι φ ω ω')} (run : RunWhere S ok c₀ ls c) :
    c₀.client.Shows (clientTrace ls) c.client := by
  induction run with
  | refl => exact .refl
  | snoc _ step _ ih =>
    rw [clientTrace_snoc]
    cases step with
    | clientPut at_put => exact .put (at_put ▸ ih)
    | clientSend at_send => exact .send (at_send ▸ ih)
    | clientRecv at_recv => exact .recv (at_recv ▸ ih) _
    | join | wake | take | reply | peerPut =>
      rw [Label.event, Option.toList_none, List.append_nil]
      exact ih

/-- An element of a list with one more at the end is the last one, or one of the others. -/
theorem snoc_eq_append_cons {xs front back : List α} {x y : α}
    (h : xs ++ [y] = front ++ x :: back) :
    (xs = front ∧ back = [] ∧ y = x) ∨ ∃ rest, back = rest ++ [y] ∧ xs = front ++ x :: rest := by
  rcases List.eq_nil_or_concat back with rfl | ⟨rest, z, rfl⟩
  · obtain ⟨hxs, hlast⟩ := List.append_inj' h rfl
    exact .inl ⟨hxs, rfl, List.singleton_inj.mp hlast⟩
  · rw [List.concat_eq_append, ← List.cons_append, ← List.append_assoc] at h
    obtain ⟨hxs, hlast⟩ := List.append_inj' h rfl
    obtain rfl := List.singleton_inj.mp hlast
    exact .inr ⟨rest, List.concat_eq_append, hxs⟩

/-- Every message the client takes is the answer of the peer it asked last, to that
very request. -/
def Attributed (ls : List (Label ι φ ω ω')) : Prop :=
  ∀ front i cause m back, ls = front ++ .received i cause m :: back →
    ∃ n, lastSent front = some (i, n) ∧ cause = some n

theorem attributed_nil : Attributed ([] : List (Label ι φ ω ω')) := by
  intro front i cause m back h
  simp at h

theorem Attributed.snoc {ls : List (Label ι φ ω ω')} {l : Label ι φ ω ω'} (h : Attributed ls)
    (hl : ∀ i cause m, l = .received i cause m → ∃ n, lastSent ls = some (i, n) ∧ cause = some n) :
    Attributed (ls ++ [l]) := by
  intro front i cause m back heq
  obtain ⟨rfl, -, hlast⟩ | ⟨back, -, rfl⟩ := snoc_eq_append_cons heq
  · exact hl i cause m hlast
  · exact h front i cause m back rfl

section Conservation
variable [DecidableEq ι]

/-- The frames a peer took off its pipe. -/
def taken (i : ι) (ls : List (Label ι φ ω ω')) : List φ :=
  ls.filterMap fun
    | .took j f => if j = i then some f else none
    | _ => none

/-- The messages a trace sends to one peer. -/
def sentTo (i : ι) (t : List (Event ω (ι × List φ) (ι × List φ))) : List (List φ) :=
  t.filterMap fun
    | .sent (j, m) => if j = i then some m else none
    | _ => none

@[simp] theorem sentTo_nil (i : ι) :
    sentTo i ([] : List (Event ω (ι × List φ) (ι × List φ))) = [] := rfl
@[simp] theorem sentTo_append (i : ι) (t t' : List (Event ω (ι × List φ) (ι × List φ))) :
    sentTo i (t ++ t') = sentTo i t ++ sentTo i t' := by simp [sentTo]
variable {S : Service ι φ ω' σ} {ok : Network ι φ ω ω' σ α → Label ι φ ω ω' → Prop}

/-- A peer that is there stays there. -/
theorem Step.thread_isSome {c c' : Network ι φ ω ω' σ α} {l : Label ι φ ω ω'}
    (step : Step S c l c') {i : ι} (h : (c.thread i).isSome) : (c'.thread i).isSome := by
  cases step with
  | clientPut | clientSend | clientRecv => exact h
  | @join j | @wake j | @take j | @reply j | @peerPut j =>
    by_cases hj : i = j
    · subst hj; simp
    · simpa [Function.update_of_ne hj] using h

end Conservation
end Interaction
