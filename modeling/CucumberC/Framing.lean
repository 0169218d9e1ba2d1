import CucumberC.Handler

/-!
# Message framing

The handler reads its socket frame by frame. For the messages of the protocol that is
as good as message by message: an invocation takes the prescribed frames and no others.
A message with any other command is different. The handler drops the command and leaves
the frames behind it on the socket, where the next invocation finds them.

## Main definitions

* `FramedMsg`: a message of the protocol, or one with a command of its own.
* `recvPickles`: invocations of the handler, one after another.
* `Aligned`, `aligned_iff`: each invocation takes exactly one message if and only if no
  other command that an actor lives to see has frames behind it.
-/

namespace CucumberC
open Interaction

/-- A message that arrives on the socket of an actor. -/
inductive FramedMsg
  | request (r : Request)
  | unknown (command : Frame) (rest : Msg) (foreign : command ∉ knownCommands)
  deriving DecidableEq

namespace FramedMsg

def frames : FramedMsg → List Frame
  | request r => r.frames
  | unknown command rest _ => command :: rest

def isUnknown : FramedMsg → Bool
  | request _ => false
  | unknown _ _ _ => true

end FramedMsg

/-- Whether a scenario is open after a message. -/
def opensAfter (isOpen : Bool) : FramedMsg → Bool
  | .request r => r.opensAfter isOpen
  | .unknown _ _ _ => isOpen

/-- Whether an actor survives a message. -/
def survivesOne (isOpen : Bool) : FramedMsg → Bool
  | .request r => r.allowed isOpen
  | .unknown _ _ _ => true

/-- Whether an actor survives messages that arrive one after another. -/
def survives : Bool → List FramedMsg → Bool
  | _, [] => true
  | isOpen, m :: ms => survivesOne isOpen m && survives (opensAfter isOpen m) ms

/-- Every other command that an actor lives to see is all there is of its message. -/
def BareUnknowns (isOpen : Bool) (ms : List FramedMsg) : Prop :=
  ∀ front command rest foreign back, ms = front ++ .unknown command rest foreign :: back →
    survives isOpen front = true → rest = []

theorem BareUnknowns.tail {isOpen : Bool} {m : FramedMsg} {ms : List FramedMsg}
    (h : BareUnknowns isOpen (m :: ms)) (alive : survivesOne isOpen m = true) :
    BareUnknowns (opensAfter isOpen m) ms := by
  intro front command rest foreign back split survive
  exact h (m :: front) command rest foreign back (by rw [split]; rfl)
    (by simp [survives, alive, survive])

theorem BareUnknowns.of_append {isOpen : Bool} {front back : List FramedMsg}
    (h : BareUnknowns isOpen (front ++ back)) : BareUnknowns isOpen front := by
  intro front' command rest foreign back' split survive
  exact h front' command rest foreign (back' ++ back) (by simp [split]) survive

section Framing
variable {υ σ : Type} (zrexMatches : String → String → Option (List String))
  (args : CucumberStepsArgs υ σ)

/-- `k` invocations of the handler. -/
def recvPickles : ℕ → CucumberSteps υ σ → StepsProg σ (CucumberSteps υ σ)
  | 0, self => pure self
  | k + 1, self => do
      let self ← cucumberStepsRecvPickle zrexMatches args self
      recvPickles k self

/-- When the messages `ms` arrive, each invocation takes exactly the frames of its own
message off the socket, and one of another command does nothing else. -/
def Aligned (self : CucumberSteps υ σ) (ms : List FramedMsg) : Prop :=
  ∀ front m back, ms = front ++ m :: back → ∀ current inbox t,
    (recvPickles zrexMatches args front.length self).exec Prog.nobody ()
        (ms.flatMap FramedMsg.frames) = ⟨.returned current, (), inbox, t⟩ →
      let invocation :=
        (cucumberStepsRecvPickle zrexMatches args current).exec Prog.nobody () inbox
      receivedIn invocation.trace = m.frames ∧
        invocation.inbox = back.flatMap FramedMsg.frames ∧
        (m.isUnknown = true →
          invocation.result = .returned current ∧ sentIn invocation.trace = [])

/-! ## One invocation -/

/-- An invocation that finds a message with its prescribed frames in front of it takes
these, whether the actor survives it or not. -/
theorem receivedIn_exec_request (self : CucumberSteps υ σ) (r : Request) (rest : List Frame) :
    let o := (cucumberStepsRecvPickle zrexMatches args self).exec Prog.nobody () (r.frames ++ rest)
    receivedIn o.trace = r.frames ∧ o.inbox = rest := by
  intro o
  have h : o = _ := exec_request zrexMatches args self r rest
  rw [h]
  cases self.handle zrexMatches args r with
  | none => simp
  | some handled =>
    refine ⟨?_, rfl⟩
    have hend : receivedIn ([.sent handled.2.2] ++
        if self.verbose then [.put (.printf (verboseText r))] else [] :
          List (Event (Call σ) Frame Msg)) = [] := by
      cases self.verbose <;> rfl
    simp only [handleTrace, receivedIn_append, receivedIn_received, receivedIn_put] at hend ⊢
    simp [hend]

/-! ## Many invocations -/

/-- While other commands come bare, the invocations take whole messages, until a step
without a scenario ends the actor. -/
theorem exec_recvPickles (self : CucumberSteps υ σ) (ms : List FramedMsg)
    (bare : BareUnknowns self.cucumber.isSome ms) (rest : List Frame) :
    if survives self.cucumber.isSome ms then
      ∃ last t, (recvPickles zrexMatches args ms.length self).exec Prog.nobody ()
        (ms.flatMap FramedMsg.frames ++ rest) = ⟨.returned last, (), rest, t⟩
    else
      ((recvPickles zrexMatches args ms.length self).exec Prog.nobody ()
        (ms.flatMap FramedMsg.frames ++ rest)).result = .faulted .assertion := by
  -- What comes before an outcome of this kind leaves it one.
  have hafter : ∀ {alive : Bool} {o : Outcome (Call σ) Frame Msg Unit (CucumberSteps υ σ)}
      (t : List (Event (Call σ) Frame Msg)),
      (if alive then ∃ last t', o = ⟨.returned last, (), rest, t'⟩
        else o.result = .faulted .assertion) →
      if alive then ∃ last t', o.after t = ⟨.returned last, (), rest, t'⟩
        else (o.after t).result = .faulted .assertion := by
    intro alive o t h
    cases alive with
    | false => exact h
    | true =>
      obtain ⟨last, t', rfl⟩ := h
      exact ⟨last, t ++ t', rfl⟩
  induction ms generalizing self with
  | nil => exact ⟨self, [], by simp [recvPickles]⟩
  | cons m ms ih =>
    cases m with
    | unknown command others foreign =>
      obtain rfl : others = [] := bare [] command others foreign ms rfl rfl
      have hone := exec_unknown zrexMatches args self foreign (ms.flatMap FramedMsg.frames ++ rest)
      have hih := hafter [.received command] (ih self (bare.tail rfl))
      simpa [survives, survivesOne, opensAfter, recvPickles, FramedMsg.frames, Prog.exec_bind,
        hone] using hih
    | request r =>
      have hone := exec_request zrexMatches args self r (ms.flatMap FramedMsg.frames ++ rest)
      have hopen := handle_isOpen zrexMatches args self r
      cases hh : self.handle zrexMatches args r with
      | none =>
        simp only [hh] at hone hopen
        simp [survives, survivesOne, hopen, recvPickles, FramedMsg.frames, Prog.exec_bind, hone,
          Outcome.andThen]
      | some handled =>
        obtain ⟨next, calls, reply⟩ := handled
        simp only [hh] at hone hopen
        obtain ⟨allowed, hopens⟩ := hopen
        have alive : survivesOne self.cucumber.isSome (.request r) = true := allowed
        have hnext : next.cucumber.isSome = opensAfter self.cucumber.isSome (.request r) := hopens
        have hih := hafter (handleTrace self r calls reply)
          (ih next (by rw [hnext]; exact bare.tail alive))
        rw [hnext] at hih
        simpa [survives, alive, recvPickles, FramedMsg.frames, Prog.exec_bind, hone] using hih

/-- **Framing.** Whatever messages arrive at an actor, and whatever it did before: each
invocation of the handler takes exactly the frames of its own message if and only if
every other command the actor lives to see is all there is of its message. -/
theorem aligned_iff (self : CucumberSteps υ σ) (ms : List FramedMsg) :
    Aligned zrexMatches args self ms ↔ BareUnknowns self.cucumber.isSome ms := by
  constructor
  · intro aligned front command rest foreign back split alive
    -- Messages in front of this one are bare by the same argument: induction on their number.
    induction hlen : front.length using Nat.strongRecOn
      generalizing front command rest foreign back with
    | ind n ih =>
      have bare : BareUnknowns self.cucumber.isSome front := by
        intro front' command' rest' foreign' back' split' alive'
        have hlt : front'.length < n := by
          rw [← hlen, split', List.length_append, List.length_cons]
          omega
        exact ih _ hlt front' command' rest' foreign'
          (back' ++ .unknown command rest foreign :: back) (by simp [split, split']) alive' rfl
      have hfront := exec_recvPickles zrexMatches args self front bare
        (command :: (rest ++ back.flatMap FramedMsg.frames))
      rw [if_pos alive] at hfront
      obtain ⟨current, t, h⟩ := hfront
      have hframes : ms.flatMap FramedMsg.frames = front.flatMap FramedMsg.frames ++
          command :: (rest ++ back.flatMap FramedMsg.frames) := by
        simp [split, FramedMsg.frames]
      obtain ⟨htaken, -, -⟩ := aligned front _ back split current _ t (by rw [hframes, h])
      rw [exec_unknown zrexMatches args current foreign] at htaken
      simpa [receivedIn, FramedMsg.frames] using htaken.symm
  · intro bare front m back split current inbox t hfront
    subst split
    have h := exec_recvPickles zrexMatches args self front bare.of_append
      (m.frames ++ back.flatMap FramedMsg.frames)
    have hframes : (front ++ m :: back).flatMap FramedMsg.frames =
        front.flatMap FramedMsg.frames ++ (m.frames ++ back.flatMap FramedMsg.frames) := by simp
    rw [hframes] at hfront
    by_cases alive : survives self.cucumber.isSome front = true
    · rw [if_pos alive] at h
      obtain ⟨last, t', h⟩ := h
      obtain ⟨-, -, rfl, -⟩ := Outcome.mk.inj (hfront.symm.trans h)
      cases m with
      | request r =>
        obtain ⟨htaken, hrest⟩ :=
          receivedIn_exec_request zrexMatches args current r (back.flatMap FramedMsg.frames)
        exact ⟨htaken, hrest, by simp [FramedMsg.isUnknown]⟩
      | unknown command rest foreign =>
        obtain rfl : rest = [] := bare front command rest foreign back rfl alive
        have hone := exec_unknown zrexMatches args current foreign
          (back.flatMap FramedMsg.frames)
        simp [FramedMsg.frames, hone, receivedIn, sentIn]
    · rw [if_neg alive, hfront] at h
      simp at h

end Framing

/-! ## A command with a frame behind it -/

/-- A command the handler does not know, with one more frame, and then a scenario. -/
def trailingFrame : List FramedMsg :=
  [.unknown "PING" ["END SCENARIO"] (by decide), .request (.startScenario "1")]

/-- The second invocation takes the frame of the first message for its command, and the
command of the second message for a scenario id. -/
theorem framing_slips : ¬ Aligned literalMatches plainArgs (freshActor ()) trailingFrame := by
  intro aligned
  obtain ⟨htaken, -⟩ := aligned [.unknown "PING" ["END SCENARIO"] (by decide)]
    (.request (.startScenario "1")) [] rfl (freshActor ())
    ["END SCENARIO", "START SCENARIO", "1"] [.received "PING"] rfl
  have hslip : receivedIn ((cucumberStepsRecvPickle literalMatches plainArgs (freshActor ())).exec
      Prog.nobody () ["END SCENARIO", "START SCENARIO", "1"]).trace =
        ["END SCENARIO", "START SCENARIO"] := by decide
  rw [hslip] at htaken
  exact absurd htaken (by decide)

end CucumberC
