import CucumberC.Serving
import Mathlib.Data.List.TakeWhile

/-!
# Control commands

An actor has two inputs: the requests on its socket, and the commands on its pipe. The
commands do not disturb the conversation. `VERBOSE` changes what the actor prints and
what it passes to the state constructor, never what it replies, as long as the
constructor does not look at the flag; `$TERM` ends the conversation between two requests.

The proof compares two runs. Two actors that differ in the flag alone make the same
replies to the same requests (`replies_verbose`), so the replies of a run are a function
of the requests it was given (`sentIn_serve`), wherever the commands came in between.

## Main definitions

* `CucumberSteps.replies`: what an actor answers to requests.
* `beforeTerm`: the turns of the loop in front of the first `$TERM`.
* `control_prefix`: the theorem about every interleaving of requests and commands.
-/

namespace CucumberC
open Interaction

/-! ## Turns of the loop -/

/-- The turns in front of the first `$TERM`. -/
def beforeTerm (polls : List Poll) : List Poll :=
  polls.takeWhile fun poll => decide (poll ≠ .pipe "$TERM")

/-- The turns in which the socket is read. -/
def socketTurns (polls : List Poll) : ℕ := polls.countP fun poll => decide (poll = .serverSocket)

/-- What the turns of the loop come to, where the socket holds these requests. A turn that
reads an empty socket is none of the poller's. -/
def inputsOf : List Poll → List Request → List Input
  | [], _ => []
  | .pipe _ :: polls, rs => .verbose :: inputsOf polls rs
  | .timeout :: polls, rs => .timeout :: inputsOf polls rs
  | .serverSocket :: polls, r :: rs => .request r :: inputsOf polls rs
  | .serverSocket :: _, [] => []

/-- The requests among inputs. -/
def requestsIn (inputs : List Input) : List Request :=
  inputs.filterMap fun
    | .request r => some r
    | _ => none

theorem socketFrames_eq (inputs : List Input) :
    socketFrames inputs = (requestsIn inputs).flatMap Request.frames := by
  induction inputs with
  | nil => rfl
  | cons input inputs ih =>
    rw [socketFrames_cons, ih]
    cases input <;> simp [requestsIn, Input.frames]

/-- Turns that read no empty socket and no command but `VERBOSE` have inputs, and these
are all turns. -/
theorem poll_inputsOf {polls : List Poll} {rs : List Request}
    (verbose : ∀ command, Poll.pipe command ∈ polls → command = "VERBOSE")
    (ready : socketTurns polls ≤ rs.length) : (inputsOf polls rs).map Input.poll = polls := by
  induction polls generalizing rs with
  | nil => rfl
  | cons poll polls ih =>
    have verbose' : ∀ command, Poll.pipe command ∈ polls → command = "VERBOSE" :=
      fun command h => verbose command (List.mem_cons_of_mem _ h)
    cases poll with
    | pipe command =>
      obtain rfl := verbose command (by simp)
      have hrest := ih verbose' (by simpa [socketTurns] using ready)
      simp [inputsOf, Input.poll, hrest]
    | timeout =>
      have hrest := ih verbose' (by simpa [socketTurns] using ready)
      simp [inputsOf, Input.poll, hrest]
    | serverSocket =>
      cases rs with
      | nil => simp [socketTurns] at ready
      | cons r rs =>
        have ready' : socketTurns polls ≤ rs.length := by simpa [socketTurns] using ready
        have hrest := ih verbose' ready'
        simp [inputsOf, Input.poll, hrest]

/-- Each turn that reads the socket takes one request. -/
theorem requestsIn_inputsOf {polls : List Poll} {rs : List Request}
    (ready : socketTurns polls ≤ rs.length) :
    requestsIn (inputsOf polls rs) = rs.take (socketTurns polls) := by
  induction polls generalizing rs with
  | nil => rfl
  | cons poll polls ih =>
    cases poll with
    | pipe command | timeout =>
      have ready' : socketTurns polls ≤ rs.length := by simpa [socketTurns] using ready
      have hrest := ih ready'
      simpa [inputsOf, requestsIn, socketTurns] using hrest
    | serverSocket =>
      cases rs with
      | nil => simp [socketTurns] at ready
      | cons r rs =>
        have ready' : socketTurns polls ≤ rs.length := by simpa [socketTurns] using ready
        have hrest := ih ready'
        simpa [inputsOf, requestsIn, socketTurns] using hrest

/-- Commands and turns without any do not make inputs illegal. -/
theorem legal_requestsIn (isOpen : Bool) (inputs : List Input) :
    legal isOpen inputs = legal isOpen ((requestsIn inputs).map .request) := by
  induction inputs generalizing isOpen with
  | nil => rfl
  | cons input inputs ih =>
    cases input <;> rw [legal, ih] <;> rfl

/-- Legal requests may stop anywhere. -/
theorem legal_take {isOpen : Bool} {rs : List Request}
    (h : legal isOpen (rs.map .request) = true) (n : ℕ) :
    legal isOpen ((rs.take n).map .request) = true := by
  induction rs generalizing isOpen n with
  | nil => simpa using h
  | cons r rs ih =>
    cases n with
    | zero => rfl
    | succ n =>
      simp only [List.map_cons, legal, Bool.and_eq_true] at h
      simp only [List.take_succ_cons, List.map_cons, legal, Bool.and_eq_true]
      exact ⟨h.1, ih h.2 n⟩

section Replies
variable {υ σ : Type} (zrexMatches : String → String → Option (List String))
  (args : CucumberStepsArgs υ σ)

/-! ## Replies -/

/-- What an actor answers to requests, one after another, until it dies. -/
def CucumberSteps.replies : CucumberSteps υ σ → List Request → List Msg
  | _, [] => []
  | self, r :: rs =>
      match self.handle zrexMatches args r with
      | none => []
      | some (next, _, reply) => reply :: next.replies rs

theorem replies_cons {self next : CucumberSteps υ σ} {r : Request} {calls : List (Call σ)}
    {reply : Msg} (h : self.handle zrexMatches args r = some (next, calls, reply))
    (rs : List Request) :
    self.replies zrexMatches args (r :: rs) = reply :: next.replies zrexMatches args rs := by
  simp [CucumberSteps.replies, h]

theorem replies_dies {self : CucumberSteps υ σ} {r : Request}
    (h : self.handle zrexMatches args r = none) (rs : List Request) :
    self.replies zrexMatches args (r :: rs) = [] := by
  simp [CucumberSteps.replies, h]

/-- The replies to fewer requests are the first replies. -/
theorem replies_take (self : CucumberSteps υ σ) (rs : List Request) (n : ℕ) :
    self.replies zrexMatches args (rs.take n) = (self.replies zrexMatches args rs).take n := by
  induction rs generalizing self n with
  | nil => simp [CucumberSteps.replies]
  | cons r rs ih =>
    cases n with
    | zero => rfl
    | succ n =>
      rw [List.take_succ_cons]
      cases hh : self.handle zrexMatches args r with
      | none => simp [replies_dies zrexMatches args hh]
      | some handled =>
        rw [replies_cons zrexMatches args hh, replies_cons zrexMatches args hh,
          List.take_succ_cons, ih]

/-- Every legal request is answered once. -/
theorem length_replies (self : CucumberSteps υ σ) {rs : List Request}
    (h : legal self.cucumber.isSome (rs.map .request) = true) :
    (self.replies zrexMatches args rs).length = rs.length := by
  induction rs generalizing self with
  | nil => rfl
  | cons r rs ih =>
    simp only [List.map_cons, legal, Bool.and_eq_true] at h
    obtain ⟨next, calls, reply, hh, hopen⟩ := handle_of_allowed zrexMatches args h.1
    rw [replies_cons zrexMatches args hh, List.length_cons, List.length_cons,
      ih next (by rw [hopen]; exact h.2)]

/-! ## The flag does not matter -/

/-- The state constructor does not look at the verbose flag. -/
def CucumberStepsArgs.FlagBlind : Prop :=
  ∀ construct, args.stateConstructor = some construct →
    ∀ globals verbose verbose', construct globals verbose = construct globals verbose'

/-- An actor with another flag handles a request the same way, but for the calls that
show the flag. -/
theorem handle_verbose (blind : args.FlagBlind) (self : CucumberSteps υ σ) (verbose : Bool)
    (r : Request) :
    ({ self with verbose := verbose }.handle zrexMatches args r).map
        (fun (handled : CucumberSteps υ σ × List (Call σ) × Msg) => (handled.1, handled.2.2)) =
      (self.handle zrexMatches args r).map
        fun (handled : CucumberSteps υ σ × List (Call σ) × Msg) =>
          ({ handled.1 with verbose := verbose }, handled.2.2) := by
  cases r with
  | startScenario id =>
    cases hc : args.stateConstructor with
    | none => simp [CucumberSteps.handle, startScenario, constructState, hc]
    | some construct =>
      have hsame := blind construct hc self.globals verbose self.verbose
      simp [CucumberSteps.handle, startScenario, constructState, hc, hsame]
  | endScenario id =>
    cases hc : self.cucumber with
    | none => simp [CucumberSteps.handle, cucumberDestroy, hc]
    | some cucumber =>
      cases hd : cucumber.stateDestructor <;> simp [CucumberSteps.handle, cucumberDestroy, hc, hd]
  | runStep id text =>
    cases hc : self.cucumber with
    | none => simp [CucumberSteps.handle, hc]
    | some cucumber =>
      simp only [CucumberSteps.handle, hc, Option.map_some, runStepDef]
      split <;> rfl

/-- **Two actors that differ in the flag alone** make the same replies. -/
theorem replies_verbose (blind : args.FlagBlind) (self : CucumberSteps υ σ) (verbose : Bool)
    (rs : List Request) :
    { self with verbose := verbose }.replies zrexMatches args rs =
      self.replies zrexMatches args rs := by
  induction rs generalizing self with
  | nil => rfl
  | cons r rs ih =>
    have h := handle_verbose zrexMatches args blind self verbose r
    cases hh : self.handle zrexMatches args r with
    | none =>
      rw [hh, Option.map_none, Option.map_eq_none_iff] at h
      rw [replies_dies zrexMatches args hh, replies_dies zrexMatches args h]
    | some handled =>
      obtain ⟨next, calls, reply⟩ := handled
      rw [hh, Option.map_some, Option.map_eq_some_iff] at h
      obtain ⟨⟨next', calls', reply'⟩, hh', heq⟩ := h
      have hnext : next' = { next with verbose := verbose } := congrArg Prod.fst heq
      have hreply : reply' = reply := congrArg Prod.snd heq
      subst hnext hreply
      rw [replies_cons zrexMatches args hh, replies_cons zrexMatches args hh', ih]

/-- One request is answered by one reply, whatever the handler prints and calls. -/
theorem sentIn_handleTrace (self : CucumberSteps υ σ) (r : Request) (calls : List (Call σ))
    (reply : Msg) : sentIn (handleTrace self r calls reply) = [reply] := by
  have hreceived : ∀ frames : List Frame,
      sentIn (frames.map .received : List (Event (Call σ) Frame Msg)) = [] := by
    intro frames
    simp [sentIn]
  have htail : ∀ verbose : Bool, sentIn (if verbose = true then
      [.put (.printf (verboseText r))] else [] : List (Event (Call σ) Frame Msg)) = [] := by
    intro verbose
    cases verbose <;> rfl
  rw [handleTrace, sentIn_append, sentIn_append, sentIn_append, hreceived, sentIn_put, htail]
  rfl

theorem receivedIn_handleTrace (self : CucumberSteps υ σ) (r : Request) (calls : List (Call σ))
    (reply : Msg) : receivedIn (handleTrace self r calls reply) = r.frames := by
  have htail : ∀ verbose : Bool, receivedIn (if verbose = true then
      [.put (.printf (verboseText r))] else [] : List (Event (Call σ) Frame Msg)) = [] := by
    intro verbose
    cases verbose <;> rfl
  rw [handleTrace, receivedIn_append, receivedIn_append, receivedIn_append, receivedIn_received,
    receivedIn_put, htail]
  simp [receivedIn]

/-- **What an actor sends** depends on the requests alone, not on what comes in between. -/
theorem sentIn_serve (blind : args.FlagBlind) (self : CucumberSteps υ σ) (inputs : List Input) :
    sentIn (self.serve zrexMatches args inputs).2 =
      self.replies zrexMatches args (requestsIn inputs) := by
  induction inputs generalizing self with
  | nil => simp [requestsIn, CucumberSteps.replies]
  | cons input inputs ih =>
    cases input with
    | verbose =>
      rw [serve_verbose, ih, replies_verbose zrexMatches args blind]
      rfl
    | timeout =>
      rw [serve_timeout, ih]
      rfl
    | request r =>
      have hrequests : requestsIn (.request r :: inputs) = r :: requestsIn inputs := rfl
      rw [hrequests]
      cases hh : self.handle zrexMatches args r with
      | none =>
        rw [serve_dies zrexMatches args hh, replies_dies zrexMatches args hh]
        simp [sentIn]
      | some handled =>
        rw [serve_request zrexMatches args hh, sentIn_append, sentIn_handleTrace, ih,
          replies_cons zrexMatches args hh, List.singleton_append]

/-- An actor that survives its inputs has read all their frames, and no others. -/
theorem receivedIn_serve {self last : CucumberSteps υ σ} {inputs : List Input}
    {t : List (Event (Call σ) Frame Msg)}
    (served : self.serve zrexMatches args inputs = (some last, t)) :
    receivedIn t = socketFrames inputs := by
  induction inputs generalizing self t with
  | nil =>
    obtain ⟨-, rfl⟩ := Prod.mk.inj ((serve_nil zrexMatches args self).symm.trans served)
    rfl
  | cons input inputs ih =>
    cases input with
    | verbose =>
      rw [serve_verbose] at served
      exact ih served
    | timeout =>
      rw [serve_timeout] at served
      exact ih served
    | request r =>
      cases hh : self.handle zrexMatches args r with
      | none => simp [serve_dies zrexMatches args hh] at served
      | some handled =>
        rw [serve_request zrexMatches args hh] at served
        obtain ⟨hlast, rfl⟩ := Prod.mk.inj served
        rw [receivedIn_append, receivedIn_handleTrace, socketFrames_cons,
          ih (Prod.ext hlast rfl)]
        rfl

/-! ## Every interleaving -/

/-- An actor that is not told to stop handles its inputs and is still polling. What else
waits on its socket is not read. -/
theorem exec_actor_polling (globals : υ) {inputs : List Input} {last : CucumberSteps υ σ}
    {t : List (Event (Call σ) Frame Msg)}
    (served : (freshActor globals).serve zrexMatches args inputs = (some last, t))
    (rest : List Frame) :
    (cucumberStepsActor zrexMatches args globals (inputs.map Input.poll)).exec Prog.nobody ()
        (socketFrames inputs ++ rest) =
      ⟨.returned last, (), rest, .sent ["HELLO"] :: t⟩ := by
  obtain ⟨unread, h⟩ := exec_actorLoop zrexMatches args (freshActor globals) rfl inputs [] rest
  have hlast : last.terminated = false :=
    (terminated_serve zrexMatches args (by rw [served])).trans
      (rfl : (freshActor (σ := σ) globals).terminated = false)
  simp only [served, List.append_nil] at h
  rw [exec_actor, h]
  simp [cucumberStepsActorLoop, exec_finishActor_running hlast, Outcome.after]

/-- Where no `$TERM` comes, all turns are in front of it. -/
theorem beforeTerm_eq_self {polls : List Poll} (h : Poll.pipe "$TERM" ∉ polls) :
    beforeTerm polls = polls := by
  refine List.takeWhile_eq_self_iff.mpr ?_
  intro poll hmem
  refine decide_eq_true ?_
  rintro rfl
  exact h hmem

/-- Turns with commands come to the same as their inputs, and after them the actor is
told to stop if a `$TERM` was among its commands. -/
theorem exec_actor_turns (globals : υ) {rs : List Request} {polls : List Poll}
    (control : ∀ command, Poll.pipe command ∈ polls → command ∈ ["VERBOSE", "$TERM"])
    (ready : socketTurns (beforeTerm polls) ≤ rs.length)
    (h : legal false (rs.map .request) = true) :
    ∃ (last : CucumberSteps υ σ) (t : List (Event (Call σ) Frame Msg)) (calls : List (Call σ)),
      (freshActor globals).serve zrexMatches args (inputsOf (beforeTerm polls) rs) =
          (some last, t) ∧
        ∃ self, (cucumberStepsActor zrexMatches args globals polls).exec Prog.nobody ()
            (rs.flatMap Request.frames) =
          ⟨.returned self, (),
            (rs.drop (socketTurns (beforeTerm polls))).flatMap Request.frames,
            .sent ["HELLO"] :: (t ++ calls.map .put)⟩ := by
  have hverbose : ∀ command, Poll.pipe command ∈ beforeTerm polls → command = "VERBOSE" := by
    intro command hmem
    have hne : command ≠ "$TERM" := by
      rintro rfl
      simpa using List.mem_takeWhile_imp hmem
    simpa [hne] using control command ((List.takeWhile_sublist _).subset hmem)
  have hpolls := poll_inputsOf hverbose ready
  have hrequests := requestsIn_inputsOf ready
  have hframes : rs.flatMap Request.frames = socketFrames (inputsOf (beforeTerm polls) rs) ++
      (rs.drop (socketTurns (beforeTerm polls))).flatMap Request.frames := by
    rw [socketFrames_eq, hrequests, ← List.flatMap_append, List.take_append_drop]
  obtain ⟨last, t, served⟩ := serve_legal zrexMatches args (freshActor globals)
    (inputsOf (beforeTerm polls) rs)
    (by rw [legal_requestsIn, hrequests]; exact legal_take h _)
  have hsplit : beforeTerm polls ++
      polls.dropWhile (fun poll => decide (poll ≠ .pipe "$TERM")) = polls :=
    List.takeWhile_append_dropWhile
  cases hrest : polls.dropWhile (fun poll => decide (poll ≠ .pipe "$TERM")) with
  | nil =>
    rw [hrest, List.append_nil] at hsplit
    refine ⟨last, t, [], served, last, ?_⟩
    have hexec := exec_actor_polling zrexMatches args globals served
      ((rs.drop (socketTurns (beforeTerm polls))).flatMap Request.frames)
    rw [hpolls, ← hframes, hsplit] at hexec
    simpa [hsplit] using hexec
  | cons poll back =>
    have hterm : poll = .pipe "$TERM" := by
      have hhead := List.head?_dropWhile_not
        (fun poll : Poll => decide (poll ≠ .pipe "$TERM")) polls
      rw [hrest] at hhead
      simpa using hhead
    rw [hrest, hterm] at hsplit
    have hexec := exec_actor_term zrexMatches args globals served back
      ((rs.drop (socketTurns (beforeTerm polls))).flatMap Request.frames)
    rw [hpolls, hsplit, ← hframes] at hexec
    exact ⟨last, t, _, served, _, hexec⟩

/-- **Control commands do not disturb the conversation.** The runner's requests `rs` are
legal, the pipe carries `VERBOSE` and `$TERM`, and the poller reports the two in any order
in which a socket that is reported has a request to read; the state constructor does not
look at the flag. Against the actor whose pipe stays silent for as long as the requests
last:

* the requests read in front of the first `$TERM` are read as a whole, the others are not
  read at all;
* each request that was read is answered, and the replies are the first of those that the
  undisturbed actor makes;
* they are all of them if every request was read, and without a `$TERM` every turn that
  reads the socket reads a request. -/
theorem control_prefix (blind : args.FlagBlind) (globals : υ) {rs : List Request}
    (h : legal false (rs.map .request) = true) {polls silent : List Poll}
    (control : ∀ command, Poll.pipe command ∈ polls → command ∈ ["VERBOSE", "$TERM"])
    (ready : socketTurns (beforeTerm polls) ≤ rs.length)
    (undisturbed : ∀ command, Poll.pipe command ∉ silent)
    (lasting : socketTurns silent = rs.length) :
    let n := socketTurns (beforeTerm polls)
    let frames := rs.flatMap Request.frames
    ∃ self self' t t',
      (cucumberStepsActor zrexMatches args globals polls).exec Prog.nobody () frames =
          ⟨.returned self, (), (rs.drop n).flatMap Request.frames, t⟩ ∧
        (cucumberStepsActor zrexMatches args globals silent).exec Prog.nobody () frames =
          ⟨.returned self', (), [], t'⟩ ∧
        receivedIn t = (rs.take n).flatMap Request.frames ∧
        (sentIn t).length = n + 1 ∧ (sentIn t').length = rs.length + 1 ∧
        sentIn t <+: sentIn t' ∧ (n = rs.length → sentIn t = sentIn t') ∧
        (Poll.pipe "$TERM" ∉ polls → n = socketTurns polls) := by
  intro n frames
  have hwhole : beforeTerm silent = silent := beforeTerm_eq_self (undisturbed _)
  have control' : ∀ command, Poll.pipe command ∈ silent → command ∈ ["VERBOSE", "$TERM"] :=
    fun command hmem => absurd hmem (undisturbed command)
  have ready' : socketTurns (beforeTerm silent) ≤ rs.length := by rw [hwhole, lasting]
  obtain ⟨last, t, calls, served, self, hexec⟩ :=
    exec_actor_turns zrexMatches args globals control ready h
  obtain ⟨last', t', calls', served', self', hexec'⟩ :=
    exec_actor_turns zrexMatches args globals control' ready' h
  rw [hwhole, lasting, List.drop_length] at hexec'
  have hreplies := sentIn_serve zrexMatches args blind (freshActor globals)
    (inputsOf (beforeTerm polls) rs)
  have hreplies' := sentIn_serve zrexMatches args blind (freshActor globals)
    (inputsOf (beforeTerm silent) rs)
  rw [served, requestsIn_inputsOf ready, replies_take] at hreplies
  rw [served', requestsIn_inputsOf ready', hwhole, lasting, List.take_length] at hreplies'
  have hlength := length_replies zrexMatches args (freshActor globals) h
  have hsent : ∀ (t : List (Event (Call σ) Frame Msg)) (calls : List (Call σ)),
      sentIn (.sent ["HELLO"] :: (t ++ calls.map .put)) = ["HELLO"] :: sentIn t := by
    intro t calls
    rw [sentIn_sent_cons, sentIn_append, sentIn_put, List.append_nil]
  have hreceived : receivedIn (.sent ["HELLO"] :: (t ++ calls.map .put)) = receivedIn t := by
    rw [receivedIn_sent_cons, receivedIn_append, receivedIn_put, List.append_nil]
  refine ⟨self, self', _, _, hexec, hexec', ?_, ?_, ?_, ?_, ?_, ?_⟩
  · rw [hreceived, receivedIn_serve zrexMatches args served, socketFrames_eq,
      requestsIn_inputsOf ready]
  · rw [hsent, hreplies, List.length_cons, List.length_take, hlength]
    omega
  · rw [hsent, hreplies', List.length_cons, hlength]
  · rw [hsent, hsent, hreplies, hreplies', List.cons_prefix_cons]
    exact ⟨rfl, List.take_prefix _ _⟩
  · intro hall
    have hn : socketTurns (beforeTerm polls) = (CucumberSteps.replies zrexMatches args
        (freshActor globals) rs).length := by rw [hlength]; exact hall
    rw [hsent, hsent, hreplies, hreplies', hn, List.take_length]
  · intro hnone
    exact congrArg socketTurns (beforeTerm_eq_self hnone)

end Replies

/-- A scenario that is told to be verbose in its first step and to stop after it: its end
is not read. -/
def interrupted : List Poll :=
  [.serverSocket, .pipe "VERBOSE", .timeout, .serverSocket, .pipe "$TERM", .serverSocket]

/-- The first two of three requests are answered as the undisturbed actor answers them. -/
theorem control_prefix_interrupted :
    ∃ (self self' : CucumberSteps Unit Unit) (t t' : List (Event (Call Unit) Frame Msg)),
      (cucumberStepsActor literalMatches plainArgs () interrupted).exec Prog.nobody ()
          ["START SCENARIO", "1", "RUN STEP", "1", "a", "END SCENARIO", "1"] =
        ⟨.returned self, (), ["END SCENARIO", "1"], t⟩ ∧
      (cucumberStepsActor literalMatches plainArgs () [.serverSocket, .serverSocket,
          .serverSocket]).exec Prog.nobody ()
          ["START SCENARIO", "1", "RUN STEP", "1", "a", "END SCENARIO", "1"] =
        ⟨.returned self', (), [], t'⟩ ∧
      sentIn t <+: sentIn t' ∧ (sentIn t).length = 3 := by
  have blind : plainArgs.FlagBlind := fun _ h => absurd h (by simp [plainArgs])
  have hlegal : legal false (([.startScenario "1", .runStep "1" "a", .endScenario "1"] :
      List Request).map .request) = true := by decide
  have control : ∀ command, Poll.pipe command ∈ interrupted →
      command ∈ ["VERBOSE", "$TERM"] := by
    simp [interrupted]
  have undisturbed : ∀ command, Poll.pipe command ∉
      [Poll.serverSocket, .serverSocket, .serverSocket] := by simp
  obtain ⟨self, self', t, t', hexec, hexec', -, hlength, -, hprefix, -⟩ :=
    control_prefix literalMatches plainArgs blind () hlegal control (by decide) undisturbed
      (by decide)
  exact ⟨self, self', t, t', hexec, hexec', hprefix, hlength⟩

end CucumberC
