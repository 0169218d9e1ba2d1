import CucumberC.Protocol
import CucumberC.Control
import CucumberC.Lib.Script

/-!
# What the runner sends

The runner sends from a script. Which requests it makes, to whom and in which order is
settled by the feature files and the identities before it receives anything; what it
receives decides only whether it lives to send the rest. So an actor is given a legal
sequence of requests whatever becomes of the run: whoever else writes to the socket of the
runner, and whether the runner returns, dies or waits for ever.

## Main definitions

* `decodedPickles`, `runnerScript`: the scenarios of a file, and the messages for them.
* `sends_run`: the runner keeps to its script.
* `requests_legal`: what every environment sees of it.
-/

namespace CucumberC
open Interaction

/-- The requests for a scenario, each made to all workers before the next one. -/
def pickleScript (ids : List Frame) (pickle : CucPickle) : List (Frame × Msg) :=
  (pickleRequests pickle).flatMap fun r => ids.map fun i => (i, r.frames)

variable {γ : Type} (G : GherkinC γ)

/-- The scenarios of a feature file, as far as they can be decoded. -/
def decodedPickles (featureFile : String) : List CucPickle :=
  match G.parserParse featureFile with
  | .error _ => []
  | .ok tree =>
    ((G.compilerCompile tree).getD []).filterMap fun json =>
      match pickleNew G.cJSONParse json with
      | .ok pickle => pickle
      | .error _ => none

/-- The messages for the scenarios of feature files. -/
def runnerScript (ids : List Frame) (featureFiles : List String) : List (Frame × Msg) :=
  (featureFiles.flatMap (decodedPickles G)).flatMap (pickleScript ids)

/-! ## The runner keeps to its script -/

section Sending
variable (identities : CursorList Frame)

theorem sends_assertStreq (actual : Option Frame) (expected : Frame) :
    Sends (assertStreq actual expected) [] := by
  refine (Sends.deref actual).bind fun actual => ?_
  split
  · exact .ret _
  · exact .fault .assertion []

theorem sends_askScenario (command expected id : Frame) (u : Unit) (i : Frame) :
    Sends (askScenario command expected id u i) [(i, [command, id])] :=
  .send (.recv fun _ => (sends_assertStreq _ _).bind fun _ => sends_assertStreq _ _)

theorem sends_askStep (id text : Frame) (r : StepState) (i : Frame) :
    Sends (askStep id text r i) [(i, ["RUN STEP", id, text])] := by
  refine .send (.recv fun _ => (sends_assertStreq _ _).bind fun _ =>
    (Sends.deref _).bind fun command => ?_)
  split
  · exact .ret _
  · split
    · exact .ret _
    · split
      · exact .ret _
      · exact (Sends.output _).bind fun _ => .ret _

theorem sends_putsAll (messages : CursorList String) : Sends (putsAll messages) [] :=
  (Sends.walk_nil (fun _ _ => .output _) _ _ _ _).bind_silent fun _ => .ret _

theorem sends_reportStep (pickleStep : Frame) (r : StepState) :
    Sends (reportStep pickleStep identities r) [] := by
  unfold reportStep
  split
  · exact (sends_putsAll _).bind fun _ => .ret _
  · split
    · exact (sends_putsAll _).bind fun _ => .ret _
    · split
      · exact (Sends.output _).bind fun _ => .ret _
      · exact .ret _

/-- What goes to all workers, one after another. -/
theorem flatMap_singleton_pair (ids : List Frame) (m : Msg) :
    (ids.flatMap fun i => [(i, m)]) = ids.map fun i => (i, m) := List.map_eq_flatMap.symm

theorem sends_runStep (id : Frame) (s : RunState) (text : Frame) :
    Sends (runStep identities id s text)
      (identities.items.map fun i => (i, (Request.runStep id text).frames)) := by
  have hasks := Sends.forEach (sends_askStep id text) identities
    { isSuccessful := s.isSuccessful
      successMessages := .new
      failureMessages := .new
      stepNotFoundCounter := 0 }
  rw [flatMap_singleton_pair] at hasks
  exact (Sends.output _).silent_bind fun _ => hasks.bind_silent fun r =>
    (sends_reportStep identities text r).bind_silent fun _ => .ret _

theorem sends_askAll (command expected id : Frame) :
    Sends (forEach identities (askScenario command expected id) ())
      (identities.items.map fun i => (i, [command, id])) := by
  have h := Sends.forEach (sends_askScenario command expected id) identities ()
  rwa [flatMap_singleton_pair] at h

theorem sends_runPickle (s : RunState) (json : String) :
    Sends (runPickle G identities s json)
      ((match pickleNew G.cJSONParse json with
        | .ok pickle => pickle
        | .error _ => none).toList.flatMap (pickleScript identities.items)) := by
  refine Sends.ofExcept_bind fun decoded hdecoded => ?_
  rw [hdecoded]
  cases decoded with
  | none => exact .fault .assertion _
  | some pickle =>
    have henough : pickle.texts.length ≤ pickle.steps.size := by
      simp [CucPickle.texts, CursorList.size]
    have hsteps := Sends.walk (enumerates_pickleFirstStep pickle) henough
      (fun s text _ => sends_runStep identities (pickleId pickle) s text)
      { s with totalScenarios := s.totalScenarios + 1 }
    have hscript : pickleScript identities.items pickle =
        identities.items.map (fun i => (i, ["START SCENARIO", pickleId pickle])) ++
          ((pickle.texts.flatMap fun text =>
              identities.items.map fun i => (i, (Request.runStep (pickleId pickle) text).frames)) ++
            identities.items.map fun i => (i, ["END SCENARIO", pickleId pickle])) := by
      simp [pickleScript, pickleRequests, Request.frames, List.flatMap_map]
    rw [Option.toList_some, List.flatMap_singleton, hscript]
    exact (Sends.output _).silent_bind fun _ => (sends_askAll identities _ _ _).bind fun _ =>
      hsteps.bind fun _ => (sends_askAll identities _ _ _).bind_silent fun _ =>
        (Sends.output _).bind_silent fun _ => .ret _

theorem sends_runFile (fuel : ℕ) (s : RunState) (featureFile : String) :
    Sends (runFile G fuel identities s featureFile)
      ((decodedPickles G featureFile).flatMap (pickleScript identities.items)) := by
  unfold runFile
  cases hparse : G.parserParse featureFile with
  | ok tree =>
    have hvalid : gherkinDocumentValid (gherkinDocumentNew G featureFile) = true := by
      simp [gherkinDocumentNew, gherkinDocumentValid, hparse]
    simp only [hvalid, if_true]
    refine Sends.ofExcept_bind fun list hlist => ?_
    cases hevents : G.compilerCompile tree with
    | none => simp [gherkinDocumentGetPickles, gherkinDocumentNew, hparse, hevents] at hlist
    | some events =>
      obtain ⟨-, list', hlist', hitems⟩ := gherkinDocumentNew_pickles G hparse hevents
      obtain rfl : list' = list := Except.ok.inj (hlist'.symm.trans hlist)
      have h := Sends.forEach (sends_runPickle G identities) list' s
      rw [hitems] at h
      simp only [decodedPickles, hparse, hevents, Option.getD_some]
      rw [List.filterMap_eq_flatMap_toList, List.flatMap_assoc]
      exact h
  | error errors =>
    have hinvalid : gherkinDocumentValid (gherkinDocumentNew G featureFile) = false := by
      simp [gherkinDocumentNew, gherkinDocumentValid, hparse]
    simp only [hinvalid, Bool.false_eq_true, if_false, decodedPickles, hparse, List.flatMap_nil]
    refine (Sends.output _).bind fun _ => ?_
    cases gherkinDocumentErrors (gherkinDocumentNew G featureFile) with
    | none => exact Sends.bind (.fault .assertion []) fun _ => .ret s
    | some errors =>
      exact Sends.bind ((Sends.walk_nil (fun _ _ => .output _) _ _ _ _).bind fun _ => .ret _)
        fun _ => .ret s

/-- **The runner keeps to its script**, until it dies. -/
theorem sends_run (fuel : ℕ) (self : CucumberFeatureRunner) :
    Sends (cucumberFeatureRunnerRun G fuel self identities)
      (runnerScript G identities.items self.featureFiles.items) := by
  have hfiles := Sends.walk self.featureFiles.enumerates_pop (Nat.le_refl _)
    (fun s file _ => sends_runFile G identities fuel s file)
    { isSuccessful := true, totalScenarios := self.totalScenarios, totalSteps := self.totalSteps }
  rw [runnerScript, List.flatMap_assoc]
  exact hfiles.bind_silent fun _ => (Sends.output _).silent_bind fun _ =>
    (Sends.output _).silent_bind fun _ => .ret _

end Sending

/-! ## What one worker is sent -/

/-- The messages among these for the worker `i`. -/
theorem filterMap_pairs (ids : List Frame) (i : Frame) (m : Msg) :
    (ids.map fun j => (j, m)).filterMap (fun x => if x.1 = i then some x.2 else none) =
      List.replicate (ids.count i) m := by
  induction ids with
  | nil => rfl
  | cons j ids ih =>
    by_cases hji : j = i
    · subst hji
      simp [ih, List.replicate_succ]
    · simp [ih, hji]

/-- A worker is sent every request as often as it is listed. -/
theorem filterMap_runnerScript (ids : List Frame) (featureFiles : List String) (i : Frame) :
    (runnerScript G ids featureFiles).filterMap
        (fun x => if x.1 = i then some x.2 else none) =
      (((featureFiles.flatMap (decodedPickles G)).flatMap pickleRequests).flatMap fun r =>
        List.replicate (ids.count i) r).map Request.frames := by
  simp only [runnerScript, pickleScript, List.filterMap_flatMap, filterMap_pairs,
    List.map_flatMap, List.map_replicate, List.flatMap_assoc]

/-! ### Legal requests -/

/-- Whether a worker may be sent these requests. -/
def Request.Legal (isOpen : Bool) (rs : List Request) : Prop :=
  legal isOpen (rs.map .request) = true

/-- A request that may be made again may be made any number of times. -/
theorem Request.Legal.replicate (isOpen : Bool) (r : Request) (allowed : r.allowed isOpen = true)
    (again : r.allowed (r.opensAfter isOpen) = true)
    (settled : r.opensAfter (r.opensAfter isOpen) = r.opensAfter isOpen) {rest : List Request}
    (h : Request.Legal (r.opensAfter isOpen) rest) (k : ℕ) :
    Request.Legal isOpen (List.replicate (k + 1) r ++ rest) := by
  induction k generalizing isOpen with
  | zero => simpa [Request.Legal, legal, allowed] using h
  | succ k ih =>
    have hih := ih (r.opensAfter isOpen) again (by rw [settled]; exact again)
      (by rw [settled, settled]) (by rw [settled]; exact h)
    have hone : Request.Legal isOpen (r :: (List.replicate (k + 1) r ++ rest)) := by
      simpa [Request.Legal, legal, allowed] using hih
    exact hone

/-- Steps may be run in an open scenario. -/
theorem Request.Legal.steps {id : Frame} {rest : List Request} (h : Request.Legal true rest)
    (texts : List Frame) (k : ℕ) :
    Request.Legal true ((texts.flatMap fun text =>
      List.replicate (k + 1) (Request.runStep id text)) ++ rest) := by
  induction texts with
  | nil => exact h
  | cons text texts ih =>
    rw [List.flatMap_cons, List.append_assoc]
    exact .replicate true (.runStep id text) rfl rfl rfl ih k

/-- The requests for scenarios, each made some number of times, are legal. -/
theorem legal_pickleRequests (pickles : List CucPickle) (k : ℕ) :
    Request.Legal false ((pickles.flatMap pickleRequests).flatMap fun r => List.replicate k r) := by
  cases k with
  | zero =>
    have hnil : ((pickles.flatMap pickleRequests).flatMap fun r => List.replicate 0 r) = [] := by
      simp
    rw [hnil]
    rfl
  | succ k =>
    induction pickles with
    | nil => rfl
    | cons pickle pickles ih =>
      have hsplit : ((pickle :: pickles).flatMap pickleRequests).flatMap
            (fun r => List.replicate (k + 1) r) =
          List.replicate (k + 1) (.startScenario (pickleId pickle)) ++
            ((pickle.texts.flatMap fun text =>
                List.replicate (k + 1) (Request.runStep (pickleId pickle) text)) ++
              (List.replicate (k + 1) (.endScenario (pickleId pickle)) ++
                (pickles.flatMap pickleRequests).flatMap
                  fun r => List.replicate (k + 1) r)) := by
        simp [pickleRequests, List.flatMap_map]
      rw [hsplit]
      exact .replicate false (.startScenario _) rfl rfl rfl
        (.steps (.replicate true (.endScenario _) rfl rfl rfl ih k) _ k) k

/-- The first of the requests for scenarios are legal. -/
theorem legal_of_front {pickles : List CucPickle} {k : ℕ} {rs : List Request}
    (front : rs <+: (pickles.flatMap pickleRequests).flatMap fun r => List.replicate k r) :
    Request.Legal false rs := by
  rw [List.prefix_iff_eq_take.mp front]
  exact legal_take (legal_pickleRequests _ _) _

/-! ### Orderly requests -/

/-- Whether scenarios are started only when none is open. -/
def Request.orderly : Bool → List Request → Bool
  | _, [] => true
  | isOpen, .startScenario _ :: rs => !isOpen && orderly true rs
  | _, .endScenario _ :: rs => orderly false rs
  | isOpen, .runStep _ _ :: rs => orderly isOpen rs

theorem Request.orderly_cons {isOpen : Bool} {r : Request} {rs : List Request}
    (h : orderly isOpen (r :: rs) = true) :
    (∀ id, r = .startScenario id → isOpen = false) ∧ orderly (r.opensAfter isOpen) rs = true := by
  cases r with
  | startScenario id =>
    rw [orderly, Bool.and_eq_true, Bool.not_eq_true'] at h
    exact ⟨fun _ _ => h.1, h.2⟩
  | endScenario id | runStep id text => exact ⟨fun _ hr => (by cases hr), h⟩

/-- Orderly requests may stop anywhere. -/
theorem Request.orderly_front {isOpen : Bool} {rs rs' : List Request} (front : rs <+: rs')
    (h : orderly isOpen rs' = true) : orderly isOpen rs = true := by
  induction rs generalizing isOpen rs' with
  | nil => cases isOpen <;> rfl
  | cons r rs ih =>
    obtain ⟨more, rfl⟩ := front
    obtain ⟨hstart, hrest⟩ := orderly_cons h
    have hih := ih (List.prefix_append _ _) hrest
    cases r with
    | startScenario id =>
      rw [orderly, hstart id rfl]
      exact hih
    | endScenario id | runStep id text => exact hih

/-- The requests for scenarios are orderly, if each of them is made once at most. -/
theorem orderly_pickleRequests (pickles : List CucPickle) {k : ℕ} (hk : k ≤ 1) :
    Request.orderly false
      ((pickles.flatMap pickleRequests).flatMap fun r => List.replicate k r) = true := by
  have steps : ∀ (id : Frame) (texts : List Frame) rest,
      Request.orderly true (texts.map (Request.runStep id) ++ .endScenario id :: rest) =
        Request.orderly false rest := by
    intro id texts rest
    induction texts with
    | nil => rfl
    | cons text texts ih => exact ih
  have once : Request.orderly false (pickles.flatMap pickleRequests) = true := by
    induction pickles with
    | nil => rfl
    | cons pickle pickles ih =>
      rw [List.flatMap_cons, pickleRequests, List.cons_append, List.append_assoc]
      exact (steps _ _ _).trans ih
  obtain rfl | rfl : k = 0 ∨ k = 1 := by omega
  · have hnil : ((pickles.flatMap pickleRequests).flatMap fun r => List.replicate 0 r) = [] := by
      simp
    rw [hnil]
    rfl
  · simpa using once

section Environments
variable {ω' σ : Type} {S : Service Frame Frame ω' σ}
variable {ok : Network Frame Frame Output ω' σ (CucumberFeatureRunner × Bool) →
  Label Frame Frame Output ω' → Prop}
variable {c₀ c : Network Frame Frame Output ω' σ (CucumberFeatureRunner × Bool)}
variable {ls : List (Label Frame Frame Output ω')}

/-- Who sends from the script of the runner has sent to each peer the first of the requests for
the scenarios, each of them as often as the peer is listed. -/
theorem exists_requests_of_front {ids : List Frame} {featureFiles : List String}
    {t : List (Event Output (Frame × Msg) (Frame × Msg))}
    (front : sentIn t <+: runnerScript G ids featureFiles) (i : Frame) :
    ∃ rs : List Request, sentTo i t = rs.map Request.frames ∧
      rs <+: ((featureFiles.flatMap (decodedPickles G)).flatMap pickleRequests).flatMap
        fun r => List.replicate (ids.count i) r := by
  have hsent := front.filterMap fun x => if x.1 = i then some x.2 else none
  rw [← sentTo_eq, filterMap_runnerScript, List.prefix_map_iff] at hsent
  obtain ⟨rs, hrs, hsent⟩ := hsent
  exact ⟨rs, hsent, hrs⟩

/-- Each peer has been sent a legal sequence of requests. -/
theorem exists_legal_sentTo (fuel : ℕ) (self : CucumberFeatureRunner)
    (identities : CursorList Frame)
    (start : c₀.client = cucumberFeatureRunnerRun G fuel self identities)
    (run : RunWhere S ok c₀ ls c) (i : Frame) :
    ∃ rs : List Request, sentTo i (clientTrace ls) = rs.map Request.frames ∧
      Request.Legal false rs := by
  have hsends := sends_run G identities fuel self
  rw [← start] at hsends
  obtain ⟨rs, hsent, front⟩ := exists_requests_of_front G (run.sends hsends).1 i
  exact ⟨rs, hsent, legal_of_front front⟩

/-- **What the runner sends** does not depend on what it receives. Let the runner be the
client of any network, of peers that do what they like and join when they like. At any
moment it has sent the first messages of the script that the feature files and the
identities determine, and all of them when it has returned; and each peer has been sent a
legal sequence of requests, with steps in open scenarios only. -/
theorem requests_legal (fuel : ℕ) (self : CucumberFeatureRunner) (identities : CursorList Frame)
    (start : c₀.client = cucumberFeatureRunnerRun G fuel self identities)
    (run : RunWhere S ok c₀ ls c) :
    sentIn (clientTrace ls) <+: runnerScript G identities.items self.featureFiles.items ∧
      (∀ last, c.client = .ret last →
        sentIn (clientTrace ls) = runnerScript G identities.items self.featureFiles.items) ∧
      ∀ i, ∃ rs : List Request, sentTo i (clientTrace ls) = rs.map Request.frames ∧
        Request.Legal false rs := by
  have hsends := sends_run G identities fuel self
  rw [← start] at hsends
  obtain ⟨hfront, hall⟩ := run.sends hsends
  exact ⟨hfront, hall, exists_legal_sentTo G fuel self identities start run⟩

end Environments

/-- `B` connects while the runner waits for `A`, and its `HELLO` makes the runner die. -/
theorem runs_hello : ∃ ls c, RunWhere plainService (fun _ _ => True) networkOfA ls c ∧
    c.client = .fault .assertion ∧
    sentIn (clientTrace ls) = [("A", ["START SCENARIO", "n"])] :=
  ⟨_, _, .snoc (.snoc (.snoc (.snoc (.snoc (.refl _) (.clientPut rfl) trivial)
    (.clientSend rfl) trivial) (.join (i := "B") rfl) trivial) (.reply (i := "B") rfl) trivial)
    (.clientRecv (i := "B") rfl rfl) trivial, rfl, rfl⟩

/-- What the runner has sent until it dies is the start of its script. -/
theorem requests_legal_hello :
    ∃ ls c, RunWhere plainService (fun _ _ => True) networkOfA ls c ∧
      c.client = .fault .assertion ∧
      sentIn (clientTrace ls) = [("A", ["START SCENARIO", "n"])] ∧
      sentIn (clientTrace ls) <+: runnerScript onePickle ["A"] ["f"] ∧
      ∃ rs : List Request, sentTo "A" (clientTrace ls) = rs.map Request.frames ∧
        Request.Legal false rs := by
  obtain ⟨ls, c, run, hdies, hsent⟩ := runs_hello
  obtain ⟨hfront, -, hlegal⟩ := requests_legal onePickle 0 oneFile ⟨["A"], 0⟩ rfl run
  exact ⟨ls, c, run, hdies, hsent, hfront, hlegal "A"⟩

end CucumberC
