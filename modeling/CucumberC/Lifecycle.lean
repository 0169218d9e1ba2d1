import CucumberC.Serving
import Mathlib.Data.List.Nodup

/-!
# The life of a state object

The constructor is called at every `START SCENARIO`, the destructor at `END SCENARIO`
and at the end of the actor. `Books` balances the two: whatever was constructed was
either destructed, or is held, or was held when another scenario started. The last kind
is lost: `START SCENARIO` overwrites the scenario without destroying it.

## Main definitions

* `LifeCycle`: every object is destructed exactly once, and not used after that.
* `Books`, `Books.handle`, `Books.serve`: the balance and its preservation.
* `lostIn`, `lifeCycle_iff`: the life cycle is kept exactly if no scenario starts while
  an object is held.
-/

namespace CucumberC
open Interaction

variable {υ σ : Type}

/-! ## The property -/

/-- The numbers of the objects the constructor returned. -/
def createdIn (calls : List (Call σ)) : List ℕ :=
  calls.filterMap fun
    | .constructed _ object => object.map StateObject.serial
    | _ => none

/-- The numbers of the objects that were passed to the destructor. -/
def destroyedIn (calls : List (Call σ)) : List ℕ :=
  calls.filterMap fun
    | .destructed object => object.map StateObject.serial
    | _ => none

/-- No callback ran with an object that had been passed to the destructor before. -/
def NoUseAfter (calls : List (Call σ)) : Prop :=
  ∀ front position view object reasons back,
    calls = front ++ .invoked position view (some object) reasons :: back →
      object.serial ∉ destroyedIn front

/-- **The life cycle** of state objects: each of them was destructed exactly once, and
none was used after that. -/
structure LifeCycle (calls : List (Call σ)) : Prop where
  once : ∀ n ∈ createdIn calls, (destroyedIn calls).count n = 1
  noUseAfter : NoUseAfter calls

@[simp] theorem createdIn_append (calls calls' : List (Call σ)) :
    createdIn (calls ++ calls') = createdIn calls ++ createdIn calls' := by simp [createdIn]
@[simp] theorem destroyedIn_append (calls calls' : List (Call σ)) :
    destroyedIn (calls ++ calls') = destroyedIn calls ++ destroyedIn calls' := by
  simp [destroyedIn]

/-- A call that is no use of a destructed object may follow. -/
theorem NoUseAfter.snoc {calls : List (Call σ)} (h : NoUseAfter calls) {call : Call σ}
    (hcall : ∀ position view object reasons, call = .invoked position view (some object) reasons →
      object.serial ∉ destroyedIn calls) : NoUseAfter (calls ++ [call]) := by
  intro front position view object reasons back split
  obtain ⟨rfl, -, hlast⟩ | ⟨back, -, rfl⟩ := snoc_eq_append_cons split
  · exact hcall position view object reasons hlast
  · exact h front position view object reasons back rfl

/-! ## The balance -/

/-- The object the actor holds for the open scenario. -/
def CucumberSteps.held (self : CucumberSteps υ σ) : Option (StateObject σ) :=
  self.cucumber.bind Cucumber.state

/-- The number of the object held, if there is one. -/
def CucumberSteps.heldSerial (self : CucumberSteps υ σ) : List ℕ :=
  (self.held.map StateObject.serial).toList

/-- The books of an actor after `calls`: what was constructed was destructed, lost, or is
held. Numbers are given once, in increasing order. -/
structure Books (destruct : υ → Option σ → υ) (calls : List (Call σ)) (lost : List ℕ)
    (actor : CucumberSteps υ σ) : Prop where
  balance : ∀ n, (createdIn calls).count n =
    (destroyedIn calls).count n + lost.count n + actor.heldSerial.count n
  fresh : ∀ n ∈ createdIn calls, n < actor.constructed
  nodup : (createdIn calls).Nodup
  destructor : ∀ cucumber, actor.cucumber = some cucumber →
    cucumber.stateDestructor = some destruct
  noUseAfter : NoUseAfter calls

section Balance
variable {destruct : υ → Option σ → υ} {calls : List (Call σ)} {lost : List ℕ}
variable {self : CucumberSteps υ σ}

/-- The object that is held has not been destructed. -/
theorem Books.held_alive (h : Books destruct calls lost self) {object : StateObject σ}
    (held : self.held = some object) : object.serial ∉ destroyedIn calls := by
  intro hmem
  have hbalance := h.balance object.serial
  have honce := List.nodup_iff_count_le_one.mp h.nodup object.serial
  have hdestroyed := List.count_pos_iff.mpr hmem
  simp only [CucumberSteps.heldSerial, held, Option.map_some, Option.toList_some,
    List.count_singleton_self] at hbalance
  omega

/-- Printing leaves the books alone. -/
theorem Books.printf (h : Books destruct calls lost self) (text : String) :
    Books destruct (calls ++ [.printf text]) lost self where
  balance n := by simpa [createdIn, destroyedIn] using h.balance n
  fresh n hn := h.fresh n (by simpa [createdIn] using hn)
  nodup := by simpa [createdIn] using h.nodup
  destructor := h.destructor
  noUseAfter := h.noUseAfter.snoc (by simp)

/-- The books look at the scenario and the count of constructor calls only. -/
theorem Books.congr (h : Books destruct calls lost self) {self' : CucumberSteps υ σ}
    (hcucumber : self'.cucumber = self.cucumber)
    (hconstructed : self'.constructed = self.constructed) :
    Books destruct calls lost self' where
  balance n := by simpa [CucumberSteps.heldSerial, CucumberSteps.held, hcucumber] using h.balance n
  fresh n hn := hconstructed ▸ h.fresh n hn
  nodup := h.nodup
  destructor := by rw [hcucumber]; exact h.destructor
  noUseAfter := h.noUseAfter

/-- `cucumber_destroy` destructs what is held, and holds nothing. -/
theorem Books.cucumberDestroy (h : Books destruct calls lost self) :
    Books destruct (calls ++ (cucumberDestroy self).2) lost (cucumberDestroy self).1 := by
  cases hc : self.cucumber with
  | none =>
    have heq : CucumberC.cucumberDestroy self = (self, []) := by
      simp [CucumberC.cucumberDestroy, hc]
    rw [heq]
    simpa using h
  | some cucumber =>
    have hd := h.destructor cucumber hc
    have heq : CucumberC.cucumberDestroy self =
        ({ self with
            cucumber := none
            globals := destruct self.globals (cucumber.state.map StateObject.content) },
          [.destructed cucumber.state]) := by
      simp [CucumberC.cucumberDestroy, hc, hd]
    have hheld : self.heldSerial = (cucumber.state.map StateObject.serial).toList := by
      simp [CucumberSteps.heldSerial, CucumberSteps.held, hc]
    rw [heq]
    refine ⟨fun n => ?_, fun n hn => ?_, ?_, by simp, h.noUseAfter.snoc (by simp)⟩
    · have hbalance := h.balance n
      rw [hheld] at hbalance
      cases hs : cucumber.state with
      | none =>
        simpa [createdIn, destroyedIn, hs, CucumberSteps.heldSerial, CucumberSteps.held]
          using hbalance
      | some object =>
        simp only [hs, Option.map_some, Option.toList_some] at hbalance
        simp [createdIn, destroyedIn, CucumberSteps.heldSerial, CucumberSteps.held,
          List.count_cons] at hbalance ⊢
        omega
    · exact h.fresh n (by simpa [createdIn] using hn)
    · simpa [createdIn] using h.nodup

variable {construct : υ → Bool → υ × Option σ}
variable {registerStepDefs : υ → Option σ → υ × List (String × CucumberStep υ σ)}

/-- `START SCENARIO` constructs a new object, and loses the one held before. -/
theorem Books.startScenario (h : Books destruct calls lost self) :
    let started := startScenario ⟨some construct, some destruct, registerStepDefs⟩ self
    Books destruct (calls ++ started.2) (lost ++ self.heldSerial) started.1 := by
  intro started
  have hstarted : started = CucumberC.startScenario _ self := rfl
  rw [startScenario_eq] at hstarted
  simp only [constructState] at hstarted
  generalize (construct self.globals self.verbose).2 = content at hstarted
  rw [hstarted]
  have hcreated : ∀ n ∈ createdIn calls, n ≠ self.constructed := by
    intro n hn heq
    have := h.fresh n hn
    omega
  refine ⟨fun n => ?_, fun n hn => ?_, ?_, ?_, h.noUseAfter.snoc (by simp)⟩
  · have hbalance := h.balance n
    cases content with
    | none =>
      simp [createdIn, destroyedIn, CucumberSteps.heldSerial, CucumberSteps.held] at hbalance ⊢
      omega
    | some content =>
      simp [createdIn, destroyedIn, CucumberSteps.heldSerial, CucumberSteps.held] at hbalance ⊢
      omega
  · rw [createdIn_append, List.mem_append] at hn
    rcases hn with hn | hn
    · have := h.fresh n hn
      show n < self.constructed + 1
      omega
    · cases content with
      | none => simp [createdIn] at hn
      | some content =>
        obtain rfl : n = self.constructed := by simpa [createdIn] using hn
        exact Nat.lt_succ_self _
  · rw [createdIn_append, List.nodup_append]
    refine ⟨h.nodup, ?_, ?_⟩
    · cases content <;> simp [createdIn]
    · intro n hn m hm
      cases content with
      | none => simp [createdIn] at hm
      | some content =>
        obtain rfl : m = self.constructed := by simpa [createdIn] using hm
        exact hcreated n hn
  · rintro cucumber heq
    obtain rfl := Option.some.inj heq
    rfl

/-- `RUN STEP` uses the object that is held, and holds on to it. -/
theorem Books.runStepDef (zrexMatches : String → String → Option (List String))
    (h : Books destruct calls lost self) {cucumber : Cucumber υ σ}
    (opened : self.cucumber = some cucumber) (text : Frame) :
    let ran := runStepDef zrexMatches self cucumber text
    Books destruct (calls ++ ran.2.1) lost ran.1 := by
  intro ran
  have hran : ran = CucumberC.runStepDef zrexMatches self cucumber text := rfl
  have hd := h.destructor cucumber opened
  have hheld : self.held = cucumber.state := by simp [CucumberSteps.held, opened]
  cases hfind : cucumber.stepDefs.items.findIdx? (CucumberStepDef.isMatch zrexMatches text) with
  | none =>
    rw [hran, runStepDef_notFound zrexMatches self cucumber hfind, List.append_nil]
    refine ⟨fun n => ?_, h.fresh, h.nodup, ?_, h.noUseAfter⟩
    · have hbalance := h.balance n
      simpa [CucumberSteps.heldSerial, CucumberSteps.held, opened] using hbalance
    · rintro c heq
      obtain rfl := Option.some.inj heq
      exact hd
  | some i =>
    obtain ⟨hi, -⟩ := List.findIdx?_eq_some_iff_getElem.mp hfind
    have hfound := runStepDef_found zrexMatches self cucumber hfind (List.getElem?_eq_getElem hi)
    simp only at hfound
    rw [hran, hfound]
    refine ⟨fun n => ?_, fun n hn => ?_, ?_, ?_, h.noUseAfter.snoc ?_⟩
    · have hbalance := h.balance n
      simpa [createdIn, destroyedIn, CucumberSteps.heldSerial, CucumberSteps.held, opened,
        Function.comp_def] using hbalance
    · exact h.fresh n (by simpa [createdIn] using hn)
    · simpa [createdIn] using h.nodup
    · rintro c heq
      obtain rfl := Option.some.inj heq
      exact hd
    · intro position view object reasons heq
      simp only [Call.invoked.injEq] at heq
      exact h.held_alive (hheld.trans heq.2.2.1)

end Balance

/-! ## Runs -/

section Runs
variable (zrexMatches : String → String → Option (List String))
variable (construct : υ → Bool → υ × Option σ) (destruct : υ → Option σ → υ)
variable (registerStepDefs : υ → Option σ → υ × List (String × CucumberStep υ σ))

/-- What a request makes the actor lose. -/
def lostBy (self : CucumberSteps υ σ) : Request → List ℕ
  | .startScenario _ => self.heldSerial
  | .runStep _ _ | .endScenario _ => []

/-- The objects an actor loses while it handles inputs: those it holds when a scenario
starts. -/
def lostIn (args : CucumberStepsArgs υ σ) : CucumberSteps υ σ → List Input → List ℕ
  | _, [] => []
  | self, .request r :: inputs =>
      match self.handle zrexMatches args r with
      | none => []
      | some (next, _, _) => lostBy self r ++ lostIn args next inputs
  | self, .verbose :: inputs => lostIn args { self with verbose := true } inputs
  | self, .timeout :: inputs => lostIn args self inputs

/-- **One request** keeps the books. -/
theorem Books.handle {calls : List (Call σ)} {lost : List ℕ} {self next : CucumberSteps υ σ}
    (h : Books destruct calls lost self) {r : Request} {made : List (Call σ)} {reply : Msg}
    (hh : self.handle zrexMatches ⟨some construct, some destruct, registerStepDefs⟩ r =
      some (next, made, reply)) :
    Books destruct (calls ++ made) (lost ++ lostBy self r) next := by
  cases r with
  | startScenario id =>
    simp only [CucumberSteps.handle, Option.some.injEq, Prod.mk.injEq] at hh
    obtain ⟨rfl, rfl, -⟩ := hh
    exact h.startScenario
  | endScenario id =>
    simp only [CucumberSteps.handle, Option.some.injEq, Prod.mk.injEq] at hh
    obtain ⟨rfl, rfl, -⟩ := hh
    rw [lostBy, List.append_nil]
    exact h.cucumberDestroy
  | runStep id text =>
    simp only [CucumberSteps.handle, Option.map_eq_some_iff, Prod.mk.injEq] at hh
    obtain ⟨cucumber, opened, rfl, rfl, -⟩ := hh
    rw [lostBy, List.append_nil]
    exact h.runStepDef zrexMatches opened text

theorem putIn_handleTrace (self : CucumberSteps υ σ) (r : Request) (calls : List (Call σ))
    (reply : Msg) : putIn (handleTrace self r calls reply) =
      calls ++ if self.verbose then [.printf (verboseText r)] else [] := by
  simp only [handleTrace, putIn_append, putIn_put, putIn_received]
  cases self.verbose <;> simp [putIn]

/-- **Many inputs** keep the books. -/
theorem Books.serve {calls : List (Call σ)} {lost : List ℕ} {self last : CucumberSteps υ σ}
    (h : Books destruct calls lost self) {inputs : List Input}
    {t : List (Event (Call σ) Frame Msg)}
    (served : self.serve zrexMatches ⟨some construct, some destruct, registerStepDefs⟩ inputs =
      (some last, t)) :
    Books destruct (calls ++ putIn t)
      (lost ++ lostIn zrexMatches ⟨some construct, some destruct, registerStepDefs⟩ self inputs)
      last := by
  induction inputs generalizing self calls lost t with
  | nil =>
    obtain ⟨rfl, rfl⟩ : self = last ∧ t = [] := by simpa [eq_comm] using served
    simpa [lostIn] using h
  | cons input inputs ih =>
    cases input with
    | verbose =>
      rw [serve_verbose] at served
      have hverbose : Books destruct calls lost { self with verbose := true } := h.congr rfl rfl
      exact ih hverbose served
    | timeout =>
      rw [serve_timeout] at served
      exact ih h served
    | request r =>
      cases hh : self.handle zrexMatches ⟨some construct, some destruct, registerStepDefs⟩ r with
      | none => simp [serve_dies _ _ hh] at served
      | some handled =>
        obtain ⟨next, made, reply⟩ := handled
        rw [serve_request _ _ hh, Prod.mk.injEq] at served
        obtain ⟨hlast, rfl⟩ := served
        have hnext := h.handle zrexMatches construct destruct registerStepDefs hh
        have hprinted : Books destruct (calls ++ putIn (handleTrace self r made reply))
            (lost ++ lostBy self r) next := by
          rw [putIn_handleTrace, ← List.append_assoc]
          cases self.verbose with
          | false => simpa using hnext
          | true => exact hnext.printf _
        have hih := ih hprinted (Prod.ext hlast rfl)
        rw [putIn_append, ← List.append_assoc]
        simpa [lostIn, hh] using hih

theorem CucumberSteps.heldSerial_eq_nil_iff (self : CucumberSteps υ σ) :
    self.heldSerial = [] ↔ self.held = none := by
  cases h : self.held <;> simp [heldSerial, h]

/-- Nothing is lost exactly if no scenario starts while an object is held. -/
theorem lostIn_eq_nil_iff (args : CucumberStepsArgs υ σ) (self : CucumberSteps υ σ)
    (inputs : List Input) :
    lostIn zrexMatches args self inputs = [] ↔
      ∀ front id back, inputs = front ++ .request (.startScenario id) :: back →
        ∀ current, (self.serve zrexMatches args front).1 = some current →
          current.held = none := by
  induction inputs generalizing self with
  | nil => simp [lostIn]
  | cons input inputs ih =>
    -- Unless the first input is the `START SCENARIO`, the split is one of the rest.
    have hcons : ∀ next : CucumberSteps υ σ,
        (∀ front, (self.serve zrexMatches args (input :: front)).1 =
          (next.serve zrexMatches args front).1) →
        ((∀ front id back, input :: inputs = front ++ .request (.startScenario id) :: back →
          ∀ current, (self.serve zrexMatches args front).1 = some current →
            current.held = none) ↔
          ((∀ id, input = .request (.startScenario id) → self.held = none) ∧
            lostIn zrexMatches args next inputs = [])) := by
      intro next hnext
      rw [ih next]
      constructor
      · intro h
        refine ⟨?_, ?_⟩
        · rintro id rfl
          exact h [] id inputs rfl self (by simp)
        · intro front id back split current hcurrent
          exact h (input :: front) id back (by rw [split]; rfl) current
            ((hnext front).trans hcurrent)
      · rintro ⟨hfirst, hrest⟩ front id back split current hcurrent
        cases front with
        | nil =>
          obtain ⟨rfl, -⟩ := List.cons.inj split
          obtain rfl : self = current := by simpa using hcurrent
          exact hfirst id rfl
        | cons first front =>
          obtain ⟨rfl, htail⟩ := List.cons.inj split
          exact hrest front id back htail current ((hnext front).symm.trans hcurrent)
    cases input with
    | verbose => simpa [lostIn] using (hcons { self with verbose := true } (by simp)).symm
    | timeout => simpa [lostIn] using (hcons self (by simp)).symm
    | request r =>
      cases hh : self.handle zrexMatches args r with
      | none =>
        refine iff_of_true (by simp [lostIn, hh]) ?_
        intro front id back split current hcurrent
        cases front with
        | nil =>
          obtain ⟨hr, -⟩ := List.cons.inj split
          simp [Input.request.inj hr, CucumberSteps.handle] at hh
        | cons first front =>
          obtain ⟨rfl, -⟩ := List.cons.inj split
          simp [serve_dies zrexMatches args hh] at hcurrent
      | some handled =>
        obtain ⟨next, made, reply⟩ := handled
        rw [hcons next (fun front => by rw [serve_request zrexMatches args hh])]
        cases r with
        | startScenario id =>
          simp [lostIn, hh, lostBy, CucumberSteps.heldSerial_eq_nil_iff]
        | runStep id text => simp [lostIn, hh, lostBy]
        | endScenario id => simp [lostIn, hh, lostBy]

theorem books_freshActor (globals : υ) :
    Books destruct ([] : List (Call σ)) [] (freshActor globals) where
  balance n := by simp [createdIn, destroyedIn, CucumberSteps.heldSerial, CucumberSteps.held,
    freshActor]
  fresh n hn := by simp [createdIn] at hn
  nodup := by simp [createdIn]
  destructor cucumber h := by simp [freshActor] at h
  noUseAfter front position view object reasons back split := by simp at split

variable {destruct} in
/-- At the end nothing is held, and the life cycle is kept exactly if nothing was lost. -/
theorem Books.kept_iff {calls : List (Call σ)} {lost : List ℕ} {self : CucumberSteps υ σ}
    (h : Books destruct calls lost self) (ended : self.held = none) :
    LifeCycle calls ↔ lost = [] := by
  have hheld : self.heldSerial = [] := self.heldSerial_eq_nil_iff.mpr ended
  have hbalance : ∀ n, (createdIn calls).count n = (destroyedIn calls).count n + lost.count n := by
    intro n
    simpa [hheld] using h.balance n
  constructor
  · intro hlife
    by_contra hne
    obtain ⟨n, hn⟩ := List.exists_mem_of_ne_nil lost hne
    have hlost := List.count_pos_iff.mpr hn
    have hn' := hbalance n
    have hcreated : n ∈ createdIn calls := List.count_pos_iff.mp (by omega)
    have honce := List.nodup_iff_count_le_one.mp h.nodup n
    have hdestroyed := hlife.once n hcreated
    omega
  · rintro rfl
    refine ⟨fun n hn => ?_, h.noUseAfter⟩
    have hn' := hbalance n
    rw [List.count_eq_one_of_mem h.nodup hn, List.count_nil] at hn'
    omega

/-- **The life cycle of state objects.** An actor with a constructor and a destructor
starts, handles any inputs that run steps in open scenarios only, and is told to stop.
Every object its constructor returned has then been destructed exactly once, and none was
used after that, if and only if no scenario started while the actor held an object. -/
theorem lifeCycle_iff (globals : υ) (inputs : List Input) (steps : legal false inputs = true)
    (polls : List Poll) (rest : List Frame) :
    ∃ last t,
      (cucumberStepsActor zrexMatches ⟨some construct, some destruct, registerStepDefs⟩ globals
          (inputs.map Input.poll ++ .pipe "$TERM" :: polls)).exec Prog.nobody ()
            (socketFrames inputs ++ rest) = ⟨.returned last, (), rest, t⟩ ∧
        (LifeCycle (putIn t) ↔
          ∀ front id back, inputs = front ++ .request (.startScenario id) :: back →
            ∀ self, ((freshActor globals).serve zrexMatches
              ⟨some construct, some destruct, registerStepDefs⟩ front).1 = some self →
                self.held = none) := by
  obtain ⟨last, t, served⟩ := serve_legal zrexMatches
    ⟨some construct, some destruct, registerStepDefs⟩ (freshActor globals) inputs steps
  refine ⟨_, _, exec_actor_term zrexMatches _ globals served polls rest, ?_⟩
  have hserved := (books_freshActor destruct globals).serve zrexMatches construct destruct
    registerStepDefs served
  have hstopped : Books destruct _ _ { last with terminated := true } := hserved.congr rfl rfl
  have hended := hstopped.cucumberDestroy.kept_iff (by simp [CucumberSteps.held])
  rw [← lostIn_eq_nil_iff]
  simpa [putIn] using hended

end Runs

/-- Two scenarios, one after the other, with a step each. -/
def twoScenarios : List Input :=
  [.request (.startScenario "1"), .request (.runStep "1" "a"), .request (.endScenario "1"),
    .request (.startScenario "2"), .request (.runStep "2" "a"), .request (.endScenario "2")]

/-- The objects of scenarios that are ended are destructed. -/
theorem lifeCycle_ended :
    ∃ last t,
      (cucumberStepsActor literalMatches ⟨some fun _ _ => ((), some 0), some fun _ _ => (),
          fun _ _ => ((), [("a", fun _ _ _ => ⟨(), (· + 1), []⟩)])⟩ ()
          (twoScenarios.map Input.poll ++ [.pipe "$TERM"])).exec Prog.nobody ()
        (socketFrames twoScenarios ++ []) = ⟨.returned last, (), [], t⟩ ∧
      createdIn (putIn t) = [0, 1] ∧ LifeCycle (putIn t) := by
  obtain ⟨last, t, h, hiff⟩ := lifeCycle_iff literalMatches (fun _ _ => ((), some 0))
    (fun _ _ => ()) (fun _ _ => ((), [("a", fun _ _ _ => ⟨(), (· + 1), []⟩)])) ()
    twoScenarios (by decide) [] []
  refine ⟨last, t, h, ?_, hiff.mpr ((lostIn_eq_nil_iff _ _ _ _).mp (by decide))⟩
  rw [← show Outcome.trace _ = t from congrArg Outcome.trace h]
  decide

/-! ## A runner that starts over -/

/-- The runner died in the middle of a scenario, and another one starts its own. -/
def restarted : List Input := [.request (.startScenario "1"), .request (.startScenario "2")]

/-- The object of the first scenario is never destructed. -/
theorem lifeCycle_leaks :
    ¬ LifeCycle (putIn ((cucumberStepsActor literalMatches
      ⟨some fun _ _ => ((), some 0), some fun _ _ => (), fun _ _ => ((), [])⟩ ()
        (restarted.map Input.poll ++ [.pipe "$TERM"])).exec Prog.nobody ()
          (socketFrames restarted)).trace) := by
  intro h
  exact absurd (h.once 0 (by decide)) (by decide)

end CucumberC
