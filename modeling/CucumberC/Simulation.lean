import CucumberC.Verdict

/-!
# Two runs side by side

Two runs over the same files, in different worlds or with different lists of workers, are
compared loop by loop. `Simulates` has the three conditions for it: to start a scenario, to
run a step and to end the scenario keep the two worlds related, and the two logs of a step
are related too. That the whole runs are related follows once and for all.

The worlds are related in one way between scenarios and in another within a scenario, for
workers that forget, when a scenario starts, what made the two worlds differ.

## Main definitions

* `PickleLog.Rel`, `FileLog.Rel`: logs with related steps.
* `Simulates`: the conditions.
* `Simulates.runFiles`, `Simulates.exec_run`: what follows for the logs and for the runs.
-/

namespace CucumberC
open Interaction

variable {ε γ : Type}

/-- A scenario run twice, with related steps. -/
structure PickleLog.Rel (Q : StepLog → StepLog → Prop) (log log' : PickleLog) : Prop where
  pickle : log.pickle = log'.pickle
  steps : List.Forall₂ Q log.steps log'.steps

/-- A file run twice, with related steps. -/
inductive FileLog.Rel (Q : StepLog → StepLog → Prop) : FileLog → FileLog → Prop
  | parsed {logs logs' : List PickleLog} (pickles : List.Forall₂ (PickleLog.Rel Q) logs logs') :
      Rel Q (.parsed logs) (.parsed logs')
  | invalid : Rel Q .invalid .invalid

/-- The workers listed in `ids` and those in `ids'` keep their worlds in the relation `R`
between scenarios and in the relation `S` within a scenario, and make steps that are in the
relation `Q`. -/
structure Simulates (w : Workers ε) (ids ids' : List Frame) (R S : ε → ε → Prop)
    (Q : StepLog → StepLog → Prop) : Prop where
  start : ∀ {e e'} id, R e e' → S (w.startAll ids id e) (w.startAll ids' id e')
  run : ∀ {e e'} id text, S e e' →
    S (w.runStep ids id e text).1 (w.runStep ids' id e' text).1 ∧
      Q (w.runStep ids id e text).2 (w.runStep ids' id e' text).2
  stop : ∀ {e e'} id, S e e' → R (w.stopAll ids id e) (w.stopAll ids' id e')

/-! ## Related logs -/

section Related
variable {w : Workers ε} {ids ids' : List Frame} {R S : ε → ε → Prop}
variable {Q : StepLog → StepLog → Prop}

theorem Simulates.runPickle (simulates : Simulates w ids ids' R S Q) {e e' : ε} (h : R e e')
    (pickle : CucPickle) :
    R (w.runPickle ids e pickle).1 (w.runPickle ids' e' pickle).1 ∧
      PickleLog.Rel Q (w.runPickle ids e pickle).2 (w.runPickle ids' e' pickle).2 := by
  obtain ⟨last, steps⟩ := logEach_related (R := S) (Q := Q) (w.runStep ids (pickleId pickle))
    (fun _ _ text _ h => simulates.run (pickleId pickle) text h)
    (simulates.start (pickleId pickle) h)
  exact ⟨simulates.stop (pickleId pickle) last, rfl, steps⟩

theorem Simulates.runFile (simulates : Simulates w ids ids' R S Q) {e e' : ε} (h : R e e')
    (content : FileContent) :
    R (w.runFile ids e content).1 (w.runFile ids' e' content).1 ∧
      FileLog.Rel Q (w.runFile ids e content).2 (w.runFile ids' e' content).2 := by
  cases content with
  | parsed pickles =>
    obtain ⟨last, logs⟩ := logEach_related (R := R) (Q := PickleLog.Rel Q) (w.runPickle ids)
      (fun _ _ pickle _ h => simulates.runPickle h pickle) h
    exact ⟨last, .parsed logs⟩
  | invalid errors => exact ⟨h, .invalid⟩

/-- **Two runs side by side** make related logs. -/
theorem Simulates.runFiles (simulates : Simulates w ids ids' R S Q) {e e' : ε} (h : R e e')
    (contents : List FileContent) :
    List.Forall₂ (FileLog.Rel Q) (logEach (w.runFile ids) e contents).2
      (logEach (w.runFile ids') e' contents).2 :=
  (logEach_related (R := R) (w.runFile ids) (fun _ _ content _ h => simulates.runFile h content)
    h).2

variable {logs logs' : List FileLog}

theorem FileLog.Rel.pickles {log log' : FileLog} (h : FileLog.Rel Q log log') :
    List.Forall₂ (PickleLog.Rel Q) log.pickles log'.pickles := by
  cases h with
  | parsed pickles => exact pickles
  | invalid => exact .nil

/-- Logs whose steps are the same are the same. -/
theorem eq_of_rel (related : List.Forall₂ (FileLog.Rel Eq) logs logs') : logs = logs' := by
  have hpickle : ∀ log log' : PickleLog, PickleLog.Rel Eq log log' → log = log' := by
    rintro ⟨pickle, steps⟩ ⟨_, steps'⟩ ⟨rfl, hsteps⟩
    rw [List.forall₂_eq_eq_eq] at hsteps
    exact congrArg (PickleLog.mk pickle) hsteps
  have hfile : ∀ log log' : FileLog, FileLog.Rel Eq log log' → log = log' := by
    intro log log' h
    cases h with
    | parsed pickles =>
      have hpickles := pickles.imp hpickle
      rw [List.forall₂_eq_eq_eq] at hpickles
      exact congrArg FileLog.parsed hpickles
    | invalid => rfl
  have hfiles := related.imp hfile
  rwa [List.forall₂_eq_eq_eq] at hfiles

/-- Related runs have as many scenarios. -/
theorem length_pickles_eq (related : List.Forall₂ (FileLog.Rel Q) logs logs') :
    (logs.flatMap FileLog.pickles).length = (logs'.flatMap FileLog.pickles).length :=
  (List.rel_flatMap related fun _ _ => FileLog.Rel.pickles).length_eq

/-- The steps of related runs are related. -/
theorem forall₂_stepsOf (related : List.Forall₂ (FileLog.Rel Q) logs logs') :
    List.Forall₂ Q (stepsOf logs) (stepsOf logs') :=
  List.rel_flatMap related fun _ _ file =>
    List.rel_flatMap file.pickles fun _ _ pickle => pickle.steps

/-- Related runs have the same verdict, if related steps do the same to it. -/
theorem verdictOf_eq (clears : ∀ log log', Q log log' → log.clears = log'.clears)
    (related : List.Forall₂ (FileLog.Rel Q) logs logs') : verdictOf logs = verdictOf logs' := by
  have h := map_eq_of_forall₂ clears (forall₂_stepsOf related)
  have hany : ∀ steps : List StepLog,
      steps.any StepLog.clears = (steps.map StepLog.clears).any id := by
    intro steps
    rw [List.any_map]
    rfl
  rw [verdictOf, verdictOf, hany, hany, h]

theorem putIn_pickleTrace (ids : List Frame) (log : PickleLog) :
    putIn (log.trace ids) =
      .printf (YELLOW ++ "Scenario: " ++ pickleName log.pickle ++ DEFAULT ++ "\n") ::
        ((log.steps.flatMap fun step => putIn step.trace) ++ [.printf "\n"]) := by
  have hask : ∀ command answer id : Frame,
      putIn (ids.flatMap (askTrace command answer id)) = [] := by
    intro command answer id
    rw [putIn_flatMap, List.flatMap_eq_nil_iff]
    exact fun _ _ => rfl
  simp only [PickleLog.trace, putIn_put_cons, putIn_append, hask, List.nil_append, putIn_nil]
  rw [putIn_flatMap]

/-- Related runs print the same, if related steps do. -/
theorem putIn_filesTrace_eq (prints : ∀ log log', Q log log' → putIn log.trace = putIn log'.trace)
    (related : List.Forall₂ (FileLog.Rel Q) logs logs') :
    putIn (logs.flatMap (FileLog.trace ids)) = putIn (logs'.flatMap (FileLog.trace ids')) := by
  have hpickle : ∀ log log' : PickleLog, PickleLog.Rel Q log log' →
      putIn (log.trace ids) = putIn (log'.trace ids') := by
    intro log log' h
    rw [putIn_pickleTrace, putIn_pickleTrace, h.pickle, flatMap_eq_of_forall₂ prints h.steps]
  have hfile : ∀ log log' : FileLog, FileLog.Rel Q log log' →
      putIn (log.trace ids) = putIn (log'.trace ids') := by
    intro log log' h
    cases h with
    | parsed pickles =>
      rw [FileLog.trace, FileLog.trace, putIn_flatMap, putIn_flatMap,
        flatMap_eq_of_forall₂ hpickle pickles]
    | invalid => rfl
  rw [putIn_flatMap, putIn_flatMap, flatMap_eq_of_forall₂ hfile related]

end Related

/-! ## Related runs -/

section Runs
variable (G : GherkinC γ) (fuel : ℕ) (self : CucumberFeatureRunner) {w : Workers ε}
variable {identities identities' : CursorList Frame} {R S : ε → ε → Prop}
variable {Q : StepLog → StepLog → Prop} {contents : List FileContent}

/-- Two runs side by side return the same, and print the same totals. -/
theorem Simulates.exec_run (simulates : Simulates w identities.items identities'.items R S Q)
    (clears : ∀ log log', Q log log' → log.clears = log'.clears) {e e' : ε} (h : R e e')
    (reads : List.Forall₂ (Reads G) self.featureFiles.items contents)
    (parsed : ∀ content ∈ contents, content.isParsed = true) :
    let logged := logEach (w.runFile identities.items) e contents
    let logged' := logEach (w.runFile identities'.items) e' contents
    ∃ (result : CucumberFeatureRunner × Bool) (totals : List Output),
      (cucumberFeatureRunnerRun G fuel self identities).exec w.respond e [] =
          ⟨.returned result, logged.1, [],
            logged.2.flatMap (FileLog.trace identities.items) ++ totals.map .put⟩ ∧
        (cucumberFeatureRunnerRun G fuel self identities').exec w.respond e' [] =
          ⟨.returned result, logged'.1, [],
            logged'.2.flatMap (FileLog.trace identities'.items) ++ totals.map .put⟩ := by
  intro logged logged'
  have related : List.Forall₂ (FileLog.Rel Q) logged.2 logged'.2 := simulates.runFiles h contents
  have passes := isStuck_of_isParsed parsed
  obtain ⟨-, runs⟩ := runs_run G fuel self (conforms_respond w identities.items) (e := e) trivial
    reads passes
  obtain ⟨-, runs'⟩ := runs_run G fuel self (conforms_respond w identities'.items) (e := e')
    trivial reads passes
  have hverdict : (stepsOf logged.2).any StepLog.clears = (stepsOf logged'.2).any StepLog.clears :=
    Bool.not_inj (verdictOf_eq clears related)
  have hafter : afterFiles self.initial logged.2 = afterFiles self.initial logged'.2 := by
    rw [afterFiles_eq, afterFiles_eq, hverdict, length_pickles_eq related,
      (forall₂_stepsOf related).length_eq]
  rw [← hafter] at runs'
  exact ⟨_, _, runs, runs'⟩

end Runs
end CucumberC
