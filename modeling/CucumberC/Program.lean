import CucumberC.Verdict
import CucumberC.Lib.Solitary

/-!
# The program

`cucumber_runner.c`: `main` opens a DEALER socket and runs the feature files of its first
argument with an empty list of identities. So the run keeps to itself, whoever is
connected, and its verdict is `true` whenever it returns; and `main` does not look at
the verdict.

## Main definitions

* `cucumberRunnerMain`: the program.
* `solitary_run`: a run for nobody keeps to itself.
* `RunsConnected`, `cucumberRunner_iff`: what the program does for those connected.
-/

namespace CucumberC
open Interaction

/-- What `main` finds: its arguments, whether its port can be bound, and the files. -/
structure Environment where
  zargsHas : String → Bool
  zargsFirst : Option String
  zsockNewDealer : Bool
  fileSystem : FileSystem

/-- The identities `main` passes: `zlist_new ()`. -/
def mainIdentities : CursorList Frame := .new

/-- `main`, up to its exit status. `run` is the function that it calls to run the files. -/
def cucumberRunnerMain
    (run : CucumberFeatureRunner → CursorList Frame → RunnerProg (CucumberFeatureRunner × Bool))
    (env : Environment) : RunnerProg ℕ := do
  let verbose := env.zargsHas "--verbose"
  let filename := env.zargsFirst
  if verbose then Prog.output (.zsysInfo "cucumber_runner - ")
  if env.zsockNewDealer then do
    let filename ← Prog.deref filename
    let featureRunner := cucumberFeatureRunnerNew env.fileSystem filename
    let (_, _) ← run featureRunner mainIdentities
    pure 0
  else .fault .assertion

/-! ## A run for nobody -/

section Nobody
variable {γ : Type} (G : GherkinC γ) {identities : CursorList Frame}

/-- The verdict so far is positive. -/
abbrev StillSuccessful (s : RunState) : Prop := s.isSuccessful = true

theorem solitary_runStep (nobody : identities.items = []) (scenarioId : Frame) (s : RunState)
    (pickleStep : Frame) (h : StillSuccessful s) :
    Solitary StillSuccessful (runStep identities scenarioId s pickleStep) := by
  -- No message was collected, and no reply is missing: the step counts as not found.
  have hreport : reportStep pickleStep identities
      { isSuccessful := s.isSuccessful, successMessages := .new, failureMessages := .new,
        stepNotFoundCounter := 0 } =
      (Prog.output (.puts (notFoundLine pickleStep)) >>= fun _ => pure s.isSuccessful) := by
    simp [reportStep, CursorList.size, nobody]
  refine (Solitary.output _).bind fun _ _ => ?_
  rw [forEach_eq_foldlM, nobody]
  refine Solitary.bind (φ := fun b => b = true) ?_ fun b hb => .ret hb
  dsimp only [List.foldlM_nil, pure_bind]
  rw [hreport]
  exact (Solitary.output _).bind fun _ _ => .ret h

theorem solitary_askNobody (nobody : identities.items = []) (command expected id : Frame) :
    Solitary (fun _ => True) (forEach identities (askScenario command expected id) ()) := by
  rw [forEach_eq_foldlM, nobody]
  exact .ret trivial

theorem solitary_runPickle (nobody : identities.items = []) (s : RunState) (pickleJson : String)
    (h : StillSuccessful s) : Solitary StillSuccessful (runPickle G identities s pickleJson) := by
  refine (Solitary.ofExcept _).bind fun pickle _ => ?_
  cases pickle with
  | none => exact .fault .assertion
  | some pickle =>
    exact (Solitary.output _).bind fun _ _ =>
      (solitary_askNobody nobody _ _ _).bind fun _ _ =>
      (Solitary.walk (b := { s with totalScenarios := s.totalScenarios + 1 })
        (solitary_runStep nobody _) _ _ _ h).bind fun _ hs =>
      (solitary_askNobody nobody _ _ _).bind fun _ _ =>
      (Solitary.output _).bind fun _ _ => .ret hs

theorem solitary_runFile (fuel : ℕ) (nobody : identities.items = []) (s : RunState)
    (featureFile : String) (h : StillSuccessful s) :
    Solitary StillSuccessful (runFile G fuel identities s featureFile) := by
  unfold runFile
  dsimp only
  split
  · exact (Solitary.ofExcept _).bind fun pickles _ =>
      .forEach (solitary_runPickle G nobody) pickles h
  · refine (Solitary.output _).bind fun _ _ => ?_
    cases gherkinDocumentErrors (gherkinDocumentNew G featureFile) with
    | none => exact Solitary.bind (φ := fun _ => True) (.fault .assertion) fun _ _ => .ret h
    | some errors =>
      refine Solitary.bind (φ := fun _ => True) ?_ fun _ _ => .ret h
      exact (Solitary.walk (ψ := fun _ => True) (fun _ _ _ => .output _) _ _ _ trivial).bind
        fun _ _ => .ret trivial

/-- **A run for nobody** keeps to itself, and never returns `false`. -/
theorem solitary_run (fuel : ℕ) (self : CucumberFeatureRunner) (identities : CursorList Frame)
    (nobody : identities.items = []) :
    Solitary (fun last => last.2 = true) (cucumberFeatureRunnerRun G fuel self identities) :=
  (Solitary.walk (solitary_runFile G fuel nobody) _ _ _ rfl).bind
    fun _ hs => (Solitary.output _).bind fun _ _ => (Solitary.output _).bind fun _ _ => .ret hs

end Nobody
/-! ## The program and those connected -/

section Program
variable {γ ε : Type} (G : GherkinC γ) (fuel : ℕ) (env : Environment)
variable (respond : ε → Frame × Msg → ε × List (Frame × Msg)) (e : ε) (inbox : List (Frame × Msg))

/-- The program exits with 0 if the run it starts returns. -/
theorem exit_iff (run : CucumberFeatureRunner → CursorList Frame →
      RunnerProg (CucumberFeatureRunner × Bool))
    {filename : String} (given : env.zargsFirst = some filename)
    (bound : env.zsockNewDealer = true) :
    ((cucumberRunnerMain run env).exec respond e inbox).result = .returned 0 ↔
      ∃ last, ((run (cucumberFeatureRunnerNew env.fileSystem filename)
        mainIdentities).exec respond e inbox).result = .returned last := by
  have hmain : ((cucumberRunnerMain run env).exec respond e inbox).result =
      (((run (cucumberFeatureRunnerNew env.fileSystem filename) mainIdentities).bind
        fun _ => Prog.ret 0).exec respond e inbox).result := by
    unfold cucumberRunnerMain
    cases env.zargsHas "--verbose" <;> simp [given, bound, Prog.output]
  rw [hmain, Prog.exec_bind]
  generalize (run (cucumberFeatureRunnerNew env.fileSystem filename) mainIdentities).exec respond e
    inbox = outcome
  obtain ⟨result, e', inbox', t⟩ := outcome
  cases result <;> simp [Outcome.andThen]

/-- The exit status is 0 if and only if `run`, called for `filename`, returns `true`. -/
def Reports (run : CucumberFeatureRunner → CursorList Frame →
    RunnerProg (CucumberFeatureRunner × Bool)) (filename : String) : Prop :=
  ((cucumberRunnerMain run env).exec respond e inbox).result = .returned 0 ↔
    ∃ last, ((run (cucumberFeatureRunnerNew env.fileSystem filename)
      mainIdentities).exec respond e inbox).result = .returned (last, true)

/-- The exit status does not tell `false` from `true`. -/
theorem reports_iff (run : CucumberFeatureRunner → CursorList Frame →
      RunnerProg (CucumberFeatureRunner × Bool))
    {filename : String} (given : env.zargsFirst = some filename)
    (bound : env.zsockNewDealer = true) :
    Reports env respond e inbox run filename ↔
      ∀ last, ((run (cucumberFeatureRunnerNew env.fileSystem filename)
        mainIdentities).exec respond e inbox).result ≠ .returned (last, false) := by
  rw [Reports, exit_iff env respond e inbox run given bound]
  generalize ((run (cucumberFeatureRunnerNew env.fileSystem filename) mainIdentities).exec
    respond e inbox).result = result
  constructor
  · intro reports last hfalse
    obtain ⟨last', htrue⟩ := reports.mp ⟨_, hfalse⟩
    rw [hfalse] at htrue
    cases htrue
  · intro nofailure
    constructor
    · rintro ⟨⟨last, verdict⟩, h⟩
      cases verdict with
      | true => exact ⟨last, h⟩
      | false => exact absurd h (nofailure last)
    · rintro ⟨last, h⟩
      exact ⟨_, h⟩

/-- The program runs every scenario at everybody who is `connected`, and its exit status
tells whether the run was successful. -/
structure RunsConnected (connected : List Frame) : Prop where
  /-- Each identity is passed, once. -/
  passes : mainIdentities.items.Perm connected
  /-- Each of them is sent every scenario. -/
  serves : ∀ filename contents, env.zargsFirst = some filename → env.zsockNewDealer = true →
    List.Forall₂ (Reads G) (cucumberFeatureRunnerNew env.fileSystem filename).featureFiles.items
      contents →
    ∀ i ∈ connected,
      sentTo i ((cucumberRunnerMain (cucumberFeatureRunnerRun G fuel) env).exec respond e
        inbox).trace = ((reached contents).flatMap FileContent.requests).map Request.frames
  reports : ∀ filename, env.zargsFirst = some filename → env.zsockNewDealer = true →
    Reports env respond e inbox (cucumberFeatureRunnerRun G fuel) filename

/-- **The program** does what it should for those connected if and only if nobody is. And
whatever the function is that runs the files, the exit status reports its outcome if and
only if that is not `false`. -/
theorem cucumberRunner_iff (connected : List Frame) :
    (RunsConnected G fuel env respond e inbox connected ↔ connected = []) ∧
    ∀ run filename, env.zargsFirst = some filename → env.zsockNewDealer = true →
      (Reports env respond e inbox run filename ↔
        ∀ last, ((run (cucumberFeatureRunnerNew env.fileSystem filename)
          mainIdentities).exec respond e inbox).result ≠ .returned (last, false)) := by
  refine ⟨⟨fun runs => List.nil_perm.mp runs.passes, ?_⟩, fun run _ given bound =>
    reports_iff env respond e inbox run given bound⟩
  rintro rfl
  refine ⟨.nil, by simp, ?_⟩
  intro filename given bound
  refine (reports_iff env respond e inbox _ given bound).mpr fun last hfalse => ?_
  have hsolitary := solitary_run G fuel (cucumberFeatureRunnerNew env.fileSystem filename)
    mainIdentities rfl
  exact absurd ((hsolitary.exec respond e inbox).2 _ hfalse) (by simp)

end Program

/-- One argument, which names a file, and a port that is free. -/
def plainEnvironment : Environment where
  zargsHas _ := false
  zargsFirst := some "f"
  zsockNewDealer := true
  fileSystem := ⟨fun _ => false, fun _ => []⟩

/-- The actor `A` has connected and said `HELLO`, and is sent nothing; the program exits
with 0. -/
theorem cucumberRunner_sends_nothing :
    ((cucumberRunnerMain (cucumberFeatureRunnerRun onePickle 0) plainEnvironment).exec
        disagreeing.respond () [("A", ["HELLO"])]).result = .returned 0 ∧
      ¬ RunsConnected onePickle 0 plainEnvironment disagreeing.respond () [("A", ["HELLO"])]
        ["A"] := by
  refine ⟨by decide, fun runs => ?_⟩
  have h := runs.serves "f" [onePickleContent] rfl rfl (.cons (reads_onePickle "f") .nil) "A"
    (by simp)
  exact absurd h (by decide)

end CucumberC
