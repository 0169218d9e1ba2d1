import CucumberC.Verdict

/-!
# Feature files that do not parse

A document keeps one message for each error of the parser. The runner is to print them
and to go on with the next file. Its loop over the messages asks for the first one in
every turn, so it does neither: it prints the first message without end, and no file
behind the invalid one is ever run.

## Main definitions

* `errorOutput`: the report of an invalid file.
* `ErrorsReported`: the report is made, and the run goes on.
* `errorsReported_never`: it never does.
-/

namespace CucumberC
open Interaction

variable {ε γ : Type} (G : GherkinC γ)

/-- The report of an invalid file: every message once, in order. -/
def errorOutput (featureFile : String) (errors : List ParserError) : List Output :=
  .printf "Unable to parse feature file\n" ::
    errors.map fun error =>
      .printf ("[ERROR] " ++ G.attachmentEventToString featureFile error ++ "\n")

section Runs
variable (self : CucumberFeatureRunner) (identities : CursorList Frame) (w : Workers ε) (e : ε)

/-- With turns enough for its loops the run returns. Somewhere it shows the report of
`featureFile`; all it asks the workers before that is for the files `front`, and all it
asks them afterwards is for the files `back`. -/
def ErrorsReported (front : List FileContent) (featureFile : String) (errors : List ParserError)
    (back : List FileContent) : Prop :=
  let before := logEach (w.runFile identities.items) e front
  let after := logEach (w.runFile identities.items) before.1 back
  ∃ fuel self' verdict t t',
    (cucumberFeatureRunnerRun G fuel self identities).exec w.respond e [] =
        ⟨.returned (self', verdict), after.1, [],
          t ++ (errorOutput G featureFile errors).map .put ++ t'⟩ ∧
      sentIn t = sentIn (before.2.flatMap (FileLog.trace identities.items)) ∧
      sentIn t' = sentIn (after.2.flatMap (FileLog.trace identities.items))

variable {files later : List String} {featureFile : String} {front back : List FileContent}

/-- **Errors are never reported.** The document of a file with parser errors holds one
message for each of them, in the parser's order. But a run over any files of which this is
one does not return, however many turns its loops may take. If it gets to the file then it
shows the first message in every turn, and no other. -/
theorem errorsReported_never
    (queue : self.featureFiles.items = files ++ featureFile :: later)
    (readsFront : List.Forall₂ (Reads G) files front)
    (readsBack : List.Forall₂ (Reads G) later back) {errors : List ParserError}
    (rejects : G.parserParse featureFile = .error errors) (nonempty : errors ≠ []) :
    (∃ list, gherkinDocumentErrors (gherkinDocumentNew G featureFile) = some list ∧
      list.items = errors.map (G.attachmentEventToString featureFile)) ∧
    ¬ ErrorsReported G self identities w e front featureFile errors back ∧
    ((∀ content ∈ front, content.isStuck = false) → ∃ error ∈ errors.head?, ∀ fuel,
      (cucumberFeatureRunnerRun G fuel self identities).exec w.respond e [] =
        ⟨.spinning, (logEach (w.runFile identities.items) e front).1, [],
          (logEach (w.runFile identities.items) e front).2.flatMap
              (FileLog.trace identities.items) ++
            (spinningOutput fuel (G.attachmentEventToString featureFile error)).map .put⟩) := by
  have hdocument := (gherkinDocumentNew_errors G rejects).2
  refine ⟨hdocument, ?_, ?_⟩
  · have reads : List.Forall₂ (Reads G) self.featureFiles.items
        (front ++ .invalid errors :: back) := by
      rw [queue]
      exact List.rel_append readsFront (.cons rejects readsBack)
    have hstuck : (FileContent.invalid errors).isStuck = true := by
      simpa [FileContent.isStuck] using nonempty
    rintro ⟨fuel, self', verdict, t, t', hreturned, -⟩
    have hspins := result_run_stuck G fuel self (conforms_respond w identities.items) (e := e)
      trivial reads ⟨_, by simp, hstuck⟩
    rw [hreturned] at hspins
    cases hspins
  · intro passes
    cases errors with
    | nil => exact absurd rfl nonempty
    | cons error rest =>
      refine ⟨error, by simp, ?_⟩
      intro fuel
      exact exec_run_spinning G fuel self (conforms_respond w identities.items) trivial queue
        readsFront passes (exec_runFile_errors G w.respond _ identities fuel rejects)

end Runs

/-- A parser that finds two errors in `bad` and accepts every other file. -/
def twoErrors : GherkinC Unit where
  parserParse file := if file = "bad" then .error [⟨1, 1, "first"⟩, ⟨2, 1, "second"⟩] else .ok ()
  attachmentEventToString _ error := error.text
  compilerCompile _ := some []
  cJSONParse _ := none

/-- A runner with a file behind the invalid one. -/
def badAndGood : CucumberFeatureRunner := ⟨⟨["bad", "good"], 0⟩, 0, 0⟩

theorem reads_good : Reads twoErrors "good" (.parsed []) := ⟨(), [], by decide, rfl, .nil⟩

/-- Neither error is reported and gone on from. -/
theorem errorsReported_twoErrors :
    ¬ ErrorsReported twoErrors badAndGood ⟨["A"], 0⟩ ignorant () [] "bad"
      [⟨1, 1, "first"⟩, ⟨2, 1, "second"⟩] [.parsed []] := by
  have reads : List.Forall₂ (Reads twoErrors) badAndGood.featureFiles.items
      [.invalid [⟨1, 1, "first"⟩, ⟨2, 1, "second"⟩], .parsed []] :=
    .cons (by rfl) (.cons reads_good .nil)
  rintro ⟨fuel, self', verdict, t, t', hreturned, -⟩
  have conforms : Conforms ignorant ignorant.respond (CursorList.mk ["A"] 0).items
      (fun _ => True) fun _ _ => True := conforms_respond ignorant ["A"]
  have hspins := result_run_stuck twoErrors fuel badAndGood conforms (e := ()) trivial reads
    ⟨_, .head _, rfl⟩
  rw [hreturned] at hspins
  cases hspins

/-- The document holds both messages, and the first is all the run shows of them. -/
theorem errorsReported_first :
    (∃ list, gherkinDocumentErrors (gherkinDocumentNew twoErrors "bad") = some list ∧
      list.items = ["first", "second"]) ∧
    ∀ fuel, (cucumberFeatureRunnerRun twoErrors fuel badAndGood ⟨["A"], 0⟩).exec ignorant.respond ()
        [] = ⟨.spinning, (), [], (spinningOutput fuel "first").map .put⟩ := by
  have queue : badAndGood.featureFiles.items = [] ++ "bad" :: ["good"] := rfl
  have rejects : twoErrors.parserParse "bad" =
      .error [⟨1, 1, "first"⟩, ⟨2, 1, "second"⟩] := by rfl
  obtain ⟨hdocument, -, hfirst⟩ := errorsReported_never twoErrors badAndGood ⟨["A"], 0⟩ ignorant ()
    queue .nil (.cons reads_good .nil) rejects (by simp)
  obtain ⟨error, herror, hexec⟩ := hfirst (by simp)
  obtain rfl := Option.some.inj herror
  exact ⟨hdocument, hexec⟩

end CucumberC
