import CucumberC.Verdict
import CucumberC.Lib.MayReturn

/-!
# What the runner accepts

The runner does not look at who sent a message, nor at frames behind those it reads, and
nothing keeps a stranger from writing to its socket. Still it cannot be led out of the
protocol: whatever arrives at its socket, a run that returns was a run against workers
that answer every request as they should. Some such workers would have made it send the
same requests, print the same text and return the same value, and every message it took
carried the frames that the answer of a worker would have carried. Only the result of a step
may have been missing; then the runner has printed `(null)`, as if this had been the result.

## Main definitions

* `TakenFor`, `Resembles`: messages and effects that the runner cannot tell apart.
* `FileLog.Of`: transcripts that belong to the content of a file.
* `scripted`: workers that reply from a list.
* `hello_refused`, `run_accepts`: every run that returns, in any environment.
-/

namespace CucumberC
open Interaction

/-! ## What the runner does not see -/

/-- The message `m` is one that the runner takes for `answer`: it starts with the same frames,
or it reports a step without the result, for which `(null)` is printed. -/
inductive TakenFor (answer : Msg) : Msg → Prop
  | whole {m : Msg} (frames : answer <+: m) : TakenFor answer m
  | noResult {command id : Frame} (reports : command = "STEP SUCCEEDED" ∨ command = "STEP FAILED")
      (printed : answer = [command, id, "(null)"]) : TakenFor answer [command, id]

/-- The first effect is one that the runner takes for the second: it receives a message that
it takes for the same answer, from whomever. -/
inductive Resembles : Event Output (Frame × Msg) (Frame × Msg) →
    Event Output (Frame × Msg) (Frame × Msg) → Prop
  | put (o : Output) : Resembles (.put o) (.put o)
  | sent (m : Frame × Msg) : Resembles (.sent m) (.sent m)
  | received {x y : Frame × Msg} (taken : TakenFor y.2 x.2) :
      Resembles (.received x) (.received y)

/-- Traces that the runner cannot tell apart. -/
abbrev ResemblesTrace (t t' : List (Event Output (Frame × Msg) (Frame × Msg))) : Prop :=
  List.Forall₂ Resembles t t'

theorem resembles_puts (os : List Output) :
    ResemblesTrace (os.map .put) (os.map .put) := by
  induction os with
  | nil => exact .nil
  | cons o os ih => exact .cons (.put o) ih

theorem ResemblesTrace.append {t₁ t₂ s₁ s₂ : List (Event Output (Frame × Msg) (Frame × Msg))}
    (h₁ : ResemblesTrace t₁ s₁) (h₂ : ResemblesTrace t₂ s₂) :
    ResemblesTrace (t₁ ++ t₂) (s₁ ++ s₂) := List.rel_append h₁ h₂

/-- What was printed is the same. -/
theorem ResemblesTrace.putIn_eq {t t' : List (Event Output (Frame × Msg) (Frame × Msg))}
    (h : ResemblesTrace t t') : putIn t = putIn t' := by
  induction h with
  | nil => rfl
  | cons head _ ih =>
    cases head with
    | put o => rw [putIn_put_cons, putIn_put_cons, ih]
    | sent m => exact ih
    | received => exact ih

/-- What was sent is the same. -/
theorem ResemblesTrace.sentIn_eq {t t' : List (Event Output (Frame × Msg) (Frame × Msg))}
    (h : ResemblesTrace t t') : sentIn t = sentIn t' := by
  induction h with
  | nil => rfl
  | cons head _ ih =>
    cases head with
    | put o => exact ih
    | sent m => rw [sentIn_sent_cons, sentIn_sent_cons, ih]
    | received => exact ih

/-- What was received is taken for the same answers, message by message. -/
theorem ResemblesTrace.receivedIn_taken
    {t t' : List (Event Output (Frame × Msg) (Frame × Msg))} (h : ResemblesTrace t t') :
    List.Forall₂ (fun x y => TakenFor y.2 x.2) (receivedIn t) (receivedIn t') := by
  induction h with
  | nil => exact .nil
  | cons head _ ih =>
    cases head with
    | put o => exact ih
    | sent m => exact ih
    | received taken => exact .cons taken ih

/-! ## One request -/

/-- A comparison that returns has compared equal strings. -/
theorem assertStreq_inv {actual : Option Frame} {expected : Frame} {u : Unit}
    {t : List (Event Output (Frame × Msg) (Frame × Msg))}
    (h : MayReturn (assertStreq actual expected) t u) : t = [] ∧ actual = some expected := by
  obtain ⟨t₁, a, t₂, rfl, hderef, hrest⟩ := h.bind_inv
  obtain ⟨rfl, rfl⟩ := hderef.deref_inv
  split at hrest
  · next heq =>
    obtain ⟨rfl, -⟩ := hrest.pure_inv
    exact ⟨rfl, congrArg some heq⟩
  · exact absurd hrest MayReturn.not_fault

/-- A message whose first two frames are these. -/
theorem eq_cons_of_popstr {m : Msg} {f g : Frame} (hf : (zmsgPopstr m).1 = some f)
    (hg : (zmsgPopstr (zmsgPopstr m).2).1 = some g) : ∃ rest, m = f :: g :: rest := by
  rcases m with _ | ⟨f', _ | ⟨g', rest⟩⟩
  · cases hf
  · cases hg
  · obtain rfl := Option.some.inj hf
    obtain rfl := Option.some.inj hg
    exact ⟨rest, rfl⟩

/-- **Starting and ending.** The runner goes on only if the message it takes starts with the
frames of the answer. -/
theorem askScenario_inv {command expected id i : Frame} {u u' : Unit}
    {t : List (Event Output (Frame × Msg) (Frame × Msg))}
    (h : MayReturn (askScenario command expected id u i) t u') :
    ResemblesTrace t (askTrace command expected id i) := by
  obtain ⟨⟨j, m⟩, t', rfl, hanswer⟩ := MayReturn.ask_inv h
  have hchecks : MayReturn (assertStreq (zmsgPopstr m).1 expected >>= fun _ =>
      assertStreq (zmsgPopstr (zmsgPopstr m).2).1 id) t' u' := hanswer
  obtain ⟨t₁, u₁, t₂, rfl, hfirst, hsecond⟩ := hchecks.bind_inv
  obtain ⟨rfl, hcommand⟩ := assertStreq_inv hfirst
  obtain ⟨rfl, hid⟩ := assertStreq_inv hsecond
  obtain ⟨rest, rfl⟩ := eq_cons_of_popstr hcommand hid
  exact .cons (.sent _) (.cons (.received (.whole (by simp))) .nil)

/-- What the runner does with the message it takes for the answer to a step. -/
theorem askStep_eq (id text : Frame) (r : StepState) (i : Frame) :
    askStep id text r i = .send (i, ["RUN STEP", id, text]) (.recv fun x => do
      assertStreq (zmsgPopstr (zmsgPopstr x.2).2).1 id
      let command ← Prog.deref (zmsgPopstr x.2).1
      let result := percentS (zmsgPopstr (zmsgPopstr (zmsgPopstr x.2).2).2).1
      if command = "STEP SUCCEEDED" then pure (r.collect text (.succeeded result))
      else if command = "STEP FAILED" then pure (r.collect text (.failed result))
      else if command = "STEP NOT FOUND" then pure (r.collect text .notFound)
      else do
        Prog.output (.printf (unknownCommandText command))
        pure { r with isSuccessful := false }) := rfl

/-- A report about a step is taken for one that carries what is printed. -/
theorem takenFor_result {command : Frame}
    (reports : command = "STEP SUCCEEDED" ∨ command = "STEP FAILED") (id : Frame) (rest : Msg) :
    TakenFor [command, id, percentS rest.head?] (command :: id :: rest) := by
  cases rest with
  | nil => exact .noResult reports rfl
  | cons result rest => exact .whole (by simp)

/-- **Running a step.** Whatever message the runner takes, it has collected the reply of
some worker. -/
theorem askStep_inv {id text i : Frame} {r r' : StepState}
    {t : List (Event Output (Frame × Msg) (Frame × Msg))}
    (h : MayReturn (askStep id text r i) t r') :
    ∃ entry : Frame × StepReply, entry.1 = i ∧ r' = r.collect text entry.2 ∧
      ResemblesTrace t (StepLog.replyTrace id text entry) := by
  rw [askStep_eq] at h
  obtain ⟨⟨j, m⟩, t', rfl, hanswer⟩ := MayReturn.ask_inv h
  obtain ⟨t₁, u₁, t₂, rfl, hcheck, hrest⟩ := hanswer.bind_inv
  obtain ⟨rfl, hid⟩ := assertStreq_inv hcheck
  obtain ⟨t₃, command, t₄, rfl, hread, hcollect⟩ := hrest.bind_inv
  obtain ⟨rfl, hcommand⟩ := hread.deref_inv
  obtain ⟨rest, rfl⟩ := eq_cons_of_popstr hcommand hid
  split at hcollect
  · next hsucceeded =>
    obtain ⟨rfl, rfl⟩ := hcollect.pure_inv
    exact ⟨(i, .succeeded (percentS rest.head?)), rfl, rfl, .cons (.sent _)
      (.cons (.received (hsucceeded ▸ takenFor_result (.inl hsucceeded) id rest)) .nil)⟩
  · split at hcollect
    · next hfailed =>
      obtain ⟨rfl, rfl⟩ := hcollect.pure_inv
      exact ⟨(i, .failed (percentS rest.head?)), rfl, rfl, .cons (.sent _)
        (.cons (.received (hfailed ▸ takenFor_result (.inr hfailed) id rest)) .nil)⟩
    · split at hcollect
      · next hnotFound =>
        obtain ⟨rfl, rfl⟩ := hcollect.pure_inv
        subst hnotFound
        exact ⟨(i, .notFound), rfl, rfl,
          .cons (.sent _) (.cons (.received (.whole (by simp [StepReply.frames]))) .nil)⟩
      · next hsucceeded hfailed hnotFound =>
        obtain ⟨t₅, rfl, hlast⟩ := hcollect.output_bind_inv
        obtain ⟨rfl, rfl⟩ := hlast.pure_inv
        exact ⟨(i, .other command rest (by simp [hsucceeded, hfailed, hnotFound])), rfl, rfl,
          .cons (.sent _) (.cons (.received (.whole (by simp [StepReply.frames])))
            (.cons (.put _) .nil))⟩

/-! ## Steps, scenarios, files -/

section Loops
variable {identities : CursorList Frame} {s s' : RunState}
variable {t : List (Event Output (Frame × Msg) (Frame × Msg))}

/-- The log of the step `text` of the scenario `id`, at the workers `ids`. -/
structure StepLog.Of (ids : List Frame) (id text : Frame) (log : StepLog) : Prop where
  scenarioId : log.scenarioId = id
  text : log.text = text
  replies : log.replies.map Prod.fst = ids

theorem runStep_inv {id text : Frame} (h : MayReturn (runStep identities id s text) t s') :
    ∃ log : StepLog, log.Of identities.items id text ∧ s' = log.apply s ∧
      ResemblesTrace t log.trace := by
  obtain ⟨t', rfl, hloop⟩ := h.output_bind_inv
  obtain ⟨t₁, r, t₂, rfl, hasked, hrest⟩ := hloop.bind_inv
  rw [forEach_eq_foldlM] at hasked
  obtain ⟨replies, hfits, rfl, hasks⟩ := MayReturn.foldlM_inv ResemblesTrace .nil .append
    (fun i entry => entry.1 = i) (fun r entry => r.collect text entry.2)
    (StepLog.replyTrace id text) (fun _ _ _ _ hturn => askStep_inv hturn) _ hasked
  have hids : replies.map Prod.fst = identities.items := by
    have heq : identities.items.map (fun i => i) = replies.map Prod.fst :=
      map_eq_of_forall₂ (fun _ _ h => h.symm) hfits
    rw [List.map_id'] at heq
    exact heq.symm
  have hlength : replies.length = identities.items.length := by
    rw [← hids, List.length_map]
  obtain ⟨hflag, hsuccess, hfailure, hcounter⟩ := foldl_collect id text replies
    { isSuccessful := s.isSuccessful
      successMessages := .new
      failureMessages := .new
      stepNotFoundCounter := 0 }
  rw [Nat.zero_add] at hcounter
  obtain ⟨t₃, verdict, t₄, rfl, hreport, hlast⟩ := hrest.bind_inv
  obtain ⟨rfl, rfl⟩ := hlast.pure_inv
  have hruns : Runs Prog.nobody _ () [] _ () [] _ := runs_reportStep ⟨id, text, replies⟩
    identities hlength hflag hsuccess hfailure hcounter
  obtain ⟨rfl, rfl⟩ := MayReturn.eq_of_exec_nobody hruns hreport
  rw [List.append_nil]
  exact ⟨⟨id, text, replies⟩, ⟨rfl, rfl, hids⟩, rfl,
    .cons (.put _) (hasks.append (resembles_puts _))⟩

/-- The loops that start and end a scenario. -/
theorem askAll_inv {command expected id : Frame}
    (h : MayReturn (forEach identities (askScenario command expected id) ()) t ()) :
    ResemblesTrace t (identities.items.flatMap (askTrace command expected id)) := by
  rw [forEach_eq_foldlM] at h
  obtain ⟨log, hlog, -, hasks⟩ := MayReturn.foldlM_inv ResemblesTrace .nil .append
    (fun i entry => entry = i) (fun _ _ => ()) (askTrace command expected id)
    (fun _ i _ _ hturn => ⟨i, rfl, rfl, askScenario_inv hturn⟩) _ h
  have heq : identities.items.map (fun i => i) = log.map fun i => i :=
    map_eq_of_forall₂ (fun _ _ h => h.symm) hlog
  rw [List.map_id', List.map_id'] at heq
  rwa [heq]

variable {γ : Type} (G : GherkinC γ)

theorem runPickle_inv {json : String} (h : MayReturn (runPickle G identities s json) t s') :
    ∃ log : PickleLog, pickleNew G.cJSONParse json = .ok (some log.pickle) ∧
      log.Complete identities.items ∧ s' = log.apply s ∧
        ResemblesTrace t (log.trace identities.items) := by
  obtain ⟨t₁, decoded, t₂, rfl, hdecode, hrest⟩ := h.bind_inv
  obtain ⟨rfl, hdecoded⟩ := hdecode.ofExcept_inv
  cases decoded with
  | none => exact absurd hrest MayReturn.not_fault
  | some pickle =>
    obtain ⟨t₂, rfl, hstart⟩ := hrest.output_bind_inv
    obtain ⟨t₃, u, t₄, rfl, hstarts, hsteps⟩ := hstart.bind_inv
    obtain ⟨t₅, ⟨last, s₁⟩, t₆, rfl, hwalk, hend⟩ := hsteps.bind_inv
    obtain ⟨t₇, u', t₈, rfl, hstops, hlast⟩ := hend.bind_inv
    obtain ⟨t₉, rfl, hreturn⟩ := hlast.output_bind_inv
    obtain ⟨rfl, rfl⟩ := hreturn.pure_inv
    have henough : pickle.texts.length ≤ pickle.steps.size := by
      simp [CucPickle.texts, CursorList.size]
    obtain ⟨-, hfold⟩ := hwalk.walk_inv (enumerates_pickleFirstStep pickle) henough
    obtain ⟨steps, hfits, rfl, hran⟩ := MayReturn.foldlM_inv ResemblesTrace .nil .append
      (StepLog.Of identities.items (pickleId pickle)) StepLog.apply StepLog.trace
      (fun _ _ _ _ hturn => runStep_inv hturn) _ hfold
    refine ⟨⟨pickle, steps⟩, hdecoded, ⟨?_, ?_, ?_⟩, rfl, ?_⟩
    · have heq : pickle.texts.map (fun text => text) = steps.map StepLog.text :=
        map_eq_of_forall₂ (fun _ _ h => h.text.symm) hfits
      rw [List.map_id'] at heq
      exact heq.symm
    · intro step hstep
      obtain ⟨_, -, hof⟩ := exists_left_of_mem hfits hstep
      exact hof.scenarioId
    · intro step hstep
      obtain ⟨_, -, hof⟩ := exists_left_of_mem hfits hstep
      exact hof.replies
    · exact .cons (.put _) ((askAll_inv hstarts).append (hran.append
        ((askAll_inv hstops).append (.cons (.put _) .nil))))

/-- The log of a file with this content, at the workers `ids`. -/
def FileLog.Of (ids : List Frame) : FileContent → FileLog → Prop
  | .parsed pickles, .parsed logs =>
      List.Forall₂ (fun pickle log => log.pickle = pickle ∧ log.Complete ids) pickles logs
  | .invalid errors, .invalid => errors = []
  | _, _ => False

/-- A loop that prints the first of its elements for ever does not return. -/
theorem reportErrors_inv {fuel : ℕ} {errors : CursorList String} {u : Unit}
    (h : MayReturn (reportErrors fuel errors) t u) : errors.items = [] ∧ t = [] := by
  obtain ⟨t₁, ⟨last, v⟩, t₂, rfl, hwalk, hlast⟩ := h.bind_inv
  obtain ⟨rfl, -⟩ := hlast.pure_inv
  cases hitems : errors.items with
  | nil =>
    have hnone : errors.first.1 = none := by simp [CursorList.first, CursorList.next, hitems]
    rw [hnone, walk_none] at hwalk
    obtain ⟨rfl, -⟩ := hwalk.pure_inv
    exact ⟨rfl, rfl⟩
  | cons error rest =>
    exfalso
    -- Each turn advances to the first error again.
    suffices hloop : ∀ (fuel : ℕ) (l : CursorList String), l.items = error :: rest →
        ∀ t last, ¬ MayReturn (walk CursorList.first
          (fun _ error => (Prog.output (.printf ("[ERROR] " ++ error ++ "\n")) :
            RunnerProg Unit)) fuel (some error) l ()) t last by
      have hsome : errors.first.1 = some error := by
        simp [CursorList.first, CursorList.next, hitems]
      rw [hsome] at hwalk
      exact hloop fuel errors.first.2 (by simp [hitems]) _ _ hwalk
    intro fuel
    induction fuel with
    | zero => exact fun _ _ _ _ h => MayReturn.not_spin h
    | succ fuel ih =>
      intro l hl t last h
      obtain ⟨t', rfl, hnext⟩ := MayReturn.output_bind_inv h
      have hsome : l.first.1 = some error := by
        simp [CursorList.first, CursorList.next, hl]
      rw [hsome] at hnext
      exact ih l.first.2 (by simp [hl]) _ _ hnext

theorem runFile_inv {fuel : ℕ} {featureFile : String}
    (h : MayReturn (runFile G fuel identities s featureFile) t s') :
    ∃ content log, Reads G featureFile content ∧ FileLog.Of identities.items content log ∧
      s' = log.apply s ∧ ResemblesTrace t (log.trace identities.items) := by
  unfold runFile at h
  cases hparse : G.parserParse featureFile with
  | ok tree =>
    have hvalid : gherkinDocumentValid (gherkinDocumentNew G featureFile) = true := by
      simp [gherkinDocumentNew, gherkinDocumentValid, hparse]
    simp only [hvalid, if_true] at h
    obtain ⟨t₁, list, t₂, rfl, hcompile, hloop⟩ := h.bind_inv
    obtain ⟨rfl, hlist⟩ := hcompile.ofExcept_inv
    cases hevents : G.compilerCompile tree with
    | none => simp [gherkinDocumentGetPickles, gherkinDocumentNew, hparse, hevents] at hlist
    | some events =>
      obtain ⟨-, list', hlist', hitems⟩ := gherkinDocumentNew_pickles G hparse hevents
      obtain rfl : list' = list := Except.ok.inj (hlist'.symm.trans hlist)
      rw [forEach_eq_foldlM, hitems] at hloop
      obtain ⟨logs, hfits, rfl, hran⟩ := MayReturn.foldlM_inv ResemblesTrace .nil .append
        (fun json log => pickleNew G.cJSONParse json = .ok (some log.pickle) ∧
          log.Complete identities.items)
        PickleLog.apply (PickleLog.trace identities.items)
        (fun _ _ _ _ hturn => by
          obtain ⟨log, hdecodes, hcomplete, hs, htrace⟩ := runPickle_inv G hturn
          exact ⟨log, ⟨hdecodes, hcomplete⟩, hs, htrace⟩) _ hloop
      refine ⟨.parsed (logs.map PickleLog.pickle), .parsed logs,
        ⟨tree, events, hparse, hevents, ?_⟩, ?_, rfl, hran⟩
      · rw [List.forall₂_map_right_iff]
        exact hfits.imp fun _ _ h => h.1
      · rw [FileLog.Of, List.forall₂_map_left_iff, List.forall₂_same]
        intro log hlog
        obtain ⟨_, -, -, hcomplete⟩ := exists_left_of_mem hfits hlog
        exact ⟨rfl, hcomplete⟩
  | error errors =>
    obtain ⟨hinvalid, list, hlist, hitems⟩ := gherkinDocumentNew_errors G hparse
    simp only [hinvalid, Bool.false_eq_true, if_false, hlist] at h
    obtain ⟨t', rfl, hreport⟩ := h.output_bind_inv
    obtain ⟨t₁, u, t₂, rfl, herrors, hlast⟩ := hreport.bind_inv
    obtain ⟨rfl, rfl⟩ := hlast.pure_inv
    obtain ⟨hnil, rfl⟩ := reportErrors_inv herrors
    rw [hitems, List.map_eq_nil_iff] at hnil
    exact ⟨.invalid errors, .invalid, hparse, hnil, rfl, resembles_puts [_]⟩

/-! ## The whole run -/

/-- **A run that returns** has made a transcript, whatever arrived at its socket. -/
theorem run_inv {fuel : ℕ} {self self' : CucumberFeatureRunner} {verdict : Bool}
    (h : MayReturn (cucumberFeatureRunnerRun G fuel self identities) t (self', verdict)) :
    ∃ contents logs, List.Forall₂ (Reads G) self.featureFiles.items contents ∧
      List.Forall₂ (FileLog.Of identities.items) contents logs ∧
      (self', verdict) = (afterFiles self.initial logs).result ∧
      ResemblesTrace t (logs.flatMap (FileLog.trace identities.items) ++
        (afterFiles self.initial logs).totals.map .put) := by
  obtain ⟨t₁, ⟨files, s⟩, t₂, rfl, hwalk, hrest⟩ := h.bind_inv
  obtain ⟨t₃, rfl, hsteps⟩ := hrest.output_bind_inv
  obtain ⟨t₄, rfl, hlast⟩ := hsteps.output_bind_inv
  obtain ⟨rfl, hresult⟩ := hlast.pure_inv
  obtain ⟨rfl, hfold⟩ := hwalk.walk_inv self.featureFiles.enumerates_pop (Nat.le_refl _)
  obtain ⟨pairs, hfits, rfl, hran⟩ := MayReturn.foldlM_inv ResemblesTrace .nil .append
    (fun file (entry : FileContent × FileLog) => Reads G file entry.1 ∧
      FileLog.Of identities.items entry.1 entry.2)
    (fun s entry => entry.2.apply s) (fun entry => entry.2.trace identities.items)
    (fun _ _ _ _ hturn => by
      obtain ⟨content, log, hreads, hof, hs, htrace⟩ := runFile_inv G hturn
      exact ⟨(content, log), ⟨hreads, hof⟩, hs, htrace⟩) _ hfold
  have hafter : pairs.foldl (fun s entry => entry.2.apply s) self.initial =
      afterFiles self.initial (pairs.map Prod.snd) := by
    rw [afterFiles, List.foldl_map]
  refine ⟨pairs.map Prod.fst, pairs.map Prod.snd, ?_, ?_, ?_, ?_⟩
  · rw [List.forall₂_map_right_iff]
    exact hfits.imp fun _ _ h => h.1
  · rw [List.forall₂_map_left_iff, List.forall₂_map_right_iff, List.forall₂_same]
    intro entry hentry
    obtain ⟨_, -, -, hof⟩ := exists_left_of_mem hfits hentry
    exact hof
  · rw [hresult, ← hafter]
    rfl
  · rw [List.flatMap_map, ← hafter]
    exact ResemblesTrace.append hran (.cons (.put _) (.cons (.put _) .nil))

end Loops

/-! ## Workers that reply from a list -/

/-- Workers that take their replies from a list, one after another. -/
def scripted : Workers (List StepReply) where
  start replies _ _ := replies
  run replies _ _ _ := (replies.tail, replies.head?.getD .notFound)
  stop replies _ _ := replies

/-- The replies in a transcript, in order. -/
def scriptOf (logs : List FileLog) : List StepReply :=
  (stepsOf logs).flatMap fun step => step.replies.map Prod.snd

theorem logEach_runOne_scripted (id text : Frame) (replies : List (Frame × StepReply))
    (rest : List StepReply) :
    logEach (scripted.runOne id text) (replies.map Prod.snd ++ rest) (replies.map Prod.fst) =
      (rest, replies) := by
  induction replies with
  | nil => rfl
  | cons reply replies ih =>
    rw [List.map_cons, List.map_cons, List.cons_append, logEach_cons]
    have hone : scripted.runOne id text (reply.2 :: (replies.map Prod.snd ++ rest)) reply.1 =
        (replies.map Prod.snd ++ rest, reply) := rfl
    rw [hone, ih]

theorem startAll_scripted (ids : List Frame) (id : Frame) (replies : List StepReply) :
    scripted.startAll ids id replies = replies :=
  foldl_invariant (I := fun r => r = replies) (fun _ _ h => h) rfl ids

theorem stopAll_scripted (ids : List Frame) (id : Frame) (replies : List StepReply) :
    scripted.stopAll ids id replies = replies :=
  foldl_invariant (I := fun r => r = replies) (fun _ _ h => h) rfl ids

/-- A loop whose world is a list of replies makes the log whose replies it is given. -/
theorem logEach_script {α κ : Type} {f : List StepReply → α → List StepReply × κ}
    {fits : α → κ → Prop} {script : κ → List StepReply}
    (turn : ∀ x entry rest, fits x entry → f (script entry ++ rest) x = (rest, entry))
    {xs : List α} {log : List κ} (h : List.Forall₂ fits xs log) (rest : List StepReply) :
    logEach f (log.flatMap script ++ rest) xs = (rest, log) := by
  induction h with
  | nil => rfl
  | @cons x entry xs log hx _ ih =>
    rw [List.flatMap_cons, List.append_assoc, logEach_cons, turn x entry _ hx, ih]

theorem runPickle_scripted {ids : List Frame} {log : PickleLog} (h : log.Complete ids)
    (rest : List StepReply) :
    scripted.runPickle ids
        (log.steps.flatMap (fun step => step.replies.map Prod.snd) ++ rest) log.pickle =
      (rest, log) := by
  have hfits : List.Forall₂ (fun text step => StepLog.Of ids (pickleId log.pickle) text step)
      log.pickle.texts log.steps := by
    rw [← h.texts, List.forall₂_map_left_iff, List.forall₂_same]
    exact fun step hstep => ⟨h.scenarioId step hstep, rfl, h.replies step hstep⟩
  have hsteps := logEach_script (f := scripted.runStep ids (pickleId log.pickle))
    (fun text step rest hof => by
      have hone := logEach_runOne_scripted (pickleId log.pickle) text step.replies rest
      rw [hof.replies] at hone
      rw [Workers.runStep, hone, ← hof.scenarioId, ← hof.text]) hfits rest
  rw [Workers.runPickle, startAll_scripted, hsteps, stopAll_scripted]

/-- The workers that reply from a transcript make this transcript. -/
theorem logEach_scripted {ids : List Frame} {contents : List FileContent} {logs : List FileLog}
    (h : List.Forall₂ (FileLog.Of ids) contents logs) (rest : List StepReply) :
    logEach (scripted.runFile ids) (scriptOf logs ++ rest) contents = (rest, logs) := by
  have hscript : scriptOf logs = logs.flatMap fun file =>
      file.pickles.flatMap fun log => log.steps.flatMap fun step => step.replies.map Prod.snd := by
    simp only [scriptOf, stepsOf, List.flatMap_assoc]
  rw [hscript]
  refine logEach_script (fun content log rest hof => ?_) h rest
  cases content with
  | parsed pickles =>
    cases log with
    | parsed logs =>
      have hpickles := logEach_script (f := scripted.runPickle ids)
        (fun pickle log rest (hfits : log.pickle = pickle ∧ log.Complete ids) => by
          rw [← hfits.1]
          exact runPickle_scripted hfits.2 rest) hof rest
      rw [Workers.runFile, FileLog.pickles, hpickles]
    | invalid => exact absurd hof id
  | invalid errors =>
    cases log with
    | parsed logs => exact absurd hof id
    | invalid => rfl

/-- **A `HELLO` is refused.** A run in which the runner takes one does not return. -/
theorem hello_refused {γ : Type} (G : GherkinC γ) {fuel : ℕ} {self : CucumberFeatureRunner}
    {identities : CursorList Frame} {last : CucumberFeatureRunner × Bool}
    {t : List (Event Output (Frame × Msg) (Frame × Msg))}
    (h : MayReturn (cucumberFeatureRunnerRun G fuel self identities) t last) (i : Frame) :
    (i, ["HELLO"]) ∉ receivedIn t := by
  obtain ⟨-, logs, -, -, -, htrace⟩ := run_inv G h
  intro hello
  obtain ⟨answer, hanswer, taken⟩ := exists_left_of_mem htrace.receivedIn_taken.flip hello
  rw [receivedIn_append, receivedIn_put, List.append_nil] at hanswer
  obtain ⟨event, hevent, heq⟩ := List.mem_filterMap.mp hanswer
  obtain rfl : event = .received answer := by
    cases event with
    | put | sent => cases heq
    | received x => rw [Option.some.inj heq]
  -- An answer has a command and an id, and this message has one frame.
  have two : 2 ≤ answer.2.length := by
    refine received_files (P := fun m => 2 ≤ m.length) ?_ ?_ ?_ _ _ answer hevent
    · exact fun _ => Nat.le_refl 2
    · exact fun _ => Nat.le_refl 2
    · intro reply id
      cases reply <;> simp [StepReply.frames]
  cases taken with
  | whole frames =>
    have one := frames.length_le
    rw [List.length_singleton] at one
    omega

/-- **What the runner accepts.** Let anything arrive at the runner's socket, from anybody
and at any time. If the run returns then all files could be read, and there are workers
that answer every request as they should against which the run sends the same requests,
prints the same text and returns the same value; and each message that it took starts with
the frames of the answer that it takes from these workers, or lacks only the result of a
step, for which `(null)` is printed. -/
theorem run_accepts {γ : Type} (G : GherkinC γ) (fuel : ℕ)
    (self self' : CucumberFeatureRunner) (identities : CursorList Frame) (verdict : Bool)
    (t : List (Event Output (Frame × Msg) (Frame × Msg)))
    (h : MayReturn (cucumberFeatureRunnerRun G fuel self identities) t (self', verdict)) :
    ∃ contents, List.Forall₂ (Reads G) self.featureFiles.items contents ∧
      ∃ (replies : List StepReply) (t' : List (Event Output (Frame × Msg) (Frame × Msg))),
        (cucumberFeatureRunnerRun G fuel self identities).exec scripted.respond replies [] =
          ⟨.returned (self', verdict), [], [], t'⟩ ∧
        sentIn t = sentIn t' ∧ putIn t = putIn t' ∧
        List.Forall₂ (fun x y => TakenFor y.2 x.2) (receivedIn t) (receivedIn t') := by
  obtain ⟨contents, logs, reads, hof, hresult, htrace⟩ := run_inv G h
  have passes : ∀ content ∈ contents, content.isStuck = false := by
    intro content hcontent
    obtain ⟨log, -, hlog⟩ := exists_left_of_mem hof.flip hcontent
    match content, log, hlog with
    | .parsed pickles, .parsed logs, _ => rfl
    | .invalid errors, .invalid, hnil => rw [FileContent.isStuck, show errors = [] from hnil]; rfl
  have hlogs := logEach_scripted hof []
  rw [List.append_nil] at hlogs
  obtain ⟨-, runs⟩ := runs_run G fuel self (conforms_respond scripted identities.items)
    (e := scriptOf logs) trivial reads passes
  rw [hlogs, ← hresult] at runs
  exact ⟨contents, reads, scriptOf logs, _, runs, htrace.sentIn_eq, htrace.putIn_eq,
    htrace.receivedIn_taken⟩

/-- Whatever the runner asks, somebody else answers: about a step without the result, and else
with one frame too many. -/
def strangers (_ : Unit) (m : Frame × Msg) : Unit × List (Frame × Msg) :=
  ((), (disagreeing.respond () m).2.map fun x =>
    ("stranger", if x.2.length = 3 then x.2.take 2 else x.2 ++ ["more"]))

/-- The runner takes the answers of the stranger for those of the worker `A`. -/
theorem run_accepts_strangers :
    ∃ contents, List.Forall₂ (Reads onePickle) oneFile.featureFiles.items contents ∧
      ∃ (replies : List StepReply) (t' : List (Event Output (Frame × Msg) (Frame × Msg))),
        (cucumberFeatureRunnerRun onePickle 0 oneFile ⟨["A"], 0⟩).exec scripted.respond replies
            [] = ⟨.returned (⟨.new, 1, 1⟩, true), [], [], t'⟩ ∧
        [("A", ["START SCENARIO", "n"]), ("A", ["RUN STEP", "n", "a"]),
          ("A", ["END SCENARIO", "n"])] = sentIn t' ∧
        .puts (successLine "a" "(null)") ∈ putIn t' := by
  let t := ((cucumberFeatureRunnerRun onePickle 0 oneFile ⟨["A"], 0⟩).exec strangers () []).trace
  have hexec : (cucumberFeatureRunnerRun onePickle 0 oneFile ⟨["A"], 0⟩).exec strangers () [] =
      ⟨.returned (⟨.new, 1, 1⟩, true), (), [], t⟩ := by decide
  obtain ⟨contents, reads, replies, t', h, hsent, hput, -⟩ :=
    run_accepts onePickle 0 oneFile ⟨.new, 1, 1⟩ ⟨["A"], 0⟩ true t (.of_exec hexec)
  exact ⟨contents, reads, replies, t', h, by rw [← hsent]; decide, by rw [← hput]; decide⟩

end CucumberC
