import CucumberC.Run
import CucumberC.Handler

/-!
# Which scenario a reply is about

Every request carries an id, the actor repeats it in its reply, and the runner checks it.
The id keeps scenarios apart as far as it differs between them; and the id that the
accessor `pickle_id` gives is the name of the pickle.

## Main definitions

* `Rejected`: a reply that fails the runner's assertions.
* `handle_echo`: the actor repeats the id of the request.
* `Separated`, `separated_iff`: two scenarios are kept apart exactly if their names differ.
* `correlation_iff`: when all scenarios of a run are.
-/

namespace CucumberC
open Interaction

/-- While the runner processes `pickle`, none of its receives accepts this reply: whatever
it has just sent, and whoever sends the reply. -/
def Rejected (pickle : CucPickle) (reply : Msg) : Prop :=
  ∀ identity sender : Frame,
    (∀ command expected, ((askScenario command expected (pickleId pickle) () identity).exec
      (fun (_ : Unit) _ => ((), [(sender, reply)])) () []).result = .faulted .assertion) ∧
    ∀ text r, ((askStep (pickleId pickle) text r identity).exec
      (fun (_ : Unit) _ => ((), [(sender, reply)])) () []).result = .faulted .assertion

/-- A reply about another scenario is rejected. -/
theorem rejected_of_ne {pickle : CucPickle} {command id : Frame} (rest : Msg)
    (h : id ≠ pickleId pickle) : Rejected pickle (command :: id :: rest) := by
  intro identity sender
  refine ⟨fun command' expected => ?_, fun text r => ?_⟩
  · by_cases hc : command = expected <;>
      simp [askScenario, zsockRecvFss, zmsgPopstr, assertStreq, hc, h]
  · simp [askStep, zsockRecvFsss, zmsgPopstr, assertStreq, h]

section Actor
variable {υ σ : Type} (zrexMatches : String → String → Option (List String))
  (args : CucumberStepsArgs υ σ)

/-- **The actor repeats the id** of the request in its reply. -/
theorem handle_echo {self next : CucumberSteps υ σ} {r : Request} {calls : List (Call σ)}
    {reply : Msg} (h : self.handle zrexMatches args r = some (next, calls, reply)) :
    ∃ command rest, reply = command :: r.scenarioId :: rest := by
  cases r with
  | startScenario id =>
    simp only [CucumberSteps.handle, Option.some.injEq, Prod.mk.injEq] at h
    obtain ⟨-, -, rfl⟩ := h
    exact ⟨_, _, rfl⟩
  | endScenario id =>
    simp only [CucumberSteps.handle, Option.some.injEq, Prod.mk.injEq] at h
    obtain ⟨-, -, rfl⟩ := h
    exact ⟨_, _, rfl⟩
  | runStep id text =>
    simp only [CucumberSteps.handle, Option.map_eq_some_iff, Prod.mk.injEq] at h
    obtain ⟨cucumber, -, -, -, rfl⟩ := h
    generalize (runStepDef zrexMatches self cucumber text).2.2 = stepReply
    cases stepReply <;> exact ⟨_, _, rfl⟩

/-- Two scenarios of a run are kept apart: no request for one carries the id of a request
for the other, and what an actor replies to a request for `p` is rejected during `q`. -/
def Separated (ids : List Frame) (p q : PickleLog) : Prop :=
  (∀ m ∈ sentIn (p.trace ids), ∀ m' ∈ sentIn (q.trace ids), ∀ r r' : Request,
    m.2 = r.frames → m'.2 = r'.frames → r.scenarioId ≠ r'.scenarioId) ∧
  ∀ m ∈ sentIn (p.trace ids), ∀ r : Request, m.2 = r.frames →
    ∀ (self next : CucumberSteps υ σ) (calls : List (Call σ)) (reply : Msg),
      self.handle zrexMatches args r = some (next, calls, reply) → Rejected q.pickle reply

/-- Without workers there is nothing to keep apart. -/
theorem separated_nil {p : PickleLog} (h : p.Complete []) (q : PickleLog) :
    Separated zrexMatches args [] p q := by
  have hsteps : ∀ step ∈ p.steps, step.replies = [] := by
    intro step hstep
    simpa using h.replies step hstep
  have hnone : sentIn (p.trace []) = [] := by
    rw [sentIn_pickleTrace, PickleLog.requests]
    simp only [List.map_nil, List.nil_append, List.append_nil, List.map_eq_nil_iff,
      List.flatMap_eq_nil_iff]
    intro step hstep
    exact hsteps step hstep
  refine ⟨fun m hm => ?_, fun m hm => ?_⟩
  · simp [hnone] at hm
  · simp [hnone] at hm

/-- **Two scenarios** are kept apart if and only if their names differ, or nobody is
asked. -/
theorem separated_iff {ids : List Frame} {p q : PickleLog} (hp : p.Complete ids)
    (hq : q.Complete ids) :
    Separated zrexMatches args ids p q ↔ ids = [] ∨ p.pickle.name ≠ q.pickle.name := by
  constructor
  · rintro ⟨apart, -⟩
    by_contra hboth
    push Not at hboth
    obtain ⟨hids, hnames⟩ := hboth
    obtain ⟨i, hi⟩ := List.exists_mem_of_ne_nil ids hids
    -- The same worker gets the same `START SCENARIO` for both.
    have hstart : ∀ log : PickleLog, (i, (Request.startScenario (pickleId log.pickle)).frames) ∈
        sentIn (log.trace ids) := by
      intro log
      rw [sentIn_pickleTrace]
      refine List.mem_map.mpr ⟨(i, .startScenario (pickleId log.pickle)), ?_, rfl⟩
      simp [PickleLog.requests, hi]
    exact apart _ (hstart p) _ (hstart q) (.startScenario (pickleId p.pickle))
      (.startScenario (pickleId q.pickle)) rfl rfl hnames
  · rintro (rfl | hnames)
    · exact separated_nil zrexMatches args hp q
    · have hid : ∀ log : PickleLog, log.Complete ids → ∀ m ∈ sentIn (log.trace ids),
          ∀ r : Request, m.2 = r.frames → r.scenarioId = log.pickle.name := by
        intro log hlog m hm r hr
        rw [sentIn_pickleTrace] at hm
        obtain ⟨request, hrequest, rfl⟩ := List.mem_map.mp hm
        rw [← Request.frames_injective hr]
        exact hlog.scenarioId_request hrequest
      refine ⟨fun m hm m' hm' r r' hr hr' => ?_, fun m hm r hr self next calls reply hh => ?_⟩
      · rw [hid p hp m hm r hr, hid q hq m' hm' r' hr']
        exact hnames
      · obtain ⟨command, rest, rfl⟩ := handle_echo zrexMatches args hh
        rw [hid p hp m hm r hr]
        exact rejected_of_ne rest hnames

/-- Any two of the scenarios whose JSON objects have different ids are kept apart. -/
def Correlated (ids : List Frame) (scenarios : List PickleLog) : Prop :=
  ∀ p ∈ scenarios, ∀ q ∈ scenarios, p.pickle.id ≠ q.pickle.id →
    Separated zrexMatches args ids p q

/-- **Correlation.** In any run against any workers, any two scenarios whose JSON objects
have different ids are kept apart if and only if nobody is asked or all such scenarios
have different names. -/
theorem correlation_iff {ε γ : Type} (G : GherkinC γ) (fuel : ℕ) (self : CucumberFeatureRunner)
    (identities : CursorList Frame) (w : Workers ε) (e : ε) {contents : List FileContent}
    (reads : List.Forall₂ (Reads G) self.featureFiles.items contents) :
    let logged := logEach (w.runFile identities.items) e (reached contents)
    let scenarios := logged.2.flatMap FileLog.pickles
    (∃ (result : Result (CucumberFeatureRunner × Bool)) (printed : List Output),
      (cucumberFeatureRunnerRun G fuel self identities).exec w.respond e [] =
        ⟨result, logged.1, [],
          logged.2.flatMap (FileLog.trace identities.items) ++ printed.map .put⟩) ∧
    (∀ p ∈ scenarios, ∃ json,
      pickleItem G.cJSONParse json "id" = some (.string p.pickle.id) ∧
        pickleNew G.cJSONParse json = .ok (some p.pickle)) ∧
    (Correlated zrexMatches args identities.items scenarios ↔
      identities.items = [] ∨ ∀ p ∈ scenarios, ∀ q ∈ scenarios, p.pickle.id ≠ q.pickle.id →
        p.pickle.name ≠ q.pickle.name) := by
  intro logged scenarios
  refine ⟨exec_run G fuel self (conforms_respond w identities.items) trivial reads, ?_, ?_⟩
  · intro p hp
    obtain ⟨-, pickles, hcontent, hpickle⟩ := w.mem_scenarios identities.items hp
    have hmem : FileContent.parsed pickles ∈ contents := (List.takeWhile_sublist _).subset hcontent
    obtain ⟨file, -, tree, events, -, -, decodes⟩ := exists_left_of_mem reads hmem
    obtain ⟨json, -, decode⟩ := exists_left_of_mem decodes hpickle
    exact ⟨json, (pickleItem_of_pickleNew decode).1, decode⟩
  · have hcomplete : ∀ p ∈ scenarios, p.Complete identities.items := fun p hp =>
      (w.mem_scenarios identities.items hp).1
    have hiff : ∀ p ∈ scenarios, ∀ q ∈ scenarios,
        (Separated zrexMatches args identities.items p q ↔
          identities.items = [] ∨ p.pickle.name ≠ q.pickle.name) := fun p hp q hq =>
      separated_iff zrexMatches args (hcomplete p hp) (hcomplete q hq)
    by_cases hids : identities.items = []
    · refine iff_of_true (fun p hp q hq _ => ?_) (.inl hids)
      exact (hiff p hp q hq).mpr (.inl hids)
    · constructor
      · intro apart
        exact .inr fun p hp q hq hne =>
          ((hiff p hp q hq).mp (apart p hp q hq hne)).resolve_left hids
      · rintro (h | hnames) p hp q hq hne
        · exact absurd h hids
        · exact (hiff p hp q hq).mpr (.inr (hnames p hp q hq hne))

end Actor

/-! ## Two rows of one outline -/

/-- A compiler that makes two pickles of every file, with ids of their own. `name` gives
the name that goes with an id. -/
def twoRows (name : String → String) : GherkinC Unit where
  parserParse _ := .ok ()
  attachmentEventToString _ error := error.text
  compilerCompile _ := some ["1", "2"]
  cJSONParse json := some (.object [("pickle", .object [("id", .string json),
    ("name", .string (name json)), ("steps", .array [])])])

/-- The content of a file as `twoRows` reads it. -/
def twoRowsContent (name : String → String) : FileContent :=
  .parsed [⟨"1", name "1", ⟨[], 0⟩⟩, ⟨"2", name "2", ⟨[], 0⟩⟩]

theorem reads_twoRows (name : String → String) (featureFile : String) :
    Reads (twoRows name) featureFile (twoRowsContent name) :=
  ⟨(), ["1", "2"], rfl, rfl, .cons rfl (.cons rfl .nil)⟩

/-- Workers that succeed at everything. -/
def obliging : Workers Unit where
  start _ _ _ := ()
  run _ _ _ _ := ((), .succeeded "OK")
  stop _ _ _ := ()

/-- The scenarios of a run of the two rows at one worker. -/
def twoRowsRun (name : String → String) : List PickleLog :=
  (logEach (obliging.runFile ["A"]) () (reached [twoRowsContent name])).2.flatMap FileLog.pickles

/-- Rows that share a name are not kept apart: `START SCENARIO` is the same for both. -/
theorem correlation_rows :
    ¬ Correlated literalMatches plainArgs ["A"] (twoRowsRun fun _ => "n") := by
  intro apart
  obtain ⟨differ, -⟩ := apart ⟨⟨"1", "n", ⟨[], 0⟩⟩, []⟩ (.head _) ⟨⟨"2", "n", ⟨[], 0⟩⟩, []⟩
    (.tail _ (.head _)) (by decide)
  exact differ ("A", ["START SCENARIO", "n"]) (by decide) ("A", ["START SCENARIO", "n"])
    (by decide) (.startScenario "n") (.startScenario "n") rfl rfl rfl

/-- Rows that are called by their ids are kept apart. -/
theorem correlation_named :
    Correlated literalMatches plainArgs ["A"] (twoRowsRun fun id => id) := by
  have hname : ∀ p ∈ twoRowsRun (fun id => id), p.pickle.name = p.pickle.id := by
    intro p hp
    rcases List.mem_cons.mp hp with rfl | hp
    · rfl
    · obtain rfl := List.mem_singleton.mp hp
      rfl
  refine (correlation_iff literalMatches plainArgs (twoRows fun id => id) 0
    (cucumberFeatureRunnerNew ⟨fun _ => false, fun _ => []⟩ "f") ⟨["A"], 0⟩ obliging ()
    (.cons (reads_twoRows (fun id => id) "f") .nil)).2.2.mpr (.inr ?_)
  intro p hp q hq hne
  rw [hname p hp, hname q hq]
  exact hne

end CucumberC
