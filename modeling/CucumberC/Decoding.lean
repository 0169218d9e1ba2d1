import CucumberC.Pickle

/-!
# Decoding pickles

What `pickle_new` makes of its input. A well-formed pickle event is decoded without loss:
its name and its step texts come back in order, as often as they are enumerated
(`pickle_decoding`). Anything else that is not empty is read through a missing item or a
missing string (`pickleNew_crash`), so the decoder rejects nothing but the empty string.

## Main definitions

* `IsPickle`: the inputs that are pickle events.
* `StepCall`, `stepCalls`: the two calls that enumerate steps, in any order.
* `RejectsBadInput`, `rejectsBadInput_iff`: where the decoder is safe.
-/

namespace CucumberC
open Interaction

variable (cJSONParse : String → Option CJson)

/-! ## Enumerating -/

/-- One of the two calls that enumerate the steps of a pickle. -/
inductive StepCall
  | first
  | next
  deriving DecidableEq, Repr

/-- `pickle_first_step` or `pickle_next_step` -/
def StepCall.run : StepCall → CucPickle → Option String × CucPickle
  | first => pickleFirstStep
  | next => pickleNextStep

/-- Several calls one after another: the pickle afterwards. -/
def stepCalls (calls : List StepCall) (self : CucPickle) : CucPickle :=
  calls.foldl (fun self call => (call.run self).2) self

/-- The answers to `pickle_first_step` and then `k` times `pickle_next_step`. -/
def firstAndNext (k : ℕ) (self : CucPickle) : List (Option String) :=
  answers pickleNextStep k (pickleFirstStep self).1 (pickleFirstStep self).2

theorem name_stepCall (call : StepCall) (self : CucPickle) :
    (call.run self).2.name = self.name := by
  cases call <;> rfl

theorem texts_stepCall (call : StepCall) (self : CucPickle) :
    (call.run self).2.texts = self.texts := by
  cases call <;> simp [StepCall.run, pickleFirstStep, pickleNextStep, CucPickle.texts]

/-- Enumerating the steps changes neither the name nor the texts. -/
theorem stepCalls_frame (calls : List StepCall) (self : CucPickle) :
    (stepCalls calls self).name = self.name ∧ (stepCalls calls self).texts = self.texts := by
  induction calls generalizing self with
  | nil => exact ⟨rfl, rfl⟩
  | cons call calls ih =>
    obtain ⟨hname, htexts⟩ := ih (call.run self).2
    exact ⟨hname.trans (name_stepCall call self), htexts.trans (texts_stepCall call self)⟩

/-- **Decoding loses nothing.** If the input parses to the JSON of a pickle, whatever
further keys it has, then the decoder returns a pickle of that name, and after any calls
`pickle_first_step` followed by `pickle_next_step` enumerates the texts, each once and in
order, and then nothing. -/
theorem pickle_decoding {json : String} {tree : CJson} {id name : String} {texts : List String}
    (malformed : cJSONParse "" = none) (parses : cJSONParse json = some tree)
    (h : IsPickleJson tree id name texts) :
    ∃ pickle, pickleNew cJSONParse json = .ok (some pickle) ∧ ∀ history : List StepCall,
      pickleName (stepCalls history pickle) = name ∧
        ∀ k ≤ texts.length,
          firstAndNext k (stepCalls history pickle) = (texts.map some ++ [none]).take (k + 1) := by
  have nonempty : json.isEmpty = false := by
    rw [← Bool.not_eq_true, String.isEmpty_iff]
    rintro rfl
    rw [malformed] at parses
    cases parses
  refine ⟨_, pickleNew_eq nonempty parses h, ?_⟩
  intro history
  obtain ⟨hname, htexts⟩ := stepCalls_frame history ⟨id, name, ⟨texts.map CucPickleStep.mk, 0⟩⟩
  refine ⟨hname, ?_⟩
  intro k hk
  have htexts' : (stepCalls history ⟨id, name, ⟨texts.map CucPickleStep.mk, 0⟩⟩).texts = texts := by
    rw [htexts]
    simp [CucPickle.texts, Function.comp_def]
  have enum := enumerates_pickleFirstStep
    (stepCalls history ⟨id, name, ⟨texts.map CucPickleStep.mk, 0⟩⟩)
  rw [htexts'] at enum
  exact enum.answers_eq hk

/-- The JSON of a pickle event with two steps of the same text, and a key of its own. -/
def twoSteps : CJson :=
  .object [("pickle", .object [("id", .string "1"), ("name", .string "n"), ("tags", .array []),
    ("steps", .array [.object [("text", .string "a")], .object [("text", .string "a")]])])]

/-- A parser that knows one tree. -/
def parsesTo (tree : CJson) (json : String) : Option CJson :=
  if json = "" then none else some tree

/-- Repeated texts are enumerated twice, also after an interrupted enumeration. -/
theorem pickle_decoding_twoSteps :
    ∃ pickle, pickleNew (parsesTo twoSteps) "event" = .ok (some pickle) ∧
      firstAndNext 2 (stepCalls [.first, .next, .first] pickle) =
        [some "a", some "a", none] := by
  have h : IsPickleJson twoSteps "1" "n" ["a", "a"] := ⟨rfl, rfl, rfl⟩
  have parses : parsesTo twoSteps "event" = some twoSteps := rfl
  obtain ⟨pickle, hdecoded, hhistory⟩ := pickle_decoding (parsesTo twoSteps) rfl parses h
  exact ⟨pickle, hdecoded, (hhistory [.first, .next, .first]).2 2 (Nat.le_refl 2)⟩

/-! ## Rejecting -/

/-- The input is a pickle event: it parses, the id and the name are strings, and so are the
texts of all its steps. -/
def IsPickle (json : String) : Prop :=
  ∃ tree id name texts, cJSONParse json = some tree ∧ IsPickleJson tree id name texts

/-- Copying the value of an item that is no string reads through a null pointer. -/
theorem copy_or_crash (item : Option CJson) :
    (∃ s, item = some (.string s)) ∨ (valuestring item >>= strdup) = .error .nullPointer := by
  cases item with
  | none => exact .inr rfl
  | some item =>
    cases item with
    | string s => exact .inl ⟨s, rfl⟩
    | null | bool | number | array | object => exact .inr rfl

/-- So does a step without a text, wherever it is in the list. -/
theorem steps_or_crash (steps : List CJson) (list : CursorList CucPickleStep) :
    (∃ texts : List String, steps.map (fun step => cJSONGetObjectItem (some step) "text") =
        texts.map fun t => some (.string t)) ∨
      pickleNewSteps steps list = .error .nullPointer := by
  induction steps generalizing list with
  | nil => exact .inl ⟨[], rfl⟩
  | cons step steps ih =>
    rcases copy_or_crash (cJSONGetObjectItem (some step) "text") with ⟨text, htext⟩ | hcrash
    · have hcons : pickleNewSteps (step :: steps) list =
          pickleNewSteps steps (list.append ⟨text⟩) := by
        simp only [pickleNewSteps, List.foldlM_cons, htext]
        rfl
      rcases ih (list.append ⟨text⟩) with ⟨texts, htexts⟩ | hcrash
      · exact .inl ⟨text :: texts, by rw [List.map_cons, htext, htexts, List.map_cons]⟩
      · exact .inr (hcons.trans hcrash)
    · refine .inr ?_
      have hcons : pickleNewSteps (step :: steps) list =
          (valuestring (cJSONGetObjectItem (some step) "text") >>= strdup) >>= fun text =>
            pickleNewSteps steps (list.append ⟨text⟩) := by
        simp only [pickleNewSteps, List.foldlM_cons, bind_assoc]
        rfl
      rw [hcons, hcrash]
      rfl

/-- **Any other input crashes the decoder**, unless it is empty. -/
theorem pickleNew_crash {json : String} (nonempty : json.isEmpty = false)
    (bad : ¬ IsPickle cJSONParse json) :
    pickleNew cJSONParse json = .error .nullPointer := by
  let item := pickleItem cJSONParse json
  have hnew : pickleNew cJSONParse json =
      (valuestring (item "id") >>= strdup) >>= fun id =>
        (valuestring (item "name") >>= strdup) >>= fun name =>
          pickleNewSteps (cJSONChildren (item "steps")) .new >>= fun steps =>
            pure (some ⟨id, name, steps⟩) := by
    simp only [pickleNew, nonempty, bind_assoc]
    rfl
  rw [hnew]
  rcases copy_or_crash (item "id") with ⟨id, hid⟩ | hcrash
  · rcases copy_or_crash (item "name") with ⟨name, hname⟩ | hcrash
    · rcases steps_or_crash (cJSONChildren (item "steps")) .new with ⟨texts, htexts⟩ | hcrash
      · refine absurd ?_ bad
        cases hparse : cJSONParse json with
        | none => simp [item, pickleItem, cJSONGetObjectItem, hparse] at hid
        | some tree =>
          simp only [item, pickleItem, hparse] at hid hname htexts
          exact ⟨tree, id, name, texts, hparse, hid, hname, htexts⟩
      · rw [hid, hname, hcrash]
        rfl
    · rw [hid, hcrash]
      rfl
  · rw [hcrash]
    rfl

/-- For an input that is not empty the decoder returns: `NULL` if the input is no pickle
event, and else a pickle with the id, the name and the step texts of the event. -/
def RejectsBadInput (json : String) : Prop :=
  json.isEmpty = false → ∃ result, pickleNew cJSONParse json = .ok result ∧
    (¬ IsPickle cJSONParse json → result = none) ∧
    (IsPickle cJSONParse json → ∃ pickle tree, result = some pickle ∧
      cJSONParse json = some tree ∧ IsPickleJson tree pickle.id pickle.name pickle.texts)

/-- **The decoder is safe** exactly on the inputs that have nothing to be rejected for:
the empty string, and pickle events. -/
theorem rejectsBadInput_iff (json : String) :
    RejectsBadInput cJSONParse json ↔ json.isEmpty = true ∨ IsPickle cJSONParse json := by
  constructor
  · intro rejects
    by_contra hneither
    obtain ⟨hnonempty, hbad⟩ := not_or.mp hneither
    have nonempty : json.isEmpty = false := by simpa using hnonempty
    obtain ⟨result, hok, -⟩ := rejects nonempty
    rw [pickleNew_crash cJSONParse nonempty hbad] at hok
    cases hok
  · rintro (hempty | hpickle) nonempty
    · rw [hempty] at nonempty
      cases nonempty
    · obtain ⟨tree, id, name, texts, parses, h⟩ := hpickle
      refine ⟨_, pickleNew_eq nonempty parses h, ?_, ?_⟩
      · intro hbad
        exact absurd ⟨tree, id, name, texts, parses, h⟩ hbad
      · intro _
        refine ⟨_, tree, rfl, parses, ?_⟩
        simpa [CucPickle.texts, Function.comp_def] using h

/-- A text that is not JSON. -/
theorem rejectsBadInput_malformed : ¬ RejectsBadInput (fun _ => none) "\x7b" := by
  intro rejects
  obtain ⟨result, hok, -⟩ := rejects (by decide)
  have hcrash : pickleNew (fun _ => none) "\x7b" = .error .nullPointer := by rfl
  rw [hcrash] at hok
  cases hok

end CucumberC
