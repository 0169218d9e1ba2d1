import CucumberC.Lib.Cursor

/-!
# Pickles

`cuc_pickle.c`: a pickle is one scenario, decoded from the JSON of a pickle event.
cJSON is not part of the repository. Its tree and the three accessors the decoder
uses follow the documented behaviour, and parsing itself is a parameter.

## Main definitions

* `CJson`: what `cJSON_Parse` returns.
* `CucPickle`, `pickleNew`: a pickle and its decoder, which faults where the C code
  reads through a missing item or copies a missing string.
* `pickleId`, `pickleName`, `pickleFirstStep`, `pickleNextStep`: the accessors.
-/

namespace CucumberC
open Interaction

/-! ## cJSON -/

/-- A JSON tree. -/
inductive CJson
  | null
  | bool (b : Bool)
  | number (text : String)
  | string (valuestring : String)
  | array (items : List CJson)
  | object (members : List (String × CJson))

/-- `cJSON_GetObjectItemCaseSensitive`: the first member of that name, or `NULL`. -/
def cJSONGetObjectItem (object : Option CJson) (name : String) : Option CJson :=
  match object with
  | some (.object members) => (members.find? fun member => member.1 = name).map Prod.snd
  | _ => none

/-- The items `cJSON_ArrayForEach` visits: the children of an array or an object. -/
def cJSONChildren (array : Option CJson) : List CJson :=
  match array with
  | some (.array items) => items
  | some (.object members) => members.map Prod.snd
  | _ => []

/-- `item->valuestring`: `NULL` unless the item is a string. -/
def valuestring (item : Option CJson) : Except Fault (Option String) :=
  match item with
  | none => throw .nullPointer
  | some (.string s) => pure (some s)
  | some _ => pure none

/-- `strdup` reads its argument. -/
def strdup (s : Option String) : Except Fault String :=
  match s with
  | none => throw .nullPointer
  | some s => pure s

/-! ## Pickles -/

/-- One step of a pickle. -/
structure CucPickleStep where
  text : String
  deriving DecidableEq, Repr

/-- A decoded pickle. -/
structure CucPickle where
  id : String
  name : String
  steps : CursorList CucPickleStep
  deriving DecidableEq, Repr

/-- The loop over the elements of `"steps"`. -/
def pickleNewSteps (steps : List CJson) (list : CursorList CucPickleStep) :
    Except Fault (CursorList CucPickleStep) :=
  steps.foldlM (fun list step => do
    let text ← strdup (← valuestring (cJSONGetObjectItem (some step) "text"))
    pure (list.append ⟨text⟩)) list

/-- `pickle_new`: decode a pickle event. The empty string gives `NULL`. -/
def pickleNew (cJSONParse : String → Option CJson) (json : String) :
    Except Fault (Option CucPickle) :=
  if json.isEmpty then pure none else do
    let pickle := cJSONGetObjectItem (cJSONParse json) "pickle"
    let id ← strdup (← valuestring (cJSONGetObjectItem pickle "id"))
    let name ← strdup (← valuestring (cJSONGetObjectItem pickle "name"))
    let steps ← pickleNewSteps (cJSONChildren (cJSONGetObjectItem pickle "steps")) .new
    pure (some ⟨id, name, steps⟩)

/-- `pickle_id` -/
def pickleId (self : CucPickle) : String := self.name

/-- `pickle_name` -/
def pickleName (self : CucPickle) : String := self.name

/-- `pickle_first_step` -/
def pickleFirstStep (self : CucPickle) : Option String × CucPickle :=
  let (step, steps) := self.steps.first
  (step.map CucPickleStep.text, { self with steps := steps })

/-- `pickle_next_step` -/
def pickleNextStep (self : CucPickle) : Option String × CucPickle :=
  let (step, steps) := self.steps.next
  (step.map CucPickleStep.text, { self with steps := steps })

/-- The texts of the steps, in order. -/
def CucPickle.texts (self : CucPickle) : List String := self.steps.items.map CucPickleStep.text

/-! ## Walking the steps -/

/-- The cursor of the pickle enumerates the texts of what its list enumerates. -/
theorem enumerates_pickleNextStep {self : CucPickle} {x : Option CucPickleStep}
    {l l' : CursorList CucPickleStep} {xs : List CucPickleStep}
    (enum : Enumerates CursorList.next x l xs l') :
    Enumerates pickleNextStep (x.map CucPickleStep.text) { self with steps := l }
      (xs.map CucPickleStep.text) { self with steps := l' } := by
  induction enum with
  | nil l => exact .nil _
  | cons _ ih => exact .cons ih

/-- `pickle_first_step` and then `pickle_next_step` enumerate the steps, whatever was
enumerated before. -/
theorem enumerates_pickleFirstStep (self : CucPickle) :
    Enumerates pickleNextStep (pickleFirstStep self).1 (pickleFirstStep self).2 self.texts
      { self with steps := { self.steps with cursor := 0 } } :=
  enumerates_pickleNextStep self.steps.enumerates_first

/-! ## Decoding -/

/-- The JSON of a pickle `id` called `name` with the step texts `texts`. Further keys
are allowed everywhere. -/
structure IsPickleJson (tree : CJson) (id name : String) (texts : List String) : Prop where
  id_eq : cJSONGetObjectItem (cJSONGetObjectItem (some tree) "pickle") "id" = some (.string id)
  name_eq :
    cJSONGetObjectItem (cJSONGetObjectItem (some tree) "pickle") "name" = some (.string name)
  steps_eq :
    (cJSONChildren (cJSONGetObjectItem (cJSONGetObjectItem (some tree) "pickle") "steps")).map
      (fun step => cJSONGetObjectItem (some step) "text") = texts.map fun t => some (.string t)

theorem pickleNewSteps_eq (steps : List CJson) (texts : List String)
    (list : CursorList CucPickleStep) (start : list.cursor = 0)
    (h : steps.map (fun step => cJSONGetObjectItem (some step) "text") =
      texts.map fun t => some (.string t)) :
    pickleNewSteps steps list = .ok ⟨list.items ++ texts.map CucPickleStep.mk, 0⟩ := by
  induction steps generalizing texts list with
  | nil =>
    obtain rfl : texts = [] := by simpa using h.symm
    obtain ⟨items, cursor⟩ := list
    obtain rfl : cursor = 0 := start
    simp [pickleNewSteps, pure, Except.pure]
  | cons step steps ih =>
    cases texts with
    | nil => simp at h
    | cons text texts =>
      simp only [List.map_cons, List.cons.injEq] at h
      have hrest := ih texts (list.append ⟨text⟩) rfl h.2
      simp only [pickleNewSteps] at hrest ⊢
      rw [List.foldlM_cons, h.1]
      simpa [valuestring, strdup, bind, Except.bind, pure, Except.pure] using hrest

/-- A well-formed pickle event decodes to the pickle it describes. -/
theorem pickleNew_eq {cJSONParse : String → Option CJson} {json : String} {tree : CJson}
    {id name : String} {texts : List String} (nonempty : json.isEmpty = false)
    (parses : cJSONParse json = some tree) (h : IsPickleJson tree id name texts) :
    pickleNew cJSONParse json = .ok (some ⟨id, name, ⟨texts.map CucPickleStep.mk, 0⟩⟩) := by
  have hsteps := pickleNewSteps_eq _ texts .new rfl h.steps_eq
  simp only [pickleNew, nonempty, parses, h.id_eq, h.name_eq, hsteps]
  rfl

/-- What a pickle event says about an item of its pickle. -/
def pickleItem (cJSONParse : String → Option CJson) (json item : String) : Option CJson :=
  cJSONGetObjectItem (cJSONGetObjectItem (cJSONParse json) "pickle") item

/-- A sequence of computations that may fail succeeds if both parts do. -/
theorem exists_of_bind_eq_ok {α β : Type} {x : Except Fault α} {f : α → Except Fault β} {b : β}
    (h : (x >>= f) = .ok b) : ∃ a, x = .ok a ∧ f a = .ok b := by
  cases x with
  | error why => cases h
  | ok a => exact ⟨a, rfl, h⟩

/-- Only a string has a value that can be copied. -/
theorem eq_string_of_strdup {item : Option CJson} {value : Option String} {s : String}
    (hvalue : valuestring item = .ok value) (hcopy : strdup value = .ok s) :
    item = some (.string s) := by
  cases value with
  | none => cases hcopy
  | some value =>
    obtain rfl : value = s := Except.ok.inj hcopy
    cases item with
    | none => cases hvalue
    | some item =>
      cases item with
      | string text =>
        obtain rfl : text = value := Option.some.inj (Except.ok.inj hvalue)
        rfl
      | null | bool | number | array | object => cases hvalue

/-- A decoded pickle has the id and the name of its JSON object. -/
theorem pickleItem_of_pickleNew {cJSONParse : String → Option CJson} {json : String}
    {pickle : CucPickle} (h : pickleNew cJSONParse json = .ok (some pickle)) :
    pickleItem cJSONParse json "id" = some (.string pickle.id) ∧
      pickleItem cJSONParse json "name" = some (.string pickle.name) := by
  unfold pickleNew at h
  split at h
  · cases h
  · obtain ⟨idValue, hidValue, h⟩ := exists_of_bind_eq_ok h
    obtain ⟨id, hid, h⟩ := exists_of_bind_eq_ok h
    obtain ⟨nameValue, hnameValue, h⟩ := exists_of_bind_eq_ok h
    obtain ⟨name, hname, h⟩ := exists_of_bind_eq_ok h
    obtain ⟨steps, -, h⟩ := exists_of_bind_eq_ok h
    obtain rfl := Option.some.inj (Except.ok.inj h)
    exact ⟨eq_string_of_strdup hidValue hid, eq_string_of_strdup hnameValue hname⟩

end CucumberC
