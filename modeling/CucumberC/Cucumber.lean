import CucumberC.Lib.Cursor

/-!
# Step definitions and scenarios

`cucumber_step_def.c` and `cucumber.c`. A step definition pairs an expression with a
callback; a `cucumber_t` is one scenario in progress: its step definitions, in a list
with a cursor, and the user's state object.

The user's code is a parameter throughout. It may have globals of its own, of type
`υ`, which every call of it may read and change; `σ` is the content of a state object.
Matching belongs to CZMQ's `zrex`: `zrexMatches` gives the captures of a text that an
expression matches.

## Main definitions

* `CucumberStepDef`, `cucumberStepDefMatches`, `cucumberStepDefRun`: definitions.
* `Cucumber`, `cucumberNew`, `cucumberFindStepDef`: scenarios.
* `cucumberFindStepDef_eq`: the lookup finds the first definition that matches.
-/

namespace CucumberC
open Interaction

/-! ## Step definitions -/

/-- A compiled expression, with the captures of the last text it matched. -/
structure Zrex where
  pattern : String
  captures : List String
  deriving DecidableEq, Repr

/-- What a callback can read of its own step definition. -/
structure StepView where
  rex : Zrex
  failedStr : Option String
  deriving DecidableEq, Repr

/-- What one invocation of a callback does: to the user's globals, to the content of the
state object, and through `cucumber_step_def_set_failure_reason`, call by call. -/
structure StepEffect (υ σ : Type) where
  globals : υ
  update : σ → σ
  reasons : List (Option String)

/-- A callback, of the globals, its definition and the state object, if there is one. -/
abbrev CucumberStep (υ σ : Type) := υ → StepView → Option σ → StepEffect υ σ

/-- A step definition. -/
structure CucumberStepDef (υ σ : Type) where
  rex : Zrex
  step : CucumberStep υ σ
  failedStr : Option String

/-- A state object. The constructor numbers what it returns, so that two objects of the
same content are still two. -/
structure StateObject (σ : Type) where
  serial : ℕ
  content : σ
  deriving DecidableEq, Repr

variable {υ σ : Type}

/-- What the callback of this definition can read of it. -/
def CucumberStepDef.view (self : CucumberStepDef υ σ) : StepView := ⟨self.rex, self.failedStr⟩

/-- `cucumber_step_def_new` -/
def cucumberStepDefNew (text : String) (step : CucumberStep υ σ) : CucumberStepDef υ σ :=
  { rex := ⟨text, []⟩, step := step, failedStr := none }

/-- `cucumber_step_def_set_failure_reason` -/
def cucumberStepDefSetFailureReason (self : CucumberStepDef υ σ) (reason : Option String) :
    CucumberStepDef υ σ :=
  { self with failedStr := reason }

/-- `cucumber_step_def_run`: call the callback with the definition and the state. The
result is the definition, the globals and the state object afterwards, and the reasons
the callback passed to `cucumber_step_def_set_failure_reason`. -/
def cucumberStepDefRun (self : CucumberStepDef υ σ) (globals : υ)
    (state : Option (StateObject σ)) :
    CucumberStepDef υ σ × υ × Option (StateObject σ) × List (Option String) :=
  let effect := self.step globals self.view (state.map StateObject.content)
  (effect.reasons.foldl cucumberStepDefSetFailureReason self, effect.globals,
    state.map fun object => { object with content := effect.update object.content },
    effect.reasons)

/-- `cucumber_step_def_failed` -/
def cucumberStepDefFailed (self : CucumberStepDef υ σ) : Bool := self.failedStr.isSome

/-- `cucumber_step_def_failure_reason` -/
def cucumberStepDefFailureReason (self : CucumberStepDef υ σ) : Option String := self.failedStr

/-- The calls of one invocation leave the argument of the last one. -/
theorem foldl_setFailureReason (reasons : List (Option String)) (self : CucumberStepDef υ σ) :
    reasons.foldl cucumberStepDefSetFailureReason self =
      { self with failedStr := reasons.getLast?.getD self.failedStr } := by
  induction reasons generalizing self with
  | nil => rfl
  | cons reason reasons ih =>
    rw [List.foldl_cons, ih, List.getLast?_cons]
    rfl

/-- Expressions that match themselves only. -/
def literalMatches (pattern text : String) : Option (List String) :=
  if pattern = text then some [text] else none

section Matching
variable (zrexMatches : String → String → Option (List String))

/-- `cucumber_step_def_matches`: a match replaces the captures of the definition. -/
def cucumberStepDefMatches (self : CucumberStepDef υ σ) (text : String) :
    Bool × CucumberStepDef υ σ :=
  match zrexMatches self.rex.pattern text with
  | some captures => (true, { self with rex := { self.rex with captures := captures } })
  | none => (false, self)

/-! ## Scenarios -/

/-- A scenario in progress. -/
structure Cucumber (υ σ : Type) where
  stepDefs : CursorList (CucumberStepDef υ σ)
  state : Option (StateObject σ)
  stateDestructor : Option (υ → Option σ → υ)

/-- `cucumber_new` -/
def cucumberNew (state : Option (StateObject σ)) (stateDestructor : Option (υ → Option σ → υ)) :
    Cucumber υ σ :=
  { stepDefs := .new, state := state, stateDestructor := stateDestructor }

/-- `cucumber_add_step_def` -/
def cucumberAddStepDef (self : Cucumber υ σ) (stepDef : CucumberStepDef υ σ) : Cucumber υ σ :=
  { self with stepDefs := self.stepDefs.append stepDef }

/-- The loop of `cucumber_find_step_def`. A definition that matches is changed in place,
and is found together with its position. -/
def cucumberFindStepDefLoop (text : String) :
    ℕ → Option (CucumberStepDef υ σ) → CursorList (CucumberStepDef υ σ) →
      Option (ℕ × CucumberStepDef υ σ) × CursorList (CucumberStepDef υ σ)
  | fuel + 1, some stepDef, list =>
      let (found, stepDef) := cucumberStepDefMatches zrexMatches stepDef text
      let list := { list with items := list.items.set (list.cursor - 1) stepDef }
      if found then (some (list.cursor - 1, stepDef), list)
      else cucumberFindStepDefLoop text fuel list.next.1 list.next.2
  | _, _, list => (none, list)

/-- `cucumber_find_step_def`, for a scenario that is not `NULL`. -/
def cucumberFindStepDef (self : Cucumber υ σ) (text : String) :
    Option (ℕ × CucumberStepDef υ σ) × Cucumber υ σ :=
  let (stepDef, list) := cucumberFindStepDefLoop zrexMatches text self.stepDefs.size
    self.stepDefs.first.1 self.stepDefs.first.2
  (stepDef, { self with stepDefs := list })

/-- Whether the expression of a definition matches a text. -/
def CucumberStepDef.isMatch (text : String) (self : CucumberStepDef υ σ) : Bool :=
  (zrexMatches self.rex.pattern text).isSome

/-- The definition with the captures of `text`. -/
def CucumberStepDef.recapture (text : String) (self : CucumberStepDef υ σ) :
    CucumberStepDef υ σ :=
  (cucumberStepDefMatches zrexMatches self text).2

@[simp] theorem pattern_recapture (text : String) (self : CucumberStepDef υ σ) :
    (self.recapture zrexMatches text).rex.pattern = self.rex.pattern := by
  unfold CucumberStepDef.recapture cucumberStepDefMatches
  split <;> rfl

@[simp] theorem failedStr_recapture (text : String) (self : CucumberStepDef υ σ) :
    (self.recapture zrexMatches text).failedStr = self.failedStr := by
  unfold CucumberStepDef.recapture cucumberStepDefMatches
  split <;> rfl

theorem cucumberFindStepDefLoop_eq (text : String) (seen rest : List (CucumberStepDef υ σ)) :
    cucumberFindStepDefLoop zrexMatches text rest.length
        (CursorList.next ⟨seen ++ rest, seen.length⟩).1
        (CursorList.next ⟨seen ++ rest, seen.length⟩).2 =
      match rest.findIdx? (CucumberStepDef.isMatch zrexMatches text) with
      | none => (none, ⟨seen ++ rest, 0⟩)
      | some i =>
        (rest[i]?.map fun d => (seen.length + i, d.recapture zrexMatches text),
          ⟨seen ++ rest.modify i (CucumberStepDef.recapture zrexMatches text),
            seen.length + i + 1⟩) := by
  induction rest generalizing seen with
  | nil =>
    rw [List.append_nil, CursorList.next_end]
    rfl
  | cons d rest ih =>
    have hset : ∀ d' : CucumberStepDef υ σ,
        (seen ++ d :: rest).set (seen.length + 1 - 1) d' = seen ++ d' :: rest := by
      intro d'
      simp
    rw [CursorList.next_append, List.length_cons, List.findIdx?_cons]
    cases hm : zrexMatches d.rex.pattern text with
    | some captures =>
      have hd : d.isMatch zrexMatches text = true := by simp [CucumberStepDef.isMatch, hm]
      simp only [cucumberFindStepDefLoop, cucumberStepDefMatches, hm, hd, hset, if_true]
      simp [CucumberStepDef.recapture, cucumberStepDefMatches, hm]
    | none =>
      have hd : d.isMatch zrexMatches text = false := by simp [CucumberStepDef.isMatch, hm]
      have hih := ih (seen ++ [d])
      simp only [List.append_assoc, List.singleton_append, List.length_append,
        List.length_singleton] at hih
      simp only [cucumberFindStepDefLoop, cucumberStepDefMatches, hm, hd, hset,
        Bool.false_eq_true, if_false, hih]
      cases rest.findIdx? (CucumberStepDef.isMatch zrexMatches text) with
      | none => rfl
      | some i =>
        have hi : seen.length + 1 + i = seen.length + (i + 1) := by omega
        simp [hi]

/-- **The lookup** finds the first definition whose expression matches, and gives it the
captures of the text. No other definition changes. -/
theorem cucumberFindStepDef_eq (self : Cucumber υ σ) (text : String) :
    cucumberFindStepDef zrexMatches self text =
      match self.stepDefs.items.findIdx? (CucumberStepDef.isMatch zrexMatches text) with
      | none => (none, { self with stepDefs := ⟨self.stepDefs.items, 0⟩ })
      | some i =>
        (self.stepDefs.items[i]?.map fun d => (i, d.recapture zrexMatches text),
          { self with stepDefs :=
              ⟨self.stepDefs.items.modify i (CucumberStepDef.recapture zrexMatches text),
                i + 1⟩ }) := by
  have h := cucumberFindStepDefLoop_eq zrexMatches text [] self.stepDefs.items
  simp only [List.nil_append, List.length_nil, Nat.zero_add] at h
  simp only [cucumberFindStepDef, CursorList.size, CursorList.first, h]
  cases self.stepDefs.items.findIdx? (CucumberStepDef.isMatch zrexMatches text) <;> rfl

end Matching
end CucumberC
