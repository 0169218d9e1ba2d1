import CucumberC.Cucumber
import CucumberC.Lib.Printf

/-!
# Assertions in callbacks

`cucumber_asserts.h` and `cucumber_asserts.c`. `assert_that` is a macro: its arguments are
expressions, which may read and change the state of the test, and it names each of them
twice, once in the comparison and once in the rendering of a failure. The functions that
compare and render the values of a type are made by another macro, from the name of the
type and a format for `vsnprintf`.

## Main definitions

* `CExpr`, `assertThat`: the macro, and what it makes of its argument expressions.
* `IntType`, `CInt`, `typeToString`, `boolToString`: values and their renderings.
* `reportsCompared_iff`: when the macro reports what it compared.
* `trueValues_iff`: when a rendering shows the true value.
-/

namespace CucumberC
open Printf

/-! ## The macro -/

section Macro
variable {τ α υ σ : Type}

/-- An expression of C: from the state of the test, its state afterwards and the value. -/
abbrev CExpr (τ α : Type) := τ → τ × α

/-- An expression without effects. -/
def CExpr.const (v : α) : CExpr τ α := fun s => (s, v)

/-- The argument expressions of the macro. -/
inductive Argument
  | actual
  | expected
  deriving DecidableEq, Repr

/-- The state of the test, and which arguments have been evaluated so far. -/
structure Evaluation (τ : Type) where
  state : τ
  evaluated : List Argument
  deriving DecidableEq, Repr

/-- Evaluate one of the arguments. -/
def evaluate (which : Argument) (e : CExpr τ α) (m : Evaluation τ) : Evaluation τ × α :=
  (⟨(e m.state).1, m.evaluated ++ [which]⟩, (e m.state).2)

/-- Evaluate the arguments of a call, in the order that the compiler chooses. -/
def evaluateBoth (actualFirst : Bool) (actualValue expectedValue : CExpr τ α)
    (m : Evaluation τ) : Evaluation τ × α × α :=
  if actualFirst then
    let (m, actual) := evaluate .actual actualValue m
    let (m, expected) := evaluate .expected expectedValue m
    (m, actual, expected)
  else
    let (m, expected) := evaluate .expected expectedValue m
    let (m, actual) := evaluate .actual actualValue m
    (m, actual, expected)

/-- `__to_string`, which measures its output before it prints it. -/
def formatToString (memory : Memory) (format : String) (args : List Word) : Option String :=
  vsnprintf memory format args

/-- The failure reason for two renderings. -/
def expectedButGot (expectedStr actualStr : String) : String :=
  "Expected '" ++ expectedStr ++ "' but got '" ++ actualStr ++ "'"

/-- The reason is what `__to_string` makes of the pointers to the renderings. -/
theorem formatToString_expectedButGot (memory : Memory) {p q : Word}
    {expectedStr actualStr : String}
    (hp : memory.stringAt p = some expectedStr) (hq : memory.stringAt q = some actualStr) :
    formatToString memory "Expected '%s' but got '%s'" [p, q] =
      some (expectedButGot expectedStr actualStr) := by
  apply vsnprintf_of_printFormat
  simp [printFormat_text, printFormat_s, hp, hq, expectedButGot]

/-- `assert_that`: the machine and the step definition `self` afterwards, and whether the
callback returns. Each name of an argument is an evaluation of it. A rendering that is
undefined leaves nothing defined. -/
def assertThat (actualFirst : Bool) (actualValue : CExpr τ α) (compareFn : α → α → Bool)
    (expectedValue : CExpr τ α) (toStringFn : α → Option String) (self : CucumberStepDef υ σ)
    (m : Evaluation τ) : Option (Evaluation τ × CucumberStepDef υ σ × Bool) :=
  let (m, actual, expected) := evaluateBoth actualFirst actualValue expectedValue m
  if !compareFn actual expected then do
    let (m, actual) := evaluate .actual actualValue m
    let actualStr ← toStringFn actual
    let (m, expected) := evaluate .expected expectedValue m
    let expectedStr ← toStringFn expected
    pure (m, cucumberStepDefSetFailureReason self (some (expectedButGot expectedStr actualStr)),
      true)
  else pure (m, self, false)

/-- Evaluating both arguments evaluates each of them once. -/
theorem evaluated_evaluateBoth (actualFirst : Bool) (actualValue expectedValue : CExpr τ α)
    (s : τ) : (evaluateBoth actualFirst actualValue expectedValue ⟨s, []⟩).1.evaluated.Perm
      [.actual, .expected] := by
  cases actualFirst with
  | true => exact .refl _
  | false => exact .swap _ _ _

/-- Where the comparison fails, both arguments are evaluated again, and the reason is made
of the values they have then. -/
theorem assertThat_failed {actualFirst : Bool} {actualValue expectedValue : CExpr τ α}
    {compareFn : α → α → Bool} {m once again last : Evaluation τ} {actual expected : α}
    {actual' expected' : α} {toStringFn : α → Option String} {actualStr expectedStr : String}
    (both : evaluateBoth actualFirst actualValue expectedValue m = (once, actual, expected))
    (failed : compareFn actual expected = false)
    (hactual : evaluate .actual actualValue once = (again, actual'))
    (hexpected : evaluate .expected expectedValue again = (last, expected'))
    (hactualStr : toStringFn actual' = some actualStr)
    (hexpectedStr : toStringFn expected' = some expectedStr) (self : CucumberStepDef υ σ) :
    assertThat actualFirst actualValue compareFn expectedValue toStringFn self m =
      some (last, cucumberStepDefSetFailureReason self
        (some (expectedButGot expectedStr actualStr)), true) := by
  simp [assertThat, both, failed, hactual, hexpected, hactualStr, hexpectedStr]

/-- The macro reports what it compared: it comes to the evaluation of each argument once
and, if the comparison of these values fails, to a failure reason made of the renderings
of these values. -/
def ReportsCompared (actualFirst : Bool) (actualValue : CExpr τ α) (compareFn : α → α → Bool)
    (expectedValue : CExpr τ α) (toStringFn : α → String) (self : CucumberStepDef υ σ) (s : τ) :
    Prop :=
  let (once, actual, expected) := evaluateBoth actualFirst actualValue expectedValue ⟨s, []⟩
  assertThat actualFirst actualValue compareFn expectedValue (fun v => some (toStringFn v)) self
      ⟨s, []⟩ =
    some (once,
      if compareFn actual expected then (self, false)
      else (cucumberStepDefSetFailureReason self
        (some (expectedButGot (toStringFn expected) (toStringFn actual))), true))

/-- **`assert_that` reports what it compared** exactly if there is nothing to report: the
comparison holds of the values that the two arguments have when each is evaluated once. -/
theorem reportsCompared_iff (actualFirst : Bool) (actualValue : CExpr τ α)
    (compareFn : α → α → Bool) (expectedValue : CExpr τ α) (toStringFn : α → String)
    (self : CucumberStepDef υ σ) (s : τ) :
    let (once, actual, expected) := evaluateBoth actualFirst actualValue expectedValue ⟨s, []⟩
    once.evaluated.Perm [.actual, .expected] ∧
      (ReportsCompared actualFirst actualValue compareFn expectedValue toStringFn self s ↔
        compareFn actual expected = true) := by
  have honce := evaluated_evaluateBoth actualFirst actualValue expectedValue s
  generalize hboth : evaluateBoth actualFirst actualValue expectedValue ⟨s, []⟩ = both at honce
  obtain ⟨once, actual, expected⟩ := both
  refine ⟨honce, ?_⟩
  simp only [ReportsCompared, hboth]
  cases hcompare : compareFn actual expected with
  | true =>
    refine iff_of_true ?_ rfl
    simp [assertThat, hboth, hcompare]
  | false =>
    refine iff_of_false ?_ (by simp)
    intro hreports
    rw [assertThat_failed hboth hcompare rfl rfl rfl rfl] at hreports
    have hagain := congrArg (fun r => r.1.evaluated.length) (Option.some.inj hreports)
    simp at hagain

end Macro

/-- An expression that counts its evaluations. -/
def increment : CExpr ℕ ℕ := fun n => (n + 1, n + 1)

/-- A definition whose callback does nothing. -/
def idleStepDef : CucumberStepDef Unit Unit :=
  cucumberStepDefNew "a" fun _ _ _ => { globals := (), update := id, reasons := [] }

/-- The counter is compared at `1`, is reported to be `2`, and is `2` afterwards. -/
theorem reportsCompared_increment :
    (assertThat true increment (fun a b => a == b) (.const 5) (fun v => some (toString v))
        idleStepDef ⟨0, []⟩).map (fun r => (r.1.state, r.2.1.failedStr)) =
      some (2, some "Expected '5' but got '2'") ∧
    ¬ ReportsCompared true increment (fun a b => a == b) (.const 5) toString idleStepDef 0 := by
  refine ⟨by decide, ?_⟩
  intro hreports
  have hstate := congrArg (Option.map fun r => r.1.state) hreports
  exact absurd hstate (by decide)

/-! ## Values and their renderings -/

/-- The integer types that are compared and rendered. -/
inductive IntType
  | short
  | int
  | long
  | sizeT
  | int8T
  | int16T
  | int32T
  | int64T
  | uint8T
  | uint16T
  | uint32T
  | uint64T
  deriving DecidableEq, Repr

namespace IntType

/-- The size in bits, where `long` and pointers have 64. -/
def width : IntType → ℕ
  | int8T | uint8T => 8
  | short | int16T | uint16T => 16
  | int | int32T | uint32T => 32
  | long | sizeT | int64T | uint64T => 64

def isSigned : IntType → Bool
  | short | int | long | int8T | int16T | int32T | int64T => true
  | sizeT | uint8T | uint16T | uint32T | uint64T => false

/-- The least value. -/
def least (T : IntType) : ℤ := if T.isSigned then -2 ^ (T.width - 1) else 0

/-- The first value that is too large. -/
def bound (T : IntType) : ℤ := if T.isSigned then 2 ^ (T.width - 1) else 2 ^ T.width

/-- The formats of `__compare_implementation`. -/
def format : IntType → String
  | short | int => "%i"
  | long => "%l"
  | sizeT => "%zu"
  | int8T | int16T | int32T | int64T => "%zu"
  | uint8T | uint16T | uint32T | uint64T => "%zu"

end IntType

/-- A value of an integer type. -/
structure CInt (T : IntType) where
  val : ℤ
  least_le : T.least ≤ val
  lt_bound : val < T.bound

/-- How a value is passed to a function with variable arguments: a small type is promoted
to `int`, which leaves the upper half of the word as it was. -/
def CInt.pass {T : IntType} (upper : BitVec 32) (v : CInt T) : Word :=
  if T.width ≤ 32 then half upper v.val else word v.val

section Renderings
variable (memory : Memory) (upper : BitVec 32) {T : IntType}

/-- `__to_string_implementation` -/
def typeToString (v : CInt T) : Option String := formatToString memory T.format [v.pass upper]

/-- `__equals_implementation` -/
def typeEquals (actual expected : CInt T) : Bool := decide (actual.val = expected.val)

/-- `__to_string_implementation (bool, "%s")` -/
def boolToString (b : Bool) : Option String :=
  formatToString memory "%s" [half upper (if b then 1 else 0)]

/-- `assert_that_T (actual, T_equals, expected)`, for arguments without effects. -/
def assertThatType (actualFirst : Bool) (actual expected : CInt T) {υ σ : Type}
    (self : CucumberStepDef υ σ) : Option (Evaluation Unit × CucumberStepDef υ σ × Bool) :=
  assertThat actualFirst (.const actual) typeEquals (.const expected) (typeToString memory upper)
    self ⟨(), []⟩

/-- The values that are rendered as the numbers they are. -/
def IntType.Shows (upper : BitVec 32) (v : ℤ) : IntType → Prop
  | short | int | sizeT | uint64T => True
  | long => False
  | int64T => 0 ≤ v
  | int8T | int16T | int32T => 0 ≤ v ∧ upper = 0
  | uint8T | uint16T | uint32T => upper = 0

/-- A rendering is the numeral of the value exactly for the values that are shown. -/
theorem typeToString_iff (v : CInt T) :
    typeToString memory upper v = some (toString v.val) ↔ T.Shows upper v.val := by
  have hleast := v.least_le
  have hbound := v.lt_bound
  have hlong : parse "%l".toList = none := by decide
  cases T <;> simp [IntType.least, IntType.bound, IntType.isSigned, IntType.width] at hleast hbound
  case short | int =>
    exact iff_true_intro (vsnprintf_i_half memory upper (by omega) (by omega))
  case long =>
    have hnone : typeToString memory upper v = none := vsnprintf_invalid memory hlong _
    simp [hnone, IntType.Shows]
  case sizeT | uint64T =>
    exact iff_true_intro ((vsnprintf_zu_word_iff memory (by omega) (by omega)).mpr (by omega))
  case int64T => exact vsnprintf_zu_word_iff memory (by omega) (by omega)
  case int8T | int16T | int32T =>
    exact vsnprintf_zu_half_iff memory upper (by omega) (by omega)
  case uint8T | uint16T | uint32T =>
    exact (vsnprintf_zu_half_iff memory upper (by omega) (by omega)).trans
      (and_iff_right (by omega))

/-- The reason of a failed `assert_that_T` with `T_equals` shows two different strings, each
of them the numeral of the value compared. -/
def ReasonShows (actualFirst : Bool) (actual expected : CInt T) {υ σ : Type}
    (self : CucumberStepDef υ σ) : Prop :=
  ∃ m actualStr expectedStr,
    assertThatType memory upper actualFirst actual expected self =
        some (m, cucumberStepDefSetFailureReason self (some (expectedButGot expectedStr actualStr)),
          true) ∧
      typeToString memory upper actual = some actualStr ∧
      typeToString memory upper expected = some expectedStr ∧ actualStr ≠ expectedStr ∧
      actualStr = toString actual.val ∧ expectedStr = toString expected.val

/-- The reason shows two values that differ exactly if both are shown. -/
theorem reasonShows_iff (actualFirst : Bool) {actual expected : CInt T}
    (differ : actual.val ≠ expected.val) {υ σ : Type} (self : CucumberStepDef υ σ) :
    ReasonShows memory upper actualFirst actual expected self ↔
      T.Shows upper actual.val ∧ T.Shows upper expected.val := by
  rw [← typeToString_iff memory, ← typeToString_iff memory]
  constructor
  · rintro ⟨m, _, _, -, hactual, hexpected, -, rfl, rfl⟩
    exact ⟨hactual, hexpected⟩
  · rintro ⟨hactual, hexpected⟩
    have hfailed : typeEquals actual expected = false := decide_eq_false differ
    have hboth : evaluateBoth actualFirst (.const actual) (.const expected) ⟨(), []⟩ =
        (⟨(), if actualFirst then [.actual, .expected] else [.expected, .actual]⟩, actual,
          expected) := by
      cases actualFirst <;> rfl
    exact ⟨_, _, _, assertThat_failed hboth hfailed rfl rfl hactual hexpected self, hactual,
      hexpected, fun h => differ (numeral_inj.mp h), rfl, rfl⟩

/-- Both values of `bool` are rendered, and differently. -/
def BoolShown : Prop :=
  ∃ falseStr trueStr, boolToString memory upper false = some falseStr ∧
    boolToString memory upper true = some trueStr ∧ falseStr ≠ trueStr

/-- A `bool` is rendered as the string at an address made of its value. Where the upper half
of the word is clear, `false` is the null pointer. -/
theorem boolShown_iff :
    (BoolShown memory upper ↔ ∃ falseStr trueStr,
      memory.stringAt (half upper 0) = some falseStr ∧
        memory.stringAt (half upper 1) = some trueStr ∧ falseStr ≠ trueStr) ∧
    (upper = 0 → ¬ BoolShown memory upper) := by
  have haddress : ∀ b : Bool, boolToString memory upper b =
      memory.stringAt (half upper (if b then 1 else 0)) := fun b => vsnprintf_s memory _
  refine ⟨?_, ?_⟩
  · simp [BoolShown, haddress]
  · rintro rfl ⟨falseStr, trueStr, hfalse, -⟩
    have hzero : half 0 0 = 0 := by decide
    have hnull : boolToString memory 0 false = none :=
      (haddress false).trans ((congrArg memory.stringAt hzero).trans memory.null)
    rw [hnull] at hfalse
    cases hfalse

end Renderings

/-- **Renderings of true values.** For every memory and every upper half that a word may
have: a value of an integer type is rendered as its numeral exactly if its type and the
value are those that are shown; of two unequal values the reason of a failed assertion shows
both exactly if both are; and the values of `bool` are rendered as two different strings
exactly if these are where the values, taken for addresses, point to, which is never so where
the upper half is clear. -/
theorem trueValues_iff (memory : Memory) (upper : BitVec 32) :
    (∀ (T : IntType) (v : CInt T),
      typeToString memory upper v = some (toString v.val) ↔ T.Shows upper v.val) ∧
    (∀ (T : IntType) (actualFirst : Bool) (actual expected : CInt T) (υ σ : Type)
        (self : CucumberStepDef υ σ), actual.val ≠ expected.val →
        (ReasonShows memory upper actualFirst actual expected self ↔
          T.Shows upper actual.val ∧ T.Shows upper expected.val)) ∧
    (BoolShown memory upper ↔ ∃ falseStr trueStr,
      memory.stringAt (half upper 0) = some falseStr ∧
        memory.stringAt (half upper 1) = some trueStr ∧ falseStr ≠ trueStr) ∧
    (upper = 0 → ¬ BoolShown memory upper) := by
  refine ⟨fun T v => typeToString_iff memory upper v, ?_, boolShown_iff memory upper⟩
  intro T actualFirst actual expected υ σ self differ
  exact reasonShows_iff memory upper actualFirst differ self

/-- A memory without strings. -/
def noStrings : Memory := ⟨fun _ => none, rfl⟩

/-- The `int8_t` of value `-5`. -/
def minusFive : CInt .int8T := ⟨-5, by decide, by decide⟩

/-- `-5` is rendered as a large number, even where the upper half of its word is clear. -/
theorem trueValues_minusFive :
    typeToString noStrings 0 minusFive = some "4294967291" ∧
      typeToString noStrings 0 minusFive ≠ some (toString minusFive.val) ∧
      ¬ BoolShown noStrings 0 := by
  have hrendered : typeToString noStrings 0 minusFive = some "4294967291" := by decide
  refine ⟨hrendered, ?_, ?_⟩
  · rw [hrendered]
    decide
  · rintro ⟨falseStr, trueStr, hfalse, -⟩
    exact absurd hfalse (by simp [boolToString, formatToString, vsnprintf_s, noStrings])

/-- Two values of type `int` that differ. -/
def one : CInt .int := ⟨1, by decide, by decide⟩
def minusTwo : CInt .int := ⟨-2, by decide, by decide⟩

/-- The reason shows both of them, the negative one with its sign. -/
theorem trueValues_int :
    ReasonShows noStrings 0 true minusTwo one idleStepDef ∧
      typeToString noStrings 0 minusTwo = some "-2" :=
  ⟨((trueValues_iff noStrings 0).2.1 .int true minusTwo one Unit Unit idleStepDef
    (by decide)).mpr ⟨trivial, trivial⟩, ((trueValues_iff noStrings 0).1 .int minusTwo).mpr trivial⟩

end CucumberC
