import CucumberC.Asserts
import CucumberC.FeatureRunner
import CucumberC.Lib.Snprintf

/-!
# The formatting buffer

Every line of a report and every failure reason is made by `__to_string`, which asks
`vsnprintf` for the length of the output, allocates a block of one byte more and has the
output printed into it. The length is an `int`, the size of the block a `size_t`. For an
output the block has just the right size; the value that tells an error is taken for a
length as well, and the size is then nothing at all or more than there can be.

## Main definitions

* `Heap`, `zmalloc`: the allocator.
* `toStringBuffer`: `__to_string` with its block.
* `BufferRight`, `bufferRight_iff`: when the block is right.
* `Prints`, `toStringBuffer_formatToString`: the block holds what `formatToString` gives.
-/

namespace CucumberC
open Printf

/-! ## The function -/

/-- The sizes of blocks that the allocator provides. No object is larger than a difference of
pointers can be, and a single byte is always left. -/
structure Heap where
  provides : ℕ → Bool
  lt_of_provides : ∀ {size}, provides size = true → size < 2 ^ 63
  provides_one : provides 1 = true

/-- `zmalloc`: a block of zeros. Without the memory for it the program aborts. -/
def zmalloc (heap : Heap) (size : BitVec 64) : Option (List UInt8) :=
  if heap.provides size.toNat then some (List.replicate size.toNat 0) else none

section Function
variable {α : Type} (heap : Heap) (libc : String → α → Formatted) (format : String) (args : α)

/-- `size_t needed = vsnprintf (0, 0, format, argptr);` -/
def needed : BitVec 64 := ((libc format args).vsnprintf [] 0).1.signExtend 64

/-- `__to_string`: the block returned. `libc` tells what formats and arguments come to, and
does so twice. -/
def toStringBuffer : Option (List UInt8) := do
  let buffer ← zmalloc heap (needed libc format args + 1)
  let (_, buffer) := (libc format args).vsnprintf buffer (needed libc format args + 1)
  pure buffer

/-- The buffer is right: `needed + 1` does not wrap, the block has room for the complete
output and its NUL, and if there is memory for these then a block is returned that holds
them. -/
structure BufferRight : Prop where
  noWrap : (needed libc format args).toNat + 1 < 2 ^ 64
  room : (libc format args).output.length + 1 ≤ (needed libc format args + 1).toNat
  holds : heap.provides ((libc format args).output.length + 1) = true →
    ∃ block, toStringBuffer heap libc format args = some block ∧
      HoldsString block (libc format args).output

variable {heap libc format args}

/-- The block has the size that was asked for: nothing is written outside of it. -/
theorem length_toStringBuffer {block : List UInt8}
    (h : toStringBuffer heap libc format args = some block) :
    block.length = (needed libc format args + 1).toNat := by
  simp only [toStringBuffer, zmalloc, Option.bind_eq_bind] at h
  split at h
  · obtain rfl := Option.some.inj h
    rw [Formatted.vsnprintf, length_store _ (by rw [List.length_replicate]),
      List.length_replicate]
  · cases h

/-! ### Outputs -/

section Printed
variable (h : 0 ≤ (libc format args).result.toInt)
include h

theorem toNat_needed : (needed libc format args).toNat = (libc format args).output.length := by
  have hsize := toNat_signExtend_of_nonneg h
  rw [← (Formatted.printed_of_nonneg h).1] at hsize
  exact_mod_cast hsize

/-- One byte more is no wrap. -/
theorem toNat_needed_add_one :
    (needed libc format args + 1).toNat = (libc format args).output.length + 1 := by
  have hlength := (Formatted.printed_of_nonneg h).1
  have hbound := BitVec.toInt_lt (x := (libc format args).result)
  rw [BitVec.toNat_add, toNat_needed h]
  show (_ + 1) % 2 ^ 64 = _
  omega

/-- **A complete output** is returned with its NUL, and with nothing else. -/
theorem toStringBuffer_printed
    (provided : heap.provides ((libc format args).output.length + 1) = true) :
    toStringBuffer heap libc format args = some ((libc format args).output ++ [0]) := by
  have hstored := (Formatted.printed_of_nonneg h).2
  have hsize := toNat_needed_add_one h
  have hwhole : store (libc format args).output ((libc format args).output.length + 1)
      (List.replicate ((libc format args).output.length + 1) 0) =
        (libc format args).output ++ [0] := by
    rw [store_of_fits (Nat.lt_succ_self _)]
    simp
  simp only [toStringBuffer, zmalloc, hsize, provided, if_true, Formatted.vsnprintf, hstored,
    Option.bind_eq_bind, Option.bind_some, hwhole]
  rfl

end Printed

/-! ### Errors -/

/-- **An error** makes the function ask for no memory at all, and return a block without a
single byte, or else for more than there can be. -/
theorem toStringBuffer_failed (h : (libc format args).result.toInt < 0) {block : List UInt8}
    (returned : toStringBuffer heap libc format args = some block) :
    needed libc format args + 1 = 0 ∧ block = [] := by
  have hlength := length_toStringBuffer returned
  have hbound := BitVec.le_toInt (x := (libc format args).result)
  have hneeded : ((needed libc format args).toNat : ℤ) =
      2 ^ 64 + (libc format args).result.toInt := toNat_signExtend_of_neg h
  have hprovided : heap.provides (needed libc format args + 1).toNat = true := by
    by_contra hnone
    rw [toStringBuffer, zmalloc, if_neg hnone] at returned
    cases returned
  have hsmall := heap.lt_of_provides hprovided
  have hsize : (needed libc format args + 1).toNat =
      ((needed libc format args).toNat + 1) % 2 ^ 64 := BitVec.toNat_add _ _
  have hzero : (needed libc format args + 1).toNat = 0 := by omega
  refine ⟨BitVec.eq_of_toNat_eq hzero, List.length_eq_zero_iff.mp (hlength.trans hzero)⟩

end Function

/-! ## When the buffer is right -/

/-- **The buffer is right** exactly if there was no error: whatever the allocator provides
and whatever formats come to, `vsnprintf` returned a length. -/
theorem bufferRight_iff {α : Type} (heap : Heap) (libc : String → α → Formatted)
    (format : String) (args : α) :
    BufferRight heap libc format args ↔ 0 ≤ (libc format args).result.toInt := by
  constructor
  · intro right
    by_contra hneg
    rw [not_le] at hneg
    have hempty := Formatted.output_of_neg hneg
    obtain ⟨block, returned, -⟩ := right.holds (by rw [hempty]; exact heap.provides_one)
    have hroom := right.room
    rw [(toStringBuffer_failed hneg returned).1] at hroom
    simp at hroom
  · intro h
    have hneeded := toNat_needed h
    have hsize := toNat_needed_add_one h
    refine ⟨?_, hsize.ge, ?_⟩
    · have hlength := (Formatted.printed_of_nonneg h).1
      have hbound := BitVec.toInt_lt (x := (libc format args).result)
      omega
    · intro provided
      exact ⟨_, toStringBuffer_printed h provided, List.prefix_refl _⟩

/-! ## Texts -/

/-- The bytes of a text. -/
def bytes (text : String) : List UInt8 := text.toUTF8.data.toList

/-- The library prints what is defined, where the length of the output is an `int`. -/
def Prints (memory : Memory) (libc : String → List Word → Formatted) : Prop :=
  ∀ {format args text}, vsnprintf memory format args = some text →
    ∀ isInt : (bytes text).length < 2 ^ 31, libc format args = .printed (bytes text) isInt

section Texts
variable {heap : Heap} {memory : Memory} {libc : String → List Word → Formatted}

/-- **The block holds the text** that formatting gives, where memory and `int` allow. -/
theorem toStringBuffer_formatToString (prints : Prints memory libc) {format : String}
    {args : List Word} {text : String} (h : formatToString memory format args = some text)
    (isInt : (bytes text).length < 2 ^ 31)
    (provided : heap.provides ((bytes text).length + 1) = true) :
    toStringBuffer heap libc format args = some (bytes text ++ [0]) := by
  have hprinted := prints h isInt
  have hresult : 0 ≤ (libc format args).result.toInt := by
    rw [hprinted, Formatted.toInt_result isInt]
    exact Int.natCast_nonneg _
  have hreturned : toStringBuffer heap libc format args =
      some ((libc format args).output ++ [0]) :=
    toStringBuffer_printed hresult (by rw [hprinted]; exact provided)
  rw [hreturned, hprinted]
  rfl

/-- A text without a NUL is read back from the block. -/
theorem cString_formatToString (prints : Prints memory libc) {format : String}
    {args : List Word} {text : String} (h : formatToString memory format args = some text)
    (isInt : (bytes text).length < 2 ^ 31)
    (provided : heap.provides ((bytes text).length + 1) = true) (plain : 0 ∉ bytes text) :
    (toStringBuffer heap libc format args).bind cString = some (bytes text) := by
  have holds : HoldsString (bytes text ++ [0]) (bytes text) := List.prefix_refl _
  rw [toStringBuffer_formatToString prints h isInt provided, Option.bind_some]
  exact holds.cString_eq plain

/-! ### The lines of a report -/

variable {color pickleStep result default : Word} {stepText resultText : String}
variable (hstep : memory.stringAt pickleStep = some stepText)
variable (hdefault : memory.stringAt default = some DEFAULT)
include hstep hdefault

theorem formatToString_notFoundLine (hcolor : memory.stringAt color = some RED) :
    formatToString memory "%s  Step: %s (NOT FOUND)%s" [color, pickleStep, default] =
      some (notFoundLine stepText) := by
  apply vsnprintf_of_printFormat
  simp [printFormat_text, printFormat_s, hcolor, hstep, hdefault, notFoundLine]

variable (hresult : memory.stringAt result = some resultText)
include hresult

theorem formatToString_successLine (hcolor : memory.stringAt color = some GREEN) :
    formatToString memory "%s  Step: %s (%s)%s" [color, pickleStep, result, default] =
      some (successLine stepText resultText) := by
  apply vsnprintf_of_printFormat
  simp [printFormat_text, printFormat_s, hcolor, hstep, hresult, hdefault, successLine]

theorem formatToString_failureLine (hcolor : memory.stringAt color = some RED) :
    formatToString memory "%s  Step: %s (FAILURE)\n\t%s%s\n"
        [color, pickleStep, result, default] =
      some (failureLine stepText resultText) := by
  apply vsnprintf_of_printFormat
  simp [printFormat_text, printFormat_s, hcolor, hstep, hresult, hdefault, failureLine]

end Texts

/-! ## The rendering of `long` -/

/-- A library that returns an error for what is undefined. -/
def cautious (memory : Memory) (format : String) (args : List Word) : Formatted :=
  match vsnprintf memory format args with
  | some text =>
      if isInt : (bytes text).length < 2 ^ 31 then .printed (bytes text) isInt
      else .failed (-1) (by decide) []
  | none => .failed (-1) (by decide) []

/-- It prints what is defined. -/
theorem prints_cautious (memory : Memory) : Prints memory (cautious memory) := by
  intro format args text h isInt
  rw [cautious, h]
  exact dif_pos isInt

/-- An allocator with all the memory there can be. -/
def roomy : Heap where
  provides size := decide (size < 2 ^ 63)
  lt_of_provides := of_decide_eq_true
  provides_one := by decide

/-- The `long` of value `0`. -/
def zeroLong : CInt .long := ⟨0, by decide, by decide⟩

/-- `long_to_string` gets a block without a single byte, so there is no string to read. -/
theorem bufferRight_long :
    toStringBuffer roomy (cautious noStrings) (IntType.format .long) [zeroLong.pass 0] = some [] ∧
      cString [] = none ∧
      ¬ BufferRight roomy (cautious noStrings) (IntType.format .long) [zeroLong.pass 0] := by
  refine ⟨by decide, by decide, ?_⟩
  intro right
  exact absurd right.room (by decide)

end CucumberC
