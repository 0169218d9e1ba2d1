import Mathlib.Algebra.Ring.Int.Defs
import Mathlib.Algebra.Ring.Nat
import Mathlib.Data.List.Infix

/-!
# Formatted output into a buffer

`vsnprintf` stores as much of its output as a block of memory has room for, with a NUL
behind it, and returns an `int`: the length of the whole output, or a negative value if
there was an error. What a format and its arguments come to is a `Formatted`; it cannot be
built with a length that is no `int`, or with an error that is not negative.

The length is of use as the size of a block. It becomes a `size_t` first, and then an error
is a number close to the largest (`toNat_signExtend_of_neg`).

## Main definitions

* `Formatted`, `Formatted.vsnprintf`: formatting, and the call.
* `store`: what a block holds after the call.
* `HoldsString`, `cString`: strings in a block.
-/

namespace Printf

/-! ## Blocks of memory -/

/-- The block after `text` was stored in its first `size` bytes: as much of it as fits in
front of a NUL. -/
def store (text : List UInt8) : ℕ → List UInt8 → List UInt8
  | 0, block => block
  | size + 1, block => text.take size ++ 0 :: block.drop ((text.take size).length + 1)

/-- Nothing is stored outside of a block that has the size told. -/
theorem length_store (text : List UInt8) {size : ℕ} {block : List UInt8}
    (h : size ≤ block.length) : (store text size block).length = block.length := by
  cases size with
  | zero => rfl
  | succ size =>
    simp only [store, List.length_append, List.length_take, List.length_cons, List.length_drop]
    omega

/-- A text that fits with its NUL is stored as a whole. -/
theorem store_of_fits {text : List UInt8} {size : ℕ} (fits : text.length < size)
    (block : List UInt8) :
    store text size block = text ++ 0 :: block.drop (text.length + 1) := by
  cases size with
  | zero => omega
  | succ size =>
    have hwhole : text.take size = text := List.take_of_length_le (by omega)
    rw [store, hwhole]

/-- The block begins with this string, and the NUL behind it. -/
def HoldsString (block text : List UInt8) : Prop := text ++ [0] <+: block

/-- The string at the beginning of a block, where reading stays in the block. -/
def cString (block : List UInt8) : Option (List UInt8) :=
  if 0 ∈ block then some (block.takeWhile fun byte => decide (byte ≠ 0)) else none

/-- A string without a NUL in it is read back. -/
theorem HoldsString.cString_eq {block text : List UInt8} (h : HoldsString block text)
    (plain : 0 ∉ text) : cString block = some text := by
  obtain ⟨rest, rfl⟩ := h
  have hclear : ∀ byte ∈ text, decide (byte ≠ 0) = true := by
    intro byte hbyte
    refine decide_eq_true ?_
    rintro rfl
    exact plain hbyte
  have hread : (text ++ [0] ++ rest).takeWhile (fun byte => decide (byte ≠ 0)) = text := by
    rw [List.append_assoc, List.takeWhile_append_of_pos hclear]
    simp
  rw [cString, if_pos (by simp), hread]

/-! ## Formatting -/

/-- What a format and its arguments come to: the output, of a length that is an `int`; or an
error, the value that tells it and the output in front of it. -/
inductive Formatted
  | printed (output : List UInt8) (isInt : output.length < 2 ^ 31)
  | failed (code : BitVec 32) (negative : code.toInt < 0) (front : List UInt8)

namespace Formatted

/-- The value returned. -/
def result : Formatted → BitVec 32
  | printed output _ => BitVec.ofNat 32 output.length
  | failed code _ _ => code

/-- The bytes stored, where there is room. -/
def stored : Formatted → List UInt8
  | printed output _ => output
  | failed _ _ front => front

/-- The complete output, which is empty if there was an error. -/
def output : Formatted → List UInt8
  | printed output _ => output
  | failed _ _ _ => []

/-- `vsnprintf (block, size, ...)`: the value returned, and the block afterwards. -/
def vsnprintf (f : Formatted) (block : List UInt8) (size : BitVec 64) :
    BitVec 32 × List UInt8 :=
  (f.result, store f.stored size.toNat block)

/-- The value returned for an output is its length. -/
theorem toInt_result {output : List UInt8} (isInt : output.length < 2 ^ 31) :
    (printed output isInt).result.toInt = output.length := by
  rw [result, BitVec.toInt_ofNat']
  exact Int.bmod_eq_of_le_mul_two (by omega) (by omega)

/-- A value that is not negative is the length of the output, and the output is stored. -/
theorem printed_of_nonneg {f : Formatted} (h : 0 ≤ f.result.toInt) :
    (f.output.length : ℤ) = f.result.toInt ∧ f.stored = f.output := by
  cases f with
  | printed output isInt => exact ⟨(toInt_result isInt).symm, rfl⟩
  | failed code negative front => exact absurd negative (Int.not_lt.mpr h)

/-- With a negative value there is no output. -/
theorem output_of_neg {f : Formatted} (h : f.result.toInt < 0) : f.output = [] := by
  cases f with
  | printed output isInt =>
    rw [toInt_result isInt] at h
    omega
  | failed code negative front => rfl

end Formatted

/-! ## An `int` as a `size_t` -/

/-- A length stays what it is. -/
theorem toNat_signExtend_of_nonneg {n : BitVec 32} (h : 0 ≤ n.toInt) :
    ((n.signExtend 64).toNat : ℤ) = n.toInt := by
  have hbound := BitVec.toInt_lt (x := n)
  rw [BitVec.signExtend, BitVec.toNat_ofInt]
  omega

/-- An error is close to the largest number. -/
theorem toNat_signExtend_of_neg {n : BitVec 32} (h : n.toInt < 0) :
    ((n.signExtend 64).toNat : ℤ) = 2 ^ 64 + n.toInt := by
  have hbound := BitVec.le_toInt (x := n)
  rw [BitVec.signExtend, BitVec.toNat_ofInt]
  omega

end Printf
