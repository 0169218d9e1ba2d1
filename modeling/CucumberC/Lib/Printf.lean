import Mathlib

/-!
# Formatted output of untyped arguments

A function with variable arguments finds each of them in a word of 64 bits, and nothing
tells it their types. `printf` and its relatives trust the format: a conversion reads as
much of its word as the type it is meant for has, and takes the rest for granted. An `int`
fills the lower half of its word only, so a conversion for a wider type reads an upper half
that nobody has written.

Where the behaviour is undefined (a conversion that does not exist, an argument that is
missing, a string at an address that holds none) there is no output.

## Main definitions

* `Word`, `half`, `word`: arguments, as a caller passes them.
* `Memory`: the strings a conversion may point to.
* `Conversion`, `parse`, `vsnprintf`: formats and what they print.
-/

namespace Printf

/-- An argument. -/
abbrev Word := BitVec 64

/-- An argument of type `int` or `unsigned int`, in a word whose upper half is left as it
was. -/
def half (upper : BitVec 32) (v : ℤ) : Word := upper ++ BitVec.ofInt 32 v

/-- An argument that fills its word. -/
def word (v : ℤ) : Word := BitVec.ofInt 64 v

/-- The strings in memory, by address. None is at the null pointer. -/
structure Memory where
  stringAt : Word → Option String
  null : stringAt 0 = none

/-- A conversion. -/
inductive Conversion
  | s
  | i
  | zu
  deriving DecidableEq, Repr

/-- What a conversion prints of its word: the string at this address, the lower half as an
`int`, or all of it as a `size_t`. -/
def Conversion.print (memory : Memory) : Conversion → Word → Option String
  | s, w => memory.stringAt w
  | i, w => some (toString (w.setWidth 32).toInt)
  | zu, w => some (toString w.toNat)

/-- A character that stands for itself, or a conversion. -/
inductive Piece
  | text (c : Char)
  | conversion (c : Conversion)
  deriving DecidableEq, Repr

/-- The pieces of a format, unless a `%` begins no conversion. -/
def parse : List Char → Option (List Piece)
  | [] => some []
  | '%' :: 's' :: rest => (parse rest).map (.conversion .s :: ·)
  | '%' :: 'i' :: rest => (parse rest).map (.conversion .i :: ·)
  | '%' :: 'z' :: 'u' :: rest => (parse rest).map (.conversion .zu :: ·)
  | '%' :: _ => none
  | c :: rest => (parse rest).map (.text c :: ·)

/-- What the pieces print, each conversion of the next argument. -/
def printPieces (memory : Memory) : List Piece → List Word → Option (List Char)
  | [], _ => some []
  | .text c :: pieces, args => (printPieces memory pieces args).map (c :: ·)
  | .conversion _ :: _, [] => none
  | .conversion c :: pieces, arg :: args => do
      let printed ← c.print memory arg
      let rest ← printPieces memory pieces args
      pure (printed.toList ++ rest)

/-- `vsnprintf`, into a buffer that is large enough. -/
def vsnprintf (memory : Memory) (format : String) (args : List Word) : Option String := do
  let pieces ← parse format.toList
  let printed ← printPieces memory pieces args
  pure (String.ofList printed)

/-! ## Running through a format -/

section Run
variable (memory : Memory) (cs : List Char) (args : List Word)

/-- What the characters of a format print. -/
def printFormat : Option (List Char) := (parse cs).bind (printPieces memory · args)

/-- The output is the text whose characters are printed. -/
theorem vsnprintf_of_printFormat {format text : String}
    (h : printFormat memory format.toList args = some text.toList) :
    vsnprintf memory format args = some text := by
  obtain ⟨pieces, hparse, hprint⟩ := Option.bind_eq_some_iff.mp h
  simp [vsnprintf, hparse, hprint]

@[simp] theorem printFormat_nil : printFormat memory [] args = some [] := rfl

/-- A character stands for itself. -/
theorem printFormat_text {c : Char} (plain : c ≠ '%') :
    printFormat memory (c :: cs) args = (printFormat memory cs args).map (c :: ·) := by
  have hparse : parse (c :: cs) = (parse cs).map (.text c :: ·) := by
    rw [parse]
    all_goals simp [plain]
  rw [printFormat, hparse, printFormat]
  cases parse cs <;> rfl

/-- A pointer stands for the string it points to. -/
theorem printFormat_s {arg : Word} {string : String} (points : memory.stringAt arg = some string) :
    printFormat memory ('%' :: 's' :: cs) (arg :: args) =
      (printFormat memory cs args).map (string.toList ++ ·) := by
  have hparse : parse ('%' :: 's' :: cs) = (parse cs).map (.conversion .s :: ·) := rfl
  rw [printFormat, hparse, printFormat]
  cases parse cs with
  | none => rfl
  | some pieces =>
    simp only [Option.map_some, Option.bind_some, printPieces, Conversion.print, points]
    cases printPieces memory pieces args <;> rfl

end Run

section Single
variable (memory : Memory) (w : Word)

/-- One conversion prints one argument. -/
theorem vsnprintf_conversion {format : String} {c : Conversion}
    (h : parse format.toList = some [.conversion c]) :
    vsnprintf memory format [w] = c.print memory w := by
  cases hc : c.print memory w <;> simp [vsnprintf, h, printPieces, hc]

theorem vsnprintf_s : vsnprintf memory "%s" [w] = memory.stringAt w :=
  vsnprintf_conversion memory w (by decide : parse "%s".toList = some [.conversion .s])

theorem vsnprintf_i : vsnprintf memory "%i" [w] = some (toString (w.setWidth 32).toInt) :=
  vsnprintf_conversion memory w (by decide : parse "%i".toList = some [.conversion .i])

theorem vsnprintf_zu : vsnprintf memory "%zu" [w] = some (toString w.toNat) :=
  vsnprintf_conversion memory w (by decide : parse "%zu".toList = some [.conversion .zu])

/-- A format that is no format prints nothing. -/
theorem vsnprintf_invalid {format : String} (h : parse format.toList = none) (args : List Word) :
    vsnprintf memory format args = none := by
  simp [vsnprintf, h]

end Single

/-! ## Numerals -/

/-- Different numbers have different numerals. -/
theorem numeral_inj {a b : ℤ} : toString a = toString b ↔ a = b := Int.repr_inj

/-- A natural number has the numeral of the integer it is. -/
theorem numeral_natCast (n : ℕ) : toString n = toString (n : ℤ) := rfl

/-- The lower half of a word holds an `int`. -/
theorem toInt_half (upper : BitVec 32) {v : ℤ} (lower : -2 ^ 31 ≤ v) (high : v < 2 ^ 31) :
    ((half upper v).setWidth 32).toInt = v := by
  have hlow : (half upper v).setWidth 32 = BitVec.ofInt 32 v := by
    rw [half, BitVec.setWidth_append_eq_right]
  rw [hlow, BitVec.toInt_ofInt]
  exact Int.bmod_eq_of_le_mul_two (by push_cast; omega) (by push_cast; omega)

/-- Read as a `size_t`, a word holds the number whose lower half was passed exactly if that
is not negative and the upper half is clear. -/
theorem toNat_half_iff (upper : BitVec 32) {v : ℤ} (lower : -2 ^ 31 ≤ v) (high : v < 2 ^ 32) :
    ((half upper v).toNat : ℤ) = v ↔ 0 ≤ v ∧ upper = 0 := by
  have hlow : (BitVec.ofInt 32 v).toNat = (v % 2 ^ 32).toNat := BitVec.toNat_ofInt v
  have hnat : (half upper v).toNat = upper.toNat * 2 ^ 32 + (v % 2 ^ 32).toNat := by
    rw [half, BitVec.toNat_append, ← Nat.shiftLeft_add_eq_or_of_lt (BitVec.isLt _),
      Nat.shiftLeft_eq, hlow]
  have hupper : upper = 0 ↔ upper.toNat = 0 := by
    rw [← BitVec.toNat_inj]
    rfl
  rw [hnat, hupper]
  push_cast
  omega

/-- Read as a `size_t`, a word holds what fills it exactly if that is not negative. -/
theorem toNat_word_iff {v : ℤ} (lower : -2 ^ 63 ≤ v) (high : v < 2 ^ 64) :
    ((word v).toNat : ℤ) = v ↔ 0 ≤ v := by
  rw [word, BitVec.toNat_ofInt]
  omega

/-! ## When a numeral is the right one -/

section Right
variable (memory : Memory) (upper : BitVec 32) {v : ℤ}

/-- `%i` shows an `int`, whatever the upper half of its word. -/
theorem vsnprintf_i_half (lower : -2 ^ 31 ≤ v) (high : v < 2 ^ 31) :
    vsnprintf memory "%i" [half upper v] = some (toString v) := by
  rw [vsnprintf_i, toInt_half upper lower high]

/-- `%zu` shows an `int` or `unsigned int` that is not negative, if the upper half of its
word is clear. -/
theorem vsnprintf_zu_half_iff (lower : -2 ^ 31 ≤ v) (high : v < 2 ^ 32) :
    vsnprintf memory "%zu" [half upper v] = some (toString v) ↔ 0 ≤ v ∧ upper = 0 := by
  rw [vsnprintf_zu, numeral_natCast, Option.some_inj, numeral_inj,
    toNat_half_iff upper lower high]

/-- `%zu` shows what fills its word, if that is not negative. -/
theorem vsnprintf_zu_word_iff (lower : -2 ^ 63 ≤ v) (high : v < 2 ^ 64) :
    vsnprintf memory "%zu" [word v] = some (toString v) ↔ 0 ≤ v := by
  rw [vsnprintf_zu, numeral_natCast, Option.some_inj, numeral_inj, toNat_word_iff lower high]

end Right
end Printf
