/-
# ChipEight.Room -- room for arrays

The pixels of a screen and the samples of a tone are kept in arrays: blocks of cells of one kind
that are laid out along sides. `arrayRoom` says whether there is room for an array.

The bytes of a block have to be countable in 64 bits with a sign, and they have to fit into memory.
An array with a side of length zero needs no room, however long its other sides are.

What is computed in several parts succeeds if every part does (`bind_eq_ok_iff`).
-/
import ChipEight.Numeral.Basic

namespace ChipEight

open Text Numeral

/-! ## Limits -/

/-- The least number that 64 bits with a sign do not hold. -/
def countLimit : Nat := 0x8000000000000000

/-- An integer fits into 64 bits with a sign. -/
def fits (n : Int) : Bool :=
  -countLimit ≤ n && n < countLimit

/-- The least number of bytes that are too many for any memory. -/
def memoryLimit : Nat := 0x800000000

/-! ## Sizes as text -/

/-- The units of sizes. Each is 1024 times the one before. -/
def sizeUnits : List Text :=
  ["bytes".toList, "KiB".toList, "MiB".toList, "GiB".toList, "TiB".toList, "PiB".toList,
   "EiB".toList]

/-- A quotient between one and 1024 to three digits, or to a whole number if that has more. -/
def threeDigits (n d : Nat) : Text :=
  let hundredths := roundHalfEven (100 * n) d
  let tenths := roundHalfEven (10 * n) d
  if hundredths < 1000 then
    decimal (hundredths / 100 : Nat) ++ '.' :: zeroPad 2 (decimal (hundredths % 100 : Nat))
  else if tenths < 1000 then decimal (tenths / 10 : Nat) ++ '.' :: decimal (tenths % 10 : Nat)
  else decimal (roundHalfEven n d) ++ ['.']

/-- A number of bytes in the largest unit of which there is one. It is first taken to the precision
of floating-point numbers. -/
def sizeText (bytes : Nat) : Text :=
  let power := max (Nat.log2 bytes) 1 / 10
  let bytes := toPrecision bytes
  let power := if roundHalfEven bytes (Nat.pow 1024 power) = 1024 then power + 1 else power
  let digits := if power = 0 then decimal bytes else threeDigits bytes (Nat.pow 1024 power)
  digits ++ ' ' :: sizeUnits.getD power []

/-! ## Arrays -/

/-- What the cells of an array hold. -/
inductive Cells where
  /-- Pixels. -/
  | pixels
  /-- Samples of a tone. -/
  | samples
  /-- The numbers of samples. -/
  | numbers
  deriving DecidableEq, Repr

/-- The bytes of a cell. -/
def Cells.size : Cells → Nat
  | .pixels => 1
  | .samples => 2
  | .numbers => 8

/-- The name for what the cells hold. -/
def Cells.label : Cells → Text
  | .pixels => "uint8".toList
  | .samples => "int16".toList
  | .numbers => "int64".toList

/-- The bytes of the block for an array. -/
def blockSize (cells : Cells) (sides : List Nat) : Nat :=
  sides.foldr (fun side n => side * n) cells.size

/-- Why there is no room for an array. -/
inductive ArrayError where
  /-- Its bytes cannot be counted. -/
  | uncountable
  /-- Its bytes do not fit into memory. -/
  | noMemory (cells : Cells) (sides : List Nat)
  deriving DecidableEq, Repr

/-- The sides of an array as text. -/
def sidesText (sides : List Nat) : Text :=
  match sides with
  | [side] => '(' :: decimal side ++ [',', ')']
  | _ => '(' :: joinWith ", ".toList (sides.map fun side : Nat => decimal side) ++ [')']

/-- The words for the error. -/
def ArrayError.message : ArrayError → Text
  | .uncountable =>
    ("array is too big; `arr.size * arr.dtype.itemsize` is larger than " ++
      "the maximum possible size.").toList
  | .noMemory cells sides =>
    "Unable to allocate ".toList ++ sizeText (blockSize cells sides) ++
      " for an array with shape ".toList ++ sidesText sides ++ " and data type ".toList ++
      cells.label

/-- There is room for an array. -/
def arrayRoom (cells : Cells) (sides : List Nat) : Except ArrayError Unit :=
  if countLimit ≤ blockSize cells sides then .error .uncountable
  else if memoryLimit ≤ blockSize cells sides then .error (.noMemory cells sides)
  else .ok ()

theorem arrayRoom_eq_ok_iff {cells : Cells} {sides : List Nat} :
    arrayRoom cells sides = .ok () ↔ blockSize cells sides < memoryLimit := by
  have h : memoryLimit ≤ countLimit := by decide
  unfold arrayRoom
  split
  · simp only [reduceCtorEq, false_iff]
    omega
  · split
    · simp only [reduceCtorEq, false_iff]
      omega
    · simp only [true_iff]
      omega

/-! ## Computations that succeed -/

/-- A computation in two parts succeeds if both parts do. -/
theorem bind_eq_ok_iff {ε α β : Type} {x : Except ε α} {f : α → Except ε β} {b : β} :
    x >>= f = .ok b ↔ ∃ a, x = .ok a ∧ f a = .ok b := by
  cases x with
  | error e => simp [bind, Except.bind]
  | ok a => simp [bind, Except.bind]

theorem mapError_eq_ok_iff {ε ε' α : Type} {x : Except ε α} {f : ε → ε'} {a : α} :
    x.mapError f = .ok a ↔ x = .ok a := by
  cases x with
  | error e =>
    show Except.error (f e) = .ok a ↔ Except.error e = .ok a
    simp only [reduceCtorEq]
  | ok b =>
    show Except.ok b = .ok a ↔ Except.ok b = .ok a
    simp only [Except.ok.injEq]

end ChipEight
