/-
# ChipEight.Disassembly -- words as text, one to a row

`renderInt` writes any integer as program text. It reads the parts of the low sixteen bits by itself
and goes through the forms of program text one after another: the first one that fits is written, and
if none fits, the word is written as the data directive `DW`. It does not ask which instruction the
machine would execute; that the two agree on every word is a theorem.

Of the integers with the same low bits, only the two words themselves are written as `CLS` and `RET`.
A wider number is written as the machine-code call.

A row shows the word at an address and its text. Rows follow each other by two bytes and are read
from any store of bytes that wraps at its size; the address shown is the reduced one.
-/
import ChipEight.Instruction.Rendered

namespace ChipEight

/-- One row of a disassembly. -/
structure Row where
  /-- Where the word stands. -/
  address : Int
  /-- The word. -/
  word : UInt16
  /-- The word as program text. -/
  text : Text
  deriving DecidableEq, Repr

namespace Disassembly

open Numeral

/-! ## Words -/

/-- The names of the operations on two registers, under the low nibbles that stand for them. -/
def operationNames : List (Nat × Text) :=
  [(0x0, "LD".toList), (0x1, "OR".toList), (0x2, "AND".toList), (0x3, "XOR".toList),
   (0x4, "ADD".toList), (0x5, "SUB".toList), (0x6, "SHR".toList), (0x7, "SUBN".toList),
   (0xE, "SHL".toList)]

/-- The texts of group 15 around the name of the register, under their low bytes. -/
def miscTexts : List (Nat × (Text → Text)) :=
  [(0x07, fun x => "LD ".toList ++ x ++ ", DT".toList),
   (0x0A, fun x => "LD ".toList ++ x ++ ", K".toList),
   (0x15, fun x => "LD DT, ".toList ++ x), (0x18, fun x => "LD ST, ".toList ++ x),
   (0x1E, fun x => "ADD I, ".toList ++ x), (0x29, fun x => "LD F, ".toList ++ x),
   (0x33, fun x => "LD B, ".toList ++ x), (0x55, fun x => "LD [I], ".toList ++ x),
   (0x65, fun x => "LD ".toList ++ x ++ ", [I]".toList)]

/-- A word as data. -/
def data (w : UInt16) : Text :=
  "DW ".toList ++ hex 6 w.toNat

/-- The parts of a word as program text: the first form that fits, or data. -/
def renderFields (f : Fields) : Text :=
  let group := f.group.val
  let x := registerName f.x
  let y := registerName f.y
  let byte := Instruction.renderByte f.kk
  let address := Instruction.renderAddress f.nnn
  if group = 0x0 then "SYS ".toList ++ address
  else if group = 0x1 then "JP ".toList ++ address
  else if group = 0x2 then "CALL ".toList ++ address
  else if group = 0x3 then "SE ".toList ++ x ++ ", ".toList ++ byte
  else if group = 0x4 then "SNE ".toList ++ x ++ ", ".toList ++ byte
  else if group = 0x5 ∧ f.n.val = 0 then "SE ".toList ++ x ++ ", ".toList ++ y
  else if group = 0x6 then "LD ".toList ++ x ++ ", ".toList ++ byte
  else if group = 0x7 then "ADD ".toList ++ x ++ ", ".toList ++ byte
  else if group = 0x8 then
    match operationNames.lookup f.n.val with
    | some name => name ++ [' '] ++ x ++ ", ".toList ++ y
    | none => data f.word
  else if group = 0x9 ∧ f.n.val = 0 then "SNE ".toList ++ x ++ ", ".toList ++ y
  else if group = 0xA then "LD I, ".toList ++ address
  else if group = 0xB then "JP V0, ".toList ++ address
  else if group = 0xC then "RND ".toList ++ x ++ ", ".toList ++ byte
  else if group = 0xD then
    "DRW ".toList ++ x ++ ", ".toList ++ y ++ ", ".toList ++ decimal f.n.val
  else if group = 0xE ∧ f.kk = 0x9E then "SKP ".toList ++ x
  else if group = 0xE ∧ f.kk = 0xA1 then "SKNP ".toList ++ x
  else if group = 0xF then
    match miscTexts.lookup f.kk.toNat with
    | some around => around x
    | none => data f.word
  else data f.word

/-- Any integer as program text. Two words are told by themselves, all others by their parts. -/
def renderInt (n : Int) : Text :=
  if n = 0x00E0 then "CLS".toList
  else if n = 0x00EE then "RET".toList
  else renderFields (Fields.ofWord (wordOfInt n))

/-! ## Rows -/

/-- `count` rows from `start` on, out of a store of `size` bytes. -/
def rows (size : Nat) (byteAt : Int → UInt8) (start count : Int) : List Row :=
  (List.range count.toNat).map fun k : Nat =>
    let address := (start + 2 * k) % size
    let word := wordOf (byteAt address) (byteAt ((address + 1) % size))
    ⟨address, word, renderInt word.toNat⟩

/-- Rows of a memory. -/
def ofMemory (m : Memory) (start count : Int) : List Row :=
  rows Memory.size m.read start count

/-- Rows of an image that wraps at its own end; there are none of an empty image. -/
def ofImage? (image : Array UInt8) (start count : Int) : Option (List Row) :=
  if image.size = 0 ∧ 0 < count then none
  else some (rows image.size (fun a => image.getD a.toNat 0) start count)

/-- The address, the word and its text, without a mark in front. -/
def line (address : Int) (word : UInt16) : Text :=
  upperHex 3 address ++ ": ".toList ++ upperHex 4 word.toNat ++ "  ".toList ++
    renderInt word.toNat

end Disassembly

end ChipEight
