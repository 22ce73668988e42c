/-
# ChipEight.Console.Assembled -- where programs come from

A program is loaded from a file of a directory, or from the assembler. Two things can go wrong with a
file: it is not read, or the program in it does not fit into memory.

A program that was just assembled is loaded like any other. Whether it fits is seen from its size
alone, so that a program with a gap far larger than memory is refused before its bytes are made.
-/
import ChipEight.Assembly.Image
import ChipEight.Console.Basic
import ChipEight.Directory

namespace ChipEight

/-- Why a program is not loaded from a file. -/
inductive LoadError where
  /-- The file is not read. -/
  | file (error : FileError)
  /-- The program does not fit. -/
  | size (error : TooLarge)
  deriving DecidableEq, Repr

/-- The words for the error. -/
def LoadError.message : LoadError → Text
  | .file e => e.message
  | .size e => e.message

namespace Console

/-- Loads the program in a file. -/
def loadFile (c : Console) (d : Directory) (name : Text) : Except LoadError Console :=
  match d.read name with
  | .error e => .error (.file e)
  | .ok bytes =>
    match c.loadRom bytes with
    | .error e => .error (.size e)
    | .ok loaded => .ok loaded

/-- Loads an assembled program. -/
def loadAssembled (c : Console) (a : Assembly.Assembled) : Except TooLarge Console :=
  if Memory.programRoom < a.size then .error ⟨a.size⟩ else c.loadRom a.image

theorem loadAssembled_eq_loadRom (c : Console) (a : Assembly.Assembled) :
    c.loadAssembled a = c.loadRom a.image := by
  unfold loadAssembled loadRom
  rw [Assembly.length_image]
  split <;> rfl

end Console

end ChipEight
