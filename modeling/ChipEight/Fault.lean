/-
# ChipEight.Fault -- why a program cannot go on

A fault is a program's own mistake: a word that is no instruction, a return without a call, or a
call too deep. It names the address of the instruction. For the stack faults that address is two
less than the program counter that already points behind the instruction, so at the very end of the
address space it is a small negative number.
-/
import ChipEight.Instruction.Basic
import ChipEight.Numeral.Basic

namespace ChipEight

open Numeral

/-- A mistake of the program. -/
inductive Fault where
  /-- The word at the address is no instruction. -/
  | unknownInstruction (word : UInt16) (address : Int)
  /-- A return while no call is open. -/
  | emptyStack (address : Int)
  /-- A call while sixteen calls are open. -/
  | fullStack (address : Int)
  deriving DecidableEq, Repr

namespace Fault

/-- The address that the fault names. -/
def address : Fault → Int
  | .unknownInstruction _ a => a
  | .emptyStack a => a
  | .fullStack a => a

/-- The words for the fault. -/
def message : Fault → Text
  | .unknownInstruction word a =>
    "Unknown instruction ".toList ++ hex 6 word.toNat ++ " @ ".toList ++ hex 5 a
  | .emptyStack a => "Return with empty call stack @ ".toList ++ hex 5 a
  | .fullStack a => "Call stack overflow @ ".toList ++ hex 5 a

end Fault

/-- The instruction that a word at an address is read as. -/
def Instruction.find (word : UInt16) (address : Int) : Except Fault Instruction :=
  match Instruction.decode? word with
  | some i => .ok i
  | none => .error (.unknownInstruction word address)

/-- Why a step was not completed. -/
inductive Stop where
  /-- The program made a mistake. -/
  | fault (fault : Fault)
  /-- An earlier mistake has halted the machine. -/
  | halted
  /-- A sprite was drawn on a screen without pixels. -/
  | noPixels
  /-- The delay timer was set to a value that no register holds. -/
  | notAByte
  /-- The speed of the console is no number. -/
  | notANumber
  deriving DecidableEq, Repr

namespace Stop

/-- The words for the reason. -/
def message : Stop → Text
  | .fault f => f.message
  | .halted => "CPU is halted".toList
  | .noPixels => "integer modulo by zero".toList
  | .notAByte => "byte must be in range(0, 256)".toList
  | .notANumber => "'list' object cannot be interpreted as an integer".toList

/-- The program counts as at fault, or did before: all the reasons that a program can reach on a
screen with pixels, at a speed that is a number. -/
def isFaultOrHalt : Stop → Bool
  | .fault _ | .halted => true
  | .noPixels | .notAByte | .notANumber => false

end Stop

end ChipEight
