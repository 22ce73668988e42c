/-
# ChipEight.Console.Reset -- starting over

Turning a console off and on again is a sequence of small changes, each to one part of it. They are
listed in the order in which they happen, because a key may go down or up between any two of them.

The program that was loaded last is put into memory again. What stays is the random bytes, the
trace, the speed, and the buzzer's memory of its last tone.
-/
import ChipEight.Console.Basic

namespace ChipEight

namespace Console

/-! ## The parts of a restart -/

/-- No key is held and no register waits. -/
def clearKeypad (c : Console) : Console :=
  { c with keypad := Keypad.released }

/-- The machine is as it was when it was turned on. -/
def restartMachine (c : Console) : Console :=
  { c with machine := Machine.powerOn }

/-- No fault, and no instruction executed. -/
def clearFault (c : Console) : Console :=
  { c with halted := false, fault := none, cycles := 0 }

/-- All pixels dark. -/
def clearScreen (c : Console) : Console :=
  { c with screen := c.screen.clear }

/-- The tone off. -/
def silence (c : Console) : Console :=
  { c with buzzer := c.buzzer.stop }

/-- The screen as it was when it was made. -/
def restartScreen (c : Console) : Console :=
  { c with screen := c.screen.reset }

/-- No frame run. -/
def clearFrames (c : Console) : Console :=
  { c with frames := 0 }

/-- The loaded program in its place. -/
def reloadRom (c : Console) : Console :=
  { c with machine := c.machine.load c.rom Memory.programBase }

/-! ## Restarts -/

/-- The changes that start the processor over, in order. -/
def processorResetParts : List (Console → Console) :=
  [restartMachine, clearFault, clearKeypad, clearScreen]

/-- The changes that start the console over, in order. -/
def resetParts : List (Console → Console) :=
  clearKeypad :: processorResetParts ++ [silence, restartScreen, clearFrames, reloadRom]

/-- Makes changes one after another. -/
def applyAll (parts : List (Console → Console)) (c : Console) : Console :=
  parts.foldl (fun d part => part d) c

/-- Starts the processor over. The program is gone from memory. -/
def resetProcessor (c : Console) : Console :=
  applyAll processorResetParts c

/-- Starts the console over with the program that was loaded last. -/
def reset (c : Console) : Console :=
  applyAll resetParts c

end Console

end ChipEight
