/-
# ChipEight.Console.Report -- the state and the record as text

`registerReport` shows registers, timers, stack and the count of instructions in seven lines.
`stateReport` shows it between a line about the console and lines about the devices; a line about a
waiting register or a fault is there only if there is one.

A traced console records what it fetches. Who shows a console reads the record after each operation
and then takes it away, so that nothing is shown twice: `withoutRecord` leaves a console that
differs from the given one in its record only.
-/
import ChipEight.Console.Basic
import ChipEight.Disassembly

namespace ChipEight

open Numeral

/-- A fetched instruction: its address, its word and its text. -/
def Fetch.line (f : Fetch) : Text :=
  ' ' :: ' ' :: Disassembly.line f.address.toNat f.word

namespace Console

/-! ## The state -/

/-- The texts with blanks between, or a dash if there is none. -/
def listed (items : List Text) : Text :=
  if items.isEmpty then ['-'] else Text.joinWith [' '] items

/-- One register with its name. -/
def registerItem (m : Machine) (x : Nibble) : Text :=
  'V' :: upperHex 1 x.val ++ " = ".toList ++ hex 4 (m.register x).toNat

/-- A row of four registers. -/
def registerRow (m : Machine) (row : Fin 4) : Text :=
  "  ".toList ++ Text.joinWith "  ".toList
    ((List.finRange 4).map fun k => registerItem m ⟨4 * row.val + k.val, by omega⟩)

/-- What the processor is doing. -/
def activity (c : Console) : Text :=
  if c.halted then "halted".toList
  else if c.machine.paused then "paused".toList
  else "running".toList

/-- Registers, timers, stack and the count of instructions. -/
def registerReport (c : Console) : Text :=
  let m := c.machine
  Text.joinWith ['\n'] <|
    (List.finRange 4).map (registerRow m) ++
    ["  I = ".toList ++ hex 6 m.index.toNat ++ "  PC = ".toList ++ hex 6 m.pc.toNat ++
       "  DT = ".toList ++ decimal m.delay ++ "  ST = ".toList ++ decimal m.sound,
     "  STACK[".toList ++ decimal m.stack.length ++ "] = ".toList ++
       listed (m.stack.reverse.map (hex 5)),
     "  ".toList ++ c.activity ++ "  cycles = ".toList ++ decimal c.cycles]

/-- The console's own line, the processor and the devices. -/
def stateReport (c : Console) : Text :=
  Text.joinWith ['\n'] <|
    ["CHIP-8 system  frames=".toList ++ decimal c.frames ++ "  speed=".toList ++
       c.cyclesPerFrame.text ++ "/frame  rom=".toList ++ decimal c.rom.length ++
       " bytes".toList,
     c.registerReport] ++
    (match c.keypad.latch with
     | some x => ["  waiting for key -> V".toList ++ upperHex 1 x.val]
     | none => []) ++
    ["  keys held: ".toList ++ listed (c.keypad.heldKeys.map fun k => upperHex 1 k.val),
     "  tone: ".toList ++ (if c.buzzer.active then "on".toList else "off".toList)] ++
    (match c.fault with
     | some f => ["  fault: ".toList ++ f.message]
     | none => [])

/-! ## The record -/

/-- The recorded instructions as lines, oldest first. -/
def recordLines (c : Console) : List Text :=
  c.trace.reverse.map Fetch.line

/-- The console with its record taken away. -/
def withoutRecord (c : Console) : Console :=
  c.traced c.tracing

end Console

end ChipEight
