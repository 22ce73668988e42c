/-
# ChipEight.Console.Basic -- a machine with its devices

A console joins a machine with a screen, a keypad, a buzzer and a source of random bytes, and keeps
what is needed to run it: the program that was loaded, the speed, the counts of instructions and
frames, and whether a fault has halted it. If it is traced, it also keeps the fetched instructions.

Here stand the console that was just made, loading, keys and tracing. Running is in
`ChipEight.Console.Step` and `ChipEight.Console.Frame`, starting over in `ChipEight.Console.Reset`.
-/
import ChipEight.Fault
import ChipEight.Machine
import ChipEight.Numeral.Basic
import ChipEight.Peripherals
import ChipEight.Screen

namespace ChipEight

/-- An instruction word and the address it was fetched from. -/
structure Fetch where
  /-- Where the word stood. -/
  address : UInt16
  /-- The word. -/
  word : UInt16
  deriving DecidableEq, Repr

/-- A machine with its devices. -/
@[ext] structure Console where
  /-- Registers, memory, stack and timers. -/
  machine : Machine
  /-- The screen. -/
  screen : Screen
  /-- The keypad. -/
  keypad : Keypad
  /-- The buzzer. -/
  buzzer : Buzzer
  /-- Where random bytes come from. -/
  random : RandomBytes
  /-- The frequency of the tone. -/
  toneHz : Int
  /-- A fault has halted the machine. -/
  halted : Bool
  /-- The fault that has halted the machine. -/
  fault : Option Fault
  /-- The instructions executed since the last start. -/
  cycles : Nat
  /-- The program that was loaded last. -/
  rom : List UInt8
  /-- The frames run since the last start. -/
  frames : Nat
  /-- The instructions to run in one frame. -/
  cyclesPerFrame : Amount
  /-- Fetched instructions are recorded. -/
  tracing : Bool
  /-- The instructions recorded, newest first. -/
  trace : List Fetch
  deriving DecidableEq

/-- The speed of a console for which none is chosen. -/
def defaultCyclesPerFrame : Int := 10

/-- The tone of a console for which none is chosen. -/
def defaultToneHz : Int := 440

/-- A program of so many bytes does not fit. -/
structure TooLarge where
  /-- The bytes of the program. -/
  size : Nat
  deriving DecidableEq, Repr

/-- The words for a program that does not fit. -/
def TooLarge.message (e : TooLarge) : Text :=
  "Program too large: ".toList ++ Numeral.decimal e.size ++ " bytes (max ".toList ++
    Numeral.decimal Memory.programRoom ++ ")".toList

namespace Console

/-- A console that was just made. -/
def new (screen : Screen) (random : RandomBytes) (cyclesPerFrame : Amount) (toneHz : Int) :
    Console where
  machine := Machine.powerOn
  screen := screen
  keypad := Keypad.released
  buzzer := Buzzer.silent
  random := random
  toneHz := toneHz
  halted := false
  fault := none
  cycles := 0
  rom := []
  frames := 0
  cyclesPerFrame := cyclesPerFrame
  tracing := false
  trace := []

/-- A console with the standard screen and tone. -/
def standard (random : RandomBytes) (cyclesPerFrame : Amount) : Console :=
  new Screen.standard random cyclesPerFrame defaultToneHz

/-! ## Loading -/

/-- Loads a program where programs start. One that runs past the end of memory is refused. -/
def loadRom (c : Console) (image : List UInt8) : Except TooLarge Console :=
  if Memory.programRoom < image.length then .error ⟨image.length⟩
  else .ok { c with rom := image, machine := c.machine.load image Memory.programBase }

/-! ## Keys -/

/-- A key goes down. A register that waits for a key gets it, and the machine goes on. -/
def pressKey (c : Console) (k : Int) : Console :=
  match Keypad.key? k with
  | none => c
  | some key =>
    match c.keypad.press key with
    | (keypad, none) => { c with keypad := keypad }
    | (keypad, some x) => { c with keypad := keypad, machine := c.machine.deliver x key }

/-- A key goes up. -/
def releaseKey (c : Console) (k : Int) : Console :=
  match Keypad.key? k with
  | none => c
  | some key => { c with keypad := c.keypad.release key }

/-! ## Tracing -/

/-- Records a fetched instruction if the console is traced. -/
def record (c : Console) (f : Fetch) : Console :=
  if c.tracing then { c with trace := f :: c.trace } else c

/-- Starts or ends recording, with nothing recorded so far. -/
def traced (c : Console) (on : Bool) : Console :=
  { c with tracing := on, trace := [] }

end Console

end ChipEight
