/-
# ChipEight.Machine -- registers, memory, stack and timers

`Machine` is what a program can read and write by itself, without a device. Registers and memory
hold bytes, and the index register and the program counter hold words, so what is put into them is
cut to their width. The stack keeps the addresses to return to, newest first, and the timers keep
counts; both are plain integers, because a machine may be set up from outside with any of them. A
program itself only ever puts words on the stack and bytes into the timers.
-/
import ChipEight.Instruction.Basic

namespace ChipEight

/-- The state that programs work on. -/
@[ext] structure Machine where
  /-- The memory. -/
  memory : Memory
  /-- The registers 0 to F. The last one takes carries and collisions. -/
  v : Vector UInt8 16
  /-- The index register, which points into memory. -/
  index : UInt16
  /-- The program counter. -/
  pc : UInt16
  /-- The addresses to return to, newest first. -/
  stack : List Int
  /-- The delay timer. -/
  delay : Int
  /-- The sound timer. -/
  sound : Int
  /-- The machine waits for a key. -/
  paused : Bool
  deriving DecidableEq, Repr

namespace Machine

/-- The depth that calls may reach. -/
def stackDepth : Nat := 16

/-- The register that takes carries, borrows and collisions. -/
def flag : Nibble := Nibble.ofNat 15

/-- A machine that was just turned on: the font in memory and the program counter at the place where
programs start. -/
def powerOn : Machine where
  memory := Memory.zero.loadFont
  v := Vector.replicate 16 0
  index := 0
  pc := UInt16.ofNat Memory.programBase
  stack := []
  delay := 0
  sound := 0
  paused := false

/-- The byte in a register. -/
def register (m : Machine) (x : Nibble) : UInt8 :=
  getElem m.v x.val (Nibble.val_lt x)

/-- Puts a byte into a register. -/
def setRegister (m : Machine) (x : Nibble) (b : UInt8) : Machine :=
  { m with v := m.v.set x.val b (Nibble.val_lt x) }

/-- Moves the program counter to the next instruction. -/
def advance (m : Machine) : Machine :=
  { m with pc := m.pc + 2 }

/-- Moves the program counter behind the next instruction if the condition holds. -/
def skipIf (m : Machine) (condition : Bool) : Machine :=
  if condition then m.advance else m

/-- A timer one tick later: one less, but never below zero by it. -/
def countDown (timer : Int) : Int :=
  if 0 < timer then timer - 1 else timer

/-- Both timers one tick later. -/
def tick (m : Machine) : Machine :=
  { m with delay := countDown m.delay, sound := countDown m.sound }

/-- A key arrives in a register, and the machine goes on. -/
def deliver (m : Machine) (x key : Nibble) : Machine :=
  { m.setRegister x (UInt8.ofNat key.val) with paused := false }

/-- Puts an image into memory. -/
def load (m : Machine) (image : List UInt8) (address : Int) : Machine :=
  { m with memory := m.memory.load address image }

@[simp] theorem register_setRegister (m : Machine) (x y : Nibble) (b : UInt8) :
    (m.setRegister x b).register y = if x = y then b else m.register y := by
  simp only [register, setRegister, Vector.getElem_set, Fin.ext_iff]

end Machine

end ChipEight
