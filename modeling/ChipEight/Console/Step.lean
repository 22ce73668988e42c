/-
# ChipEight.Console.Step -- one instruction

Each instruction has a handler. A handler reads and writes a console whose program counter already
points behind the instruction, one write after another, and may stop early with a reason. What it has
written before that stays written: the console at that moment is part of its answer. That there is
never such a write is not built into the type; it is a theorem about the handlers.

`step` fetches, decodes and executes one instruction. A paused machine executes nothing, and a
halted one refuses. After a fault the program counter is put back to the instruction, the machine is
halted and the fault is kept. The two other refusals are no faults of the program: they leave the
program counter behind the instruction and the machine running.
-/
import ChipEight.Console.Basic

namespace ChipEight

/-! ## Arithmetic -/

namespace AluOp

/-- The result of an operation on two bytes. -/
def result (op : AluOp) (a b : UInt8) : UInt8 :=
  match op with
  | .move => b
  | .or => a ||| b
  | .and => a &&& b
  | .xor => a ^^^ b
  | .add => a + b
  | .sub => a - b
  | .shr => a / 2
  | .subn => b - a
  | .shl => a + a

/-- What an operation puts into the flag register, if anything: a carry, the absence of a borrow
(two equal bytes do not count), or the bit that a shift drops. A left shift leaves that bit in its
place. -/
def flag? (op : AluOp) (a b : UInt8) : Option UInt8 :=
  match op with
  | .move | .or | .and | .xor => none
  | .add => some (if 255 < a.toNat + b.toNat then 1 else 0)
  | .sub => some (if b < a then 1 else 0)
  | .shr => some (a % 2)
  | .subn => some (if a < b then 1 else 0)
  | .shl => some (if 128 ≤ a then 128 else 0)

end AluOp

namespace Machine

/-- Computes with two registers. The flag is written before the result, so a result that goes into
the flag register stays. -/
def compute (m : Machine) (op : AluOp) (x y : Nibble) : Machine :=
  let a := m.register x
  let b := m.register y
  match op.flag? a b with
  | none => m.setRegister x (op.result a b)
  | some f => (m.setRegister flag f).setRegister x (op.result a b)

/-- The three decimal digits of a byte. -/
def decimalDigits (b : UInt8) : List UInt8 :=
  [b / 100, b / 10 % 10, b % 10]

/-- Puts the registers 0 to `x` into memory. -/
def storeRegisters (m : Machine) (x : Nibble) : Machine :=
  m.load (m.v.toList.take (x.val + 1)) m.index.toNat

/-- Takes the registers 0 to `x` from memory. -/
def fetchRegisters (m : Machine) (x : Nibble) : Machine :=
  { m with v := Vector.ofFn fun r : Fin 16 =>
      if r.val ≤ x.val then m.memory.read (m.index.toNat + r.val) else m.v[r.val] }

end Machine

/-- The console with another machine in it. -/
def Console.withMachine (c : Console) (m : Machine) : Console :=
  { c with machine := m }

/-! ## Handlers -/

/-- Reads and writes on a console. One that stops early answers the reason, and the console as it is
then. -/
abbrev Handler := ExceptT Stop (StateM Console)

namespace Handler

/-- The machine as it is now. -/
def machine : Handler Machine := do
  let c ← get
  return c.machine

/-- Writes to the machine. -/
def write (f : Machine → Machine) : Handler Unit :=
  modify fun c => c.withMachine (f c.machine)

/-- Skips the next instruction if the machine meets the condition. -/
def skipWhen (condition : Machine → Bool) : Handler Unit :=
  write fun m => m.skipIf (condition m)

/-- Goes back behind the call that was made last. -/
def returnFromCall : Handler Unit := do
  let m ← machine
  match m.stack with
  | [] => throw (.fault (.emptyStack ((m.pc.toNat : Int) - 2)))
  | back :: rest =>
    write fun m => { m with stack := rest }
    write fun m => { m with pc := wordOfInt back }

/-- Keeps the place behind the call and goes to an address. -/
def enterCall (a : Address) : Handler Unit := do
  let m ← machine
  if Machine.stackDepth ≤ m.stack.length then
    throw (.fault (.fullStack ((m.pc.toNat : Int) - 2)))
  else
    write fun m => { m with stack := m.pc.toNat :: m.stack }
    write fun m => { m with pc := UInt16.ofNat a.val }

/-- Takes a random byte and puts it, masked, into a register. -/
def takeRandom (x : Nibble) (mask : UInt8) : Handler Unit := do
  let c ← get
  modify fun c => { c with random := c.random.tail }
  write fun m => m.setRegister x (c.random.head &&& mask)

/-- Draws the sprite at the index register. The flag register is written when all of it is drawn. -/
def drawSprite (x y n : Nibble) : Handler Unit := do
  let c ← get
  let m := c.machine
  let drawn := c.screen.draw (m.register x).toNat (m.register y).toNat
    (m.memory.slice m.index.toNat n.val)
  modify fun c => { c with screen := drawn.1 }
  match drawn.2 with
  | none => throw .noPixels
  | some hit => write fun m => m.setRegister Machine.flag (if hit then 1 else 0)

/-- Puts the delay timer into a register, if it is a byte. -/
def readDelay (x : Nibble) : Handler Unit := do
  let m ← machine
  if 0 ≤ m.delay ∧ m.delay < 256 then write fun m => m.setRegister x (byteOfInt m.delay)
  else throw .notAByte

/-- Stops the machine until a key goes down, which goes into a register. -/
def awaitKey (x : Nibble) : Handler Unit := do
  write fun m => { m with paused := true }
  modify fun c => { c with keypad := c.keypad.await x }

end Handler

/-- What an instruction reads and writes. -/
def Instruction.handler : Instruction → Handler Unit
  | .clear => modify fun c => { c with screen := c.screen.clear }
  | .ret => Handler.returnFromCall
  | .sys _ => pure ()
  | .jump a => Handler.write fun m => { m with pc := UInt16.ofNat a.val }
  | .call a => Handler.enterCall a
  | .skipEqByte x kk => Handler.skipWhen fun m => m.register x == kk
  | .skipNeByte x kk => Handler.skipWhen fun m => m.register x != kk
  | .skipEq x y => Handler.skipWhen fun m => m.register x == m.register y
  | .loadByte x kk => Handler.write fun m => m.setRegister x kk
  | .addByte x kk => Handler.write fun m => m.setRegister x (m.register x + kk)
  | .alu op x y => Handler.write fun m => m.compute op x y
  | .skipNe x y => Handler.skipWhen fun m => m.register x != m.register y
  | .loadIndex a => Handler.write fun m => { m with index := UInt16.ofNat a.val }
  | .jumpFrom a =>
    Handler.write fun m =>
      { m with pc := UInt16.ofNat (a.val + (m.register (Nibble.ofNat 0)).toNat) }
  | .random x kk => Handler.takeRandom x kk
  | .draw x y n => Handler.drawSprite x y n
  | .skipHeld x => do
    let c ← get
    Handler.skipWhen fun m => c.keypad.isHeld (m.register x).toNat
  | .skipFree x => do
    let c ← get
    Handler.skipWhen fun m => !c.keypad.isHeld (m.register x).toNat
  | .readDelay x => Handler.readDelay x
  | .awaitKey x => Handler.awaitKey x
  | .setDelay x => Handler.write fun m => { m with delay := (m.register x).toNat }
  | .setSound x => Handler.write fun m => { m with sound := (m.register x).toNat }
  | .addIndex x => Handler.write fun m => { m with index := m.index + (m.register x).toUInt16 }
  | .glyph x =>
    Handler.write fun m =>
      { m with index := UInt16.ofNat ((m.register x).toNat % 16 * Memory.glyphHeight) }
  | .digits x =>
    Handler.write fun m => m.load (Machine.decimalDigits (m.register x)) m.index.toNat
  | .store x => Handler.write fun m => m.storeRegisters x
  | .fetch x => Handler.write fun m => m.fetchRegisters x

namespace Console

/-- Runs the handler of an instruction: how it ended, and the console that it has left. -/
def handle (c : Console) (i : Instruction) : Except Stop Unit × Console :=
  i.handler.run.run c

/-- The console that an instruction makes of this one, or the reason why it is not executed. -/
def execute (c : Console) (i : Instruction) : Except Stop Console :=
  (c.handle i).1.map fun _ => (c.handle i).2

/-! ## Steps -/

/-- Halts the machine at an address because of a fault. -/
def haltAt (c : Console) (address : UInt16) (f : Fault) : Console :=
  { c with machine := { c.machine with pc := address }, halted := true, fault := some f }

/-- The word that the next step fetches. -/
def nextWord (c : Console) : UInt16 :=
  c.machine.memory.readWord c.machine.pc.toNat

/-- The program counter points behind the next word. -/
def advanced (c : Console) : Console :=
  c.withMachine c.machine.advance

/-- The console at the moment when an instruction is executed: it is recorded, and the program
counter points behind it. -/
def fetched (c : Console) : Console :=
  c.advanced.record ⟨c.machine.pc, c.nextWord⟩

/-- Runs one instruction. The answer is false if the machine waits for a key instead. -/
def step (c : Console) : Console × Except Stop Bool :=
  if c.halted then (c, .error .halted)
  else if c.machine.paused then (c, .ok false)
  else
    match Instruction.find c.nextWord c.machine.pc.toNat with
    | .error f => (c.advanced.haltAt c.machine.pc f, .error (.fault f))
    | .ok i =>
      match c.fetched.handle i with
      | (.ok (), d) => ({ d with cycles := d.cycles + 1 }, .ok true)
      | (.error (.fault f), d) => (d.haltAt c.machine.pc f, .error (.fault f))
      | (.error e, d) => (d, .error e)

end Console

end ChipEight
