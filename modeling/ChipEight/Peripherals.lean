/-
# ChipEight.Peripherals -- keypad, buzzer and random bytes

The small devices of a console.

* The keypad knows which of its sixteen keys are held. Besides, it has a latch: a register that waits
  for a key. The next press empties the latch and hands the key over, so that a key is delivered once
  and to one register. Keys are named by integers. Only 0 to 15 name a key (`Keypad.key?`); all other
  integers are never held, and pressing or releasing them does nothing.
* The buzzer is a silent tone. It remembers whether its tone is on, at which frequency it was last
  started, and how often it went from off to on.
* Random bytes are taken from a given list, which starts over at its end. An empty list gives zeros.
  A list can also be made from a seed, and the same seed makes the same list.
-/
import ChipEight.Instruction.Basic

namespace ChipEight

/-! ## Keypad -/

/-- The keys. -/
structure Keypad where
  /-- Whether each key is held. -/
  held : Vector Bool 16
  /-- The register that waits for a key. -/
  latch : Option Nibble
  deriving DecidableEq, Repr

namespace Keypad

/-- No key held and no register waiting. -/
def released : Keypad where
  held := Vector.replicate 16 false
  latch := none

/-- The key that an integer names. -/
def key? (k : Int) : Option Nibble :=
  Nibble.ofInt? k

/-- Whether the key is held. -/
def isHeld (p : Keypad) (k : Int) : Bool :=
  match key? k with
  | some key => p.held[key.val]
  | none => false

/-- Makes a register wait for the next key. -/
def await (p : Keypad) (register : Nibble) : Keypad :=
  { p with latch := some register }

/-- The keypad after a key went down, and the register that gets the key. -/
def press (p : Keypad) (key : Nibble) : Keypad × Option Nibble :=
  ({ held := p.held.set key.val true, latch := none }, p.latch)

/-- The keypad after a key went up. -/
def release (p : Keypad) (key : Nibble) : Keypad :=
  { p with held := p.held.set key.val false }

/-- The held keys in ascending order. -/
def heldKeys (p : Keypad) : List Nibble :=
  (List.finRange 16).filter fun key => p.held[key.val]

theorem key?_eq_some_iff {k : Int} {key : Nibble} : key? k = some key ↔ k = key.val :=
  Nibble.ofInt?_eq_some_iff

theorem key?_eq_none_iff {k : Int} : key? k = none ↔ k < 0 ∨ 16 ≤ k :=
  Nibble.ofInt?_eq_none_iff

theorem key?_val (key : Nibble) : key? key.val = some key :=
  key?_eq_some_iff.mpr rfl

end Keypad

/-! ## Buzzer -/

/-- A tone that is on or off. -/
structure Buzzer where
  /-- Whether the tone is on. -/
  active : Bool
  /-- The frequency of the last start. -/
  frequency : Int
  /-- How often the tone went on. -/
  starts : Nat
  deriving DecidableEq, Repr

namespace Buzzer

/-- A buzzer that was never started. -/
def silent : Buzzer where
  active := false
  frequency := 0
  starts := 0

/-- Turns the tone on. -/
def start (b : Buzzer) (frequency : Int) : Buzzer where
  active := true
  frequency := frequency
  starts := if b.active then b.starts else b.starts + 1

/-- Turns the tone off. -/
def stop (b : Buzzer) : Buzzer :=
  { b with active := false }

end Buzzer

/-! ## Random bytes -/

/-- A source of random bytes. -/
structure RandomBytes where
  /-- The bytes that are handed out in turn. -/
  bytes : Array UInt8
  /-- How many were handed out. -/
  taken : Nat
  deriving DecidableEq, Repr

namespace RandomBytes

/-- A source that hands out these bytes. -/
def ofArray (bytes : Array UInt8) : RandomBytes where
  bytes := bytes
  taken := 0

/-- Numbers below 2 ^ 31 that follow each other without a visible order. -/
def scramble (n : Nat) : Nat :=
  (1103515245 * n + 12345) % 2147483648

/-- So many bytes from a seed. -/
def fromSeed : (count seed : Nat) → List UInt8
  | 0, _ => []
  | count + 1, seed => UInt8.ofNat (scramble seed / 65536) :: fromSeed count (scramble seed)

/-- A source that a seed decides. -/
def seeded (seed : Int) : RandomBytes :=
  ofArray (fromSeed 4096 (seed % 2147483648).toNat).toArray

/-- The next byte. -/
def head (r : RandomBytes) : UInt8 :=
  r.bytes.getD (r.taken % r.bytes.size) 0

/-- The source after one byte was taken. -/
def tail (r : RandomBytes) : RandomBytes :=
  { r with taken := r.taken + 1 }

end RandomBytes

end ChipEight
