/-
# ChipEight.Instruction.Basic -- instruction words and what they mean

An instruction word has sixteen bits. `Fields` names the parts that instructions are read from: four
nibbles (`group`, `x`, `y`, `n`), the low byte `kk` and the low twelve bits `nnn`.

`Instruction` is the instruction set: one constructor for each form, and the nine operations of the
arithmetic group under `alu`. `decode?` reads a word: it looks it up in a table by its group and, in
the groups that have more than one instruction, by a second part of the word (`Fields.selector?`).
It has no answer for a word that is not in the table. `encode` writes an instruction as its word. Two
machine-code calls are never read: their words are those of `clear` and `ret`.
-/
import ChipEight.Memory

namespace ChipEight

/-- The number of a register, or the height of a sprite. -/
abbrev Nibble := Fin 16

namespace Nibble

/-- The low four bits of a number. -/
def ofNat (n : Nat) : Nibble :=
  ⟨n % 16, by omega⟩

/-- The nibble that an integer is, if it is one. -/
def ofInt? (n : Int) : Option Nibble :=
  if h : 0 ≤ n ∧ n < 16 then some ⟨n.toNat, by omega⟩ else none

theorem val_lt (x : Nibble) : x.val < 16 :=
  x.isLt

theorem ofInt?_eq_some_iff {n : Int} {x : Nibble} : ofInt? n = some x ↔ n = x.val := by
  unfold ofInt?
  split
  · rename_i h
    simp only [Option.some.injEq, Fin.ext_iff]
    omega
  · rename_i h
    simp only [reduceCtorEq, false_iff]
    omega

theorem ofInt?_eq_none_iff {n : Int} : ofInt? n = none ↔ n < 0 ∨ 16 ≤ n := by
  unfold ofInt?
  split
  · rename_i h
    simp only [reduceCtorEq, false_iff]
    omega
  · rename_i h
    simp only [true_iff]
    omega

end Nibble

/-- Twelve bits, as jumps and the index register hold them. -/
abbrev Address := Fin 4096

/-! ## Fields -/

/-- The parts of an instruction word. -/
structure Fields where
  /-- The whole word. -/
  word : UInt16
  /-- Bits 12 to 15: the group of the instruction. -/
  group : Nibble
  /-- Bits 8 to 11: the first register. -/
  x : Nibble
  /-- Bits 4 to 7: the second register. -/
  y : Nibble
  /-- Bits 0 to 3: the height of a sprite, or an operation. -/
  n : Nibble
  /-- Bits 0 to 7: a byte. -/
  kk : UInt8
  /-- Bits 0 to 11: an address. -/
  nnn : Address
  deriving DecidableEq, Repr

namespace Fields

/-- The parts of a word. -/
def ofWord (w : UInt16) : Fields where
  word := w
  group := ⟨w.toNat / 4096, by have := w.toNat_lt; omega⟩
  x := ⟨w.toNat / 256 % 16, by omega⟩
  y := ⟨w.toNat / 16 % 16, by omega⟩
  n := ⟨w.toNat % 16, by omega⟩
  kk := lowByte w
  nnn := ⟨w.toNat % 4096, by omega⟩

/-- The part of the word that tells the instructions of one group apart, in the groups that have
more than one. -/
def selector? (f : Fields) : Option Nat :=
  match f.group.val with
  | 0 => if f.nnn.val = 0x0E0 ∨ f.nnn.val = 0x0EE then some f.nnn.val else none
  | 5 | 8 | 9 => some f.n.val
  | 14 | 15 => some f.kk.toNat
  | _ => none

end Fields

/-! ## Instructions -/

/-- The operations on two registers. -/
inductive AluOp where
  | move
  | or
  | and
  | xor
  | add
  | sub
  | shr
  | subn
  | shl
  deriving DecidableEq, Repr

namespace AluOp

/-- The low nibble that stands for an operation. -/
def code : AluOp → Nat
  | .move => 0x0
  | .or => 0x1
  | .and => 0x2
  | .xor => 0x3
  | .add => 0x4
  | .sub => 0x5
  | .shr => 0x6
  | .subn => 0x7
  | .shl => 0xE

/-- The operation that a low nibble stands for. -/
def ofCode? : Nat → Option AluOp
  | 0x0 => some .move
  | 0x1 => some .or
  | 0x2 => some .and
  | 0x3 => some .xor
  | 0x4 => some .add
  | 0x5 => some .sub
  | 0x6 => some .shr
  | 0x7 => some .subn
  | 0xE => some .shl
  | _ => none

theorem ofCode?_code (op : AluOp) : ofCode? op.code = some op := by
  cases op <;> rfl

theorem code_of_ofCode? {n : Nat} {op : AluOp} (h : ofCode? n = some op) : op.code = n := by
  unfold ofCode? at h
  split at h <;> simp only [Option.some.injEq, reduceCtorEq] at h <;> subst h <;> rfl

theorem code_lt (op : AluOp) : op.code < 16 := by
  cases op <;> decide

end AluOp

/-- The instruction set. Registers are named by their numbers. -/
inductive Instruction where
  /-- Clears the screen. -/
  | clear
  /-- Returns from a subroutine. -/
  | ret
  /-- Calls machine code; it does nothing here. -/
  | sys (target : Address)
  /-- Goes to an address. -/
  | jump (target : Address)
  /-- Calls a subroutine. -/
  | call (target : Address)
  /-- Skips the next instruction if the register holds the byte. -/
  | skipEqByte (x : Nibble) (kk : UInt8)
  /-- Skips the next instruction unless the register holds the byte. -/
  | skipNeByte (x : Nibble) (kk : UInt8)
  /-- Skips the next instruction if both registers hold the same. -/
  | skipEq (x y : Nibble)
  /-- Puts a byte into a register. -/
  | loadByte (x : Nibble) (kk : UInt8)
  /-- Adds a byte to a register. -/
  | addByte (x : Nibble) (kk : UInt8)
  /-- Computes with two registers; the first one takes the result. -/
  | alu (op : AluOp) (x y : Nibble)
  /-- Skips the next instruction unless both registers hold the same. -/
  | skipNe (x y : Nibble)
  /-- Puts an address into the index register. -/
  | loadIndex (target : Address)
  /-- Goes to an address plus register 0. -/
  | jumpFrom (target : Address)
  /-- Puts a random byte, masked by the given one, into a register. -/
  | random (x : Nibble) (kk : UInt8)
  /-- Draws a sprite of `n` rows at the two registers. -/
  | draw (x y n : Nibble)
  /-- Skips the next instruction if the key in the register is held. -/
  | skipHeld (x : Nibble)
  /-- Skips the next instruction unless the key in the register is held. -/
  | skipFree (x : Nibble)
  /-- Puts the delay timer into a register. -/
  | readDelay (x : Nibble)
  /-- Waits for a key, which goes into the register. -/
  | awaitKey (x : Nibble)
  /-- Puts a register into the delay timer. -/
  | setDelay (x : Nibble)
  /-- Puts a register into the sound timer. -/
  | setSound (x : Nibble)
  /-- Adds a register to the index register. -/
  | addIndex (x : Nibble)
  /-- Points the index register at the picture of a digit. -/
  | glyph (x : Nibble)
  /-- Puts the three decimal digits of a register into memory. -/
  | digits (x : Nibble)
  /-- Puts the registers 0 to `x` into memory. -/
  | store (x : Nibble)
  /-- Takes the registers 0 to `x` from memory. -/
  | fetch (x : Nibble)
  deriving DecidableEq, Repr

namespace Instruction

/-! ## Reading words -/

/-- The instruction of group 14 with a given low byte. -/
def ofKeyCode? (x : Nibble) : Nat → Option Instruction
  | 0x9E => some (.skipHeld x)
  | 0xA1 => some (.skipFree x)
  | _ => none

/-- The instruction of group 15 with a given low byte. -/
def ofMiscCode? (x : Nibble) : Nat → Option Instruction
  | 0x07 => some (.readDelay x)
  | 0x0A => some (.awaitKey x)
  | 0x15 => some (.setDelay x)
  | 0x18 => some (.setSound x)
  | 0x1E => some (.addIndex x)
  | 0x29 => some (.glyph x)
  | 0x33 => some (.digits x)
  | 0x55 => some (.store x)
  | 0x65 => some (.fetch x)
  | _ => none

/-- The table of the instruction set. An instruction stands under its group and, in the groups that
have more than one, under the part of the word that tells them apart; its operands are parts of the
word. -/
def ofSelector? (f : Fields) : (group : Nat) → (selector : Option Nat) → Option Instruction
  | 0x0, some 0x0E0 => some .clear
  | 0x0, some 0x0EE => some .ret
  | 0x0, none => some (.sys f.nnn)
  | 0x1, none => some (.jump f.nnn)
  | 0x2, none => some (.call f.nnn)
  | 0x3, none => some (.skipEqByte f.x f.kk)
  | 0x4, none => some (.skipNeByte f.x f.kk)
  | 0x5, some 0x0 => some (.skipEq f.x f.y)
  | 0x6, none => some (.loadByte f.x f.kk)
  | 0x7, none => some (.addByte f.x f.kk)
  | 0x8, some operation => (AluOp.ofCode? operation).map (.alu · f.x f.y)
  | 0x9, some 0x0 => some (.skipNe f.x f.y)
  | 0xA, none => some (.loadIndex f.nnn)
  | 0xB, none => some (.jumpFrom f.nnn)
  | 0xC, none => some (.random f.x f.kk)
  | 0xD, none => some (.draw f.x f.y f.n)
  | 0xE, some byte => ofKeyCode? f.x byte
  | 0xF, some byte => ofMiscCode? f.x byte
  | _, _ => none

/-- The instruction that the fields of a word make up. -/
def ofFields? (f : Fields) : Option Instruction :=
  ofSelector? f f.group.val f.selector?

/-- The instruction that a word is read as. -/
def decode? (w : UInt16) : Option Instruction :=
  ofFields? (Fields.ofWord w)

/-! ## Writing words -/

/-- The word of an instruction, as a number. -/
def code : Instruction → Nat
  | .clear => 0x00E0
  | .ret => 0x00EE
  | .sys a => a.val
  | .jump a => 0x1000 + a.val
  | .call a => 0x2000 + a.val
  | .skipEqByte x kk => 0x3000 + 256 * x.val + kk.toNat
  | .skipNeByte x kk => 0x4000 + 256 * x.val + kk.toNat
  | .skipEq x y => 0x5000 + 256 * x.val + 16 * y.val
  | .loadByte x kk => 0x6000 + 256 * x.val + kk.toNat
  | .addByte x kk => 0x7000 + 256 * x.val + kk.toNat
  | .alu op x y => 0x8000 + 256 * x.val + 16 * y.val + op.code
  | .skipNe x y => 0x9000 + 256 * x.val + 16 * y.val
  | .loadIndex a => 0xA000 + a.val
  | .jumpFrom a => 0xB000 + a.val
  | .random x kk => 0xC000 + 256 * x.val + kk.toNat
  | .draw x y n => 0xD000 + 256 * x.val + 16 * y.val + n.val
  | .skipHeld x => 0xE000 + 256 * x.val + 0x9E
  | .skipFree x => 0xE000 + 256 * x.val + 0xA1
  | .readDelay x => 0xF000 + 256 * x.val + 0x07
  | .awaitKey x => 0xF000 + 256 * x.val + 0x0A
  | .setDelay x => 0xF000 + 256 * x.val + 0x15
  | .setSound x => 0xF000 + 256 * x.val + 0x18
  | .addIndex x => 0xF000 + 256 * x.val + 0x1E
  | .glyph x => 0xF000 + 256 * x.val + 0x29
  | .digits x => 0xF000 + 256 * x.val + 0x33
  | .store x => 0xF000 + 256 * x.val + 0x55
  | .fetch x => 0xF000 + 256 * x.val + 0x65

/-- The word that an instruction is written as. -/
def encode (i : Instruction) : UInt16 :=
  UInt16.ofNat i.code

theorem code_lt (i : Instruction) : i.code < 65536 := by
  cases i with
  | alu op x y =>
    have := op.code_lt
    simp only [code]
    omega
  | skipEqByte x kk | skipNeByte x kk | loadByte x kk | addByte x kk | random x kk =>
    have := kk.toNat_lt
    simp only [code]
    omega
  | _ =>
    simp only [code]
    omega

@[simp] theorem encode_toNat (i : Instruction) : i.encode.toNat = i.code := by
  have := i.code_lt
  simp only [encode, UInt16.toNat_ofNat']
  omega

end Instruction

end ChipEight
