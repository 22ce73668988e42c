/-
# ChipEight.Proofs.Arithmetic -- what the operations on two registers compute

Registers hold bytes, and the operations on them are meant as arithmetic on numbers below 256.
`AluOp.value` says which number an operation leaves, with sums and differences taken modulo 256, and
`AluOp.signal?` says which one it leaves in the flag register: a carry, that nothing had to be
borrowed, or the bit that a shift drops.

The two registers and the flag register need not be three. Operands are read before anything is
written, and the result is written behind the flag. So what a register holds afterwards depends on the
first register alone: it has the result, even if it is the flag register, and only if it is not does
the flag register have the flag (`register_compute_first`, `register_compute_flag`).
-/
import ChipEight.Proofs.Effects
import Mathlib.Data.Nat.Bitwise

namespace ChipEight

/-! ## Numbers -/

namespace AluOp

/-- The number that an operation leaves in its first register. -/
def value (a b : Nat) : AluOp → Int
  | .move => b
  | .or => (a ||| b : Nat)
  | .and => (a &&& b : Nat)
  | .xor => (a ^^^ b : Nat)
  | .add => (a + b) % 256
  | .sub => (a - b) % 256
  | .shr => a / 2
  | .subn => (b - a) % 256
  | .shl => 2 * a % 256

/-- The number that an operation leaves in the flag register, if it leaves one. -/
def signal? (a b : Nat) : AluOp → Option Nat
  | .move | .or | .and | .xor => none
  | .add => some (if 255 < a + b then 1 else 0)
  | .sub => some (if b < a then 1 else 0)
  | .shr => some (a % 2)
  | .subn => some (if a < b then 1 else 0)
  | .shl => some (a &&& 0x80)

/-- The highest bit of a byte, in its place. -/
theorem land_128 {a : Nat} (h : a < 256) : a &&& 0x80 = if 128 ≤ a then 128 else 0 := by
  have hbit : a.testBit 7 = decide (128 ≤ a) := by
    rw [Nat.testBit_eq_decide_div_mod_eq]
    congr 1
    apply propext
    omega
  have hland : a &&& 128 = (a.testBit 7).toNat * 128 := Nat.and_two_pow a 7
  rw [hland, hbit]
  by_cases ha : 128 ≤ a <;> simp [ha]

theorem result_toNat (op : AluOp) (a b : UInt8) :
    ((op.result a b).toNat : Int) = op.value a.toNat b.toNat := by
  have ha := a.toNat_lt
  have hb := b.toNat_lt
  cases op with
  | move => rfl
  | or => exact congrArg _ (UInt8.toNat_or a b)
  | and => exact congrArg _ (UInt8.toNat_and a b)
  | xor => exact congrArg _ (UInt8.toNat_xor a b)
  | add =>
    simp only [result, value, UInt8.toNat_add]
    omega
  | sub =>
    simp only [result, value, UInt8.toNat_sub]
    omega
  | shr =>
    simp only [result, value, UInt8.toNat_div]
    rfl
  | subn =>
    simp only [result, value, UInt8.toNat_sub]
    omega
  | shl =>
    simp only [result, value, UInt8.toNat_add]
    omega

theorem flag?_toNat (op : AluOp) (a b : UInt8) :
    (op.flag? a b).map UInt8.toNat = op.signal? a.toNat b.toNat := by
  cases op with
  | move | or | and | xor => rfl
  | add | sub | subn =>
    simp only [flag?, signal?, Option.map_some, apply_ite UInt8.toNat, UInt8.lt_iff_toNat_lt]
    rfl
  | shr =>
    simp only [flag?, signal?, Option.map_some, UInt8.toNat_mod]
    rfl
  | shl =>
    simp only [flag?, signal?, Option.map_some, apply_ite UInt8.toNat, UInt8.le_iff_toNat_le,
      land_128 a.toNat_lt]
    rfl

end AluOp

/-! ## Registers -/

namespace Machine

variable (m : Machine) (op : AluOp) (x y : Nibble)

/-- The result is written last. -/
theorem register_compute_first :
    (m.compute op x y).register x = op.result (m.register x) (m.register y) := by
  unfold compute
  cases hf : op.flag? (m.register x) (m.register y) <;> simp [hf]

/-- The flag is there unless the result took its place. -/
theorem register_compute_flag (hx : x ≠ flag) :
    (m.compute op x y).register flag =
      (op.flag? (m.register x) (m.register y)).getD (m.register flag) := by
  unfold compute
  cases hf : op.flag? (m.register x) (m.register y) <;> simp [hf, hx]

/-- Shifts are about the first register alone. -/
theorem compute_of_shift (h : op = .shr ∨ op = .shl) (z : Nibble) :
    m.compute op x z = m.compute op x y := by
  rcases h with rfl | rfl <;> rfl

/-- The registers of the second machine are those of the first one after an operation: the first
register has the result, the flag register has the flag unless it is the first register, and the other
registers hold what they held. -/
structure Computed (m' : Machine) : Prop where
  result : ((m'.register x).toNat : Int) = op.value (m.register x).toNat (m.register y).toNat
  signal : x ≠ flag → (m'.register flag).toNat =
    (op.signal? (m.register x).toNat (m.register y).toNat).getD (m.register flag).toNat
  others : ∀ r, r ≠ x → r ≠ flag → m'.register r = m.register r

theorem computed : m.Computed op x y (m.compute op x y) where
  result := by rw [register_compute_first, AluOp.result_toNat]
  signal hx := by rw [register_compute_flag _ _ _ _ hx, ← AluOp.flag?_toNat, Option.getD_map]
  others r hr hflag := by
    by_contra hchanged
    rcases register_compute hchanged with rfl | ⟨rfl, -⟩
    · exact hr rfl
    · exact hflag rfl

end Machine

/-! ## The instructions -/

namespace Console

/-- The operations of group 8 are arithmetic on the numbers that two registers hold, whichever
registers these are.

In every state such an instruction puts the result into the first register, and the flag into the flag
register unless that is the first one; an operation without a flag leaves the flag register alone, and
no operation changes another register or anything that is not a register. Shifts do not look at the
second register. A step with the word of such an instruction has the same registers, and changes but
the program counter, the count of instructions and the record besides. -/
theorem arithmetic_law (c : Console) (op : AluOp) (x y : Nibble) :
    (∃ d, c.execute (.alu op x y) = .ok d ∧ c.machine.Computed op x y d.machine ∧
      d = { c with machine := { c.machine with v := d.machine.v } }) ∧
    (op = .shr ∨ op = .shl → ∀ z, c.execute (.alu op x z) = c.execute (.alu op x y)) ∧
    (c.halted = false → c.machine.paused = false →
      c.nextWord.toNat = 0x8000 + 0x100 * x.val + 0x10 * y.val + op.code →
      ∃ d, c.step = (d, .ok true) ∧ c.machine.Computed op x y d.machine ∧
        d = { c with
          machine := { c.machine with v := d.machine.v, pc := c.machine.pc + 2 }
          cycles := c.cycles + 1
          trace := c.fetchRecord ++ c.trace }) := by
  refine ⟨⟨_, c.execute_eq (.alu op x y), c.machine.computed op x y, ?_⟩, ?_, ?_⟩
  · exact congrArg c.withMachine (Machine.compute_eq c.machine op x y)
  · intro hshift z
    rw [execute_eq, execute_eq]
    exact congrArg (fun m => Except.ok (c.withMachine m))
      (c.machine.compute_of_shift op x y hshift z)
  · intro hh hp hword
    have hi : Instruction.decode? c.nextWord = some (.alu op x y) :=
      Instruction.decode?_of_toNat rfl hword
    -- the fetch moves the program counter, and no register
    have hexecute : c.fetched.execute (.alu op x y) = .ok { c with
        machine := c.machine.advance.compute op x y
        trace := c.fetchRecord ++ c.trace } := by
      rw [fetched_eq, execute_eq]
      rfl
    have hcomputed := c.machine.advance.computed op x y
    refine ⟨_, step_of_executed hh hp hi hexecute,
      ⟨hcomputed.result, hcomputed.signal, hcomputed.others⟩, ?_⟩
    rw [Machine.compute_eq]
    rfl

/-- A console about to take the flag register, which holds 7, from register 3, which holds 5. -/
def aboutToBorrow : Console :=
  (new (Screen.blank 8 5) (.ofArray #[]) (.number 10) 440).after
    [.loadRom [0x63, 0x05, 0x6F, 0x07, 0x83, 0xF5], .step, .step]

theorem arithmetic_law_with_flag_operand :
    aboutToBorrow.nextWord.toNat = 0x8000 + 0x100 * 3 + 0x10 * 15 + 5 ∧
      ∃ d, aboutToBorrow.step = (d, .ok true) ∧ (d.machine.register 3).toNat = 254 ∧
        (d.machine.register Machine.flag).toNat = 0 ∧ d.machine.register 0 = 0 := by
  have hword : aboutToBorrow.nextWord.toNat =
      0x8000 + 0x100 * (3 : Nibble).val + 0x10 * (15 : Nibble).val + AluOp.sub.code := by
    decide +kernel
  obtain ⟨d, hstep, hd, -⟩ := (arithmetic_law aboutToBorrow .sub 3 15).2.2
    (by decide +kernel) (by decide +kernel) hword
  have hx : (aboutToBorrow.machine.register 3).toNat = 5 := by decide +kernel
  have hy : (aboutToBorrow.machine.register 15).toNat = 7 := by decide +kernel
  have hzero : aboutToBorrow.machine.register 0 = 0 := by decide +kernel
  have hresult := hd.result
  have hsignal := hd.signal (by decide)
  rw [hx, hy] at hresult hsignal
  exact ⟨hword, d, hstep, Int.natCast_inj.mp hresult, hsignal,
    (hd.others 0 (by decide) (by decide)).trans hzero⟩

end Console

end ChipEight
