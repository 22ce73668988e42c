/-
# ChipEight.Proofs.Effects -- what a word may change

An instruction touches little of the console, and how much is said by the fields of its word.
`Footprint` lists this for every part of a console: where memory may change and for which words,
which registers, and so on, down to the parts that no step changes. It also says where the program
counter goes (`nextPc`): to the address in the word, to the newest entry of the stack, or behind the
word, past the next one if a condition holds (`skips`).

Besides the registers and the program counter an instruction changes one part of the machine at
most, which `Machine.elsewhere` names. That is one case analysis over the instruction set
(`machine_of_execute`); most of `Footprint` follows from it by looking at the few instructions that
name the part in question.
-/
import ChipEight.Proofs.Decoding
import ChipEight.Proofs.Footprint
import ChipEight.Proofs.Mirror

namespace ChipEight

open Instruction

/-! ## Memory -/

/-- Loading an image changes the cells of its bytes at most. -/
theorem Memory.read_load (m : Memory) (address : Int) (image : List UInt8) (a : Int) :
    (m.load address image).read a = m.read a ∨
      ∃ k : Nat, k < image.length ∧ SameCell a (address + k) := by
  induction image generalizing m address with
  | nil => exact .inl rfl
  | cons b image ih =>
    rcases ih (m.write address b) (address + 1) with hsame | ⟨k, hk, hcell⟩
    · by_cases ha : address % 4096 = a % 4096
      · exact .inr ⟨0, Nat.succ_pos _, by simpa [SameCell] using ha.symm⟩
      · left
        show ((m.write address b).load (address + 1) image).read a = _
        rw [hsame, Memory.read_write, if_neg ha]
    · refine .inr ⟨k + 1, Nat.succ_lt_succ hk, ?_⟩
      unfold SameCell at hcell ⊢
      omega

/-! ## The machine -/

namespace Machine

variable {m : Machine}

/-- The machine after what an instruction changes in it besides the registers and the program
counter. -/
def elsewhere (m : Machine) : Instruction → Machine
  | .call _ => { m with stack := m.pc.toNat :: m.stack }
  | .ret => { m with stack := m.stack.tail }
  | .loadIndex a => { m with index := UInt16.ofNat a.val }
  | .addIndex x => { m with index := m.index + (m.register x).toUInt16 }
  | .glyph x => { m with index := UInt16.ofNat ((m.register x).toNat % 16 * Memory.glyphHeight) }
  | .setDelay x => { m with delay := (m.register x).toNat }
  | .setSound x => { m with sound := (m.register x).toNat }
  | .digits x => m.load (decimalDigits (m.register x)) m.index.toNat
  | .store x => m.storeRegisters x
  | .awaitKey _ => { m with paused := true }
  | _ => m

theorem register_setRegister_ne {x r : Nibble} {b : UInt8}
    (h : (m.setRegister x b).register r ≠ m.register r) : r = x := by
  by_contra hr
  apply h
  rw [register_setRegister, if_neg (Ne.symm hr)]

/-- A computation changes the register of its result, and the flag register if it has a flag. -/
theorem register_compute {op : AluOp} {x y r : Nibble}
    (h : (m.compute op x y).register r ≠ m.register r) :
    r = x ∨ r = flag ∧ op.flag? (m.register x) (m.register y) ≠ none := by
  by_contra hno
  obtain ⟨hx, hflag⟩ := not_or.mp hno
  apply h
  unfold compute
  cases hf : op.flag? (m.register x) (m.register y) with
  | none => simp [hf, Ne.symm hx]
  | some b =>
    have hr : r ≠ flag := fun hr => hflag ⟨hr, by simp [hf]⟩
    simp [hf, Ne.symm hx, Ne.symm hr]

theorem register_fetchRegisters {x r : Nibble}
    (h : (m.fetchRegisters x).register r ≠ m.register r) : r.val ≤ x.val := by
  by_contra hr
  apply h
  refine (Vector.getElem_ofFn r.isLt).trans ?_
  exact if_neg hr

theorem pc_skipIf (m : Machine) (condition : Bool) :
    (m.advance.skipIf condition).pc = if condition then m.pc + 4 else m.pc + 2 := by
  cases condition with
  | false => rfl
  | true =>
    show m.pc + 2 + 2 = m.pc + 4
    rw [UInt16.add_assoc]
    rfl

end Machine

namespace Console

variable {c d : Console} {i : Instruction} {f : Fields}

theorem withMachine_screen (c : Console) (m : Machine) : (c.withMachine m).screen = c.screen :=
  rfl

theorem withMachine_random (c : Console) (m : Machine) : (c.withMachine m).random = c.random :=
  rfl

/-- An instruction changes registers and the program counter, and one more part of the machine at
most. -/
theorem machine_of_execute (h : c.execute i = .ok d) :
    ∃ v pc, d.machine = { c.machine.elsewhere i with v := v, pc := pc } := by
  rw [execute_eq] at h
  cases i with
  | ret =>
    simp only [effect] at h
    split at h <;> cases h
    rename_i back rest hs
    have htail : rest = c.machine.stack.tail := by rw [hs, List.tail_cons]
    rw [htail]
    exact ⟨_, _, rfl⟩
  | call | readDelay | draw =>
    simp only [effect] at h
    split at h <;> cases h
    exact ⟨_, _, rfl⟩
  | alu op x y =>
    cases h
    exact ⟨_, _, Machine.compute_eq _ op x y⟩
  | skipEqByte | skipNeByte | skipEq | skipNe | skipHeld | skipFree =>
    cases h
    exact ⟨_, _, Machine.skipIf_eq _ _⟩
  | _ =>
    cases h
    exact ⟨_, _, rfl⟩

end Console

/-! ## Words -/

namespace Fields

/-- The fields are those of a word of group 15 with the low byte. -/
def IsMisc (f : Fields) (kk : UInt8) : Prop :=
  f.group.val = 15 ∧ f.kk = kk

/-- The fields are those of the word that returns. -/
def IsReturn (f : Fields) : Prop :=
  f.group.val = 0 ∧ f.nnn.val = 0x0EE

/-- The registers that a word may change. -/
inductive Writes (f : Fields) : Nibble → Prop
  /-- A byte, a sum with a byte, or a random byte. -/
  | byte : f.group.val = 6 ∨ f.group.val = 7 ∨ f.group.val = 12 → Writes f f.x
  /-- The result of a computation. -/
  | result : f.group.val = 8 → f.n.val ≤ 7 ∨ f.n.val = 14 → Writes f f.x
  /-- What a computation with carry, borrow or shift says about its result. -/
  | carry : f.group.val = 8 → 4 ≤ f.n.val ∧ f.n.val ≤ 7 ∨ f.n.val = 14 → Writes f Machine.flag
  /-- Whether a sprite hit a lit pixel. -/
  | collision : f.group.val = 13 → Writes f Machine.flag
  /-- The delay timer. -/
  | timer : f.IsMisc 0x07 → Writes f f.x
  /-- Bytes from memory. -/
  | memory {r : Nibble} : f.IsMisc 0x65 → r.val ≤ f.x.val → Writes f r

end Fields

namespace Machine

variable {m : Machine} {i : Instruction} {f : Fields} (hr : Reads f i)
include hr

theorem index_elsewhere (h : (m.elsewhere i).index ≠ m.index) :
    f.group.val = 10 ∨ f.IsMisc 0x1E ∨ f.IsMisc 0x29 := by
  cases hr with
  | loadIndex hg => exact .inl hg
  | addIndex hg hk => exact .inr (.inl ⟨hg, hk⟩)
  | glyph hg hk => exact .inr (.inr ⟨hg, hk⟩)
  | _ => exact absurd rfl h

theorem stack_elsewhere (h : (m.elsewhere i).stack ≠ m.stack) :
    f.group.val = 2 ∨ f.IsReturn := by
  cases hr with
  | call hg => exact .inl hg
  | ret hg hn => exact .inr ⟨hg, hn⟩
  | _ => exact absurd rfl h

theorem delay_elsewhere (h : (m.elsewhere i).delay ≠ m.delay) : f.IsMisc 0x15 := by
  cases hr with
  | setDelay hg hk => exact ⟨hg, hk⟩
  | _ => exact absurd rfl h

theorem sound_elsewhere (h : (m.elsewhere i).sound ≠ m.sound) : f.IsMisc 0x18 := by
  cases hr with
  | setSound hg hk => exact ⟨hg, hk⟩
  | _ => exact absurd rfl h

theorem paused_elsewhere (h : (m.elsewhere i).paused ≠ m.paused) : f.IsMisc 0x0A := by
  cases hr with
  | awaitKey hg hk => exact ⟨hg, hk⟩
  | _ => exact absurd rfl h

end Machine

namespace Console

/-- The condition of a skip holds. -/
def skips (c : Console) (f : Fields) : Bool :=
  match f.group.val with
  | 3 => c.machine.register f.x == f.kk
  | 4 => c.machine.register f.x != f.kk
  | 5 => c.machine.register f.x == c.machine.register f.y
  | 9 => c.machine.register f.x != c.machine.register f.y
  | 14 =>
    f.kk == 0x9E && c.keypad.isHeld (c.machine.register f.x).toNat ||
      f.kk == 0xA1 && !c.keypad.isHeld (c.machine.register f.x).toNat
  | _ => false

/-- Where a word sends the program counter, if it does not return. -/
def nextPc (c : Console) (f : Fields) : UInt16 :=
  match f.group.val with
  | 1 | 2 => UInt16.ofNat f.nnn.val
  | 11 => UInt16.ofNat (f.nnn.val + (c.machine.register 0).toNat)
  | _ => if c.skips f then c.machine.pc + 4 else c.machine.pc + 2

/-- The second console is the first one after a step with the word of these fields: what may have
changed, for which words, and what became of the program counter, the stack and the random bytes. -/
structure Footprint (f : Fields) (c d : Console) : Prop where
  memory : ∀ a, d.machine.memory.read a ≠ c.machine.memory.read a →
    ∃ k : Nat, SameCell a (c.machine.index.toNat + k) ∧
      (f.IsMisc 0x33 ∧ k ≤ 2 ∨ f.IsMisc 0x55 ∧ k ≤ f.x.val)
  registers : ∀ r, d.machine.register r ≠ c.machine.register r → f.Writes r
  index : d.machine.index ≠ c.machine.index →
    f.group.val = 10 ∨ f.IsMisc 0x1E ∨ f.IsMisc 0x29
  stack : d.machine.stack ≠ c.machine.stack → f.group.val = 2 ∨ f.IsReturn
  pushed : f.group.val = 2 →
    d.machine.stack = ((c.machine.pc + 2).toNat : Int) :: c.machine.stack
  popped : f.IsReturn → ∃ back,
    c.machine.stack = back :: d.machine.stack ∧ d.machine.pc = wordOfInt back
  pc : ¬ f.IsReturn → d.machine.pc = c.nextPc f
  delay : d.machine.delay ≠ c.machine.delay → f.IsMisc 0x15
  sound : d.machine.sound ≠ c.machine.sound → f.IsMisc 0x18
  paused : d.machine.paused ≠ c.machine.paused → f.IsMisc 0x0A
  latch : d.keypad.latch ≠ c.keypad.latch → f.IsMisc 0x0A
  screen : d.screen ≠ c.screen → f.group.val = 0 ∧ f.nnn.val = 0x0E0 ∨ f.group.val = 13
  pixels : c.screen.Redrawn d.screen
  random : d.random = if f.group.val = 12 then c.random.tail else c.random
  others : d = { c with
    machine := d.machine
    screen := d.screen
    keypad := { c.keypad with latch := d.keypad.latch }
    random := d.random
    cycles := c.cycles + 1
    trace := c.fetchRecord ++ c.trace }

section Executing

variable {c d : Console} {i : Instruction} {f : Fields}
  (hr : Reads f i) (h : c.execute i = .ok d)
include hr h

theorem memory_of_execute {a : Int} (ha : d.machine.memory.read a ≠ c.machine.memory.read a) :
    ∃ k : Nat, SameCell a (c.machine.index.toNat + k) ∧
      (f.IsMisc 0x33 ∧ k ≤ 2 ∨ f.IsMisc 0x55 ∧ k ≤ f.x.val) := by
  obtain ⟨v, pc, hm⟩ := machine_of_execute h
  rw [hm] at ha
  cases hr with
  | digits hg hk =>
    obtain ⟨k, hlt, hcell⟩ := (Memory.read_load _ _ _ _).resolve_left ha
    exact ⟨k, hcell, .inl ⟨⟨hg, hk⟩, Nat.le_of_lt_succ hlt⟩⟩
  | store hg hk =>
    obtain ⟨k, hlt, hcell⟩ := (Memory.read_load _ _ _ _).resolve_left ha
    rw [List.length_take] at hlt
    exact ⟨k, hcell, .inr ⟨⟨hg, hk⟩, by omega⟩⟩
  | _ => exact absurd rfl ha

theorem register_of_execute {r : Nibble}
    (hv : d.machine.register r ≠ c.machine.register r) : f.Writes r := by
  rw [execute_eq] at h
  cases hr with
  | loadByte hg =>
    cases h
    obtain rfl := Machine.register_setRegister_ne hv
    exact .byte (.inl hg)
  | addByte hg =>
    cases h
    obtain rfl := Machine.register_setRegister_ne hv
    exact .byte (.inr (.inl hg))
  | random hg =>
    cases h
    obtain rfl := Machine.register_setRegister_ne hv
    exact .byte (.inr (.inr hg))
  | @alu op hg hn =>
    cases h
    rcases Machine.register_compute hv with rfl | ⟨rfl, hflag⟩
    · exact .result hg (by cases op <;> simp [hn, AluOp.code])
    · exact .carry hg (by cases op <;> first | exact absurd rfl hflag | simp [hn, AluOp.code])
  | draw hg =>
    simp only [effect] at h
    split at h <;> cases h
    obtain rfl := Machine.register_setRegister_ne hv
    exact .collision hg
  | readDelay hg hk =>
    simp only [effect] at h
    split at h <;> cases h
    obtain rfl := Machine.register_setRegister_ne hv
    exact .timer ⟨hg, hk⟩
  | fetch hg hk =>
    cases h
    exact .memory ⟨hg, hk⟩ (Machine.register_fetchRegisters hv)
  | ret | call =>
    simp only [effect] at h
    split at h <;> cases h
    exact absurd rfl hv
  | skipEqByte | skipNeByte | skipEq | skipNe | skipHeld | skipFree =>
    cases h
    refine absurd ?_ hv
    show (Machine.skipIf _ _).register r = _
    rw [Machine.skipIf_eq]
    rfl
  | _ =>
    cases h
    exact absurd rfl hv

theorem random_of_execute : d.random = if f.group.val = 12 then c.random.tail else c.random := by
  rw [execute_eq] at h
  cases hr with
  | random hg =>
    cases h
    exact (if_pos hg).symm
  | ret hg | call hg | draw hg | readDelay hg =>
    simp only [effect] at h
    split at h <;> cases h
    exact (if_neg (by omega)).symm
  | fetch hg =>
    cases h
    rw [withMachine_random, if_neg (by omega)]
  | _ hg =>
    cases h
    exact (if_neg (by omega)).symm

theorem screen_of_execute (hs : d.screen ≠ c.screen) :
    f.group.val = 0 ∧ f.nnn.val = 0x0E0 ∨ f.group.val = 13 := by
  rw [execute_eq] at h
  cases hr with
  | clear hg hn => exact .inl ⟨hg, hn⟩
  | draw hg => exact .inr hg
  | ret | call | readDelay =>
    simp only [effect] at h
    split at h <;> cases h
    exact absurd rfl hs
  | fetch =>
    cases h
    exact absurd (withMachine_screen _ _) hs
  | _ =>
    cases h
    exact absurd rfl hs

end Executing

/-- The program counter after a word that does not return. -/
theorem pc_of_execute {c d : Console} {i : Instruction} {f : Fields} (hr : Reads f i)
    (h : c.fetched.execute i = .ok d) (hret : ¬ f.IsReturn) : d.machine.pc = c.nextPc f := by
  rw [fetched_eq, execute_eq] at h
  cases hr with
  | ret hg hn => exact absurd ⟨hg, hn⟩ hret
  | call hg =>
    simp only [effect] at h
    split at h <;> cases h
    simp only [nextPc, hg]
    rfl
  | draw hg | readDelay hg =>
    simp only [effect] at h
    split at h <;> cases h
    simp only [nextPc, skips, hg]
    rfl
  | skipEqByte hg | skipNeByte hg | skipEq hg | skipNe hg =>
    cases h
    simp only [nextPc, skips, hg]
    exact Machine.pc_skipIf _ _
  | skipHeld hg hk =>
    cases h
    have hskips : c.skips f = c.keypad.isHeld (c.machine.register f.x).toNat := by
      simp [skips, hg, hk]
    simp only [nextPc, hg, hskips]
    exact Machine.pc_skipIf _ _
  | skipFree hg hk =>
    cases h
    have hskips : c.skips f = !c.keypad.isHeld (c.machine.register f.x).toNat := by
      simp [skips, hg, hk]
    simp only [nextPc, hg, hskips]
    exact Machine.pc_skipIf _ _
  | alu hg =>
    cases h
    simp only [nextPc, skips, hg]
    show (Machine.compute _ _ _ _).pc = _
    rw [Machine.compute_eq]
    rfl
  | _ hg =>
    cases h
    simp only [nextPc, skips, hg]
    rfl

/-- What a call leaves on the stack: the address behind it, and below that the entries from
before. -/
theorem pushed_of_execute {c d : Console} {i : Instruction} {f : Fields} (hr : Reads f i)
    (h : c.execute i = .ok d) (hcall : f.group.val = 2) :
    d.machine.stack = (c.machine.pc.toNat : Int) :: c.machine.stack := by
  obtain ⟨v, pc, hm⟩ := machine_of_execute h
  rw [hm]
  cases hr with
  | call => rfl
  | _ hg => omega

theorem latch_of_execute {c d : Console} {i : Instruction} {f : Fields} (hr : Reads f i)
    (h : c.execute i = .ok d) (hl : d.keypad.latch ≠ c.keypad.latch) : f.IsMisc 0x0A := by
  rcases waiting_of_execute h with ⟨x, rfl, -⟩ | ⟨-, -, hkeypad⟩
  · cases hr with
    | awaitKey hg hk => exact ⟨hg, hk⟩
  · exact absurd (congrArg Keypad.latch hkeypad) hl

/-- What a return leaves: it takes the newest entry off the stack and goes there. -/
theorem popped_of_execute {c d : Console} {i : Instruction} {f : Fields} (hr : Reads f i)
    (h : c.execute i = .ok d) (hret : f.IsReturn) :
    ∃ back, c.machine.stack = back :: d.machine.stack ∧ d.machine.pc = wordOfInt back := by
  rw [execute_eq] at h
  obtain ⟨hgroup, hword⟩ := hret
  cases hr with
  | ret =>
    simp only [effect] at h
    split at h <;> cases h
    rename_i back rest hs
    exact ⟨back, hs, rfl⟩
  | clear _ hn => omega
  | sys _ _ hn => omega
  | _ hg => omega

/-! ## Steps -/

/-- An executed instruction stays within the footprint of its word. -/
theorem footprint_of_execute {c d : Console} {i : Instruction} {f : Fields} (hr : Reads f i)
    (h : c.fetched.execute i = .ok d) : Footprint f c { d with cycles := d.cycles + 1 } := by
  have hpc := pc_of_execute hr h
  rw [fetched_eq] at h
  have hpushed := pushed_of_execute hr h
  have hpopped := popped_of_execute hr h
  have hlatch := latch_of_execute hr h
  have hscreen := screen_of_execute hr h
  have hrandom := random_of_execute hr h
  obtain ⟨v, pc, hm⟩ := machine_of_execute h
  obtain ⟨hpixels, hothers⟩ : c.screen.Redrawn d.screen ∧ d = { c with
      machine := d.machine
      screen := d.screen
      keypad := { c.keypad with latch := d.keypad.latch }
      random := d.random
      trace := c.fetchRecord ++ c.trace } := by
    obtain ⟨_, _, _, _, hs, rfl⟩ := withinReach_of_execute h
    exact ⟨hs, rfl⟩
  exact
    { memory := fun a => memory_of_execute hr h
      registers := fun r => register_of_execute hr h
      index := fun hi => Machine.index_elsewhere hr (hm ▸ hi)
      stack := fun hs => Machine.stack_elsewhere hr (hm ▸ hs)
      pushed := hpushed
      popped := hpopped
      pc := hpc
      delay := fun ht => Machine.delay_elsewhere hr (hm ▸ ht)
      sound := fun ht => Machine.sound_elsewhere hr (hm ▸ ht)
      paused := fun hp => Machine.paused_elsewhere hr (hm ▸ hp)
      latch := hlatch
      screen := hscreen
      pixels := hpixels
      random := hrandom
      others := by rw [hothers] }

/-- Every step that executes an instruction stays within the footprint of the word it fetched. -/
theorem step_footprint {c d : Console} (h : c.step = (d, .ok true)) :
    Footprint (Fields.ofWord c.nextWord) c d := by
  cases stepped_of_eq h with
  | executed _ _ hi hd => exact footprint_of_execute (reads_of_decode? hi) hd

/-- A console about to store two registers at the very end of memory. -/
def aboutToStore : Console :=
  (new (Screen.blank 64 32) (.ofArray #[]) (.number 10) 440).after
    [.loadRom [0xAF, 0xFF, 0x61, 0x05, 0xF1, 0x55], .step, .step]

theorem step_footprint_across_end :
    ∃ d, aboutToStore.step = (d, .ok true) ∧ Footprint (Fields.ofWord 0xF155) aboutToStore d ∧
      d.machine.memory.read 0 = 5 ∧ aboutToStore.machine.memory.read 0 = 0xF0 ∧
        ∀ a, 1 ≤ a → a < 0xFFF →
          d.machine.memory.read a = aboutToStore.machine.memory.read a := by
  have hword : aboutToStore.nextWord = 0xF155 := by decide +kernel
  have hindex : aboutToStore.machine.index.toNat = 0xFFF := by decide +kernel
  have hstep : aboutToStore.step = _ :=
    step_of_executed (i := .store 1) (by decide +kernel) (by decide +kernel) (by decide +kernel) rfl
  have hprint := step_footprint hstep
  rw [hword] at hprint
  refine ⟨_, hstep, hprint, by decide +kernel, by decide +kernel, ?_⟩
  intro a hlow hhigh
  by_contra hne
  obtain ⟨k, hcell, ⟨hmisc, -⟩ | ⟨-, hk⟩⟩ := hprint.memory a hne
  · exact absurd hmisc.2 (by decide)
  · have hx : k ≤ 1 := hk
    rw [hindex] at hcell
    unfold SameCell at hcell
    omega

end Console

end ChipEight
