/-
# ChipEight.Proofs.Mirror -- addresses that name one cell

The program counter and the index register have sixteen bits, but memory has twelve bits of
addresses: it shows up sixteen times in the address space, each time the same. `SameCell` says of two
addresses that they name one cell. `Mirrors` says of two consoles that they differ only in which
of the sixteen pictures of memory their addresses lie in: program counter, index register and the
addresses on the stack name the same cells, and all else is equal but for what is remembered of
earlier addresses, the fault and the record of fetches.

No program can tell two such consoles apart. Words are read and written through the cell of their
address, a jump goes to the same address from anywhere, and advancing, skipping and adding to the
index register keep two addresses on one cell, because the sixteen bits are a whole number of
pictures. `mirrors_simulation` puts this together, and `mirrors_folded` says that twelve bits would
have been enough.
-/
import ChipEight.Proofs.Simulation

namespace ChipEight

/-! ## Addresses -/

/-- The two addresses name one cell. -/
def SameCell (a b : Int) : Prop :=
  a % 4096 = b % 4096

namespace SameCell

@[refl] theorem refl (a : Int) : SameCell a a :=
  rfl

theorem add {a b : Int} (h : SameCell a b) (n : Int) : SameCell (a + n) (b + n) := by
  unfold SameCell at *
  omega

/-- Sixteen bits hold a whole number of pictures of memory. -/
theorem of_wordOfInt (a : Int) : SameCell a (wordOfInt a).toNat := by
  unfold SameCell
  simp only [wordOfInt, UInt16.toNat_ofNat']
  omega

theorem sub {a b : Int} (h : SameCell a b) (n : Int) : SameCell (a - n) (b - n) :=
  h.add (-n)

theorem word {a b : Int} (h : SameCell a b) :
    SameCell (wordOfInt a).toNat (wordOfInt b).toNat :=
  (of_wordOfInt a).symm.trans (h.trans (of_wordOfInt b))

theorem addWord {a b : UInt16} (h : SameCell a.toNat b.toNat) (n : UInt16) :
    SameCell (a + n).toNat (b + n).toNat := by
  unfold SameCell at *
  simp only [UInt16.toNat_add]
  omega

end SameCell

namespace Memory

variable {a b : Int} (m : Memory) (h : SameCell a b)
include h

theorem readWord_congr : m.readWord a = m.readWord b := by
  unfold readWord
  rw [m.read_congr h, m.read_congr (h.add 1)]

theorem write_congr (v : UInt8) : m.write a v = m.write b v := by
  simp only [write, (cell_eq_iff a b).mpr h]

theorem load_congr (image : List UInt8) : m.load a image = m.load b image := by
  induction image generalizing m a b with
  | nil => rfl
  | cons v image ih =>
    unfold load
    rw [m.write_congr h v]
    exact ih _ (h.add 1)

end Memory

/-! ## Machines -/

namespace Machine

/-- The machines differ only in addresses, and their addresses name the same cells. -/
def Mirrors (m n : Machine) : Prop :=
  ∃ pc index stack,
    SameCell m.pc.toNat pc.toNat ∧ SameCell m.index.toNat index.toNat ∧
      List.Forall₂ SameCell m.stack stack ∧
        n = { m with pc := pc, index := index, stack := stack }

theorem Mirrors.refl (m : Machine) : m.Mirrors m :=
  ⟨m.pc, m.index, m.stack, rfl, rfl, List.forall₂_same.mpr fun _ _ => rfl, rfl⟩

theorem Mirrors.load {m n : Machine} (h : m.Mirrors n) (image : List UInt8) (address : Int) :
    (m.load image address).Mirrors (n.load image address) := by
  obtain ⟨pc, index, stack, hpc, hindex, hstack, rfl⟩ := h
  exact ⟨pc, index, stack, hpc, hindex, hstack, rfl⟩

theorem Mirrors.advance {m n : Machine} (h : m.Mirrors n) : m.advance.Mirrors n.advance := by
  obtain ⟨pc, index, stack, hpc, hindex, hstack, rfl⟩ := h
  exact ⟨pc + 2, index, stack, hpc.addWord 2, hindex, hstack, rfl⟩

theorem Mirrors.skipIf {m n : Machine} (h : m.Mirrors n) (condition : Bool) :
    (m.skipIf condition).Mirrors (n.skipIf condition) := by
  cases condition with
  | false => exact h
  | true => exact h.advance

theorem Mirrors.compute {m n : Machine} (h : m.Mirrors n) (op : AluOp) (x y : Nibble) :
    (m.compute op x y).Mirrors (n.compute op x y) := by
  obtain ⟨pc, index, stack, hpc, hindex, hstack, rfl⟩ := h
  cases op <;> exact ⟨pc, index, stack, hpc, hindex, hstack, rfl⟩

theorem Mirrors.loadAtIndex {m n : Machine} (h : m.Mirrors n) (image : List UInt8) :
    (m.load image m.index.toNat).Mirrors (n.load image n.index.toNat) := by
  obtain ⟨pc, index, stack, hpc, hindex, hstack, rfl⟩ := h
  refine ⟨pc, index, stack, hpc, hindex, hstack, ?_⟩
  unfold Machine.load
  rw [m.memory.load_congr hindex]

theorem Mirrors.fetchRegisters {m n : Machine} (h : m.Mirrors n) (x : Nibble) :
    (m.fetchRegisters x).Mirrors (n.fetchRegisters x) := by
  obtain ⟨pc, index, stack, hpc, hindex, hstack, rfl⟩ := h
  unfold Machine.fetchRegisters
  simp only [m.memory.read_congr (hindex.add _)]
  exact ⟨pc, index, stack, hpc, hindex, hstack, rfl⟩

end Machine

/-! ## Consoles -/

/-- The same mistake in the same word, at addresses that name one cell. -/
inductive Fault.Alike : Fault → Fault → Prop
  | unknownInstruction (word : UInt16) {a b : Int} : SameCell a b →
      Alike (.unknownInstruction word a) (.unknownInstruction word b)
  | emptyStack {a b : Int} : SameCell a b → Alike (.emptyStack a) (.emptyStack b)
  | fullStack {a b : Int} : SameCell a b → Alike (.fullStack a) (.fullStack b)

/-- The same reason; if it is a fault, then for addresses that name one cell. -/
inductive Stop.Alike : Stop → Stop → Prop
  | fault {f g : Fault} : f.Alike g → Alike (.fault f) (.fault g)
  | other {e : Stop} : (∀ f, e ≠ .fault f) → Alike e e

theorem Fault.Alike.refl (f : Fault) : f.Alike f := by
  cases f with
  | unknownInstruction word a => exact .unknownInstruction word rfl
  | emptyStack a => exact .emptyStack rfl
  | fullStack a => exact .fullStack rfl

theorem Stop.Alike.refl (e : Stop) : e.Alike e := by
  cases e with
  | fault f => exact .fault (.refl f)
  | _ => exact .other nofun

namespace Console

/-- The consoles differ only in addresses, in their fault and in their record, and the addresses of
their machines name the same cells. -/
def Mirrors (c d : Console) : Prop :=
  ∃ machine fault trace, c.machine.Mirrors machine ∧
    d = { c with machine := machine, fault := fault, trace := trace }

variable {c d : Console}

theorem Mirrors.withMachine {m n : Machine} (h : c.Mirrors d) (hm : m.Mirrors n) :
    (c.withMachine m).Mirrors (d.withMachine n) := by
  obtain ⟨_, fault, trace, -, rfl⟩ := h
  exact ⟨n, fault, trace, hm, rfl⟩

theorem Mirrors.halted_eq (h : c.Mirrors d) : d.halted = c.halted := by
  obtain ⟨_, fault, trace, -, rfl⟩ := h
  rfl

theorem Mirrors.paused_eq (h : c.Mirrors d) : d.machine.paused = c.machine.paused := by
  obtain ⟨_, fault, trace, ⟨pc, index, stack, -, -, -, rfl⟩, rfl⟩ := h
  rfl

theorem Mirrors.sameCell_pc (h : c.Mirrors d) :
    SameCell c.machine.pc.toNat d.machine.pc.toNat := by
  obtain ⟨_, fault, trace, ⟨pc, index, stack, hpc, -, -, rfl⟩, rfl⟩ := h
  exact hpc

theorem Mirrors.nextWord_eq (h : c.Mirrors d) : c.nextWord = d.nextWord := by
  obtain ⟨_, fault, trace, ⟨pc, index, stack, hpc, hindex, hstack, rfl⟩, rfl⟩ := h
  exact c.machine.memory.readWord_congr hpc

theorem Mirrors.fetched (h : c.Mirrors d) : c.fetched.Mirrors d.fetched := by
  rw [fetched_eq, fetched_eq]
  obtain ⟨machine, fault, trace, hm, rfl⟩ := h
  exact ⟨machine.advance, fault, _, hm.advance, rfl⟩

theorem Mirrors.haltAt {a b : UInt16} (h : c.Mirrors d) (hab : SameCell a.toNat b.toNat)
    (f g : Fault) : (c.haltAt a f).Mirrors (d.haltAt b g) := by
  obtain ⟨_, fault, trace, ⟨pc, index, stack, hpc, hindex, hstack, rfl⟩, rfl⟩ := h
  exact ⟨_, some g, trace, ⟨b, index, stack, hab, hindex, hstack, rfl⟩, rfl⟩

/-- An instruction does the same on both consoles, or is refused for the same reason. -/
theorem Mirrors.execute (h : c.Mirrors d) (i : Instruction) :
    Matching Stop.Alike Mirrors (c.execute i) (d.execute i) := by
  rw [execute_eq, execute_eq]
  obtain ⟨_, fault, trace, ⟨pc, index, stack, hpc, hindex, hstack, rfl⟩, rfl⟩ := id h
  -- what most instructions do: the addresses stay, all else is the same on both
  have same {v : Vector UInt8 16} {memory : Memory} {delay sound : Int} {paused : Bool} :
      Machine.Mirrors
        { c.machine with
          v := v, memory := memory, delay := delay, sound := sound, paused := paused }
        { c.machine with
          pc := pc, index := index, stack := stack
          v := v, memory := memory, delay := delay, sound := sound, paused := paused } :=
    ⟨pc, index, stack, hpc, hindex, hstack, rfl⟩
  cases i with
  | clear | sys => exact .ok ⟨_, fault, trace, same, rfl⟩
  | ret =>
    simp only [effect]
    cases hc : c.machine.stack with
    | nil =>
      rw [hc] at hstack
      cases hstack
      exact .error (.fault (.emptyStack (hpc.sub 2)))
    | cons back rest =>
      rw [hc] at hstack
      cases hstack with
      | cons hback hrest => exact .ok (h.withMachine ⟨_, index, _, hback.word, hindex, hrest, rfl⟩)
  | jump target => exact .ok (h.withMachine ⟨_, index, stack, rfl, hindex, hstack, rfl⟩)
  | call target =>
    simp only [effect, ← hstack.length_eq]
    split
    · exact .error (.fault (.fullStack (hpc.sub 2)))
    · exact .ok (h.withMachine ⟨_, index, _, rfl, hindex, .cons hpc hstack, rfl⟩)
  | skipEqByte | skipNeByte | skipEq | skipNe | skipHeld | skipFree =>
    exact .ok (h.withMachine (Machine.Mirrors.skipIf same _))
  | loadByte | addByte => exact .ok (h.withMachine same)
  | alu op x y =>
    exact .ok (h.withMachine (Machine.Mirrors.compute same op x y))
  | loadIndex target => exact .ok (h.withMachine ⟨pc, _, stack, hpc, rfl, hstack, rfl⟩)
  | jumpFrom target => exact .ok (h.withMachine ⟨_, index, stack, rfl, hindex, hstack, rfl⟩)
  | random x kk => exact .ok ⟨_, fault, trace, same, rfl⟩
  | draw x y n =>
    -- both consoles draw the same sprite at the same place of the same screen
    have hregister (z : Nibble) : Machine.register { c.machine with
        pc := pc, index := index, stack := stack } z = c.machine.register z := rfl
    simp only [effect, hregister, ← c.machine.memory.slice_congr hindex]
    cases c.screen.draw? (c.machine.register x).toNat (c.machine.register y).toNat
        (c.machine.memory.slice c.machine.index.toNat n.val) with
    | none => exact .error (.refl _)
    | some drawn => exact .ok ⟨_, fault, trace, same, rfl⟩
  | readDelay x =>
    simp only [effect]
    split
    · exact .ok (h.withMachine same)
    · exact .error (.refl _)
  | awaitKey x => exact .ok ⟨_, fault, trace, same, rfl⟩
  | setDelay | setSound => exact .ok (h.withMachine same)
  | addIndex x =>
    exact .ok (h.withMachine ⟨pc, _, stack, hpc, hindex.addWord _, hstack, rfl⟩)
  | glyph x => exact .ok (h.withMachine ⟨pc, _, stack, hpc, rfl, hstack, rfl⟩)
  | digits | store =>
    exact .ok (h.withMachine (Machine.Mirrors.loadAtIndex
      ⟨pc, index, stack, hpc, hindex, hstack, rfl⟩ _))
  | fetch x =>
    exact .ok (h.withMachine (Machine.Mirrors.fetchRegisters
      ⟨pc, index, stack, hpc, hindex, hstack, rfl⟩ x))

/-! ## Steps and histories -/

theorem respectsFaults_alike : RespectsFaults Stop.Alike := by
  rintro _ _ (h | h)
  · exact iff_of_true ⟨_, rfl⟩ ⟨_, rfl⟩
  · exact Iff.rfl

theorem Mirrors.countCycle (h : c.Mirrors d) :
    { c with cycles := c.cycles + 1 }.Mirrors { d with cycles := d.cycles + 1 } := by
  obtain ⟨machine, fault, trace, hm, rfl⟩ := h
  exact ⟨machine, fault, trace, hm, rfl⟩

/-- A step gives the same answer on both consoles. A fault names the address of the fetch, so it
names one cell on both. -/
theorem Mirrors.step (h : c.Mirrors d) : Matched Mirrors Stop.Alike c.step d.step :=
  matched_step .refl respectsFaults_alike h h.halted_eq h.paused_eq h.nextWord_eq.symm
    (.fault (.unknownInstruction _ h.sameCell_pc)) (fun hab _ => hab.haltAt h.sameCell_pc _ _)
    h.fetched (fun i => h.fetched.execute i) Mirrors.countCycle

theorem Mirrors.press (h : c.Mirrors d) (key : Int) :
    (c.pressKey key).Mirrors (d.pressKey key) := by
  obtain ⟨_, fault, trace, ⟨pc, index, stack, hpc, hindex, hstack, rfl⟩, rfl⟩ := h
  unfold pressKey
  -- whether the integer names a key, and whether a register waits for it, is the same on both
  cases Keypad.key? key with
  | none => exact ⟨_, fault, trace, ⟨pc, index, stack, hpc, hindex, hstack, rfl⟩, rfl⟩
  | some k =>
    cases hl : c.keypad.latch with
    | none | some =>
      simp only [Keypad.press, hl]
      exact ⟨_, fault, trace, ⟨pc, index, stack, hpc, hindex, hstack, rfl⟩, rfl⟩

theorem Mirrors.release (h : c.Mirrors d) (key : Int) :
    (c.releaseKey key).Mirrors (d.releaseKey key) := by
  obtain ⟨machine, fault, trace, hm, rfl⟩ := h
  unfold releaseKey
  cases Keypad.key? key with
  | none => exact ⟨machine, fault, trace, hm, rfl⟩
  | some k => exact ⟨machine, fault, trace, hm, rfl⟩

/-- No use of two consoles tells apart in which picture of memory their addresses lie. -/
theorem mirrors_simulation : Simulation Mirrors Stop.Alike where
  refl := .refl
  halted h := h.halted_eq
  paused h := h.paused_eq
  speed h := by
    obtain ⟨_, fault, trace, -, rfl⟩ := h
    rfl
  step h := h.step
  endBatch h := by
    obtain ⟨_, fault, trace, ⟨pc, index, stack, hpc, hindex, hstack, rfl⟩, rfl⟩ := h
    exact ⟨_, fault, trace, ⟨pc, index, stack, hpc, hindex, hstack, rfl⟩, rfl⟩
  countFrame h := by
    obtain ⟨machine, fault, trace, hm, rfl⟩ := h
    exact ⟨machine, fault, trace, hm, rfl⟩
  putRom image h := by
    obtain ⟨machine, fault, trace, hm, rfl⟩ := h
    exact ⟨_, fault, trace, hm.load image _, rfl⟩
  loadProgram image address h := by
    obtain ⟨machine, fault, trace, hm, rfl⟩ := h
    exact ⟨_, fault, trace, hm.load image address, rfl⟩
  press key h := h.press key
  release key h := h.release key
  resetProcessor h := by
    obtain ⟨_, fault, trace, -, rfl⟩ := h
    exact ⟨_, none, trace, .refl _, rfl⟩
  reset h := by
    obtain ⟨_, fault, trace, -, rfl⟩ := h
    exact ⟨_, none, trace, .refl _, rfl⟩

/-- Two consoles whose addresses name the same cells give the same answer to a step, up to the
address of a fault, and they do so after any history, in all of its operations. -/
theorem mirrors_after {c d : Console} (h : c.Mirrors d) :
    Matched Mirrors Stop.Alike c.step d.step ∧
      ∀ ops, List.Forall₂ (AnswersMatch Stop.Alike) (c.answers ops) (d.answers ops) ∧
        (c.after ops).Mirrors (d.after ops) :=
  ⟨h.step, fun ops => mirrors_simulation.after h ops⟩

/-- The console with its addresses moved into the first picture of memory. -/
def folded (c : Console) : Console :=
  c.withMachine { c.machine with
    pc := c.machine.pc % 4096
    index := c.machine.index % 4096
    stack := c.machine.stack.map (· % 4096) }

/-- Twelve bits are enough for every address that a console keeps. -/
theorem mirrors_folded (c : Console) : c.Mirrors c.folded := by
  have hword (a : UInt16) : SameCell a.toNat (a % 4096).toNat := by
    unfold SameCell
    simp only [UInt16.toNat_mod]
    exact (Int.emod_emod _ _).symm
  refine ⟨_, c.fault, c.trace, ⟨_, _, _, hword _, hword _, ?_, rfl⟩, rfl⟩
  exact List.forall₂_map_right_iff.mpr
    (List.forall₂_same.mpr fun a _ => (Int.emod_emod _ _).symm)

/-- A console whose addresses lie in the last pictures of memory. Its program puts two registers
into the last and the first cell, returns and waits for a key. -/
def inLastPicture : Console :=
  let c := Console.standard (.ofArray #[]) (.number 10)
  c.withMachine { (c.machine.load [0xF1, 0x55, 0x00, 0xEE] 0x200).load [0xF0, 0x0A] 0x300 with
    pc := 0xF200, index := 0xFFFF, stack := [0xE300] }

theorem mirrors_after_in_last_picture :
    let ops : List Operation := [.runCycles 10, .press 5, .step]
    inLastPicture.Mirrors inLastPicture.folded ∧
      (inLastPicture.after ops).Mirrors (inLastPicture.folded.after ops) ∧
        (inLastPicture.after ops).machine.pc = 0xE304 ∧
          (inLastPicture.folded.after ops).machine.pc = 0x0304 := by
  have h := mirrors_folded inLastPicture
  exact ⟨h, ((mirrors_after h).2 _).2, by decide +kernel, by decide +kernel⟩

end Console

end ChipEight
