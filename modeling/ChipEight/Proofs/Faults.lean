/-
# ChipEight.Proofs.Faults -- what a fault leaves behind, and where it says it was

A step that meets a fault has already moved the program counter, and may already have recorded its
fetch and run its handler up to the point where it stopped. This module says what is left of that: the
record, if the console is traced, and nothing else. The machine, the screen, the keypad, the buzzer and
the random bytes are those from before the step. The program counter is put back by the step itself;
that the handler has not written anything before it stopped is `unwritten_of_error`.

A fault names an address, and there are two ways to it. A word that is no instruction is named with
the address it was fetched from. A fault of the stack reckons two back from the program counter, which
has started over at zero if the word stood at the very end of the address space; there, and only
there, the two ways part (`address_of_fault`).
-/
import ChipEight.Proofs.Ranges

namespace ChipEight.Console

/-- A handler that stops early leaves the console as it found it, whatever the reason. So a step that
meets a fault changes nothing but the halt, the fault and the record. A halted console refuses a step
and is left as it was. -/
theorem step_fault_atomic (c : Console) :
    (∀ i e d, c.handle i = (.error e, d) → d = c) ∧
      (∀ d f, c.step = (d, .error (.fault f)) →
        ∃ seen : List Fetch,
          (seen = [] ∨ c.tracing = true ∧ seen = [⟨c.machine.pc, c.nextWord⟩]) ∧
            d = { c with halted := true, fault := some f, trace := seen ++ c.trace }) ∧
      (c.halted = true → c.step = (c, .error .halted)) := by
  refine ⟨fun _ _ _ => unwritten_of_error, ?_, step_of_halted⟩
  intro d f h
  cases stepped_of_eq h with
  | unknown =>
    -- the word is looked up before it is recorded, so the record is left alone as well
    exact ⟨[], .inl rfl, rfl⟩
  | faulted =>
    refine ⟨c.fetchRecord, ?_, haltAt_fetched c f⟩
    unfold fetchRecord
    by_cases ht : c.tracing = true
    · rw [if_pos ht]
      exact .inr ⟨ht, rfl⟩
    · rw [if_neg ht]
      exact .inl rfl
  | refused _ _ _ _ hno => exact absurd rfl (hno f)

/-- A console whose program counter stands on the last cell of the address space, where a return
starts that ends in the first cell. -/
def atReturnAcrossEnd : Console :=
  let c := Console.standard (.ofArray #[]) (.number 10)
  c.withMachine { c.machine.load [0x00, 0xEE] 0xFFFF with pc := 0xFFFF }

theorem step_fault_atomic_across_end :
    atReturnAcrossEnd.step.2 = .error (.fault (.emptyStack (-1))) ∧
      atReturnAcrossEnd.step.1.machine = atReturnAcrossEnd.machine ∧
      (atReturnAcrossEnd.handle .ret).1 = .error (.fault (.emptyStack 65533)) ∧
      (atReturnAcrossEnd.handle .ret).2 = atReturnAcrossEnd := by
  have hi : Instruction.decode? atReturnAcrossEnd.nextWord = some .ret := by decide +kernel
  have h := step_of_fault rfl rfl hi rfl
  have hhandle := handle_of_refused (atReturnAcrossEnd.execute_eq .ret)
  obtain ⟨hkept, hfault, -⟩ := step_fault_atomic atReturnAcrossEnd
  obtain ⟨seen, -, hd⟩ := hfault _ _ h
  rw [h]
  exact ⟨rfl, (congrArg machine hd).trans rfl, congrArg Prod.fst hhandle, hkept .ret _ _ rfl⟩

/-! ## The address of a fault -/

/-- What is left if two is taken from the program counter behind an instruction. -/
theorem pc_advance_sub_two (m : Machine) :
    (m.advance.pc.toNat : Int) - 2 =
      if m.pc.toNat < 0xFFFE then (m.pc.toNat : Int) else m.pc.toNat - 0x10000 := by
  have hadvance : m.advance.pc.toNat = (m.pc.toNat + 2) % 65536 := UInt16.toNat_add m.pc 2
  have := m.pc.toNat_lt
  split <;> omega

/-- After a fault the program counter stands where the word was fetched. If the word is no
instruction, the fault names this address and the word that is stored there, high byte first. A fault
of the stack names this address as well, unless it is one of the last two of the address space: then
it names a number below zero, as far from the address as the address space is long. -/
theorem address_of_fault {c d : Console} {f : Fault} (h : c.step = (d, .error (.fault f))) :
    d.machine.pc = c.machine.pc ∧
      (∀ word address, f = .unknownInstruction word address →
        address = d.machine.pc.toNat ∧
          word.toNat = 256 * (d.machine.memory.read d.machine.pc.toNat).toNat +
            (d.machine.memory.read (d.machine.pc.toNat + 1)).toNat) ∧
      ((∀ word address, f ≠ .unknownInstruction word address) →
        f.address = if d.machine.pc.toNat < 0xFFFE then (d.machine.pc.toNat : Int)
          else d.machine.pc.toNat - 0x10000) := by
  cases stepped_of_eq h with
  | unknown =>
    refine ⟨rfl, ?_, fun hno => absurd rfl (hno _ _)⟩
    rintro _ _ ⟨⟩
    refine ⟨rfl, ?_⟩
    rw [Nat.mul_comm]
    exact wordOf_toNat _ _
  | faulted _ _ _ hr =>
    rw [haltAt_fetched]
    rw [fetched_eq] at hr
    have hstack : f.address = (c.machine.advance.pc.toNat : Int) - 2 ∧
        ∀ word address, f ≠ .unknownInstruction word address := by
      cases hr <;> exact ⟨rfl, nofun⟩
    refine ⟨rfl, fun word address hf => absurd hf (hstack.2 word address), fun _ => ?_⟩
    rw [hstack.1]
    exact pc_advance_sub_two c.machine
  | refused _ _ _ _ hno => exact absurd rfl (hno f)

/-- A console whose program counter stands on the last cell of the address space, where a word starts
that is no instruction and ends in the first cell. -/
def atUnknownAcrossEnd : Console :=
  let c := Console.standard (.ofArray #[]) (.number 10)
  c.withMachine { c.machine.load [0xF0, 0xFF] 0xFFFF with pc := 0xFFFF }

theorem address_of_unknown_across_end :
    ∃ d, atUnknownAcrossEnd.step = (d, .error (.fault (.unknownInstruction 0xF0FF 0xFFFF))) ∧
      d.machine.pc = 0xFFFF := by
  have hword : atUnknownAcrossEnd.nextWord = 0xF0FF := by decide +kernel
  have hstep : atUnknownAcrossEnd.step = _ := step_of_unknown rfl rfl (by decide +kernel)
  rw [hword] at hstep
  exact ⟨_, hstep, (address_of_fault hstep).1⟩

/-- A return without a call on the last cell of the address space: the console is well formed and
neither waits nor is halted, and the fault names the address below zero, which is not where the
program counter stands. -/
theorem address_of_return_across_end :
    atReturnAcrossEnd.WellFormed 64 32 ∧ atReturnAcrossEnd.halted = false ∧
      atReturnAcrossEnd.machine.paused = false ∧
      ∃ d f, atReturnAcrossEnd.step = (d, .error (.fault f)) ∧ d.machine.pc = 0xFFFF ∧
        f.address = -1 ∧ f.address ≠ d.machine.pc.toNat := by
  have hwell : atReturnAcrossEnd.WellFormed 64 32 :=
    ⟨Machine.wellFormed_powerOn.same rfl rfl rfl, rfl, rfl, nofun⟩
  have hi : Instruction.decode? atReturnAcrossEnd.nextWord = some .ret := by decide +kernel
  have hstep := step_of_fault rfl rfl hi rfl
  exact ⟨hwell, rfl, rfl, _, _, hstep, rfl, rfl, by decide +kernel⟩

end ChipEight.Console
