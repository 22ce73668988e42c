/-
# ChipEight.Proofs.Step -- everything that one step can do

`Console.step` has six ways to end, and `Stepped` lists them with what holds in each: the console is
halted, or paused, or the word is no instruction, or the instruction was executed, met a fault or
was refused for another reason. `stepped` says that the list is complete, so a proof about steps is
a case analysis on `Stepped` and never opens `step` itself. The way back are the lemmas
`step_of_...`, one for each ending.

`Refuses` does the same for the instructions that are not executed: there are four of them, and each
says what was missing. Nothing here depends on what an instruction does when it is executed.
-/
import ChipEight.Proofs.Handlers

namespace ChipEight.Console

/-! ## Consoles with another machine or another record -/

@[simp] theorem withMachine_machine (c : Console) (m : Machine) :
    (c.withMachine m).machine = m :=
  rfl

/-- What the next fetch adds to the record. -/
def fetchRecord (c : Console) : List Fetch :=
  if c.tracing then [⟨c.machine.pc, c.nextWord⟩] else []

theorem fetched_eq (c : Console) :
    c.fetched = { c with machine := c.machine.advance, trace := c.fetchRecord ++ c.trace } := by
  unfold fetched record fetchRecord advanced
  show (if c.tracing then _ else _) = _
  split <;> rfl

/-- A halt at the address of the fetch takes the advance of the program counter back. -/
theorem haltAt_fetched (c : Console) (f : Fault) :
    c.fetched.haltAt c.machine.pc f =
      { c with halted := true, fault := some f, trace := c.fetchRecord ++ c.trace } := by
  rw [fetched_eq]
  rfl

/-! ## Instructions that are not executed -/

/-- Every reason for which an instruction is not executed. The console is the one whose program
counter already points behind the instruction. -/
inductive Refuses (c : Console) : Instruction → Stop → Prop
  | emptyStack : c.machine.stack = [] →
      Refuses c .ret (.fault (.emptyStack ((c.machine.pc.toNat : Int) - 2)))
  | fullStack {target : Address} : Machine.stackDepth ≤ c.machine.stack.length →
      Refuses c (.call target) (.fault (.fullStack ((c.machine.pc.toNat : Int) - 2)))
  | noPixels {x y n : Nibble} :
      c.screen.draw? (c.machine.register x).toNat (c.machine.register y).toNat
        (c.machine.memory.slice c.machine.index.toNat n.val) = none →
      Refuses c (.draw x y n) .noPixels
  | notAByte {x : Nibble} : ¬ (0 ≤ c.machine.delay ∧ c.machine.delay < 256) →
      Refuses c (.readDelay x) .notAByte

theorem refuses_of_execute {c : Console} {i : Instruction} {e : Stop}
    (h : c.execute i = .error e) : Refuses c i e := by
  rw [execute_eq] at h
  cases i with
  | ret =>
    simp only [effect] at h
    split at h
    · rename_i hs
      cases h
      exact .emptyStack hs
    · cases h
  | call target =>
    simp only [effect] at h
    split at h
    · rename_i hs
      cases h
      exact .fullStack hs
    · cases h
  | draw x y n =>
    simp only [effect] at h
    split at h
    · rename_i hd
      cases h
      exact .noPixels hd
    · cases h
  | readDelay x =>
    simp only [effect] at h
    split at h
    · cases h
    · rename_i hd
      cases h
      exact .notAByte hd
  | _ => cases h

/-! ## Steps -/

theorem step_of_halted {c : Console} (h : c.halted = true) : c.step = (c, .error .halted) := by
  rw [step, if_pos h]

theorem step_of_paused {c : Console} (hh : c.halted = false) (hp : c.machine.paused = true) :
    c.step = (c, .ok false) := by
  simp only [step, hh, hp, Bool.false_eq_true, if_false, if_true]

theorem step_of_unknown {c : Console} (hh : c.halted = false) (hp : c.machine.paused = false)
    (hi : Instruction.decode? c.nextWord = none) :
    c.step =
      (c.haltAt c.machine.pc (.unknownInstruction c.nextWord c.machine.pc.toNat),
        .error (.fault (.unknownInstruction c.nextWord c.machine.pc.toNat))) := by
  simp only [step, Instruction.find, hh, hp, hi, Bool.false_eq_true, if_false]
  rfl

section Executing

variable {c : Console} {i : Instruction} (hh : c.halted = false) (hp : c.machine.paused = false)
  (hi : Instruction.decode? c.nextWord = some i)
include hh hp hi

theorem step_of_executed {d : Console} (hx : c.fetched.execute i = .ok d) :
    c.step = ({ d with cycles := d.cycles + 1 }, .ok true) := by
  simp only [step, Instruction.find, hh, hp, hi, handle_of_executed hx, Bool.false_eq_true, if_false]

theorem step_of_fault {f : Fault} (hx : c.fetched.execute i = .error (.fault f)) :
    c.step = (c.fetched.haltAt c.machine.pc f, .error (.fault f)) := by
  simp only [step, Instruction.find, hh, hp, hi, handle_of_refused hx, Bool.false_eq_true, if_false]

theorem step_of_refusal {e : Stop} (hx : c.fetched.execute i = .error e)
    (hno : ∀ f, e ≠ .fault f) : c.step = (c.fetched, .error e) := by
  have hhandle := handle_of_refused hx
  cases e with
  | fault f => exact absurd rfl (hno f)
  | _ => simp only [step, Instruction.find, hh, hp, hi, hhandle, Bool.false_eq_true, if_false]

/-- A step ends in a fault if its instruction does. -/
theorem step_fault_iff {f : Fault} :
    c.step.2 = .error (.fault f) ↔ c.fetched.execute i = .error (.fault f) := by
  constructor
  · intro h
    cases hx : c.fetched.execute i with
    | ok d =>
      rw [step_of_executed hh hp hi hx] at h
      cases h
    | error e =>
      by_cases hf : ∃ g, e = .fault g
      · obtain ⟨g, rfl⟩ := hf
        rw [step_of_fault hh hp hi hx] at h
        rw [Except.error.inj h]
      · have hno : ∀ g, e ≠ .fault g := fun g he => hf ⟨g, he⟩
        rw [step_of_refusal hh hp hi hx hno] at h
        exact absurd (Except.error.inj h) (hno f)
  · intro hx
    rw [step_of_fault hh hp hi hx]

end Executing

/-- The six ways in which a step can end: the console afterwards, and the answer. -/
inductive Stepped (c : Console) : Console → Except Stop Bool → Prop
  | halted : c.halted = true → Stepped c c (.error .halted)
  | paused : c.halted = false → c.machine.paused = true → Stepped c c (.ok false)
  | unknown : c.halted = false → c.machine.paused = false →
      Instruction.decode? c.nextWord = none →
      Stepped c
        (c.haltAt c.machine.pc (.unknownInstruction c.nextWord c.machine.pc.toNat))
        (.error (.fault (.unknownInstruction c.nextWord c.machine.pc.toNat)))
  | executed {i : Instruction} {d : Console} : c.halted = false → c.machine.paused = false →
      Instruction.decode? c.nextWord = some i → c.fetched.execute i = .ok d →
      Stepped c { d with cycles := d.cycles + 1 } (.ok true)
  | faulted {i : Instruction} {f : Fault} : c.halted = false → c.machine.paused = false →
      Instruction.decode? c.nextWord = some i → Refuses c.fetched i (.fault f) →
      Stepped c (c.fetched.haltAt c.machine.pc f) (.error (.fault f))
  | refused {i : Instruction} {e : Stop} : c.halted = false → c.machine.paused = false →
      Instruction.decode? c.nextWord = some i → Refuses c.fetched i e →
      (∀ f, e ≠ .fault f) → Stepped c c.fetched (.error e)

/-- Every step ends in one of the six ways. -/
theorem stepped (c : Console) : Stepped c c.step.1 c.step.2 := by
  cases hh : c.halted with
  | true =>
    rw [step_of_halted hh]
    exact .halted hh
  | false =>
    cases hp : c.machine.paused with
    | true =>
      rw [step_of_paused hh hp]
      exact .paused hh hp
    | false =>
      cases hi : Instruction.decode? c.nextWord with
      | none =>
        rw [step_of_unknown hh hp hi]
        exact .unknown hh hp hi
      | some i =>
        cases hx : c.fetched.execute i with
        | ok d =>
          rw [step_of_executed hh hp hi hx]
          exact .executed hh hp hi hx
        | error e =>
          have hr := refuses_of_execute hx
          by_cases hf : ∃ f, e = .fault f
          · obtain ⟨f, rfl⟩ := hf
            rw [step_of_fault hh hp hi hx]
            exact .faulted hh hp hi hr
          · have hno : ∀ f, e ≠ .fault f := fun f he => hf ⟨f, he⟩
            rw [step_of_refusal hh hp hi hx hno]
            exact .refused hh hp hi hr hno

theorem stepped_of_eq {c d : Console} {r : Except Stop Bool} (h : c.step = (d, r)) :
    Stepped c d r := by
  have hs := stepped c
  rwa [h] at hs

/-- A console that neither waits nor is halted answers a step by what becomes of its instruction. -/
theorem answer_of_running {c : Console} (hh : c.halted = false) (hp : c.machine.paused = false) :
    c.step.2 ≠ .ok false ∧ c.step.2 ≠ .error .halted := by
  match hx : c.step with
  | (d, r) =>
    cases stepped_of_eq hx with
    | halted hh' => exact absurd hh' (by simp [hh])
    | paused _ hp' => exact absurd hp' (by simp [hp])
    | unknown | executed | faulted => exact ⟨nofun, nofun⟩
    | refused _ _ _ hr => cases hr <;> exact ⟨nofun, nofun⟩

end ChipEight.Console
