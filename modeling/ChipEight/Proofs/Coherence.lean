/-
# ChipEight.Proofs.Coherence -- the pause, the latch and the halt

Three parts of a console say that it does not go on. The machine is paused, the keypad has a
register that waits, and the console is halted with a fault. They are kept in different places and
are changed by different operations: an instruction sets pause and latch, a key clears them, a fault
halts, and starting over clears everything. `Coherent` says that they agree, and every operation
keeps them so.

So a pause can always be ended: whoever waits has a register that the next key goes to, and is not
halted. And an instruction is only ever executed while no register waits, so no wait is overwritten
by another one.
-/
import ChipEight.Proofs.Footprint
import ChipEight.Proofs.History
import Mathlib.Tactic.Common

namespace ChipEight.Console

/-- Pause and latch agree, halt and fault agree, and a console does not wait and halt at once. -/
structure Coherent (c : Console) : Prop where
  latch : c.machine.paused = true ↔ c.keypad.latch ≠ none
  apart : ¬ (c.machine.paused = true ∧ c.halted = true)
  fault : c.halted = true ↔ c.fault ≠ none

variable {c d : Console}

/-- Whether a console is coherent depends on pause, latch, halt and fault only. -/
theorem Coherent.same (h : c.Coherent) (paused : d.machine.paused = c.machine.paused)
    (latch : d.keypad.latch = c.keypad.latch) (halted : d.halted = c.halted)
    (fault : d.fault = c.fault) : d.Coherent where
  latch := by
    rw [paused, latch]
    exact h.latch
  apart := by
    rw [paused, halted]
    exact h.apart
  fault := by
    rw [halted, fault]
    exact h.fault

theorem Coherent.fetched (h : c.Coherent) : c.fetched.Coherent := by
  rw [fetched_eq]
  exact h.same rfl rfl rfl rfl

/-- A console that runs is coherent after the instruction: it may wait then, but it is not halted. -/
theorem Coherent.execute {i : Instruction} (h : c.Coherent) (hh : c.halted = false)
    (hx : c.execute i = .ok d) : d.Coherent := by
  obtain ⟨m, s, latch, random, -, hd⟩ := withinReach_of_execute hx
  -- an instruction sets pause and latch together, or leaves both
  rcases waiting_of_execute hx with ⟨x, -, rfl⟩ | ⟨-, hpaused, hkeypad⟩
  · refine ⟨by simp [awaiting, Keypad.await], ?_, h.fault⟩
    rintro ⟨-, hhalted⟩
    exact absurd hhalted (by simp [awaiting, hh])
  · exact h.same hpaused (congrArg Keypad.latch hkeypad) (by rw [hd]) (by rw [hd])

/-- A fault halts a console that does not wait. -/
theorem Coherent.halt (h : c.Coherent) (hp : c.machine.paused = false) (f : Fault)
    (trace : List Fetch) :
    { c with halted := true, fault := some f, trace := trace }.Coherent where
  latch := h.latch
  apart := by
    rintro ⟨hpaused, -⟩
    rw [hp] at hpaused
    cases hpaused
  fault := by simp

theorem Coherent.step (h : c.Coherent) : c.step.1.Coherent := by
  match hx : c.step with
  | (d, r) =>
    cases stepped_of_eq hx with
    | halted => exact h
    | paused => exact h
    | unknown _ hp => exact h.halt hp _ c.trace
    | executed hh _ _ hd =>
      have hf : c.fetched.halted = false := by
        rw [fetched_eq]
        exact hh
      exact (h.fetched.execute hf hd).same rfl rfl rfl rfl
    | faulted _ hp =>
      rw [haltAt_fetched]
      exact h.halt hp _ _
    | refused => exact h.fetched

theorem Coherent.press (h : c.Coherent) (key : Int) : (c.pressKey key).Coherent := by
  rcases pressKey_cases c key with ⟨-, hd⟩ | ⟨k, -, ⟨hl, hd⟩ | ⟨x, -, hd⟩⟩
  · rw [hd]
    exact h
  · rw [hd]
    exact h.same rfl hl.symm rfl rfl
  · rw [hd]
    exact ⟨by simp [Machine.deliver, Keypad.press], by simp [Machine.deliver], h.fault⟩

theorem Coherent.release (h : c.Coherent) (key : Int) : (c.releaseKey key).Coherent := by
  obtain ⟨held, hd⟩ := releaseKey_eq c key
  rw [hd]
  exact h.same rfl rfl rfl rfl

theorem coherent_of_running (hp : c.machine.paused = false) (hl : c.keypad.latch = none)
    (hh : c.halted = false) (hf : c.fault = none) : c.Coherent :=
  ⟨by simp [hp, hl], by simp [hp], by simp [hh, hf]⟩

/-- Every operation keeps a console coherent. -/
theorem coherent_invariant : Invariant Coherent (fun _ => True) where
  step h := ⟨h.step, fun _ _ => trivial⟩
  endBatch h := h.same rfl rfl rfl rfl
  countFrame h := h.same rfl rfl rfl rfl
  speed _ _ := trivial
  loadRom h hl := by
    unfold Console.loadRom at hl
    split at hl <;> cases hl
    exact h.same rfl rfl rfl rfl
  loadProgram _ _ h := h.same rfl rfl rfl rfl
  press key h := h.press key
  release key h := h.release key
  resetProcessor _ := coherent_of_running rfl rfl rfl rfl
  reset _ := coherent_of_running rfl rfl rfl rfl

/-- An instruction is executed only while no register waits. -/
theorem Coherent.latch_of_executed (h : c.Coherent) (hx : c.step.2 = .ok true) :
    c.keypad.latch = none := by
  have hs := stepped c
  rw [hx] at hs
  generalize c.step.1 = d at hs
  cases hs with
  | executed _ hp =>
    cases hl : c.keypad.latch with
    | none => rfl
    | some x =>
      have hpaused := h.latch.mpr (by simp [hl])
      rw [hp] at hpaused
      cases hpaused

/-- A key ends the wait, whichever it is. -/
theorem Coherent.resumed (h : c.Coherent) (hp : c.machine.paused = true) (key : Nibble) :
    let d := c.pressKey key.val
    d.machine.paused = false ∧ d.keypad.latch = none ∧ d.halted = false := by
  have hh : c.halted = false := Bool.eq_false_iff.mpr fun hh => h.apart ⟨hp, hh⟩
  obtain ⟨x, hx⟩ := Option.ne_none_iff_exists'.mp (h.latch.mp hp)
  simp only [pressKey, Keypad.key?_val, Keypad.press, hx]
  exact ⟨rfl, trivial, hh⟩

/-- Whatever is done to a console that was just made, pause and latch agree, halt and fault agree,
and it does not wait and halt at once. So at every moment, also in the middle of a batch, an
instruction is executed only while no register waits; and a console that waits goes on after any
key. -/
theorem coherent_after (screen : Screen) (random : RandomBytes) (speed : Amount) (toneHz : Int)
    (ops : List Operation) :
    let c := (new screen random speed toneHz).after ops
    c.Coherent ∧
      (∀ n, let e := (stepUpTo n c).1
        e.step.2 = .ok true → e.keypad.latch = none) ∧
      (c.machine.paused = true → ∀ key : Nibble,
        let d := c.pressKey key.val
        d.machine.paused = false ∧ d.keypad.latch = none ∧
          d.step.2 ≠ .ok false ∧ d.step.2 ≠ .error .halted) := by
  intro c
  have hnew : (new screen random speed toneHz).Coherent := coherent_of_running rfl rfl rfl rfl
  have hc : c.Coherent := coherent_invariant.after hnew ops
  refine ⟨hc, ?_, ?_⟩
  · intro n e he
    have hcoherent := (coherent_invariant.stepUpTo hc n).1
    exact hcoherent.latch_of_executed he
  · intro hp key d
    obtain ⟨hpaused, hlatch, hhalted⟩ := hc.resumed hp key
    exact ⟨hpaused, hlatch, answer_of_running hhalted hpaused⟩

/-- A console with a program that draws a digit and then waits for a key, after some operations. -/
def prompting (ops : List Operation) : Console :=
  (new (Screen.blank 64 32) (.ofArray #[]) (.number 10) 440).after
    (.loadRom [0xF0, 0x29, 0xD0, 0x05, 0xF3, 0x0A] :: ops)

theorem coherent_after_prompt :
    ((prompting [.step]).Coherent ∧
      (stepUpTo 1 (prompting [.step])).1.nextWord = 0xF30A ∧
        (stepUpTo 1 (prompting [.step])).1.step.2 = .ok true ∧
          (stepUpTo 1 (prompting [.step])).1.keypad.latch = none) ∧
      (prompting [.runFrames 2]).machine.paused = true ∧
        ((prompting [.runFrames 2]).pressKey (7 : Nibble).val).machine.paused = false ∧
          ((prompting [.runFrames 2]).pressKey (7 : Nibble).val).step.2 ≠ .ok false ∧
            ((prompting [.runFrames 2]).pressKey (7 : Nibble).val).machine.register 3 = 7 := by
  have hrun := coherent_after (Screen.blank 64 32) (.ofArray #[]) (.number 10) 440
    [.loadRom [0xF0, 0x29, 0xD0, 0x05, 0xF3, 0x0A], .step]
  have hwait := coherent_after (Screen.blank 64 32) (.ofArray #[]) (.number 10) 440
    [.loadRom [0xF0, 0x29, 0xD0, 0x05, 0xF3, 0x0A], .runFrames 2]
  rw [← prompting] at hrun hwait
  have hx : (stepUpTo 1 (prompting [.step])).1.step.2 = .ok true := by decide +kernel
  have hp : (prompting [.runFrames 2]).machine.paused = true := by decide +kernel
  obtain ⟨hpaused, -, hstep, -⟩ := hwait.2.2 hp 7
  exact ⟨⟨hrun.1, by decide +kernel, hx, hrun.2.1 1 hx⟩, hp, hpaused, hstep, by decide +kernel⟩

end ChipEight.Console
