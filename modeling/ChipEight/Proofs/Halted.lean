/-
# ChipEight.Proofs.Halted -- a fault stops a console until it is started over

A run ends before it is done if one of its steps refuses, or if the speed of the console is no
number. In the first case nothing happens behind that step: the console is left as the step has left
it (`RefusedByStep`, for every kind of run). So whatever answers with a fault leaves a halted console
that keeps this fault.

A halted console refuses every run and is left as it was. Loading and keys still reach it. Loading
changes the memory and the loaded program. A key changes which keys are held and no more than that,
because a console that is halted does not wait, and so has no register for the key. `Frozen` says
that nothing else differs, and `frozen_after_fault` that this is so after every history, as long as
the console is not started over.
-/
import ChipEight.Proofs.Coherence
import ChipEight.Proofs.Course

namespace ChipEight.Console

variable {c d e : Console}

/-! ## Where a run stops -/

/-- If the outcome is a refusal, a step has refused in this way and has left this console, or the
speed is no number. -/
def RefusedByStep {α : Type} (outcome : Console × Except Stop α) : Prop :=
  ∀ reason, outcome.2 = .error reason →
    reason = .notANumber ∨ ∃ w : Console, w.step = (outcome.1, .error reason)

theorem refusedByStep_stepUpTo (n : Nat) (c : Console) : RefusedByStep (stepUpTo n c) := by
  induction n generalizing c with
  | zero => rintro _ ⟨⟩
  | succ n ih =>
    unfold stepUpTo
    by_cases hp : c.machine.paused = true
    · rw [if_pos hp]
      rintro _ ⟨⟩
    · rw [if_neg hp]
      rcases hx : c.step with ⟨d, r⟩
      cases r with
      | ok _ => exact ih d
      | error e =>
        rintro _ ⟨⟩
        exact .inr ⟨c, hx⟩

theorem refusedByStep_runCycles (c : Console) (count : Int) :
    RefusedByStep (c.runCycles count) := by
  unfold runCycles
  by_cases hh : c.halted = true
  · rw [if_pos hh]
    rintro _ ⟨⟩
    exact .inr ⟨c, step_of_halted hh⟩
  · rw [if_neg hh]
    have hloop := refusedByStep_stepUpTo count.toNat c
    rcases hx : stepUpTo count.toNat c with ⟨d, r⟩
    rw [hx] at hloop
    cases r with
    | ok _ => rintro _ ⟨⟩
    | error _ => exact hloop

theorem refusedByStep_runFrame (c : Console) : RefusedByStep c.runFrame := by
  have hamount : RefusedByStep (c.runAmount c.cyclesPerFrame) := by
    cases c.cyclesPerFrame with
    | number count => exact refusedByStep_runCycles c count
    | nothing =>
      unfold runAmount
      by_cases hh : c.halted = true
      · rw [if_pos hh]
        rintro _ ⟨⟩
        exact .inr ⟨c, step_of_halted hh⟩
      · rw [if_neg hh]
        rintro _ ⟨⟩
        exact .inl rfl
  unfold runFrame
  rcases hx : c.runAmount c.cyclesPerFrame with ⟨d, r⟩
  rw [hx] at hamount
  cases r with
  | ok _ => rintro _ ⟨⟩
  | error _ => exact hamount

theorem refusedByStep_runFrames (n : Nat) (c : Console) : RefusedByStep (runFrames n c) := by
  induction n generalizing c with
  | zero => rintro _ ⟨⟩
  | succ n ih =>
    unfold runFrames
    have hframe := refusedByStep_runFrame c
    rcases hx : c.runFrame with ⟨d, r⟩
    rw [hx] at hframe
    cases r with
    | ok _ => exact ih d
    | error _ => exact hframe

/-- The clock ends a paced run without a refusal, so a run that is refused ends in a frame. -/
theorem refusedByStep_pace (interval : Float) (limit : Option Int) (signal : Signal)
    (rounds ran : Nat) (due : Float) (clock : Clock) (c : Console) :
    let run := pace interval limit signal rounds ran due clock c
    ∀ reason, run.ending = .refused reason →
      reason = .notANumber ∨ ∃ w : Console, w.step = (run.console, .error reason) := by
  induction rounds generalizing ran due clock c with
  | zero => rintro _ _ ⟨⟩
  | succ rounds ih =>
    unfold pace
    by_cases ho : isOver limit signal ran = true
    · rw [if_pos ho]
      rintro _ _ ⟨⟩
    · rw [if_neg ho]
      have hframe := refusedByStep_runFrame c
      rcases hx : c.runFrame with ⟨d, r⟩
      rw [hx] at hframe
      cases r with
      | error e =>
        intro run reason h
        cases h
        exact hframe e rfl
      | ok _ =>
        cases clock.read with
        | error _ => rintro _ _ ⟨⟩
        | ok now =>
          dsimp only
          -- the frame was late, or there is time to sleep; the next round starts either way
          split
          · exact ih _ _ _ d
          · cases clock.next.read with
            | error _ => rintro _ ⟨⟩
            | ok now => exact ih _ _ _ d

theorem refusedByStep_runPaced (c : Console) (framesPerSecond : Int) (limit : Option Int)
    (signal : Signal) (patience : Nat) (clock : Clock) :
    let run := c.runPaced framesPerSecond limit signal patience clock
    ∀ reason, run.ending = .refused reason →
      reason = .notANumber ∨ ∃ w : Console, w.step = (run.console, .error reason) := by
  unfold runPaced
  cases intervalOf framesPerSecond with
  | error _ => rintro _ _ ⟨⟩
  | ok interval =>
    cases clock.read with
    | error _ => rintro _ _ ⟨⟩
    | ok now => exact refusedByStep_pace interval limit signal _ _ _ _ c

theorem refusedByStep_perform (c : Console) (op : Operation) {reason : Stop}
    (h : (c.perform op).2 = .error (.stop reason)) :
    reason = .notANumber ∨ ∃ w : Console, w.step = ((c.perform op).1, .error reason) := by
  -- steps and runs answer through `answering`, which leaves the console as it is
  have runs {α : Type} {answer : α → Answer} {outcome : Console × Except Stop α}
      (ho : RefusedByStep outcome) (hr : (answering answer outcome).2 = .error (.stop reason)) :
      reason = .notANumber ∨
        ∃ w : Console, w.step = ((answering answer outcome).1, .error reason) := by
    obtain ⟨d, r⟩ := outcome
    cases r with
    | ok _ => cases hr
    | error _ =>
      cases hr
      exact ho reason rfl
  cases op with
  | step =>
    have hstep : RefusedByStep c.step := fun e he => .inr ⟨c, Prod.ext rfl he⟩
    exact runs hstep h
  | runCycles count => exact runs (refusedByStep_runCycles c count) h
  | runFrame => exact runs (refusedByStep_runFrame c) h
  | runFrames count => exact runs (refusedByStep_runFrames count.toNat c) h
  | runPaced framesPerSecond limit signal patience clock =>
    apply refusedByStep_runPaced c framesPerSecond limit signal patience clock reason
    unfold perform PacedEnd.answer at h
    dsimp only at h
    split at h <;> cases h
    assumption
  | loadRom image =>
    unfold perform at h
    dsimp only at h
    split at h <;> cases h
  | _ => cases h

/-- A console that has answered with a fault is halted, and keeps this fault. -/
theorem halted_of_fault (c : Console) (op : Operation) {f : Fault}
    (h : (c.perform op).2 = .error (.stop (.fault f))) :
    (c.perform op).1.halted = true ∧ (c.perform op).1.fault = some f := by
  rcases refusedByStep_perform c op h with hspeed | ⟨w, hw⟩
  · cases hspeed
  · generalize (c.perform op).1 = d at hw
    cases stepped_of_eq hw with
    | unknown | faulted => exact ⟨rfl, rfl⟩
    | refused _ _ _ _ hno => exact absurd rfl (hno f)

/-! ## Halted consoles -/

section Halted

variable (hh : c.halted = true)
include hh

theorem runCycles_of_halted (count : Int) : c.runCycles count = (c, .error .halted) := by
  rw [runCycles, if_pos hh]

theorem runFrame_of_halted : c.runFrame = (c, .error .halted) := by
  unfold runFrame runAmount
  cases c.cyclesPerFrame with
  | number count => simp only [runCycles_of_halted hh]
  | nothing => simp only [hh, if_true]

theorem runFrames_of_halted {n : Nat} (hn : 0 < n) : runFrames n c = (c, .error .halted) := by
  obtain ⟨m, rfl⟩ := Nat.exists_eq_succ_of_ne_zero (Nat.ne_of_gt hn)
  simp only [runFrames, runFrame_of_halted hh]

theorem runPaced_of_halted (framesPerSecond : Int) (limit : Option Int) (signal : Signal)
    (patience : Nat) (clock : Clock) :
    (c.runPaced framesPerSecond limit signal patience clock).console = c := by
  unfold runPaced
  cases intervalOf framesPerSecond with
  | error _ => rfl
  | ok interval =>
    cases clock.read with
    | error _ => rfl
    | ok now =>
      cases roundsFor limit patience with
      | zero => rfl
      | succ rounds =>
        simp only [pace, runFrame_of_halted hh]
        split <;> rfl

/-- Nothing that runs changes a halted console. -/
theorem perform_of_halted {op : Operation} (hr : op.Runs) : (c.perform op).1 = c := by
  cases op with
  | step =>
    show (answering _ _).1 = c
    rw [answering_fst, step_of_halted hh]
  | runCycles count =>
    show (answering _ _).1 = c
    rw [answering_fst, runCycles_of_halted hh]
  | runFrame =>
    show (answering _ _).1 = c
    rw [answering_fst, runFrame_of_halted hh]
  | runFrames count =>
    show (answering _ _).1 = c
    rw [answering_fst]
    rcases Nat.eq_zero_or_pos count.toNat with hzero | hpos
    · rw [hzero]
      rfl
    · rw [runFrames_of_halted hh hpos]
  | runPaced framesPerSecond limit signal patience clock =>
    exact runPaced_of_halted hh framesPerSecond limit signal patience clock
  | _ => exact hr.elim

end Halted

/-! ## Frozen consoles -/

/-- The second console differs from the first one at most in what loading and keys reach: the
memory, the loaded program, and which keys are held. -/
def Frozen (d e : Console) : Prop :=
  ∃ memory rom held,
    e = { d with
      machine := { d.machine with memory := memory }
      rom := rom
      keypad := { d.keypad with held := held } }

theorem Frozen.refl (d : Console) : Frozen d d :=
  ⟨_, _, _, rfl⟩

theorem Frozen.trans (h : Frozen c d) (k : Frozen d e) : Frozen c e := by
  obtain ⟨_, _, _, rfl⟩ := h
  obtain ⟨memory, rom, held, rfl⟩ := k
  exact ⟨memory, rom, held, rfl⟩

/-- A program that fits replaces memory and the loaded program, another one changes nothing. -/
theorem perform_loadRom_cases (c : Console) (image : List UInt8) :
    (c.perform (.loadRom image)).1 = c ∨
      ∃ memory, (c.perform (.loadRom image)).1 =
        { c with rom := image, machine := { c.machine with memory := memory } } := by
  rcases Nat.lt_or_ge Memory.programRoom image.length with hlarge | hfits
  · rw [perform_loadRom_of_lt c hlarge]
    exact .inl rfl
  · rw [perform_loadRom c hfits]
    exact .inr ⟨_, rfl⟩

/-- A key that no register waits for changes which keys are held and nothing else. -/
theorem pressKey_eq (hl : c.keypad.latch = none) (key : Int) :
    ∃ held, c.pressKey key = { c with keypad := { c.keypad with held := held } } := by
  rcases pressKey_cases c key with ⟨-, hd⟩ | ⟨k, -, ⟨-, hd⟩ | ⟨x, hx, -⟩⟩
  · exact ⟨_, hd⟩
  · refine ⟨(c.keypad.press k).1.held, ?_⟩
    have hkeypad : (c.keypad.press k).1 =
        { c.keypad with held := (c.keypad.press k).1.held } := by
      simp [Keypad.press, hl]
    rw [hd, hkeypad]
  · rw [hl] at hx
    cases hx

/-- One operation that is no restart leaves a halted console frozen. -/
theorem Frozen.perform (hh : c.halted = true) (hl : c.keypad.latch = none) {op : Operation}
    (hs : ¬ op.Restarts) : Frozen c (c.perform op).1 := by
  cases op with
  | loadRom image =>
    rcases perform_loadRom_cases c image with hd | ⟨memory, hd⟩
    · rw [hd]
      exact .refl c
    · rw [hd]
      exact ⟨memory, image, _, rfl⟩
  | loadProgram image address => exact ⟨_, _, _, rfl⟩
  | press key =>
    obtain ⟨held, hd⟩ := pressKey_eq hl key
    show Frozen c (c.pressKey key)
    rw [hd]
    exact ⟨_, _, held, rfl⟩
  | release key =>
    obtain ⟨held, hd⟩ := releaseKey_eq c key
    show Frozen c (c.releaseKey key)
    rw [hd]
    exact ⟨_, _, held, rfl⟩
  | resetProcessor | reset => exact absurd trivial hs
  | step | runCycles | runFrame | runFrames | runPaced =>
    rw [perform_of_halted hh (by trivial)]
    exact .refl c

/-- A halted console stays frozen through every history without restarts. -/
theorem Frozen.after (hh : c.halted = true) (hl : c.keypad.latch = none) {ops : List Operation}
    (hops : ∀ op ∈ ops, ¬ op.Restarts) : Frozen c (c.after ops) := by
  induction ops generalizing c with
  | nil => exact .refl c
  | cons op ops ih =>
    have hfirst := Frozen.perform hh hl (hops op List.mem_cons_self)
    refine hfirst.trans ?_
    obtain ⟨_, _, _, hd⟩ := hfirst
    rw [after_cons, hd]
    exact ih hh hl fun o ho => hops o (List.mem_cons_of_mem op ho)

/-- The console refuses whatever runs, because it is halted, and is left as it was. -/
structure Refusing (e : Console) : Prop where
  step : e.step = (e, .error .halted)
  runCycles : ∀ count, e.runCycles count = (e, .error .halted)
  runFrame : e.runFrame = (e, .error .halted)
  runFrames : ∀ n, 0 < n → runFrames n e = (e, .error .halted)

theorem refusing_of_halted (hh : c.halted = true) : c.Refusing where
  step := step_of_halted hh
  runCycles := runCycles_of_halted hh
  runFrame := runFrame_of_halted hh
  runFrames _ := runFrames_of_halted hh

/-- Let any operation answer with a fault, whatever was done to the console before, and let anything
follow but a restart. Then the console refuses whatever runs and keeps this fault, and it differs
from the console that the fault has left only in memory, in the loaded program and in which keys are
held. A key reaches the last of these only, and loading a program the other two. -/
theorem frozen_after_fault (screen : Screen) (random : RandomBytes) (speed : Amount) (toneHz : Int)
    (ops : List Operation) (op : Operation) {f : Fault}
    (hf : (((new screen random speed toneHz).after ops).perform op).2 = .error (.stop (.fault f)))
    {later : List Operation} (hlater : ∀ o ∈ later, ¬ o.Restarts) :
    let d := (((new screen random speed toneHz).after ops).perform op).1
    let e := d.after later
    d.halted = true ∧ d.fault = some f ∧ e.Refusing ∧ e.fault = some f ∧ Frozen d e ∧
      (∀ key, (∃ held, e.pressKey key = { e with keypad := { e.keypad with held := held } }) ∧
        ∃ held, e.releaseKey key = { e with keypad := { e.keypad with held := held } }) ∧
      ∀ image, (e.perform (.loadRom image)).1 = e ∨ ∃ memory, (e.perform (.loadRom image)).1 =
        { e with rom := image, machine := { e.machine with memory := memory } } := by
  intro d e
  have hd : d.halted = true ∧ d.fault = some f := halted_of_fault _ op hf
  have hcoherent : d.Coherent := by
    have hnew : (new screen random speed toneHz).Coherent := coherent_of_running rfl rfl rfl rfl
    exact (coherent_invariant.perform (coherent_invariant.after hnew ops) op).1
  -- what is halted does not wait, so no register is left for a key
  have hlatch : d.keypad.latch = none := by
    by_contra hne
    exact hcoherent.apart ⟨hcoherent.latch.mpr hne, hd.1⟩
  have hfrozen : Frozen d e := Frozen.after hd.1 hlatch hlater
  obtain ⟨hh, hfault, hl⟩ : e.halted = true ∧ e.fault = some f ∧ e.keypad.latch = none := by
    obtain ⟨_, _, _, he⟩ := hfrozen
    rw [he]
    exact ⟨hd.1, hd.2, hlatch⟩
  exact ⟨hd.1, hd.2, refusing_of_halted hh, hfault, hfrozen,
    fun key => ⟨pressKey_eq hl key, releaseKey_eq e key⟩, perform_loadRom_cases e⟩

/-- A program that starts the tone and then returns without a call, while a key is held. -/
def loadReturning : List Operation :=
  [.loadRom [0x65, 0x07, 0xF5, 0x18, 0x00, 0xEE], .press 9]

/-- Attempts to get a console going again. -/
def attempts : List Operation :=
  [.press 3, .loadRom [0x12, 0x00], .step, .runCycles 5, .release 9, .runFrames 2]

theorem frozen_after_fault_in_frames :
    let c := (new (Screen.blank 64 32) (.ofArray #[]) (.number 10) 440).after loadReturning
    let e := (c.perform (.runFrames 3)).1.after attempts
    (c.perform (.runFrames 3)).2 = .error (.stop (.fault (.emptyStack 0x204))) ∧
      (∀ o ∈ attempts, ¬ o.Restarts) ∧ e.Refusing ∧ e.fault = some (.emptyStack 0x204) ∧
        e.machine.pc = 0x204 ∧ e.machine.sound = 7 ∧ e.frames = 0 ∧ e.rom = [0x12, 0x00] ∧
          e.keypad.isHeld 3 = true ∧ e.keypad.isHeld 9 = false := by
  intro c e
  have hf : (c.perform (.runFrames 3)).2 = .error (.stop (.fault (.emptyStack 0x204))) := by
    decide +kernel
  have hlater : ∀ o ∈ attempts, ¬ o.Restarts := by
    simp [attempts, Operation.Restarts]
  obtain ⟨-, -, hrefusing, hfault, -⟩ :=
    frozen_after_fault (Screen.blank 64 32) (.ofArray #[]) (.number 10) 440 loadReturning
      (.runFrames 3) hf hlater
  refine ⟨hf, hlater, hrefusing, hfault, ?_⟩
  decide +kernel

end ChipEight.Console
