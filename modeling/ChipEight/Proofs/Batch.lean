/-
# ChipEight.Proofs.Batch -- a batch is its steps and one end

A batch looks at the pause before each step and leaves its loop early, and the tick, the tone report
and the published frame stand behind the loop. Neither is visible from outside. Whoever steps the
console by hand, as often as the batch may, gets to the same place (`stepUpTo_of_completes`), because
a step of a paused machine does nothing. If a step refuses, the batch ends with that step
(`stepUpTo_of_refusal`).

The end of a batch happens once if no step refuses, wherever the machine was paused, and not at all
if one does. `BatchEnd` says what it does, field by field; `runCycles_refines_steps` joins all this.
-/
import ChipEight.Proofs.Footprint
import ChipEight.Proofs.History
import Mathlib.Logic.Function.Iterate

namespace ChipEight.Console

variable {c d : Console}

/-! ## Stepping by hand -/

/-- The console after so many steps, one after another. -/
def afterSteps (c : Console) (n : Nat) : Console :=
  (fun d : Console => d.step.1)^[n] c

/-- None of the first so many steps refuses. -/
def Completes (c : Console) (n : Nat) : Prop :=
  ∀ k < n, (c.afterSteps k).step.2.isOk = true

instance (c : Console) (n : Nat) : Decidable (c.Completes n) :=
  inferInstanceAs (Decidable (∀ k < n, _))

theorem afterSteps_succ (c : Console) (n : Nat) :
    c.afterSteps (n + 1) = c.step.1.afterSteps n :=
  rfl

theorem afterSteps_succ_last (c : Console) (n : Nat) :
    c.afterSteps (n + 1) = (c.afterSteps n).step.1 :=
  Function.iterate_succ_apply' _ n c

/-- The first step completes, and so do the others from where it leads. -/
theorem Completes.uncons {n : Nat} (h : c.Completes (n + 1)) :
    c.step.2.isOk = true ∧ c.step.1.Completes n := by
  refine ⟨h 0 n.succ_pos, ?_⟩
  intro k hk
  exact h (k + 1) (Nat.succ_lt_succ hk)

/-- A step that completes leaves the console running. -/
theorem halted_step (h : c.step.2.isOk = true) : c.step.1.halted = false := by
  rcases hx : c.step with ⟨d, r⟩
  rw [hx] at h
  cases stepped_of_eq hx with
  | paused hh _ => exact hh
  | executed hh _ _ hd =>
    obtain ⟨_, _, _, _, -, rfl⟩ := withinReach_of_execute hd
    rw [fetched_eq]
    exact hh
  | halted | unknown | faulted | refused => cases h

theorem halted_afterSteps (hh : c.halted = false) {n : Nat} (h : c.Completes n) :
    (c.afterSteps n).halted = false := by
  cases n with
  | zero => exact hh
  | succ n =>
    rw [afterSteps_succ_last]
    exact halted_step (h n n.lt_succ_self)

/-- Steps of a paused machine lead nowhere. -/
theorem afterSteps_of_paused (hh : c.halted = false) (hp : c.machine.paused = true) (n : Nat) :
    c.afterSteps n = c := by
  apply Function.iterate_fixed
  rw [step_of_paused hh hp]

/-! ## The loop of a batch -/

/-- The loop goes on behind a step that completes. -/
theorem stepUpTo_succ (hp : c.machine.paused ≠ true) (h : c.step.2.isOk = true) (n : Nat) :
    stepUpTo (n + 1) c = stepUpTo n c.step.1 := by
  generalize hrest : stepUpTo n c.step.1 = rest
  unfold stepUpTo
  rw [if_neg hp, ← hrest]
  rcases hx : c.step with ⟨d, r⟩
  rw [hx] at h
  cases r with
  | ok _ => rfl
  | error _ => cases h

/-- If no step refuses, the loop gets where the steps lead. -/
theorem stepUpTo_of_completes (hh : c.halted = false) {n : Nat} (h : c.Completes n) :
    stepUpTo n c = (c.afterSteps n, .ok ()) := by
  induction n generalizing c with
  | zero => rfl
  | succ n ih =>
    by_cases hp : c.machine.paused = true
    · unfold stepUpTo
      rw [if_pos hp, afterSteps_of_paused hh hp]
    · obtain ⟨hok, hrest⟩ := h.uncons
      rw [stepUpTo_succ hp hok, afterSteps_succ]
      exact ih (halted_step hok) hrest

/-- Where steps lead to a refusal, the machine is not paused. -/
theorem paused_of_refusal (hh : c.halted = false) {k : Nat} {e : Stop}
    (hx : (c.afterSteps k).step = (d, .error e)) : c.machine.paused ≠ true := by
  intro hp
  rw [afterSteps_of_paused hh hp, step_of_paused hh hp] at hx
  cases hx

/-- If a step refuses, the loop ends with what that step leaves and answers. -/
theorem stepUpTo_of_refusal (hh : c.halted = false) {k n : Nat} (hk : k < n)
    (h : c.Completes k) {e : Stop} (hx : (c.afterSteps k).step = (d, .error e)) :
    stepUpTo n c = (d, .error e) := by
  induction k generalizing c n with
  | zero =>
    obtain ⟨m, rfl⟩ := Nat.exists_eq_succ_of_ne_zero (Nat.ne_of_gt hk)
    have hfirst : c.step = (d, .error e) := hx
    unfold stepUpTo
    rw [if_neg (paused_of_refusal hh hx), hfirst]
  | succ k ih =>
    obtain ⟨m, rfl⟩ := Nat.exists_eq_succ_of_ne_zero (Nat.ne_of_gt (Nat.zero_lt_of_lt hk))
    obtain ⟨hok, hrest⟩ := h.uncons
    rw [stepUpTo_succ (paused_of_refusal hh hx) hok]
    exact ih (halted_step hok) (Nat.lt_of_succ_lt_succ hk) hrest hx

/-! ## The end of a batch -/

/-- The second console is the first one after one tick of both timers, one tone report made from the
sound timer after its tick, and one published frame. -/
structure BatchEnd (s d : Console) : Prop where
  delay : d.machine.delay = if 0 < s.machine.delay then s.machine.delay - 1 else s.machine.delay
  sound : d.machine.sound = if 0 < s.machine.sound then s.machine.sound - 1 else s.machine.sound
  tone : d.buzzer = if 0 < d.machine.sound then s.buzzer.start s.toneHz else s.buzzer.stop
  published : d.screen = { s.screen with frame := s.screen.pixels, renders := s.screen.renders + 1 }
  others : d = { s with
    machine := { s.machine with delay := d.machine.delay, sound := d.machine.sound }
    screen := d.screen
    buzzer := d.buzzer }

theorem batchEnd_endBatch (s : Console) : BatchEnd s s.endBatch :=
  ⟨rfl, rfl, rfl, rfl, rfl⟩

/-- Nothing but the end of a batch reaches the tone and the published frame. -/
theorem undisturbed_step (c : Console) :
    c.step.1.buzzer = c.buzzer ∧ c.screen.Redrawn c.step.1.screen ∧ c.step.1.frames = c.frames := by
  rcases hx : c.step with ⟨d, r⟩
  cases stepped_of_eq hx with
  | halted | paused | unknown => exact ⟨rfl, .refl _, rfl⟩
  | executed _ _ _ hd =>
    obtain ⟨_, _, _, _, hs, rfl⟩ := withinReach_of_execute hd
    rw [fetched_eq] at hs ⊢
    exact ⟨rfl, hs, rfl⟩
  | faulted =>
    rw [haltAt_fetched]
    exact ⟨rfl, .refl _, rfl⟩
  | refused =>
    rw [fetched_eq]
    exact ⟨rfl, .refl _, rfl⟩

theorem undisturbed_afterSteps (c : Console) (n : Nat) :
    (c.afterSteps n).buzzer = c.buzzer ∧ c.screen.Redrawn (c.afterSteps n).screen ∧
      (c.afterSteps n).frames = c.frames := by
  induction n with
  | zero => exact ⟨rfl, .refl _, rfl⟩
  | succ n ih =>
    obtain ⟨hbuzzer, hscreen, hframes⟩ := undisturbed_step (c.afterSteps n)
    rw [afterSteps_succ_last]
    exact ⟨hbuzzer.trans ih.1, ih.2.1.trans hscreen, hframes.trans ih.2.2⟩

/-! ## Batches and frames -/

/-- A batch of a console that is not halted is so many steps by hand. If none of them refuses, the
batch completes and leaves what they leave, with one end of a batch on top, and a frame of that size
is counted. If one refuses, the batch refuses in the same way and leaves what that step leaves: the
tone is not reported, nothing is published, and a frame is not counted. A step of a machine that was
or became paused does nothing, so it makes no difference where the batch leaves its loop. -/
theorem runCycles_refines_steps (hh : c.halted = false) (count : Int) :
    (∀ k, c.Completes k → (c.afterSteps k).machine.paused = true →
        (c.afterSteps k).step = (c.afterSteps k, .ok false)) ∧
      (c.Completes count.toNat →
        ∃ d, BatchEnd (c.afterSteps count.toNat) d ∧ c.runCycles count = (d, .ok ()) ∧
          (c.cyclesPerFrame = .number count →
            c.runFrame = ({ d with frames := c.frames + 1 }, .ok ()))) ∧
      ∀ k d e, k < count.toNat → c.Completes k → (c.afterSteps k).step = (d, .error e) →
        c.runCycles count = (d, .error e) ∧ d.buzzer = c.buzzer ∧ c.screen.Redrawn d.screen ∧
          (c.cyclesPerFrame = .number count → c.runFrame = (d, .error e) ∧ d.frames = c.frames) := by
  refine ⟨fun k hk hp => step_of_paused (halted_afterSteps hh hk) hp, ?_, ?_⟩
  · intro hall
    have hloop := stepUpTo_of_completes hh hall
    have hrun : c.runCycles count = ((c.afterSteps count.toNat).endBatch, .ok ()) := by
      simp only [runCycles, hh, hloop, Bool.false_eq_true, if_false]
    refine ⟨_, batchEnd_endBatch _, hrun, ?_⟩
    intro hspeed
    have hframes : (c.afterSteps count.toNat).endBatch.frames = c.frames :=
      (undisturbed_afterSteps c count.toNat).2.2
    simp only [runFrame, hspeed, runAmount, hrun, hframes]
  · intro k d e hk hfirst hx
    have hloop := stepUpTo_of_refusal hh hk hfirst hx
    have hrun : c.runCycles count = (d, .error e) := by
      simp only [runCycles, hh, hloop, Bool.false_eq_true, if_false]
    obtain ⟨hbuzzer, hscreen, hframes⟩ := undisturbed_afterSteps c (k + 1)
    rw [afterSteps_succ_last, hx] at hbuzzer hscreen hframes
    refine ⟨hrun, hbuzzer, hscreen, fun hspeed => ⟨?_, hframes⟩⟩
    simp only [runFrame, hspeed, runAmount, hrun]

/-- A console whose frame starts the tone and then waits for a key, with instructions to spare. -/
def pausingFrame : Console :=
  (new (Screen.blank 64 32) (.ofArray #[]) (.number 6) 440).after
    [.loadRom [0x65, 0x07, 0xF5, 0x18, 0xF2, 0x0A, 0x63, 0x01]]

/-- A console whose frame starts the tone and then meets a word that is no instruction. -/
def refusingFrame : Console :=
  (new (Screen.blank 64 32) (.ofArray #[]) (.number 6) 440).after
    [.loadRom [0x65, 0x07, 0xF5, 0x18, 0xF0, 0xFF, 0x63, 0x01]]

theorem runCycles_refines_steps_in_frames :
    (pausingFrame.Completes 6 ∧ (pausingFrame.afterSteps 2).machine.paused = false ∧
        (pausingFrame.afterSteps 3).machine.paused = true ∧
        ∃ d, BatchEnd (pausingFrame.afterSteps 6) d ∧
          pausingFrame.runFrame = ({ d with frames := 1 }, .ok ()) ∧
          d.machine.sound = 6 ∧ d.buzzer.active = true) ∧
      ∃ d e, (refusingFrame.afterSteps 2).step = (d, .error e) ∧ d.machine.sound = 7 ∧
        refusingFrame.runFrame = (d, .error e) ∧ d.buzzer = Buzzer.silent ∧ d.frames = 0 := by
  constructor
  · have hall : pausingFrame.Completes (6 : Int).toNat := by decide +kernel
    obtain ⟨-, hcompletes, -⟩ :=
      runCycles_refines_steps (c := pausingFrame) (by decide +kernel) 6
    obtain ⟨d, hend, -, hframe⟩ := hcompletes hall
    have hsound : d.machine.sound = 6 := by
      rw [hend.sound]
      decide +kernel
    refine ⟨hall, by decide +kernel, by decide +kernel, d, hend, hframe rfl, hsound, ?_⟩
    rw [hend.tone, hsound]
    rfl
  · have hrefusal : (refusingFrame.afterSteps 2).step = _ :=
      step_of_unknown (by decide +kernel) (by decide +kernel) (by decide +kernel)
    obtain ⟨-, -, hrefuses⟩ := runCycles_refines_steps (c := refusingFrame) (by decide +kernel) 6
    obtain ⟨-, hbuzzer, -, hframe⟩ :=
      hrefuses 2 _ _ (by decide) (by decide +kernel) hrefusal
    obtain ⟨hrun, hframes⟩ := hframe rfl
    refine ⟨_, _, hrefusal, by decide +kernel, hrun, hbuzzer, hframes⟩

end ChipEight.Console
