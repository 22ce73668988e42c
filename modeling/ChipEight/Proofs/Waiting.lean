/-
# ChipEight.Proofs.Waiting -- a key is delivered once

A program waits for a key by an instruction that names a register. From then on two parties act on
the console: whoever runs it, and whoever presses and releases keys. Nothing is said about the order
in which they do.

Until a key goes down the console idles: whatever runs, no instruction is executed and nothing of
the program's changes (`Idled`), while batches go on to lower the timers and to publish the screen
(`IdleBatch`). Releases, and presses of what is no key, do not end that, and neither does a key that
was held before. The first key that goes down is put into the register, and the console goes on
(`Delivered`). Then no register waits, and only another instruction of that kind makes one wait
(`latch_after`), so up to there no key reaches a register again.
-/
import ChipEight.Proofs.Course

namespace ChipEight

/-- The operation does not end a wait: it runs something, a key goes up, or something goes down that
is no key. -/
def Operation.IsQuiet : Operation → Prop
  | .press key => key < 0 ∨ 16 ≤ key
  | .release _ => True
  | op => op.Runs

namespace Console

variable {c d w : Console}

/-! ## Before the key -/

/-- The second console differs from the first one only in what goes on during a wait: the timers,
the tone, the published frame, the count of frames, and which keys are held. -/
def Idled (w d : Console) : Prop :=
  ∃ delay sound frame renders held buzzer frames,
    d = { w with
      machine := { w.machine with delay := delay, sound := sound }
      screen := { w.screen with frame := frame, renders := renders }
      keypad := { w.keypad with held := held }
      buzzer := buzzer
      frames := frames }

theorem Idled.refl (w : Console) : Idled w w :=
  ⟨_, _, _, _, _, _, _, rfl⟩

section Waiting

variable (hh : w.halted = false) (hp : w.machine.paused = true)
include hh hp

/-- A console that waits answers every step so, and is left as it is. -/
theorem Idled.step_eq (h : Idled w d) : d.step = (d, .ok false) := by
  obtain ⟨delay, sound, frame, renders, held, buzzer, frames, rfl⟩ := h
  exact step_of_paused hh hp

theorem Idled.perform (h : Idled w d) {op : Operation} (hq : op.IsQuiet) :
    Idled w (d.perform op).1 := by
  have runs (hr : op.Runs) : Idled w (d.perform op).1 := by
    refine (course_perform d hr).keeps (P := Idled w) (G := fun _ => True) ?_ ?_ ?_ h
      (fun _ _ => trivial)
    · intro e he _
      rw [he.step_eq hh hp]
      exact he
    · rintro _ ⟨delay, sound, frame, renders, held, buzzer, frames, rfl⟩
      exact ⟨_, _, _, _, held, _, frames, rfl⟩
    · rintro _ ⟨delay, sound, frame, renders, held, buzzer, frames, rfl⟩
      exact ⟨delay, sound, frame, renders, held, buzzer, _, rfl⟩
  cases op with
  | press key =>
    show Idled w (d.pressKey key)
    rw [pressKey_of_outside d hq]
    exact h
  | release key =>
    obtain ⟨held, hd⟩ := releaseKey_eq d key
    show Idled w (d.releaseKey key)
    rw [hd]
    obtain ⟨delay, sound, frame, renders, _, buzzer, frames, rfl⟩ := h
    exact ⟨delay, sound, frame, renders, held, buzzer, frames, rfl⟩
  | step | runCycles | runFrame | runFrames | runPaced => exact runs hq
  | _ => exact hq.elim

/-- A console idles through every history that does not end the wait. -/
theorem Idled.after (h : Idled w d) {quiet : List Operation} (hq : ∀ op ∈ quiet, op.IsQuiet) :
    Idled w (d.after quiet) := by
  induction quiet generalizing d with
  | nil => exact h
  | cons op ops ih =>
    exact ih (h.perform hh hp (hq op List.mem_cons_self)) fun o ho => hq o (List.mem_cons_of_mem _ ho)

end Waiting

/-- The second console is the first one after a batch that executed nothing: each timer that was
running is one lower, and the pixels are published. -/
structure IdleBatch (d e : Console) : Prop where
  delay : e.machine.delay =
    if 0 < d.machine.delay then d.machine.delay - 1 else d.machine.delay
  sound : e.machine.sound =
    if 0 < d.machine.sound then d.machine.sound - 1 else d.machine.sound
  others : e.machine =
    { d.machine with delay := e.machine.delay, sound := e.machine.sound }
  published : e.screen =
    { d.screen with frame := d.screen.pixels, renders := d.screen.renders + 1 }

theorem stepUpTo_of_paused (hp : c.machine.paused = true) (n : Nat) :
    stepUpTo n c = (c, .ok ()) := by
  cases n with
  | zero => rfl
  | succ n =>
    unfold stepUpTo
    rw [if_pos hp]

theorem idleBatch_runCycles (hh : c.halted = false) (hp : c.machine.paused = true) (count : Int) :
    (c.runCycles count).2 = .ok () ∧ IdleBatch c (c.runCycles count).1 := by
  have hrun : c.runCycles count = (c.endBatch, .ok ()) := by
    simp only [runCycles, hh, stepUpTo_of_paused hp, Bool.false_eq_true, if_false]
  rw [hrun]
  exact ⟨rfl, rfl, rfl, rfl, rfl⟩

theorem idleBatch_runFrame (hh : c.halted = false) (hp : c.machine.paused = true)
    (hs : c.cyclesPerFrame ≠ .nothing) :
    c.runFrame.2 = .ok () ∧ IdleBatch c c.runFrame.1 := by
  cases ha : c.cyclesPerFrame with
  | nothing => exact absurd ha hs
  | number count =>
    have hrun : c.runFrame =
        ({ c.endBatch with frames := c.endBatch.frames + 1 }, .ok ()) := by
      simp only [runFrame, ha, runAmount, runCycles, hh, stepUpTo_of_paused hp,
        Bool.false_eq_true, if_false]
    rw [hrun]
    exact ⟨rfl, rfl, rfl, rfl, rfl⟩

/-! ## The key -/

/-- The second console is the first one after a key that the register waited for. -/
structure Delivered (d : Console) (x key : Nibble) (e : Console) : Prop where
  register : e.machine.register x = UInt8.ofNat key.val
  otherRegisters : ∀ y, y ≠ x → e.machine.register y = d.machine.register y
  resumed : e.machine.paused = false
  latch : e.keypad.latch = none
  others : e = { d with
    machine := { d.machine with v := e.machine.v, paused := false }
    keypad := (d.keypad.press key).1 }

theorem delivered_pressKey {x : Nibble} (hl : c.keypad.latch = some x) (key : Nibble) :
    Delivered c x key (c.pressKey key.val) := by
  have hpress : c.pressKey key.val = { c with
      machine := c.machine.deliver x key
      keypad := { held := c.keypad.held.set key.val true, latch := none } } := by
    simp only [pressKey, Keypad.key?_val, Keypad.press, hl]
  rw [hpress]
  refine ⟨?_, ?_, rfl, rfl, rfl⟩
  · show (c.machine.setRegister x _).register x = _
    rw [Machine.register_setRegister, if_pos rfl]
  · intro y hy
    show (c.machine.setRegister x _).register y = _
    rw [Machine.register_setRegister, if_neg (Ne.symm hy)]

/-! ## After the key -/

/-- A key that no register waits for changes no machine. -/
theorem machine_pressKey (hl : c.keypad.latch = none) (key : Int) :
    (c.pressKey key).machine = c.machine ∧ (c.pressKey key).keypad.latch = none := by
  rcases pressKey_cases c key with ⟨-, hd⟩ | ⟨k, -, ⟨-, hd⟩ | ⟨x, hx, -⟩⟩
  · rw [hd]
    exact ⟨rfl, hl⟩
  · rw [hd]
    exact ⟨rfl, rfl⟩
  · exact absurd (hl.symm.trans hx) nofun

theorem latch_step (hl : c.keypad.latch = none) (hx : ∀ x, c.executes? ≠ some (.awaitKey x)) :
    c.step.1.keypad.latch = none := by
  have hf : c.fetched.keypad = c.keypad := by rw [fetched_eq]
  match hs : c.step with
  | (d, r) =>
    cases stepped_of_eq hs with
    | halted | paused | unknown => exact hl
    | executed hh hp hi hd =>
      rcases waiting_of_execute hd with ⟨x, rfl, -⟩ | ⟨-, -, hkeypad⟩
      · exact absurd (executes?_eq_some_iff.mpr ⟨hh, hp, hi, _, hd, hs⟩) (hx x)
      · show Keypad.latch _ = none
        rw [hkeypad, hf]
        exact hl
    | faulted =>
      rw [haltAt_fetched]
      exact hl
    | refused =>
      rw [hf]
      exact hl

theorem latch_perform (hl : c.keypad.latch = none) (op : Operation)
    (hx : ∀ x, .awaitKey x ∉ (c.waypoints op).filterMap executes?) :
    (c.perform op).1.keypad.latch = none := by
  have runs (hr : op.Runs) : (c.perform op).1.keypad.latch = none := by
    refine (course_perform c hr).keeps (P := fun e => e.keypad.latch = none)
      (G := fun e => ∀ x, e.executes? ≠ some (.awaitKey x)) latch_step id id hl ?_
    intro e he x hex
    exact hx x (List.mem_filterMap.mpr ⟨e, he, hex⟩)
  cases op with
  | loadRom image =>
    by_cases hs : image.length ≤ Memory.programRoom
    · rw [perform_loadRom c hs]
      exact hl
    · rw [perform_loadRom_of_lt c (Nat.not_le.mp hs)]
      exact hl
  | loadProgram => exact hl
  | press key => exact (machine_pressKey hl key).2
  | release key =>
    obtain ⟨held, hd⟩ := releaseKey_eq c key
    show (c.releaseKey key).keypad.latch = none
    rw [hd]
    exact hl
  | resetProcessor | reset => rfl
  | step | runCycles | runFrame | runFrames | runPaced => exact runs trivial

/-- A register waits only after an instruction that makes it wait. -/
theorem latch_after (hl : c.keypad.latch = none) (ops : List Operation)
    (hx : ∀ x, .awaitKey x ∉ c.executed ops) : (c.after ops).keypad.latch = none := by
  induction ops generalizing c with
  | nil => exact hl
  | cons op ops ih =>
    have hfirst := latch_perform hl op fun x h => hx x (List.mem_append_left _ h)
    exact ih hfirst fun x h => hx x (List.mem_append_right _ h)

/-! ## The whole wait -/

/-- What the waiting instruction itself does: the machine stands behind it and is paused, and the
register waits. -/
theorem step_of_awaitKey {x : Nibble} (hx : c.executes? = some (.awaitKey x)) :
    c.step.1.halted = false ∧ c.step.1.machine = { c.machine.advance with paused := true } ∧
      c.step.1.keypad = c.keypad.await x ∧ c.step.1.cyclesPerFrame = c.cyclesPerFrame := by
  obtain ⟨hh, -, -, d, hd, hs⟩ := executes?_eq_some_iff.mp hx
  cases hd
  rw [hs, fetched_eq]
  exact ⟨hh, rfl, rfl, rfl⟩

/-- Let the next instruction of a console make a register wait, and let anything follow that does
not end the wait, in any order. Then the console has idled: a step does nothing, and a batch lowers
the timers and publishes the screen. The next key is put into that register and ends the wait, and
whatever follows, no key changes the machine again before another such instruction is executed. -/
theorem key_delivered_once {x : Nibble} (hx : c.executes? = some (.awaitKey x))
    {quiet : List Operation} (hq : ∀ op ∈ quiet, op.IsQuiet) :
    let w := c.step.1
    let d := w.after quiet
    (w.machine = { c.machine.advance with paused := true } ∧ Idled w d ∧
        d.step = (d, .ok false)) ∧
      ((∀ count, (d.runCycles count).2 = .ok () ∧ IdleBatch d (d.runCycles count).1) ∧
        (c.cyclesPerFrame ≠ .nothing → d.runFrame.2 = .ok () ∧ IdleBatch d d.runFrame.1)) ∧
      ∀ key : Nibble,
        let e := d.pressKey key.val
        Delivered d x key e ∧
          ∀ rest, (∀ y, .awaitKey y ∉ e.executed rest) →
            ∀ k : Int, ((e.after rest).pressKey k).machine = (e.after rest).machine := by
  intro w d
  obtain ⟨hh, hmachine, hkeypad, hspeed⟩ := step_of_awaitKey hx
  have hp : w.machine.paused = true := congrArg Machine.paused hmachine
  have hidled : Idled w d := (Idled.refl w).after hh hp hq
  -- what every idling console has in common with the one that began to wait
  obtain ⟨hdh, hdp, hds, hdl⟩ : d.halted = false ∧ d.machine.paused = true ∧
      d.cyclesPerFrame = c.cyclesPerFrame ∧ d.keypad.latch = some x := by
    have hlatch : w.keypad.latch = some x := congrArg Keypad.latch hkeypad
    obtain ⟨_, _, _, _, _, _, _, hd⟩ := hidled
    rw [hd]
    exact ⟨hh, hp, hspeed, hlatch⟩
  refine ⟨⟨hmachine, hidled, hidled.step_eq hh hp⟩,
    ⟨idleBatch_runCycles hdh hdp, fun hs => idleBatch_runFrame hdh hdp (hds ▸ hs)⟩, ?_⟩
  intro key e
  have hdelivered : Delivered d x key e := delivered_pressKey hdl key
  refine ⟨hdelivered, fun rest hrest k => ?_⟩
  exact (machine_pressKey (latch_after hdelivered.latch rest hrest) k).1

/-- A console that is about to wait for a key in register 2, while key 9 is held and the delay timer
runs. -/
def aboutToWait : Console :=
  (new (Screen.blank 64 32) (.ofArray #[]) (.number 10) 440).after
    [.loadRom [0x65, 0x07, 0xF5, 0x15, 0xF2, 0x0A, 0x63, 0x01], .press 9, .step, .step]

/-- Operations that leave a waiting console waiting. -/
def quietOperations : List Operation :=
  [.step, .press 16, .release 9, .runCycles 5, .press (-1), .runFrame]

theorem key_delivered_once_after_quiet :
    let d := aboutToWait.step.1.after quietOperations
    let e := d.pressKey (11 : Nibble).val
    aboutToWait.executes? = some (.awaitKey 2) ∧ (∀ op ∈ quietOperations, op.IsQuiet) ∧
      d.step = (d, .ok false) ∧ d.machine.delay = 5 ∧ Delivered d 2 11 e ∧
        (∀ y, .awaitKey y ∉ e.executed [.step, .press 3, .runFrame]) ∧
          ((e.after [.step, .press 3, .runFrame]).pressKey 4).machine.register 2 = 11 := by
  intro d e
  have hx : aboutToWait.executes? = some (.awaitKey 2) := by decide +kernel
  have hq : ∀ op ∈ quietOperations, op.IsQuiet := by
    simp [quietOperations, Operation.IsQuiet, Operation.Runs]
  obtain ⟨⟨-, -, hstep⟩, -, hkey⟩ := key_delivered_once hx hq
  obtain ⟨hdelivered, hafter⟩ := hkey 11
  have hrest : ∀ y, .awaitKey y ∉ e.executed [.step, .press 3, .runFrame] := by decide +kernel
  have hregister : (e.after [.step, .press 3, .runFrame]).machine.register 2 = 11 := by
    decide +kernel
  refine ⟨hx, hq, hstep, by decide +kernel, hdelivered, hrest, ?_⟩
  rw [hafter _ hrest 4]
  exact hregister

end Console

end ChipEight
