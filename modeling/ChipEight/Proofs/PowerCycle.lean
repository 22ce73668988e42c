/-
# ChipEight.Proofs.PowerCycle -- starting over leaves nothing behind

Starting a console over is done in parts, and each part looks after one piece of the console. What
comes out is a console that was just made, with the program that was loaded last: no trace is left
of faults, waits, keys, drawings, published frames, or of what programs wrote into memory, even of a
longer program behind a shorter one. Only the random bytes, the record of fetches, the speed and the
buzzer's memory of its last tone stay.

For that the console has to know which program was loaded last. `lastAccepted` reads it off the
history, and `rom_after` says that the console remembers just that one, because nothing but loading
changes it. What a console was made with, its `SameSetup`, is changed by no operation at all.
-/
import ChipEight.Proofs.Course

namespace ChipEight

/-! ## The program of a history -/

/-- The program that the operation loads. One that does not fit is not loaded. -/
def Operation.accepted? : Operation → Option (List UInt8)
  | .loadRom image => if image.length ≤ Memory.programRoom then some image else none
  | _ => none

/-- The program that was loaded last. -/
def lastAccepted (ops : List Operation) : Option (List UInt8) :=
  (ops.filterMap Operation.accepted?).getLast?

theorem length_of_lastAccepted {ops : List Operation} {image : List UInt8}
    (h : lastAccepted ops = some image) : image.length ≤ Memory.programRoom := by
  obtain ⟨op, -, hop⟩ := List.mem_filterMap.mp (List.mem_of_getLast? h)
  cases op with
  | loadRom rom =>
    simp only [Operation.accepted?, Option.ite_none_right_eq_some, Option.some.injEq] at hop
    obtain ⟨hfits, rfl⟩ := hop
    exact hfits
  | _ => cases hop

namespace Console

/-! ## What stays -/

/-- The consoles agree in what a console is made with: the sides of the screen, the tone, the speed,
and whether fetches are recorded. -/
structure SameSetup (c d : Console) : Prop where
  width : d.screen.width = c.screen.width
  height : d.screen.height = c.screen.height
  toneHz : d.toneHz = c.toneHz
  speed : d.cyclesPerFrame = c.cyclesPerFrame
  tracing : d.tracing = c.tracing

variable {c d e : Console}

theorem SameSetup.refl (c : Console) : SameSetup c c :=
  ⟨rfl, rfl, rfl, rfl, rfl⟩

theorem SameSetup.trans (h : SameSetup c d) (k : SameSetup d e) : SameSetup c e where
  width := k.width.trans h.width
  height := k.height.trans h.height
  toneHz := k.toneHz.trans h.toneHz
  speed := k.speed.trans h.speed
  tracing := k.tracing.trans h.tracing

theorem sameSetup_of_withinReach (h : WithinReach c d) : SameSetup c d ∧ d.rom = c.rom := by
  obtain ⟨m, s, latch, random, hs, rfl⟩ := h
  exact ⟨⟨hs.width, hs.height, rfl, rfl, rfl⟩, rfl⟩

theorem sameSetup_step (c : Console) : SameSetup c c.step.1 ∧ c.step.1.rom = c.rom := by
  match hx : c.step with
  | (d, r) =>
    cases stepped_of_eq hx with
    | halted | paused => exact ⟨.refl c, rfl⟩
    | unknown => exact ⟨⟨rfl, rfl, rfl, rfl, rfl⟩, rfl⟩
    | executed _ _ _ hd =>
      -- neither the fetch nor the instruction reaches the setup or the program
      have hreach := withinReach_of_execute hd
      rw [fetched_eq] at hreach
      obtain ⟨hsetup, hrom⟩ := sameSetup_of_withinReach hreach
      exact ⟨⟨hsetup.width, hsetup.height, hsetup.toneHz, hsetup.speed, hsetup.tracing⟩, hrom⟩
    | faulted =>
      rw [haltAt_fetched]
      exact ⟨⟨rfl, rfl, rfl, rfl, rfl⟩, rfl⟩
    | refused =>
      rw [fetched_eq]
      exact ⟨⟨rfl, rfl, rfl, rfl, rfl⟩, rfl⟩

theorem sameSetup_run (c : Console) {op : Operation} (h : op.Runs) :
    SameSetup c (c.perform op).1 ∧ (c.perform op).1.rom = c.rom := by
  refine (course_perform c h).keeps (P := fun e => SameSetup c e ∧ e.rom = c.rom)
    (G := fun _ => True) ?_ ?_ ?_ ⟨.refl c, rfl⟩ (fun _ _ => trivial)
  · rintro e ⟨hsetup, hrom⟩ -
    obtain ⟨hnext, hsame⟩ := sameSetup_step e
    exact ⟨hsetup.trans hnext, hsame.trans hrom⟩
  · rintro e ⟨hsetup, hrom⟩
    exact ⟨hsetup.trans ⟨rfl, rfl, rfl, rfl, rfl⟩, hrom⟩
  · rintro e ⟨hsetup, hrom⟩
    exact ⟨hsetup.trans ⟨rfl, rfl, rfl, rfl, rfl⟩, hrom⟩

/-- No operation changes what a console was made with, and its program is changed by loading one
only. -/
theorem sameSetup_perform (c : Console) (op : Operation) :
    SameSetup c (c.perform op).1 ∧ (c.perform op).1.rom = op.accepted?.getD c.rom := by
  cases op with
  | loadRom image =>
    by_cases hs : image.length ≤ Memory.programRoom
    · rw [perform_loadRom c hs, Operation.accepted?, if_pos hs]
      exact ⟨⟨rfl, rfl, rfl, rfl, rfl⟩, rfl⟩
    · rw [perform_loadRom_of_lt c (Nat.not_le.mp hs), Operation.accepted?, if_neg hs]
      exact ⟨.refl c, rfl⟩
  | loadProgram | resetProcessor | reset => exact ⟨⟨rfl, rfl, rfl, rfl, rfl⟩, rfl⟩
  | press key =>
    rcases pressKey_cases c key with ⟨-, hd⟩ | ⟨k, -, ⟨-, hd⟩ | ⟨x, -, hd⟩⟩ <;>
      simp only [perform, hd] <;> exact ⟨⟨rfl, rfl, rfl, rfl, rfl⟩, rfl⟩
  | release key =>
    obtain ⟨held, hd⟩ := releaseKey_eq c key
    simp only [perform, hd]
    exact ⟨⟨rfl, rfl, rfl, rfl, rfl⟩, rfl⟩
  | step | runCycles | runFrame | runFrames | runPaced => exact sameSetup_run c trivial

theorem sameSetup_after (c : Console) (ops : List Operation) : SameSetup c (c.after ops) := by
  induction ops generalizing c with
  | nil => exact .refl c
  | cons op ops ih => exact (sameSetup_perform c op).1.trans (ih _)

/-- A console remembers the program that was loaded last. -/
theorem rom_after (c : Console) (ops : List Operation) :
    (c.after ops).rom = (lastAccepted ops).getD c.rom := by
  induction ops generalizing c with
  | nil => rfl
  | cons op ops ih =>
    rw [after_cons, ih, (sameSetup_perform c op).2]
    unfold lastAccepted
    rw [List.filterMap_cons]
    cases op.accepted? with
    | none => rfl
    | some image =>
      -- the program that the first operation loads is the last one if no other follows
      rw [List.getLast?_cons]
      rfl

/-! ## Starting over -/

/-- A console that was just made, with the program loaded if there is one. -/
def madeWith (screen : Screen) (random : RandomBytes) (speed : Amount) (toneHz : Int)
    (image? : Option (List UInt8)) : Console :=
  (new screen random speed toneHz).after (image?.toList.map .loadRom)

theorem madeWith_eq (screen : Screen) (random : RandomBytes) (speed : Amount) (toneHz : Int)
    {image? : Option (List UInt8)} (h : ∀ image ∈ image?, image.length ≤ Memory.programRoom) :
    madeWith screen random speed toneHz image? =
      { new screen random speed toneHz with
        rom := image?.getD []
        machine := Machine.powerOn.load (image?.getD []) Memory.programBase } := by
  cases image? with
  | none => rfl
  | some image =>
    show ((new screen random speed toneHz).perform (.loadRom image)).1 = _
    rw [perform_loadRom _ (h image rfl)]
    rfl

/-- What the parts of a restart come to when they are done one after another. -/
theorem reset_eq (c : Console) :
    c.reset =
      { c with
        machine := Machine.powerOn.load c.rom Memory.programBase
        screen := Screen.blank c.screen.width c.screen.height
        keypad := Keypad.released
        buzzer := c.buzzer.stop
        halted := false
        fault := none
        cycles := 0
        frames := 0 } := by
  rfl

/-- Whatever was done to a console that no program had been loaded into, starting it over gives a
console that was just made, with a screen of the same size and the program that was loaded last.
Only the random bytes, the record, the speed and the buzzer's memory are its own. -/
theorem reset_after {c : Console} (hc : c.rom = []) (ops : List Operation) (random : RandomBytes)
    (speed : Amount) :
    let d := c.after ops
    d.reset =
      { madeWith (Screen.blank c.screen.width c.screen.height) random speed c.toneHz
          (lastAccepted ops) with
        random := d.random
        cyclesPerFrame := d.cyclesPerFrame
        tracing := d.tracing
        trace := d.trace
        buzzer := { d.buzzer with active := false } } := by
  intro d
  have hsetup : SameSetup c d := sameSetup_after c ops
  have hrom : d.rom = (lastAccepted ops).getD [] := hc ▸ rom_after c ops
  rw [reset_eq, madeWith_eq _ _ _ _ fun image himage => length_of_lastAccepted himage, ← hrom,
    ← hsetup.width, ← hsetup.height, ← hsetup.toneHz]
  rfl

/-- A console with a small screen whose fetches are recorded. -/
def smallTraced : Console :=
  (new (Screen.blank 8 5) (.ofArray #[]) (.number 3) 440).traced true

/-- A history with a program that draws, sounds, overwrites the first digit and waits for a key, with
a shorter program in its place, with one that does not fit, and with a fault at the end. -/
def fullHistory : List Operation :=
  [.loadRom [0x60, 0x09, 0xD1, 0x15, 0xF0, 0x18, 0xF0, 0x55, 0xF2, 0x0A, 0x00, 0xEE], .press 7,
    .runFrame, .runFrame, .loadRom [0x12, 0x02, 0xFF], .loadRom (List.replicate 3585 0xFF),
    .press 3, .step]

theorem reset_after_full_history :
    let d := smallTraced.after fullHistory
    (smallTraced.rom = [] ∧ lastAccepted fullHistory = some [0x12, 0x02, 0xFF]) ∧
      (d.fault = some (.emptyStack 0x20A) ∧ d.machine.memory.read 0 = 9 ∧ d.screen.renders = 2) ∧
        d.reset.machine = Machine.powerOn.load [0x12, 0x02, 0xFF] Memory.programBase ∧
          d.reset.screen = Screen.blank 8 5 ∧ d.reset.fault = none ∧
            d.reset.buzzer = ⟨false, 440, 1⟩ := by
  intro d
  have hrom : smallTraced.rom = [] := rfl
  have hlast : lastAccepted fullHistory = some [0x12, 0x02, 0xFF] := by decide +kernel
  have hbuzzer : (smallTraced.after fullHistory).buzzer = ⟨true, 440, 1⟩ := by decide +kernel
  have h := reset_after hrom fullHistory (.ofArray #[]) (.number 3)
  rw [hlast, madeWith_eq _ _ _ _ (by simp [Memory.programRoom, Memory.size, Memory.programBase])]
    at h
  refine ⟨⟨hrom, hlast⟩, by decide +kernel, ?_⟩
  rw [h, hbuzzer]
  exact ⟨rfl, rfl, rfl, rfl⟩

end Console

end ChipEight
