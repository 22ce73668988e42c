/-
# ChipEight.Proofs.Ranges -- what a console can reach

Registers and memory are kept in range by their types. The stack and the timers are plain integers,
and a screen may have no pixels, so a console can be set up in which an instruction cannot be
carried out. `WellFormed` excludes that, and every operation keeps it: a call pushes a word and only
while there is room, a return takes one away, and timers are set from registers and count down to
zero.

On a well-formed console a step is stopped by a fault or by an earlier one, and by nothing else:
there is always a pixel to draw on, and the delay timer always fits into a register.
-/
import ChipEight.Proofs.Footprint
import ChipEight.Proofs.History

namespace ChipEight

/-! ## Machines -/

/-- The stack and the timers hold what a program can put there. -/
structure Machine.WellFormed (m : Machine) : Prop where
  depth : m.stack.length ≤ Machine.stackDepth
  words : ∀ a ∈ m.stack, 0 ≤ a ∧ a < 65536
  delay : 0 ≤ m.delay ∧ m.delay < 256
  sound : 0 ≤ m.sound ∧ m.sound < 256

namespace Machine

variable {m n : Machine}

/-- Whether a machine is well formed depends on its stack and its timers only. -/
theorem WellFormed.same (h : m.WellFormed) (stack : n.stack = m.stack) (delay : n.delay = m.delay)
    (sound : n.sound = m.sound) : n.WellFormed where
  depth := stack ▸ h.depth
  words := stack ▸ h.words
  delay := delay ▸ h.delay
  sound := sound ▸ h.sound

theorem wellFormed_powerOn : powerOn.WellFormed where
  depth := by decide
  words := nofun
  delay := by decide
  sound := by decide

theorem byte_range (b : UInt8) : 0 ≤ (b.toNat : Int) ∧ (b.toNat : Int) < 256 := by
  have := b.toNat_lt
  omega

theorem countDown_range {t : Int} (h : 0 ≤ t ∧ t < 256) : 0 ≤ countDown t ∧ countDown t < 256 := by
  unfold countDown
  split <;> omega

theorem WellFormed.tick (h : m.WellFormed) : m.tick.WellFormed where
  depth := h.depth
  words := h.words
  delay := countDown_range h.delay
  sound := countDown_range h.sound

theorem WellFormed.call (h : m.WellFormed) (target : UInt16)
    (room : ¬ stackDepth ≤ m.stack.length) :
    { m with pc := target, stack := m.pc.toNat :: m.stack }.WellFormed where
  depth := by
    show m.stack.length + 1 ≤ stackDepth
    omega
  words := by
    intro a ha
    rcases List.mem_cons.mp ha with rfl | ha
    · have := m.pc.toNat_lt
      omega
    · exact h.words a ha
  delay := h.delay
  sound := h.sound

theorem WellFormed.ret (h : m.WellFormed) {back : Int} {rest : List Int} (target : UInt16)
    (hs : m.stack = back :: rest) : { m with pc := target, stack := rest }.WellFormed where
  depth := by
    have hd := h.depth
    rw [hs, List.length_cons] at hd
    show rest.length ≤ stackDepth
    omega
  words := fun a ha => h.words a (hs ▸ List.mem_cons_of_mem back ha)
  delay := h.delay
  sound := h.sound

end Machine

namespace Console

/-! ## Consoles -/

/-- The machine is well formed, the screen has the given sides, and the speed is a number. -/
structure WellFormed (width height : Nat) (c : Console) : Prop where
  machine : c.machine.WellFormed
  width : c.screen.width = width
  height : c.screen.height = height
  speed : c.cyclesPerFrame ≠ .nothing

variable {width height : Nat} {c d : Console}

theorem WellFormed.withinReach (h : c.WellFormed width height) (hr : WithinReach c d)
    (hm : d.machine.WellFormed) : d.WellFormed width height := by
  -- what is out of reach is the same, and what is in reach keeps the sides of the screen
  obtain ⟨m, s, latch, random, hs, rfl⟩ := hr
  exact ⟨hm, hs.width.trans h.width, hs.height.trans h.height, h.speed⟩

theorem WellFormed.fetched (h : c.WellFormed width height) : c.fetched.WellFormed width height := by
  rw [fetched_eq]
  exact ⟨h.machine.same rfl rfl rfl, h.width, h.height, h.speed⟩

/-- The machine stays well formed through every instruction. Four instructions reach the stack or
the timers; all others change registers, memory, the index register or the program counter. -/
theorem machine_wellFormed_of_execute {i : Instruction} (hm : c.machine.WellFormed)
    (h : c.execute i = .ok d) : d.machine.WellFormed := by
  rw [execute_eq] at h
  cases i with
  | ret =>
    simp only [effect] at h
    split at h
    · cases h
    · rename_i back rest hs
      cases h
      exact hm.ret _ hs
  | call target =>
    simp only [effect] at h
    split at h
    · cases h
    · rename_i room
      cases h
      exact hm.call _ room
  | setDelay x =>
    cases h
    exact ⟨hm.depth, hm.words, Machine.byte_range _, hm.sound⟩
  | setSound x =>
    cases h
    exact ⟨hm.depth, hm.words, hm.delay, Machine.byte_range _⟩
  | skipEqByte | skipNeByte | skipEq | skipNe | skipHeld | skipFree =>
    cases h
    rw [withMachine_machine, Machine.skipIf_eq]
    exact hm.same rfl rfl rfl
  | alu op x y =>
    cases h
    rw [withMachine_machine, Machine.compute_eq]
    exact hm.same rfl rfl rfl
  | fetch x =>
    cases h
    rw [withMachine_machine, Machine.fetchRegisters_eq]
    exact hm.same rfl rfl rfl
  | draw | readDelay =>
    simp only [effect] at h
    split at h <;> cases h
    exact hm.same rfl rfl rfl
  | _ =>
    cases h
    exact hm.same rfl rfl rfl

theorem WellFormed.execute {i : Instruction} (h : c.WellFormed width height)
    (hx : c.execute i = .ok d) : d.WellFormed width height :=
  h.withinReach (withinReach_of_execute hx) (machine_wellFormed_of_execute h.machine hx)

/-- A well-formed console refuses an instruction because of a fault only. -/
theorem WellFormed.isFault_of_refuses (h : c.WellFormed width height) (hw : 0 < width)
    (hh : 0 < height) {i : Instruction} {e : Stop} (hr : Refuses c i e) : ∃ f, e = .fault f := by
  cases hr with
  | emptyStack => exact ⟨_, rfl⟩
  | fullStack => exact ⟨_, rfl⟩
  | noPixels hn =>
    have hd := (congrArg Option.isSome hn).symm.trans
      (Screen.isSome_draw? (h.width.symm ▸ hw) (h.height.symm ▸ hh) _ _ _)
    cases hd
  | notAByte hn => exact absurd h.machine.delay hn

theorem WellFormed.step (h : c.WellFormed width height) (hw : 0 < width) (hh : 0 < height) :
    Keeps (WellFormed width height) (·.isFaultOrHalt = true) c.step := by
  match hx : c.step with
  | (d, r) =>
    cases stepped_of_eq hx with
    | halted =>
      refine ⟨h, ?_⟩
      rintro _ ⟨⟩
      rfl
    | paused => exact ⟨h, nofun⟩
    | unknown =>
      refine ⟨⟨h.machine.same rfl rfl rfl, h.width, h.height, h.speed⟩, ?_⟩
      rintro _ ⟨⟩
      rfl
    | executed _ _ _ hd =>
      have hd := h.fetched.execute hd
      exact ⟨⟨hd.machine, hd.width, hd.height, hd.speed⟩, nofun⟩
    | faulted =>
      rw [haltAt_fetched]
      refine ⟨⟨h.machine, h.width, h.height, h.speed⟩, ?_⟩
      rintro _ ⟨⟩
      rfl
    | refused _ _ _ hr hno =>
      -- there are pixels to draw on and the timer fits, so no other reason is left
      obtain ⟨f, hf⟩ := h.fetched.isFault_of_refuses hw hh hr
      exact absurd hf (hno f)

theorem WellFormed.press (h : c.WellFormed width height) (key : Int) :
    (c.pressKey key).WellFormed width height := by
  unfold pressKey
  split
  · exact h
  · split
    · exact ⟨h.machine, h.width, h.height, h.speed⟩
    · exact ⟨h.machine.same rfl rfl rfl, h.width, h.height, h.speed⟩

theorem WellFormed.release (h : c.WellFormed width height) (key : Int) :
    (c.releaseKey key).WellFormed width height := by
  unfold releaseKey
  split
  · exact h
  · exact ⟨h.machine, h.width, h.height, h.speed⟩

theorem WellFormed.loadRom {image : List UInt8} (h : c.WellFormed width height)
    (hl : c.loadRom image = .ok d) : d.WellFormed width height := by
  unfold Console.loadRom at hl
  split at hl <;> cases hl
  exact ⟨h.machine.same rfl rfl rfl, h.width, h.height, h.speed⟩

/-- Every operation keeps a console well formed, and stops for a fault or an earlier one only. -/
theorem wellFormed_invariant (hw : 0 < width) (hh : 0 < height) :
    Invariant (WellFormed width height) (·.isFaultOrHalt = true) where
  step h := h.step hw hh
  endBatch h := ⟨h.machine.tick, h.width, h.height, h.speed⟩
  countFrame h := ⟨h.machine, h.width, h.height, h.speed⟩
  speed h hs := absurd hs h.speed
  loadRom h hl := h.loadRom hl
  loadProgram _ _ h := ⟨h.machine.same rfl rfl rfl, h.width, h.height, h.speed⟩
  press key h := h.press key
  release key h := h.release key
  resetProcessor h := ⟨Machine.wellFormed_powerOn, h.width, h.height, h.speed⟩
  reset h := ⟨Machine.wellFormed_powerOn.same rfl rfl rfl, h.width, h.height, h.speed⟩

theorem wellFormed_new (width height : Nat) (random : RandomBytes) (speed toneHz : Int) :
    (new (Screen.blank width height) random (.number speed) toneHz).WellFormed width height :=
  ⟨Machine.wellFormed_powerOn, rfl, rfl, nofun⟩

/-! ## Ranges -/

/-- All that is kept in a console is in its range. -/
structure InRange (width height : Nat) (c : Console) : Prop where
  memory : c.machine.memory.cells.toList.length = 4096 ∧
    ∀ b ∈ c.machine.memory.cells.toList, b.toNat < 256
  registers : c.machine.v.toList.length = 16 ∧ ∀ b ∈ c.machine.v.toList, b.toNat < 256
  index : c.machine.index.toNat < 65536
  pc : c.machine.pc.toNat < 65536
  stack : c.machine.stack.length ≤ 16 ∧ ∀ a ∈ c.machine.stack, 0 ≤ a ∧ a < 65536
  delay : 0 ≤ c.machine.delay ∧ c.machine.delay < 256
  sound : 0 ≤ c.machine.sound ∧ c.machine.sound < 256
  latch : ∀ x, c.keypad.latch = some x → x.val < 16
  held : c.keypad.held.toList.length = 16
  pixels : c.screen.pixels.toLists.length = height ∧
    ∀ row ∈ c.screen.pixels.toLists, row.length = width

theorem WellFormed.inRange (h : c.WellFormed width height) : c.InRange width height where
  memory := ⟨Vector.length_toList, fun b _ => b.toNat_lt⟩
  registers := ⟨Vector.length_toList, fun b _ => b.toNat_lt⟩
  index := c.machine.index.toNat_lt
  pc := c.machine.pc.toNat_lt
  stack := ⟨h.machine.depth, h.machine.words⟩
  delay := h.machine.delay
  sound := h.machine.sound
  latch x _ := x.isLt
  held := Vector.length_toList
  pixels := by
    obtain ⟨-, rfl, rfl, -⟩ := h
    refine ⟨by rw [Bitmap.toLists, List.length_map, Vector.length_toList], ?_⟩
    intro row hrow
    obtain ⟨cells, -, rfl⟩ := List.mem_map.mp hrow
    exact Vector.length_toList

/-- Whatever is done to a console with pixels, all that is kept in it stays in its range, and what
is refused next is refused for an expected reason: a program that does not fit, a fault, an earlier
fault, or a clock. -/
theorem inRange_after (width height : Nat) (hw : 0 < width) (hh : 0 < height)
    (random : RandomBytes) (speed toneHz : Int) (ops : List Operation) :
    let c := (new (Screen.blank width height) random (.number speed) toneHz).after ops
    c.InRange width height ∧
      ∀ op refusal, (c.perform op).2 = .error refusal →
        Expected (·.isFaultOrHalt = true) op refusal := by
  have h := wellFormed_invariant hw hh
  have hc := h.after (wellFormed_new width height random speed toneHz) ops
  exact ⟨hc.inRange, fun op => (h.perform hc op).2⟩

/-- A console after two frames of a program that calls itself: the seventeenth call is a fault,
which ends the second frame. -/
def runawayCall : Console :=
  (new (Screen.blank 64 32) (.ofArray #[]) (.number 10) 440).after
    [.loadRom [0x22, 0x00], .runFrames 2]

theorem inRange_after_runaway_call :
    (0 < 64 ∧ 0 < 32) ∧ runawayCall.InRange 64 32 ∧ runawayCall.machine.stack.length = 16 ∧
      (runawayCall.perform .step).2 = .error (.stop .halted) ∧
        Stop.halted.isFaultOrHalt = true := by
  have h := inRange_after 64 32 (by decide) (by decide) (.ofArray #[]) 10 440
    [.loadRom [0x22, 0x00], .runFrames 2]
  have hh : runawayCall.halted = true := by decide +kernel
  have hs : (runawayCall.perform .step).2 = .error (.stop .halted) := by
    rw [perform, step_of_halted hh]
    rfl
  exact ⟨⟨by decide, by decide⟩, h.1, by decide +kernel, hs, h.2 .step _ hs⟩

end Console

end ChipEight
