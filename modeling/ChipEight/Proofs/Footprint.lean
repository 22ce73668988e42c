/-
# ChipEight.Proofs.Footprint -- what instructions leave alone

Most of a console is out of reach of a program. `WithinReach` says which parts are not: the machine,
the pixels, the latch and the random bytes; `withinReach_of_execute` is the one case analysis over
the instruction set behind it. On the machine, a computation changes registers only and a skip the
program counter only. On the screen, drawing changes pixels only (`Redrawn`): the sides, the
published frame and its count stay. One instruction makes the machine wait for a key, and no other
one touches the pause or the keypad (`waiting_of_execute`). Keys that go down or up reach the keypad,
and through the latch the machine (`pressKey_cases`, `releaseKey_eq`).
-/
import ChipEight.Proofs.Handlers

namespace ChipEight

/-! ## The machine -/

namespace Machine

/-- A computation with registers changes registers and nothing else. -/
theorem compute_eq (m : Machine) (op : AluOp) (x y : Nibble) :
    m.compute op x y = { m with v := (m.compute op x y).v } := by
  unfold compute
  cases op <;> rfl

/-- Taking registers from memory changes registers and nothing else. -/
theorem fetchRegisters_eq (m : Machine) (x : Nibble) :
    m.fetchRegisters x = { m with v := (m.fetchRegisters x).v } :=
  rfl

/-- A skip changes the program counter and nothing else. -/
theorem skipIf_eq (m : Machine) (condition : Bool) :
    m.skipIf condition = { m with pc := (m.skipIf condition).pc } := by
  cases condition <;> rfl

end Machine

/-! ## The screen -/

/-- The rows of a grid as lists are what its pixels are. -/
theorem Bitmap.toLists_eq {width height : Nat} (b : Bitmap width height) :
    b.toLists = List.ofFn fun y : Fin height => List.ofFn fun x : Fin width => b.lit x y := by
  apply List.ext_getElem
  · simp [toLists]
  · intro y hy hy'
    apply List.ext_getElem
    · simp [toLists]
    · intro x hx hx'
      simp [toLists, lit]

namespace Screen

/-- The two screens differ in their pixels at most. -/
def Redrawn (s t : Screen) : Prop :=
  ∃ pixels, t = { s with pixels := pixels }

theorem Redrawn.refl (s : Screen) : Redrawn s s :=
  ⟨s.pixels, rfl⟩

theorem Redrawn.trans {s t u : Screen} (h : Redrawn s t) (k : Redrawn t u) : Redrawn s u := by
  obtain ⟨p, rfl⟩ := h
  obtain ⟨q, rfl⟩ := k
  exact ⟨q, rfl⟩

theorem Redrawn.width {s t : Screen} (h : Redrawn s t) : t.width = s.width := by
  obtain ⟨p, rfl⟩ := h
  rfl

theorem Redrawn.height {s t : Screen} (h : Redrawn s t) : t.height = s.height := by
  obtain ⟨p, rfl⟩ := h
  rfl

theorem Redrawn.clear (s : Screen) : Redrawn s s.clear :=
  ⟨_, rfl⟩

theorem Redrawn.of_toggle? {s t : Screen} {x y : Int} {lit : Bool}
    (h : s.toggle? x y = some (t, lit)) : Redrawn s t := by
  unfold toggle? at h
  split at h
  · cases h
    exact ⟨_, rfl⟩
  · cases h

theorem Redrawn.of_plot? {x y : Nat} {s t : Screen} {places : List (Nat × Nat)} {hit : Bool}
    (h : plot? x y s places = some (t, hit)) : Redrawn s t := by
  induction places generalizing s hit with
  | nil =>
    cases h
    exact .refl _
  | cons place places ih =>
    rw [plot?_cons] at h
    split at h
    · cases h
    · rename_i u erased hu
      split at h
      · cases h
      · rename_i v later hv
        cases h
        exact (Redrawn.of_toggle? hu).trans (ih hv)

theorem Redrawn.of_draw? {x y : Nat} {s t : Screen} {sprite : List UInt8} {hit : Bool}
    (h : s.draw? x y sprite = some (t, hit)) : Redrawn s t :=
  Redrawn.of_plot? h

end Screen

/-! ## The console -/

namespace Console

/-- The second console differs from the first one at most in what a program can reach: the machine,
the pixels, the latch and the random bytes. -/
def WithinReach (c d : Console) : Prop :=
  ∃ machine screen latch random, c.screen.Redrawn screen ∧
    d = { c with
      machine := machine
      screen := screen
      keypad := { c.keypad with latch := latch }
      random := random }

theorem withinReach_withMachine (c : Console) (m : Machine) : WithinReach c (c.withMachine m) :=
  ⟨m, c.screen, c.keypad.latch, c.random, .refl c.screen, rfl⟩

/-- No instruction changes more of a console than a program can reach. -/
theorem withinReach_of_execute {c d : Console} {i : Instruction} (h : c.execute i = .ok d) :
    WithinReach c d := by
  rw [execute_eq] at h
  cases i with
  | clear =>
    cases h
    exact ⟨c.machine, c.screen.clear, c.keypad.latch, c.random, .clear c.screen, rfl⟩
  | ret | call | readDelay =>
    simp only [effect] at h
    split at h <;> cases h
    exact withinReach_withMachine c _
  | draw x y n =>
    simp only [effect] at h
    split at h
    · cases h
    · rename_i s hit hs
      cases h
      exact ⟨_, s, c.keypad.latch, c.random, .of_draw? hs, rfl⟩
  | sys =>
    cases h
    exact withinReach_withMachine c c.machine
  | random x kk =>
    cases h
    exact ⟨_, c.screen, c.keypad.latch, c.random.tail, .refl c.screen, rfl⟩
  | awaitKey x =>
    cases h
    exact ⟨_, c.screen, some x, c.random, .refl c.screen, rfl⟩
  | _ =>
    cases h
    exact withinReach_withMachine c _

/-! ## Waiting -/

/-- The machine waits for a key that goes into the register. -/
def awaiting (c : Console) (x : Nibble) : Console :=
  { c with machine := { c.machine with paused := true }, keypad := c.keypad.await x }

/-- There is one instruction that makes the machine wait. All others leave the pause and the keypad
alone. -/
theorem waiting_of_execute {c d : Console} {i : Instruction} (h : c.execute i = .ok d) :
    (∃ x, i = .awaitKey x ∧ d = c.awaiting x) ∨
      (∀ x, i ≠ .awaitKey x) ∧ d.machine.paused = c.machine.paused ∧ d.keypad = c.keypad := by
  rw [execute_eq] at h
  cases i with
  | awaitKey x =>
    cases h
    exact .inl ⟨x, rfl, rfl⟩
  | ret | call | draw | readDelay =>
    simp only [effect] at h
    split at h <;> cases h
    exact .inr ⟨nofun, rfl, rfl⟩
  | skipEqByte | skipNeByte | skipEq | skipNe | skipHeld | skipFree =>
    cases h
    refine .inr ⟨nofun, ?_, rfl⟩
    show (Machine.skipIf _ _).paused = _
    rw [Machine.skipIf_eq]
  | alu op x y =>
    cases h
    refine .inr ⟨nofun, ?_, rfl⟩
    show (Machine.compute _ _ _ _).paused = _
    rw [Machine.compute_eq]
  | _ =>
    cases h
    exact .inr ⟨nofun, rfl, rfl⟩

/-! ## Keys -/

/-- What becomes of a press. An integer that names no key does nothing. A key is held, and the
register that waited for it, if there is one, gets it. -/
theorem pressKey_cases (c : Console) (k : Int) :
    (Keypad.key? k = none ∧ c.pressKey k = c) ∨
      ∃ key, Keypad.key? k = some key ∧
        ((c.keypad.latch = none ∧ c.pressKey k =
            { c with keypad := (c.keypad.press key).1 }) ∨
          ∃ x, c.keypad.latch = some x ∧ c.pressKey k =
            { c with machine := c.machine.deliver x key, keypad := (c.keypad.press key).1 }) := by
  unfold pressKey
  cases hk : Keypad.key? k with
  | none => exact .inl ⟨rfl, rfl⟩
  | some key =>
    refine .inr ⟨key, rfl, ?_⟩
    cases hl : c.keypad.latch with
    | none => exact .inl ⟨rfl, by simp only [Keypad.press, hl]⟩
    | some x => exact .inr ⟨x, rfl, by simp only [Keypad.press, hl]⟩

/-- What names no key does nothing when it goes down. -/
theorem pressKey_of_outside (c : Console) {k : Int} (hk : k < 0 ∨ 16 ≤ k) : c.pressKey k = c := by
  unfold pressKey
  rw [Keypad.key?_eq_none_iff.mpr hk]

/-- What names no key does nothing when it goes up. -/
theorem releaseKey_of_outside (c : Console) {k : Int} (hk : k < 0 ∨ 16 ≤ k) :
    c.releaseKey k = c := by
  unfold releaseKey
  rw [Keypad.key?_eq_none_iff.mpr hk]

/-- A release changes which keys are held and nothing else. -/
theorem releaseKey_eq (c : Console) (k : Int) :
    ∃ held, c.releaseKey k = { c with keypad := { c.keypad with held := held } } := by
  unfold releaseKey
  cases Keypad.key? k with
  | none => exact ⟨c.keypad.held, rfl⟩
  | some key => exact ⟨_, rfl⟩

end Console

end ChipEight
