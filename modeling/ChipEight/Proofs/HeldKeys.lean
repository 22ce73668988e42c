/-
# ChipEight.Proofs.HeldKeys -- a key is held if it went down last

Which keys are held is decided by keys and restarts, and never by a program: a step leaves it alone,
and so does whatever runs (`held_perform`). A key is held if and only if it went down and was not
let go since, by going up itself or together with all others (`isHeld_after`). The induction is on
the history with its newest entry split off, since the newest one that has to do with the key
decides.

Two instructions ask for a key. The byte that they ask for may be larger than fifteen; it then names
no key, and what names no key never counts as held. So each skip of theirs can be told from the
history (`skips_after`).
-/
import ChipEight.Proofs.Course
import ChipEight.Proofs.Effects
import ChipEight.Proofs.Halted
import Mathlib.Data.List.Induction

namespace ChipEight

/-! ## Histories -/

/-- What can happen to a console: an operation, or that the keypad alone is cleared. -/
inductive Happening where
  /-- Something is asked of the console. -/
  | operation (op : Operation)
  /-- All keys are let go, and no register waits. -/
  | clearKeypad

/-- The key is let go: it goes up, or the keypad is cleared, alone or with more. -/
def Happening.Frees (key : Nibble) : Happening → Prop
  | .operation (.release k) => k = key.val
  | .operation .resetProcessor | .operation .reset | .clearKeypad => True
  | .operation _ => False

/-- The key went down, and was not let go since. -/
def PressedLast (history : List Happening) (key : Nibble) : Prop :=
  ∃ before later, history = before ++ .operation (.press key.val) :: later ∧
    ∀ h ∈ later, ¬ h.Frees key

theorem not_pressedLast_nil (key : Nibble) : ¬ PressedLast [] key := by
  rintro ⟨before, later, h, -⟩
  simp at h

/-- The newest entry of a history decides, unless it has nothing to do with the key. -/
theorem pressedLast_concat {history : List Happening} {h : Happening} {key : Nibble} :
    PressedLast (history ++ [h]) key ↔
      h = .operation (.press key.val) ∨ PressedLast history key ∧ ¬ h.Frees key := by
  constructor
  · rintro ⟨before, later, heq, hlater⟩
    rcases List.eq_nil_or_concat later with rfl | ⟨later, newest, rfl⟩
    · obtain ⟨-, hnewest⟩ := List.append_inj' heq rfl
      exact .inl (List.singleton_inj.mp hnewest)
    · right
      rw [List.concat_eq_append] at heq hlater
      rw [← List.cons_append, ← List.append_assoc] at heq
      obtain ⟨rfl, hnewest⟩ := List.append_inj' heq rfl
      obtain rfl := List.singleton_inj.mp hnewest
      refine ⟨⟨before, later, rfl, ?_⟩, hlater h (by simp)⟩
      intro g hg
      exact hlater g (List.mem_append_left _ hg)
  · rintro (rfl | ⟨⟨before, later, rfl, hlater⟩, hfree⟩)
    · exact ⟨history, [], rfl, by simp⟩
    · refine ⟨before, later ++ [h], by simp, ?_⟩
      intro g hg
      rcases List.mem_append.mp hg with hg | hg
      · exact hlater g hg
      · rw [List.mem_singleton.mp hg]
        exact hfree

/-! ## The keypad -/

namespace Keypad

theorem ne_of_key?_eq_none {k : Int} (h : key? k = none) (key : Nibble) : k ≠ key.val := by
  rintro rfl
  rw [key?_val] at h
  cases h

theorem isHeld_val (p : Keypad) (key : Nibble) :
    p.isHeld key.val = getElem p.held key.val key.isLt := by
  rw [isHeld, key?_val]

/-- Only what names a key can be held. -/
theorem isHeld_eq_true_iff {p : Keypad} {k : Int} :
    p.isHeld k = true ↔ ∃ key : Nibble, k = key.val ∧ p.isHeld key.val = true := by
  constructor
  · intro h
    cases hk : key? k with
    | none =>
      rw [isHeld, hk] at h
      cases h
    | some key =>
      obtain rfl := key?_eq_some_iff.mp hk
      exact ⟨key, rfl, h⟩
  · rintro ⟨key, rfl, h⟩
    exact h

theorem isHeld_released (key : Nibble) : released.isHeld key.val = false := by
  rw [isHeld_val]
  exact Vector.getElem_replicate _

theorem isHeld_press (p : Keypad) (pressed key : Nibble) :
    (p.press pressed).1.isHeld key.val = true ↔ pressed = key ∨ p.isHeld key.val = true := by
  rw [isHeld_val, isHeld_val]
  show (p.held.set pressed.val true)[key.val] = true ↔ _
  rw [Vector.getElem_set]
  by_cases h : pressed = key
  · simp [h]
  · simp [h, Fin.val_inj]

theorem isHeld_release (p : Keypad) (freed key : Nibble) :
    (p.release freed).isHeld key.val = true ↔ p.isHeld key.val = true ∧ freed ≠ key := by
  rw [isHeld_val, isHeld_val]
  show (p.held.set freed.val false)[key.val] = true ↔ _
  rw [Vector.getElem_set]
  by_cases h : freed = key
  · simp [h]
  · simp [h, Fin.val_inj]

end Keypad

namespace Console

variable {c d w : Console} {key : Nibble}

/-! ## What runs -/

/-- A step leaves the held keys alone. -/
theorem held_step (c : Console) : c.step.1.keypad.held = c.keypad.held := by
  match hx : c.step with
  | (d, r) =>
    cases stepped_of_eq hx with
    | executed _ _ _ hd =>
      obtain ⟨_, _, _, _, -, rfl⟩ := withinReach_of_execute hd
      rw [fetched_eq]
    | halted | paused | unknown => rfl
    | faulted => rw [haltAt_fetched]
    | refused => rw [fetched_eq]

/-- Whatever runs leaves the held keys alone. -/
theorem held_perform (c : Console) {op : Operation} (h : op.Runs) :
    (c.perform op).1.keypad.held = c.keypad.held :=
  (course_perform c h).keeps (P := fun d => d.keypad.held = c.keypad.held) (G := fun _ => True)
    (fun hd _ => (held_step _).trans hd) id id rfl fun _ _ => trivial

/-- At every waypoint the keys are held that are held where the run starts. -/
theorem held_waypoint {op : Operation} (hw : w ∈ c.waypoints op) :
    w.keypad.held = c.keypad.held := by
  by_cases hop : op.Runs
  · obtain ⟨before, later, hvia⟩ := List.append_of_mem hw
    exact (course_perform c hop).holds_at (P := fun d => d.keypad.held = c.keypad.held)
      (G := fun _ => True) (fun hd _ => (held_step _).trans hd) id id rfl hvia fun _ _ => trivial
  · rw [waypoints_of_not_runs c hop] at hw
    cases hw

theorem isHeld_congr (h : d.keypad.held = c.keypad.held) (k : Int) :
    d.keypad.isHeld k = c.keypad.isHeld k := by
  unfold Keypad.isHeld
  rw [h]

/-! ## What happens to a console -/

theorem isHeld_pressKey (c : Console) (k : Int) :
    (c.pressKey k).keypad.isHeld key.val = true ↔
      k = key.val ∨ c.keypad.isHeld key.val = true := by
  rcases pressKey_cases c k with ⟨hnone, hd⟩ | ⟨pressed, hk, hd⟩
  · rw [hd]
    simp [Keypad.ne_of_key?_eq_none hnone key]
  · have hkeypad : (c.pressKey k).keypad = (c.keypad.press pressed).1 := by
      rcases hd with ⟨-, hd⟩ | ⟨x, -, hd⟩ <;> rw [hd]
    obtain rfl := Keypad.key?_eq_some_iff.mp hk
    rw [hkeypad, Keypad.isHeld_press, Int.natCast_inj, Fin.val_inj]

theorem isHeld_releaseKey (c : Console) (k : Int) :
    (c.releaseKey k).keypad.isHeld key.val = true ↔
      c.keypad.isHeld key.val = true ∧ k ≠ key.val := by
  unfold releaseKey
  cases hk : Keypad.key? k with
  | none =>
    simp [Keypad.ne_of_key?_eq_none hk key]
  | some freed =>
    obtain rfl := Keypad.key?_eq_some_iff.mp hk
    show (c.keypad.release freed).isHeld _ = true ↔ _
    rw [Keypad.isHeld_release, Ne, Ne, Int.natCast_inj, Fin.val_inj]

/-- The console after what happened to it. -/
def undergo (c : Console) : Happening → Console
  | .operation op => (c.perform op).1
  | .clearKeypad => c.clearKeypad

/-- The console after everything that happened to it, one after another. -/
def afterAll (c : Console) (history : List Happening) : Console :=
  history.foldl undergo c

theorem afterAll_concat (c : Console) (history : List Happening) (h : Happening) :
    c.afterAll (history ++ [h]) = (c.afterAll history).undergo h := by
  simp [afterAll]

theorem undergo_step (c : Console) : c.undergo (.operation .step) = c.step.1 :=
  answering_fst .stepped c.step

/-- A key is held afterwards if it just went down, or if it was held and is not let go. -/
theorem isHeld_undergo (c : Console) (h : Happening) (key : Nibble) :
    (c.undergo h).keypad.isHeld key.val = true ↔
      h = .operation (.press key.val) ∨ c.keypad.isHeld key.val = true ∧ ¬ h.Frees key := by
  have unchanged (hd : (c.undergo h).keypad.held = c.keypad.held)
      (hp : h ≠ .operation (.press key.val)) (hf : ¬ h.Frees key) :
      (c.undergo h).keypad.isHeld key.val = true ↔
        h = .operation (.press key.val) ∨ c.keypad.isHeld key.val = true ∧ ¬ h.Frees key := by
    rw [isHeld_congr hd]
    simp [hp, hf]
  have cleared (hd : (c.undergo h).keypad = Keypad.released)
      (hp : h ≠ .operation (.press key.val)) (hf : h.Frees key) :
      (c.undergo h).keypad.isHeld key.val = true ↔
        h = .operation (.press key.val) ∨ c.keypad.isHeld key.val = true ∧ ¬ h.Frees key := by
    rw [hd, Keypad.isHeld_released]
    simp [hp, hf]
  cases h with
  | clearKeypad => exact cleared rfl nofun trivial
  | operation op =>
    cases op with
    | press k =>
      show (c.pressKey k).keypad.isHeld _ = true ↔ _
      rw [isHeld_pressKey]
      simp [Happening.Frees]
    | release k =>
      show (c.releaseKey k).keypad.isHeld _ = true ↔ _
      rw [isHeld_releaseKey]
      simp [Happening.Frees]
    | resetProcessor | reset => exact cleared rfl nofun trivial
    | loadRom image =>
      refine unchanged ?_ nofun id
      show (c.perform (.loadRom image)).1.keypad.held = _
      rcases perform_loadRom_cases c image with hd | ⟨memory, hd⟩ <;> rw [hd]
    | loadProgram => exact unchanged rfl nofun id
    | step | runCycles | runFrame | runFrames | runPaced =>
      exact unchanged (held_perform c trivial) nofun id

/-- A key is held if and only if it went down and was not let go since. -/
theorem isHeld_after (screen : Screen) (random : RandomBytes) (speed : Amount) (toneHz : Int)
    (history : List Happening) (key : Nibble) :
    ((new screen random speed toneHz).afterAll history).keypad.isHeld key.val = true ↔
      PressedLast history key := by
  induction history using List.reverseRecOn with
  | nil =>
    have hnone := not_pressedLast_nil key
    have hnew : Keypad.released.isHeld key.val = false := Keypad.isHeld_released key
    show Keypad.released.isHeld key.val = true ↔ _
    simp [hnew, hnone]
  | append_singleton history h ih =>
    rw [afterAll_concat, isHeld_undergo, pressedLast_concat, ih]

/-! ## Skips -/

/-- The next step goes past the instruction behind it if the condition holds, and else to it. -/
def SkipsIf (w : Console) (condition : Prop) : Prop :=
  (condition → w.step.1.machine.pc = w.machine.pc + 4) ∧
    (¬ condition → w.step.1.machine.pc = w.machine.pc + 2)

/-- An executed instruction that does nothing but skip does so if its condition holds. -/
theorem skipsIf_of_executes? {i : Instruction} {condition : Bool} {p : Prop}
    (hp : condition = true ↔ p) (h : w.executes? = some i)
    (hi : w.fetched.execute i =
      .ok (w.fetched.withMachine (w.fetched.machine.skipIf condition))) : w.SkipsIf p := by
  obtain ⟨-, -, -, d, hd, hstep⟩ := executes?_eq_some_iff.mp h
  obtain rfl := Except.ok.inj (hi.symm.trans hd)
  have hpc : w.step.1.machine.pc =
      if condition then w.machine.pc + 4 else w.machine.pc + 2 := by
    rw [hstep, fetched_eq]
    exact Machine.pc_skipIf _ _
  rw [SkipsIf, ← hp, hpc]
  cases condition <;> simp

/-- Let anything happen to a console that was just made. A key is held if and only if it went down
and was not let go since; what names no key changes nothing when it goes down or up; and whatever
runs leaves the held keys alone. So wherever a run executes an instruction that asks for a key, it
skips if and only if the byte in the register names a key that is held by this account, and the
instruction that asks for a free key does so if and only if the byte names no such key. -/
theorem skips_after (screen : Screen) (random : RandomBytes) (speed : Amount) (toneHz : Int)
    (history : List Happening) :
    let c := (new screen random speed toneHz).afterAll history
    (∀ key : Nibble, c.keypad.isHeld key.val = true ↔ PressedLast history key) ∧
      (∀ (d : Console) (k : Int), k < 0 ∨ 16 ≤ k → d.pressKey k = d ∧ d.releaseKey k = d) ∧
      (∀ (d : Console) (op : Operation), op.Runs →
        (d.perform op).1.keypad.held = d.keypad.held) ∧
      ∀ (op : Operation), ∀ w ∈ c.waypoints op, ∀ x : Nibble,
        let asked := ∃ key : Nibble,
          (w.machine.register x).toNat = key.val ∧ PressedLast history key
        (w.executes? = some (.skipHeld x) → w.SkipsIf asked) ∧
          (w.executes? = some (.skipFree x) → w.SkipsIf ¬ asked) := by
  intro c
  have hheld : ∀ key : Nibble, c.keypad.isHeld key.val = true ↔ PressedLast history key :=
    isHeld_after screen random speed toneHz history
  refine ⟨hheld, fun d k hk => ⟨pressKey_of_outside d hk, releaseKey_of_outside d hk⟩,
    fun d op hop => held_perform d hop, ?_⟩
  intro op w hw x asked
  have hasked : w.keypad.isHeld (w.machine.register x).toNat = true ↔ asked := by
    rw [isHeld_congr (held_waypoint hw), Keypad.isHeld_eq_true_iff]
    simp only [hheld, Int.natCast_inj, asked]
  have hfree : (!w.keypad.isHeld (w.machine.register x).toNat) = true ↔ ¬ asked := by
    rw [← hasked]
    simp
  constructor
  · intro h
    apply skipsIf_of_executes? hasked h
    rw [fetched_eq, execute_eq]
    rfl
  · intro h
    apply skipsIf_of_executes? hfree h
    rw [fetched_eq, execute_eq]
    rfl

/-- A program that asks whether key 7 is held and whether number 19 is free, after keys that went
down and up and were cleared. -/
def askingForKeys : List Happening :=
  [.operation (.loadRom [0x60, 0x07, 0x61, 0x13, 0xE0, 0x9E, 0x00, 0xEE, 0xE1, 0xA1]),
    .operation (.press 3), .clearKeypad, .operation .reset, .operation (.press 7),
    .operation (.press 19), .operation (.release (-1)), .operation .step, .operation .step]

theorem skips_after_askingForKeys :
    let c := (new (Screen.blank 8 5) (.ofArray #[]) (.number 3) 440).afterAll askingForKeys
    c.executes? = some (.skipHeld 0) ∧ c.step.1.machine.pc = 0x208 ∧
      c.step.1.executes? = some (.skipFree 1) ∧ c.step.1.step.1.machine.pc = 0x20C ∧
        c.keypad.isHeld 3 = false := by
  intro c
  obtain ⟨hasks, hbyte, hpc, hseven, hthree⟩ :
      c.executes? = some (.skipHeld 0) ∧ (c.machine.register 0).toNat = (7 : Nibble).val ∧
        c.machine.pc = 0x204 ∧ c.keypad.isHeld (7 : Nibble).val = true ∧
          c.keypad.isHeld 3 = false := by
    decide +kernel
  obtain ⟨hfree, hlarge, hnext⟩ :
      c.step.1.executes? = some (.skipFree 1) ∧ (c.step.1.machine.register 1).toNat = 19 ∧
        c.step.1.machine.pc = 0x208 := by
    decide +kernel
  have hrun := skips_after (Screen.blank 8 5) (.ofArray #[]) (.number 3) 440
  obtain ⟨hheld, -, -, hfirst⟩ := hrun askingForKeys
  obtain ⟨-, -, -, hsecond⟩ := hrun (askingForKeys ++ [.operation .step])
  refine ⟨hasks, ?_, hfree, ?_, hthree⟩
  · rw [((hfirst .step c List.mem_cons_self 0).1 hasks).1 ⟨7, hbyte, (hheld 7).mp hseven⟩, hpc]
    rfl
  · have hnone : ¬ ∃ key : Nibble, (c.step.1.machine.register 1).toNat = key.val ∧
        PressedLast (askingForKeys ++ [.operation .step]) key := by
      rintro ⟨key, hkey, -⟩
      omega
    have hat := hsecond .step
    rw [afterAll_concat, undergo_step] at hat
    rw [((hat c.step.1 List.mem_cons_self 1).2 hfree).1 hnone, hnext]
    rfl

end Console

end ChipEight
