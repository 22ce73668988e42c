/-
# ChipEight.Proofs.Reseeded -- random bytes that nobody asks for

Two consoles that differ in where their random bytes come from do the same until one of them takes a
random byte. Only one instruction takes any, so this is a case analysis over the others
(`execute_reseeded`), a lemma about one step, and one induction for each kind of run. The runs are
restricted by their waypoints, which a simulation cannot do, because it asks for all steps of all related
consoles.
-/
import ChipEight.Proofs.Course

namespace ChipEight.Console

variable {c : Console}

/-! ## Single steps -/

/-- The console with random bytes from another source. -/
def reseeded (c : Console) (r : RandomBytes) : Console :=
  { c with random := r }

/-- The next step takes a random byte. -/
def TakesRandom (c : Console) : Prop :=
  ∃ x kk, c.executes? = some (.random x kk)

theorem fetched_reseeded (c : Console) (r : RandomBytes) :
    (c.reseeded r).fetched = c.fetched.reseeded r := by
  rw [fetched_eq, fetched_eq]
  rfl

/-- All other instructions do the same, whatever the random bytes are. -/
theorem execute_reseeded {i : Instruction} (h : ∀ x kk, i ≠ .random x kk) (c : Console)
    (r : RandomBytes) : (c.reseeded r).execute i = (c.execute i).map (·.reseeded r) := by
  rw [execute_eq, execute_eq]
  cases i with
  | random x kk => exact absurd rfl (h x kk)
  | ret =>
    simp only [effect, reseeded]
    split <;> rfl
  | call target =>
    show (if Machine.stackDepth ≤ c.machine.stack.length then _ else _) =
      (if Machine.stackDepth ≤ c.machine.stack.length then _ else _ : Except Stop Console).map _
    split <;> rfl
  | draw x y n =>
    simp only [effect, reseeded]
    split <;> rfl
  | readDelay x =>
    show (if 0 ≤ c.machine.delay ∧ c.machine.delay < 256 then _ else _) =
      (if 0 ≤ c.machine.delay ∧ c.machine.delay < 256 then _ else _ : Except Stop Console).map _
    split <;> rfl
  | _ => rfl

theorem step_reseeded (h : ¬ c.TakesRandom) (r : RandomBytes) :
    (c.reseeded r).step = (c.step.1.reseeded r, c.step.2) := by
  cases hh : c.halted with
  | true => rw [step_of_halted hh, step_of_halted (c := c.reseeded r) hh]
  | false =>
    cases hp : c.machine.paused with
    | true => rw [step_of_paused hh hp, step_of_paused (c := c.reseeded r) hh hp]
    | false =>
      cases hi : Instruction.decode? c.nextWord with
      | none =>
        rw [step_of_unknown hh hp hi, step_of_unknown (c := c.reseeded r) hh hp hi]
        rfl
      | some i =>
        -- a random instruction is always executed, so this is another one
        have hother : ∀ x kk, i ≠ .random x kk := by
          rintro x kk rfl
          exact h ⟨x, kk, executes?_of_execute hh hp hi (execute_eq _ _)⟩
        have hexecute : (c.reseeded r).fetched.execute i =
            (c.fetched.execute i).map (·.reseeded r) := by
          rw [fetched_reseeded, execute_reseeded hother]
        cases hx : c.fetched.execute i with
        | ok d =>
          rw [hx] at hexecute
          rw [step_of_executed hh hp hi hx, step_of_executed (c := c.reseeded r) hh hp hi hexecute]
          rfl
        | error e =>
          rw [hx] at hexecute
          by_cases hf : ∃ f, e = .fault f
          · obtain ⟨f, rfl⟩ := hf
            rw [step_of_fault hh hp hi hx, step_of_fault (c := c.reseeded r) hh hp hi hexecute,
              fetched_reseeded]
            rfl
          · have hno : ∀ f, e ≠ .fault f := not_exists.mp hf
            rw [step_of_refusal hh hp hi hx hno,
              step_of_refusal (c := c.reseeded r) hh hp hi hexecute hno, fetched_reseeded]

/-! ## Runs -/

/-- A run that takes no random byte on its way is the same with other random bytes. -/
theorem stepUpTo_reseeded {n : Nat} (h : ∀ w ∈ waypointsUpTo n c, ¬ w.TakesRandom)
    (r : RandomBytes) :
    stepUpTo n (c.reseeded r) = ((stepUpTo n c).1.reseeded r, (stepUpTo n c).2) := by
  induction n generalizing c with
  | zero => rfl
  | succ n ih =>
    unfold waypointsUpTo at h
    unfold stepUpTo
    by_cases hp : c.machine.paused = true
    · rw [if_pos hp, if_pos (show (c.reseeded r).machine.paused = true from hp)]
    · rw [if_neg hp] at h
      rw [if_neg hp, if_neg (show ¬ (c.reseeded r).machine.paused = true from hp)]
      obtain ⟨hc, hrest⟩ := List.forall_mem_cons.mp h
      rw [step_reseeded hc]
      rcases hx : c.step with ⟨d, a⟩
      rw [hx] at hrest
      cases a with
      | ok _ => exact ih hrest
      | error _ => rfl

theorem runCycles_reseeded {count : Int} (h : ∀ w ∈ c.waypointsOfCycles count, ¬ w.TakesRandom)
    (r : RandomBytes) :
    (c.reseeded r).runCycles count = ((c.runCycles count).1.reseeded r, (c.runCycles count).2) := by
  unfold waypointsOfCycles at h
  unfold runCycles
  by_cases hh : c.halted = true
  · rw [if_pos hh, if_pos (show (c.reseeded r).halted = true from hh)]
  · rw [if_neg hh] at h
    rw [if_neg hh, if_neg (show ¬ (c.reseeded r).halted = true from hh), stepUpTo_reseeded h]
    rcases stepUpTo count.toNat c with ⟨d, a⟩
    cases a with
    | ok _ => rfl
    | error _ => rfl

theorem runFrame_reseeded (h : ∀ w ∈ c.waypointsOfFrame, ¬ w.TakesRandom) (r : RandomBytes) :
    (c.reseeded r).runFrame = (c.runFrame.1.reseeded r, c.runFrame.2) := by
  unfold waypointsOfFrame at h
  unfold runFrame
  have hamount : (c.reseeded r).runAmount c.cyclesPerFrame =
      ((c.runAmount c.cyclesPerFrame).1.reseeded r, (c.runAmount c.cyclesPerFrame).2) := by
    cases hs : c.cyclesPerFrame with
    | nothing => rfl
    | number count =>
      rw [hs] at h
      exact runCycles_reseeded h r
  rw [show (c.reseeded r).cyclesPerFrame = c.cyclesPerFrame from rfl, hamount]
  rcases c.runAmount c.cyclesPerFrame with ⟨d, a⟩
  cases a with
  | ok _ => rfl
  | error _ => rfl

theorem runFrames_reseeded {n : Nat} (h : ∀ w ∈ waypointsOfFrames n c, ¬ w.TakesRandom)
    (r : RandomBytes) :
    runFrames n (c.reseeded r) = ((runFrames n c).1.reseeded r, (runFrames n c).2) := by
  induction n generalizing c with
  | zero => rfl
  | succ n ih =>
    unfold waypointsOfFrames at h
    unfold runFrames
    obtain ⟨hframe, hrest⟩ := List.forall_mem_append.mp h
    rw [runFrame_reseeded hframe]
    rcases hx : c.runFrame with ⟨d, a⟩
    rw [hx] at hrest
    cases a with
    | ok _ => exact ih hrest
    | error _ => rfl

end ChipEight.Console
