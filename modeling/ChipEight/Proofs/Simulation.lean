/-
# ChipEight.Proofs.Simulation -- two consoles that are used alike

A relation between consoles is a simulation if two related consoles cannot be told apart by using
them: every operation gives the same answer on both and leaves them related. Reasons for which a
step is not completed may differ by a relation `E` of their own, because a reason names an address
and the two consoles may disagree about addresses.

`Simulation R E` asks about single steps and single changes only. That batches, frames, paced runs
and whole histories follow is proved here, once, with one induction for each kind of run. For the
single steps it is enough to look at instructions (`matched_step`).
-/
import ChipEight.Proofs.History
import Mathlib.Data.List.Forall2

namespace ChipEight

/-! ## Matching answers -/

/-- Two results match: values that `R` relates, or errors that `E` relates. -/
inductive Matching {ε α : Type} (E : ε → ε → Prop) (R : α → α → Prop) :
    Except ε α → Except ε α → Prop
  | ok {a b : α} : R a b → Matching E R (.ok a) (.ok b)
  | error {e f : ε} : E e f → Matching E R (.error e) (.error f)

/-- Results that match are equal if errors that match are. -/
theorem Matching.eq {ε α : Type} {E : ε → ε → Prop} {a b : Except ε α}
    (h : Matching E (· = ·) a b) (hE : ∀ e f, E e f → e = f) : a = b := by
  cases h with
  | ok hab => rw [hab]
  | error he => rw [hE _ _ he]

/-- Two refusals match: stops that `E` relates, or the same refusal for another reason. -/
inductive Refusal.Matching (E : Stop → Stop → Prop) : Refusal → Refusal → Prop
  | stop {e f : Stop} : E e f → Matching E (.stop e) (.stop f)
  | size (e : TooLarge) : Matching E (.size e) (.size e)
  | rate (e : RateError) : Matching E (.rate e) (.rate e)
  | time (e : ReadingError) : Matching E (.time e) (.time e)

theorem Refusal.Matching.eq {e f : Refusal} (h : Refusal.Matching (· = ·) e f) : e = f := by
  cases h with
  | stop h => rw [h]
  | size | rate | time => rfl

/-- Two answers to an operation match: they are equal, or both are refusals that match. -/
def AnswersMatch (E : Stop → Stop → Prop) : Except Refusal Answer → Except Refusal Answer → Prop :=
  Matching (Refusal.Matching E) (· = ·)

namespace Console

/-- Two outcomes match: the consoles are related, and the answers match. -/
structure Matched {α : Type} (R : Console → Console → Prop) (E : Stop → Stop → Prop)
    (o p : Console × Except Stop α) : Prop where
  console : R o.1 p.1
  answer : Matching E (· = ·) o.2 p.2

/-! ## Steps -/

/-- `E` relates a fault to faults only. -/
def RespectsFaults (E : Stop → Stop → Prop) : Prop :=
  ∀ e f, E e f → ((∃ g, e = .fault g) ↔ ∃ g, f = .fault g)

/-- Steps of two related consoles match if their instructions do and their halts are related. Both
fetch one word, so they take the same turn as far as the word decides. -/
theorem matched_step {R : Console → Console → Prop} {E : Stop → Stop → Prop} {c d : Console}
    (refl : ∀ e, E e e) (faults : RespectsFaults E) (hcd : R c d)
    (hhalted : d.halted = c.halted) (hpaused : d.machine.paused = c.machine.paused)
    (hword : d.nextWord = c.nextWord)
    (unknown : E (.fault (.unknownInstruction c.nextWord c.machine.pc.toNat))
      (.fault (.unknownInstruction c.nextWord d.machine.pc.toNat)))
    (haltAt : ∀ {a b : Console} {f g : Fault}, R a b → E (.fault f) (.fault g) →
      R (a.haltAt c.machine.pc f) (b.haltAt d.machine.pc g))
    (fetched : R c.fetched d.fetched)
    (execute : ∀ i, Matching E R (c.fetched.execute i) (d.fetched.execute i))
    (count : ∀ {a b : Console}, R a b →
      R { a with cycles := a.cycles + 1 } { b with cycles := b.cycles + 1 }) :
    Matched R E c.step d.step := by
  cases hh : c.halted with
  | true =>
    rw [step_of_halted hh, step_of_halted (hhalted.trans hh)]
    exact ⟨hcd, .error (refl _)⟩
  | false =>
    have hh' := hhalted.trans hh
    cases hp : c.machine.paused with
    | true =>
      rw [step_of_paused hh hp, step_of_paused hh' (hpaused.trans hp)]
      exact ⟨hcd, .ok rfl⟩
    | false =>
      have hp' := hpaused.trans hp
      cases hi : Instruction.decode? c.nextWord with
      | none =>
        have hi' : Instruction.decode? d.nextWord = none := by rw [hword, hi]
        rw [step_of_unknown hh hp hi, step_of_unknown hh' hp' hi', hword]
        exact ⟨haltAt hcd unknown, .error unknown⟩
      | some i =>
        have hi' : Instruction.decode? d.nextWord = some i := by rw [hword, hi]
        have hx := execute i
        generalize hc : c.fetched.execute i = r, hd : d.fetched.execute i = s at hx
        cases hx with
        | ok hab =>
          rw [step_of_executed hh hp hi hc, step_of_executed hh' hp' hi' hd]
          exact ⟨count hab, .ok rfl⟩
        | @error e f he =>
          -- both instructions end in a fault, or neither does
          by_cases hf : ∃ g, e = .fault g
          · obtain ⟨_, rfl⟩ := (faults e f he).mp hf
            obtain ⟨_, rfl⟩ := hf
            rw [step_of_fault hh hp hi hc, step_of_fault hh' hp' hi' hd]
            exact ⟨haltAt fetched he, .error he⟩
          · have hno : ∀ g, e ≠ .fault g := not_exists.mp hf
            have hno' : ∀ g, f ≠ .fault g := not_exists.mp ((faults e f he).not.mp hf)
            rw [step_of_refusal hh hp hi hc hno, step_of_refusal hh' hp' hi' hd hno']
            exact ⟨fetched, .error he⟩

/-! ## Runs -/

/-- `R` is kept by everything that a run is made of, and related consoles run for the same time. -/
structure RunSimulation (R : Console → Console → Prop) (E : Stop → Stop → Prop) : Prop where
  refl (e : Stop) : E e e
  halted {c d : Console} : R c d → d.halted = c.halted
  paused {c d : Console} : R c d → d.machine.paused = c.machine.paused
  speed {c d : Console} : R c d → d.cyclesPerFrame = c.cyclesPerFrame
  step {c d : Console} : R c d → Matched R E c.step d.step
  endBatch {c d : Console} : R c d → R c.endBatch d.endBatch
  countFrame {c d : Console} :
    R c d → R { c with frames := c.frames + 1 } { d with frames := d.frames + 1 }

namespace RunSimulation

variable {R : Console → Console → Prop} {E : Stop → Stop → Prop} {c d : Console}
  (h : RunSimulation R E)
include h

theorem stepUpTo (hcd : R c d) (n : Nat) :
    Matched R E (Console.stepUpTo n c) (Console.stepUpTo n d) := by
  induction n generalizing c d with
  | zero => exact ⟨hcd, .ok rfl⟩
  | succ n ih =>
    unfold Console.stepUpTo
    rw [h.paused hcd]
    by_cases hp : c.machine.paused = true
    · rw [if_pos hp, if_pos hp]
      exact ⟨hcd, .ok rfl⟩
    · rw [if_neg hp, if_neg hp]
      obtain ⟨hconsole, hanswer⟩ := h.step hcd
      rcases hc : c.step with ⟨c', r⟩
      rcases hd : d.step with ⟨d', s⟩
      rw [hc, hd] at hconsole hanswer
      cases hanswer with
      | ok => exact ih hconsole
      | error he => exact ⟨hconsole, .error he⟩

theorem runCycles (hcd : R c d) (count : Int) :
    Matched R E (c.runCycles count) (d.runCycles count) := by
  unfold Console.runCycles
  rw [h.halted hcd]
  by_cases hh : c.halted = true
  · rw [if_pos hh, if_pos hh]
    exact ⟨hcd, .error (h.refl _)⟩
  · rw [if_neg hh, if_neg hh]
    obtain ⟨hconsole, hanswer⟩ := h.stepUpTo hcd count.toNat
    rcases hc : Console.stepUpTo count.toNat c with ⟨c', r⟩
    rcases hd : Console.stepUpTo count.toNat d with ⟨d', s⟩
    rw [hc, hd] at hconsole hanswer
    cases hanswer with
    | ok => exact ⟨h.endBatch hconsole, .ok rfl⟩
    | error he => exact ⟨hconsole, .error he⟩

theorem runAmount (hcd : R c d) (amount : Amount) :
    Matched R E (c.runAmount amount) (d.runAmount amount) := by
  cases amount with
  | number count => exact h.runCycles hcd count
  | nothing =>
    unfold Console.runAmount
    rw [h.halted hcd]
    exact ⟨hcd, .error (h.refl _)⟩

theorem runFrame (hcd : R c d) : Matched R E c.runFrame d.runFrame := by
  unfold Console.runFrame
  rw [h.speed hcd]
  obtain ⟨hconsole, hanswer⟩ := h.runAmount hcd c.cyclesPerFrame
  rcases hc : c.runAmount c.cyclesPerFrame with ⟨c', r⟩
  rcases hd : d.runAmount c.cyclesPerFrame with ⟨d', s⟩
  rw [hc, hd] at hconsole hanswer
  cases hanswer with
  | ok => exact ⟨h.countFrame hconsole, .ok rfl⟩
  | error he => exact ⟨hconsole, .error he⟩

theorem runFrames (hcd : R c d) (n : Nat) :
    Matched R E (Console.runFrames n c) (Console.runFrames n d) := by
  induction n generalizing c d with
  | zero => exact ⟨hcd, .ok rfl⟩
  | succ n ih =>
    unfold Console.runFrames
    obtain ⟨hconsole, hanswer⟩ := h.runFrame hcd
    rcases hc : c.runFrame with ⟨c', r⟩
    rcases hd : d.runFrame with ⟨d', s⟩
    rw [hc, hd] at hconsole hanswer
    cases hanswer with
    | ok => exact ih hconsole
    | error he => exact ⟨hconsole, .error he⟩

/-- Both runs read one clock and ask one signal, so they sleep and end alike. -/
theorem pace (interval : Float) (limit : Option Int) (signal : Signal) (rounds ran : Nat)
    (due : Float) (clock : Clock) (hcd : R c d) :
    let r := Console.pace interval limit signal rounds ran due clock c
    let s := Console.pace interval limit signal rounds ran due clock d
    R r.console s.console ∧ AnswersMatch E r.ending.answer s.ending.answer := by
  dsimp only
  induction rounds generalizing ran due clock c d with
  | zero => exact ⟨hcd, .ok rfl⟩
  | succ rounds ih =>
    unfold Console.pace
    by_cases ho : isOver limit signal ran = true
    · rw [if_pos ho, if_pos ho]
      exact ⟨hcd, .ok rfl⟩
    · rw [if_neg ho, if_neg ho]
      obtain ⟨hconsole, hanswer⟩ := h.runFrame hcd
      rcases hc : c.runFrame with ⟨c', r⟩
      rcases hd : d.runFrame with ⟨d', s⟩
      rw [hc, hd] at hconsole hanswer
      cases hanswer with
      | error he => exact ⟨hconsole, .error (.stop he)⟩
      | ok =>
        cases clock.read with
        | error e => exact ⟨hconsole, .error (.time e)⟩
        | ok now =>
          dsimp only
          -- the frame was late, or there is time to sleep; the next round starts either way
          split
          · exact ih _ _ _ hconsole
          · cases clock.next.read with
            | error e => exact ⟨hconsole, .error (.time e)⟩
            | ok now => exact ih _ _ _ hconsole

theorem runPaced (hcd : R c d) (framesPerSecond : Int) (limit : Option Int) (signal : Signal)
    (patience : Nat) (clock : Clock) :
    let r := c.runPaced framesPerSecond limit signal patience clock
    let s := d.runPaced framesPerSecond limit signal patience clock
    R r.console s.console ∧ AnswersMatch E r.ending.answer s.ending.answer := by
  unfold Console.runPaced
  cases intervalOf framesPerSecond with
  | error e => exact ⟨hcd, .error (.rate e)⟩
  | ok interval =>
    cases clock.read with
    | error e => exact ⟨hcd, .error (.time e)⟩
    | ok now => exact h.pace interval limit signal _ _ _ _ hcd

end RunSimulation

/-! ## Histories -/

/-- `R` is kept by every operation, and related consoles give matching answers. -/
structure Simulation (R : Console → Console → Prop) (E : Stop → Stop → Prop) : Prop
    extends RunSimulation R E where
  putRom {c d : Console} (image : List UInt8) :
    R c d → R { c with rom := image, machine := c.machine.load image Memory.programBase }
      { d with rom := image, machine := d.machine.load image Memory.programBase }
  loadProgram {c d : Console} (image : List UInt8) (address : Int) :
    R c d → R { c with machine := c.machine.load image address }
      { d with machine := d.machine.load image address }
  press {c d : Console} (key : Int) : R c d → R (c.pressKey key) (d.pressKey key)
  release {c d : Console} (key : Int) : R c d → R (c.releaseKey key) (d.releaseKey key)
  resetProcessor {c d : Console} : R c d → R c.resetProcessor d.resetProcessor
  reset {c d : Console} : R c d → R c.reset d.reset

theorem matched_answering {R : Console → Console → Prop} {E : Stop → Stop → Prop} {α : Type}
    (answer : α → Answer) {o p : Console × Except Stop α} (h : Matched R E o p) :
    R (answering answer o).1 (answering answer p).1 ∧
      AnswersMatch E (answering answer o).2 (answering answer p).2 := by
  obtain ⟨c, r⟩ := o
  obtain ⟨d, s⟩ := p
  obtain ⟨hconsole, hanswer⟩ := h
  cases hanswer with
  | ok hab => exact ⟨hconsole, .ok (congrArg answer hab)⟩
  | error he => exact ⟨hconsole, .error (.stop he)⟩

namespace Simulation

variable {R : Console → Console → Prop} {E : Stop → Stop → Prop} {c d : Console}
  (h : Simulation R E)
include h

theorem perform (hcd : R c d) (op : Operation) :
    R (c.perform op).1 (d.perform op).1 ∧ AnswersMatch E (c.perform op).2 (d.perform op).2 := by
  cases op with
  | loadRom image =>
    -- whether an image fits depends on the image alone
    by_cases hs : image.length ≤ Memory.programRoom
    · rw [perform_loadRom c hs, perform_loadRom d hs]
      exact ⟨h.putRom image hcd, .ok rfl⟩
    · rw [perform_loadRom_of_lt c (Nat.not_le.mp hs), perform_loadRom_of_lt d (Nat.not_le.mp hs)]
      exact ⟨hcd, .error (.size _)⟩
  | loadProgram image address => exact ⟨h.loadProgram image address hcd, .ok rfl⟩
  | step => exact matched_answering _ (h.step hcd)
  | runCycles count => exact matched_answering _ (h.runCycles hcd count)
  | runFrame => exact matched_answering _ (h.runFrame hcd)
  | runFrames count => exact matched_answering _ (h.runFrames hcd count.toNat)
  | runPaced framesPerSecond limit signal patience clock =>
    exact h.runPaced hcd framesPerSecond limit signal patience clock
  | press key => exact ⟨h.press key hcd, .ok rfl⟩
  | release key => exact ⟨h.release key hcd, .ok rfl⟩
  | resetProcessor => exact ⟨h.resetProcessor hcd, .ok rfl⟩
  | reset => exact ⟨h.reset hcd, .ok rfl⟩

/-- No history tells two related consoles apart. -/
theorem after (hcd : R c d) (ops : List Operation) :
    List.Forall₂ (AnswersMatch E) (c.answers ops) (d.answers ops) ∧
      R (c.after ops) (d.after ops) := by
  induction ops generalizing c d with
  | nil => exact ⟨.nil, hcd⟩
  | cons op ops ih =>
    obtain ⟨hconsole, hanswer⟩ := h.perform hcd op
    obtain ⟨hanswers, hafter⟩ := ih hconsole
    exact ⟨.cons hanswer hanswers, hafter⟩

end Simulation

end Console

end ChipEight
