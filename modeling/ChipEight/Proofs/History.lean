/-
# ChipEight.Proofs.History -- consoles that are used

A console is used by operations: programs are loaded, steps, batches and frames are run, keys go
down and up, and it is started over. `perform` is one operation with its answer, and `after` is the
console after any list of them. An operation that is refused still has a console afterwards, so a
history goes on after a refusal.

`Invariant P Q` says that `P` is kept by each operation and that `Q` holds of whatever stops a step.
It asks about single steps only: that batches, frames and paced runs keep `P` as well is proved
here, once, by induction along the run.
-/
import ChipEight.Console.Paced
import ChipEight.Console.Reset
import ChipEight.Proofs.Step

namespace ChipEight

/-! ## Operations -/

/-- What can be asked of a console. -/
inductive Operation where
  /-- Loads a program where programs start. -/
  | loadRom (image : List UInt8)
  /-- Puts an image into memory. -/
  | loadProgram (image : List UInt8) (address : Int)
  /-- Runs one instruction. -/
  | step
  /-- Runs one batch. -/
  | runCycles (count : Int)
  /-- Runs one frame. -/
  | runFrame
  /-- Runs frames one after another. -/
  | runFrames (count : Int)
  /-- Runs frames in step with a clock. -/
  | runPaced (framesPerSecond : Int) (limit : Option Int) (signal : Signal) (patience : Nat)
      (clock : Clock)
  /-- A key goes down. -/
  | press (key : Int)
  /-- A key goes up. -/
  | release (key : Int)
  /-- Starts the processor over. -/
  | resetProcessor
  /-- Starts the console over. -/
  | reset

/-- Why an operation is refused, or ends before it is done. -/
inductive Refusal where
  /-- The program does not fit. -/
  | size (error : TooLarge)
  /-- A step was not completed. -/
  | stop (reason : Stop)
  /-- The rate has no interval. -/
  | rate (error : RateError)
  /-- The clock could not be read. -/
  | time (error : ReadingError)
  deriving DecidableEq

/-- What an operation answers. -/
inductive Answer where
  /-- There is nothing to say. -/
  | done
  /-- Whether an instruction was executed. -/
  | stepped (executed : Bool)
  /-- The number of frames. -/
  | frames (count : Int)
  /-- The rounds that were allowed are used up. -/
  | unfinished
  deriving DecidableEq

/-- The answer of a paced run that ended in this way. -/
def PacedEnd.answer : PacedEnd → Except Refusal Answer
  | .ran frames => .ok (.frames frames)
  | .refused reason => .error (.stop reason)
  | .noInterval error => .error (.rate error)
  | .noTime error => .error (.time error)
  | .unfinished => .ok .unfinished

namespace Console

/-- Says of an outcome what it answers as that of an operation. -/
def answering {α : Type} (answer : α → Answer) :
    Console × Except Stop α → Console × Except Refusal Answer
  | (d, .ok a) => (d, .ok (answer a))
  | (d, .error reason) => (d, .error (.stop reason))

/-- One operation: the console afterwards, and the answer. -/
def perform (c : Console) : Operation → Console × Except Refusal Answer
  | .loadRom image =>
    match c.loadRom image with
    | .ok d => (d, .ok .done)
    | .error e => (c, .error (.size e))
  | .loadProgram image address =>
    ({ c with machine := c.machine.load image address }, .ok .done)
  | .step => answering .stepped c.step
  | .runCycles count => answering (fun _ => .done) (c.runCycles count)
  | .runFrame => answering (fun _ => .done) c.runFrame
  | .runFrames count => answering (fun _ => .frames count) (runFrames count.toNat c)
  | .runPaced framesPerSecond limit signal patience clock =>
    let run := c.runPaced framesPerSecond limit signal patience clock
    (run.console, run.ending.answer)
  | .press key => (c.pressKey key, .ok .done)
  | .release key => (c.releaseKey key, .ok .done)
  | .resetProcessor => (c.resetProcessor, .ok .done)
  | .reset => (c.reset, .ok .done)

/-- The console after operations. -/
def after (c : Console) (ops : List Operation) : Console :=
  ops.foldl (fun d op => (d.perform op).1) c

/-- The answers to operations, one after another. -/
def answers (c : Console) : List Operation → List (Except Refusal Answer)
  | [] => []
  | op :: ops => (c.perform op).2 :: (c.perform op).1.answers ops

/-- A program that fits is put into memory. -/
theorem perform_loadRom (c : Console) {image : List UInt8}
    (h : image.length ≤ Memory.programRoom) :
    c.perform (.loadRom image) =
      ({ c with rom := image, machine := c.machine.load image Memory.programBase }, .ok .done) := by
  simp only [perform, loadRom, if_neg (Nat.not_lt.mpr h)]

/-- A program that does not fit changes nothing. -/
theorem perform_loadRom_of_lt (c : Console) {image : List UInt8}
    (h : Memory.programRoom < image.length) :
    c.perform (.loadRom image) = (c, .error (.size ⟨image.length⟩)) := by
  simp only [perform, loadRom, if_pos h]

theorem after_cons (c : Console) (op : Operation) (ops : List Operation) :
    c.after (op :: ops) = (c.perform op).1.after ops :=
  rfl

theorem after_append (c : Console) (first second : List Operation) :
    c.after (first ++ second) = (c.after first).after second :=
  List.foldl_append

/-! ## Runs -/

/-- `P` holds of the console of an outcome, and `Q` of the reason if it is a refusal. -/
def Keeps {α : Type} (P : Console → Prop) (Q : Stop → Prop) (outcome : Console × Except Stop α) :
    Prop :=
  P outcome.1 ∧ ∀ reason, outcome.2 = .error reason → Q reason

/-- `P` is kept by everything that a run is made of, and `Q` holds of what stops it. -/
structure RunInvariant (P : Console → Prop) (Q : Stop → Prop) : Prop where
  step {c : Console} : P c → Keeps P Q c.step
  endBatch {c : Console} : P c → P c.endBatch
  countFrame {c : Console} : P c → P { c with frames := c.frames + 1 }
  speed {c : Console} : P c → c.cyclesPerFrame = .nothing → Q .notANumber

namespace RunInvariant

variable {P : Console → Prop} {Q : Stop → Prop} {c : Console} (h : RunInvariant P Q)
include h

theorem stepUpTo (hc : P c) (n : Nat) : Keeps P Q (Console.stepUpTo n c) := by
  induction n generalizing c with
  | zero => exact ⟨hc, nofun⟩
  | succ n ih =>
    unfold Console.stepUpTo
    by_cases hp : c.machine.paused = true
    · rw [if_pos hp]
      exact ⟨hc, nofun⟩
    · rw [if_neg hp]
      have hs := h.step hc
      match hx : c.step with
      | (d, .ok _) =>
        rw [hx] at hs
        exact ih hs.1
      | (d, .error e) =>
        rw [hx] at hs
        exact ⟨hs.1, fun reason hr => hs.2 reason (by simpa using hr)⟩

/-- A halted console gives the refusal of a step to every run. -/
theorem halted (hc : P c) (hh : c.halted = true) : Q .halted := by
  have hs := h.step hc
  rw [step_of_halted hh] at hs
  exact hs.2 _ rfl

theorem runCycles (hc : P c) (count : Int) : Keeps P Q (c.runCycles count) := by
  unfold Console.runCycles
  by_cases hh : c.halted = true
  · rw [if_pos hh]
    refine ⟨hc, ?_⟩
    intro reason hr
    cases hr
    exact h.halted hc hh
  · rw [if_neg hh]
    have hs := h.stepUpTo hc count.toNat
    match hx : Console.stepUpTo count.toNat c with
    | (d, .ok ()) =>
      rw [hx] at hs
      exact ⟨h.endBatch hs.1, nofun⟩
    | (d, .error e) =>
      rw [hx] at hs
      exact hs

theorem runFrame (hc : P c) : Keeps P Q c.runFrame := by
  unfold Console.runFrame
  have hs : Keeps P Q (c.runAmount c.cyclesPerFrame) := by
    cases ha : c.cyclesPerFrame with
    | number n => exact h.runCycles hc n
    | nothing =>
      refine ⟨hc, ?_⟩
      intro reason hr
      cases hr
      cases hh : c.halted with
      | true => exact h.halted hc hh
      | false => exact h.speed hc ha
  match hx : c.runAmount c.cyclesPerFrame with
  | (d, .ok ()) =>
    rw [hx] at hs
    exact ⟨h.countFrame hs.1, nofun⟩
  | (d, .error e) =>
    rw [hx] at hs
    exact hs

theorem runFrames (hc : P c) (n : Nat) : Keeps P Q (Console.runFrames n c) := by
  induction n generalizing c with
  | zero => exact ⟨hc, nofun⟩
  | succ n ih =>
    unfold Console.runFrames
    have hs := h.runFrame hc
    match hx : c.runFrame with
    | (d, .ok ()) =>
      rw [hx] at hs
      exact ih hs.1
    | (d, .error e) =>
      rw [hx] at hs
      exact hs

/-- The clock decides about sleeps and about the end, and neither touches the console. -/
theorem pace (interval : Float) (limit : Option Int) (signal : Signal) (rounds ran : Nat)
    (due : Float) (clock : Clock) (hc : P c) :
    P (Console.pace interval limit signal rounds ran due clock c).console ∧
      ∀ reason, (Console.pace interval limit signal rounds ran due clock c).ending =
        .refused reason → Q reason := by
  induction rounds generalizing ran due clock c with
  | zero => exact ⟨hc, nofun⟩
  | succ rounds ih =>
    unfold Console.pace
    by_cases ho : isOver limit signal ran = true
    · rw [if_pos ho]
      exact ⟨hc, nofun⟩
    · rw [if_neg ho]
      have hs := h.runFrame hc
      match hx : c.runFrame with
      | (d, .error e) =>
        rw [hx] at hs
        refine ⟨hs.1, fun reason hr => hs.2 reason ?_⟩
        cases hr
        rfl
      | (d, .ok ()) =>
        rw [hx] at hs
        cases clock.read with
        | error e => exact ⟨hs.1, nofun⟩
        | ok now =>
          dsimp only
          -- the frame was late, or there is time to sleep; the next round starts either way
          split
          · exact ih _ _ _ hs.1
          · cases clock.next.read with
            | error e => exact ⟨hs.1, nofun⟩
            | ok now => exact ih _ _ _ hs.1

theorem runPaced (hc : P c) (framesPerSecond : Int) (limit : Option Int) (signal : Signal)
    (patience : Nat) (clock : Clock) :
    P (c.runPaced framesPerSecond limit signal patience clock).console ∧
      ∀ reason, (c.runPaced framesPerSecond limit signal patience clock).ending =
        .refused reason → Q reason := by
  unfold Console.runPaced
  cases intervalOf framesPerSecond with
  | error e => exact ⟨hc, nofun⟩
  | ok interval =>
    cases clock.read with
    | error e => exact ⟨hc, nofun⟩
    | ok now => exact h.pace interval limit signal _ _ _ _ hc

end RunInvariant

/-! ## Histories -/

/-- `P` is kept by every operation, and `Q` holds of what stops one. -/
structure Invariant (P : Console → Prop) (Q : Stop → Prop) : Prop extends RunInvariant P Q where
  loadRom {c d : Console} {image : List UInt8} : P c → c.loadRom image = .ok d → P d
  loadProgram {c : Console} (image : List UInt8) (address : Int) :
    P c → P { c with machine := c.machine.load image address }
  press {c : Console} (key : Int) : P c → P (c.pressKey key)
  release {c : Console} (key : Int) : P c → P (c.releaseKey key)
  resetProcessor {c : Console} : P c → P c.resetProcessor
  reset {c : Console} : P c → P c.reset

theorem keeps_answering {P : Console → Prop} {Q : Stop → Prop} {α : Type} {answer : α → Answer}
    {outcome : Console × Except Stop α} (h : Keeps P Q outcome) :
    P (answering answer outcome).1 ∧
      ∀ refusal, (answering answer outcome).2 = .error refusal → ∃ e, refusal = .stop e ∧ Q e := by
  obtain ⟨d, r⟩ := outcome
  cases r with
  | ok a => exact ⟨h.1, nofun⟩
  | error e =>
    refine ⟨h.1, fun refusal hr => ⟨e, ?_, h.2 e rfl⟩⟩
    cases hr
    rfl

/-- The refusals that an operation may give, if `Q` holds of what stops its steps. -/
def Expected (Q : Stop → Prop) : Operation → Refusal → Prop
  | .loadRom image, .size e => e.size = image.length ∧ Memory.programRoom < image.length
  | .step, .stop reason | .runCycles _, .stop reason | .runFrame, .stop reason
  | .runFrames _, .stop reason | .runPaced .., .stop reason => Q reason
  | .runPaced .., .rate _ | .runPaced .., .time _ => True
  | _, _ => False

theorem Invariant.perform {P : Console → Prop} {Q : Stop → Prop} (h : Invariant P Q) {c : Console}
    (hc : P c) (op : Operation) :
    P (c.perform op).1 ∧ ∀ refusal, (c.perform op).2 = .error refusal → Expected Q op refusal := by
  -- steps and runs answer through `answering`, whose refusals are stops
  have runs {α : Type} {answer : α → Answer} {outcome : Console × Except Stop α}
      (hk : Keeps P Q outcome) (hop : ∀ e, Q e → Expected Q op (.stop e)) :
      P (answering answer outcome).1 ∧
        ∀ refusal, (answering answer outcome).2 = .error refusal → Expected Q op refusal := by
    refine ⟨(keeps_answering hk).1, ?_⟩
    intro refusal hr
    obtain ⟨e, rfl, he⟩ := (keeps_answering hk).2 refusal hr
    exact hop e he
  cases op with
  | loadRom image =>
    cases hl : c.loadRom image with
    | ok d =>
      simp only [Console.perform, hl]
      exact ⟨h.loadRom hc hl, nofun⟩
    | error e =>
      simp only [Console.perform, hl]
      refine ⟨hc, ?_⟩
      intro refusal hr
      cases hr
      unfold Console.loadRom at hl
      split at hl <;> cases hl
      exact ⟨rfl, ‹_›⟩
  | loadProgram image address => exact ⟨h.loadProgram image address hc, nofun⟩
  | step => exact runs (h.step hc) fun _ he => he
  | runCycles count => exact runs (h.runCycles hc count) fun _ he => he
  | runFrame => exact runs (h.runFrame hc) fun _ he => he
  | runFrames count => exact runs (h.runFrames hc count.toNat) fun _ he => he
  | runPaced framesPerSecond limit signal patience clock =>
    have hp := h.runPaced hc framesPerSecond limit signal patience clock
    refine ⟨hp.1, ?_⟩
    intro refusal hr
    unfold Console.perform PacedEnd.answer at hr
    dsimp only at hr
    split at hr <;> cases hr
    · exact hp.2 _ ‹_›
    · trivial
    · trivial
  | press key => exact ⟨h.press key hc, nofun⟩
  | release key => exact ⟨h.release key hc, nofun⟩
  | resetProcessor => exact ⟨h.resetProcessor hc, nofun⟩
  | reset => exact ⟨h.reset hc, nofun⟩

/-- A property that every operation keeps holds after every history. -/
theorem Invariant.after {P : Console → Prop} {Q : Stop → Prop} (h : Invariant P Q) {c : Console}
    (hc : P c) (ops : List Operation) : P (c.after ops) := by
  induction ops generalizing c with
  | nil => exact hc
  | cons op ops ih => exact ih (h.perform hc op).1

end Console

end ChipEight
