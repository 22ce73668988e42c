/-
# ChipEight.Proofs.Course -- where a run passes through

A batch, a frame or a paced run takes its steps from one console after another, and a law about a
run is often a law about these consoles. `waypoints` lists them for each operation, and `executed`
reads off the instructions that a history executes.

`Course` is the shape of every run: steps from the waypoints, in order, and between them the ends of
batches and the counting of frames. That each run has this shape is shown once, by one induction for
each kind of run (`course_perform`); what holds along a run is then an induction over `Course`, with
one case for a step and two for what is no step. Between runs, loading and keys reach little of a
console (`perform_apart`).

A law may also be about one waypoint, and what lies before it. `passed` lists the waypoints of a
whole history, and `holds_at_passed` carries a property to any of them.
-/
import ChipEight.Proofs.Footprint
import ChipEight.Proofs.History

namespace ChipEight

/-- The operation takes steps. -/
def Operation.Runs : Operation → Prop
  | .step | .runCycles _ | .runFrame | .runFrames _ | .runPaced .. => True
  | .loadRom _ | .loadProgram .. | .press _ | .release _ | .resetProcessor | .reset => False

/-- The operation starts the processor or the whole console over. -/
def Operation.Restarts : Operation → Prop
  | .resetProcessor | .reset => True
  | _ => False

namespace Console

/-! ## Waypoints -/

/-- The consoles from which a batch takes its steps, in order. -/
def waypointsUpTo : Nat → Console → List Console
  | 0, _ => []
  | n + 1, c =>
    if c.machine.paused then []
    else c :: match c.step with
      | (d, .ok _) => waypointsUpTo n d
      | (_, .error _) => []

/-- The consoles from which a batch of a given size takes its steps. A halted console starts none. -/
def waypointsOfCycles (c : Console) (count : Int) : List Console :=
  if c.halted then [] else waypointsUpTo count.toNat c

/-- The consoles from which a frame takes its steps. -/
def waypointsOfFrame (c : Console) : List Console :=
  match c.cyclesPerFrame with
  | .number count => c.waypointsOfCycles count
  | .nothing => []

/-- The consoles from which frames take their steps. -/
def waypointsOfFrames : Nat → Console → List Console
  | 0, _ => []
  | n + 1, c =>
    c.waypointsOfFrame ++ match c.runFrame with
      | (d, .ok ()) => waypointsOfFrames n d
      | (_, .error _) => []

/-- The consoles from which the rest of a paced run takes its steps. -/
def waypointsOfPace (interval : Float) (limit : Option Int) (signal : Signal) :
    (rounds ran : Nat) → (due : Float) → Clock → Console → List Console
  | 0, _, _, _, _ => []
  | rounds + 1, ran, due, clock, c =>
    if isOver limit signal ran then []
    else
      c.waypointsOfFrame ++ match c.runFrame with
        | (_, .error _) => []
        | (d, .ok ()) =>
          match clock.read with
          | .error _ => []
          | .ok now =>
            if 0 < due + interval - now then
              waypointsOfPace interval limit signal rounds (ran + 1) (due + interval) clock.next d
            else
              match clock.next.read with
              | .error _ => []
              | .ok now =>
                waypointsOfPace interval limit signal rounds (ran + 1) now clock.next.next d

/-- The consoles from which a paced run takes its steps. -/
def waypointsOfPaced (c : Console) (framesPerSecond : Int) (limit : Option Int)
    (signal : Signal) (patience : Nat) (clock : Clock) : List Console :=
  match intervalOf framesPerSecond with
  | .error _ => []
  | .ok interval =>
    match clock.read with
    | .error _ => []
    | .ok now =>
      waypointsOfPace interval limit signal (roundsFor limit patience) 0 now clock.next c

/-- The consoles from which an operation takes its steps, in order. -/
def waypoints (c : Console) : Operation → List Console
  | .step => [c]
  | .runCycles count => c.waypointsOfCycles count
  | .runFrame => c.waypointsOfFrame
  | .runFrames count => waypointsOfFrames count.toNat c
  | .runPaced framesPerSecond limit signal patience clock =>
    c.waypointsOfPaced framesPerSecond limit signal patience clock
  | .loadRom _ | .loadProgram .. | .press _ | .release _ | .resetProcessor | .reset => []

/-- The consoles from which a history takes its steps, in order. -/
def passed (c : Console) : List Operation → List Console
  | [] => []
  | op :: ops => c.waypoints op ++ (c.perform op).1.passed ops

theorem waypoints_of_not_runs (c : Console) {op : Operation} (h : ¬ op.Runs) :
    c.waypoints op = [] := by
  cases op with
  | step | runCycles | runFrame | runFrames | runPaced => exact absurd trivial h
  | _ => rfl

/-! ## Between runs -/

/-- Loading and keys reach the machine and the keypad, but neither the stack nor the timers. -/
theorem perform_apart (c : Console) {op : Operation} (hr : ¬ op.Runs) (hs : ¬ op.Restarts) :
    ∃ m rom keypad, (c.perform op).1 = { c with machine := m, rom := rom, keypad := keypad } ∧
      m.delay = c.machine.delay ∧ m.sound = c.machine.sound ∧ m.stack = c.machine.stack := by
  cases op with
  | loadRom image =>
    by_cases hfit : image.length ≤ Memory.programRoom
    · rw [perform_loadRom c hfit]
      exact ⟨_, _, _, rfl, rfl, rfl, rfl⟩
    · rw [perform_loadRom_of_lt c (Nat.not_le.mp hfit)]
      exact ⟨_, _, _, rfl, rfl, rfl, rfl⟩
  | loadProgram => exact ⟨_, _, _, rfl, rfl, rfl, rfl⟩
  | press key =>
    show ∃ m rom keypad, c.pressKey key = _ ∧ _
    rcases pressKey_cases c key with ⟨-, hd⟩ | ⟨k, -, ⟨-, hd⟩ | ⟨x, -, hd⟩⟩ <;>
      exact ⟨_, _, _, hd, rfl, rfl, rfl⟩
  | release key =>
    obtain ⟨held, hd⟩ := releaseKey_eq c key
    exact ⟨_, _, _, hd, rfl, rfl, rfl⟩
  | resetProcessor | reset => exact absurd trivial hs
  | step | runCycles | runFrame | runFrames | runPaced => exact absurd trivial hr

/-! ## Executed instructions -/

/-- The instruction that a step from the console executes, if it executes one. -/
def executes? (c : Console) : Option Instruction :=
  match c.step.2 with
  | .ok true => Instruction.decode? c.nextWord
  | _ => none

/-- The instructions that are executed in a history, in order. -/
def executed (c : Console) : List Operation → List Instruction
  | [] => []
  | op :: ops => (c.waypoints op).filterMap executes? ++ (c.perform op).1.executed ops

/-- A step executes an instruction if the console runs and the instruction is not refused. -/
theorem executes?_eq_some_iff {c : Console} {i : Instruction} :
    c.executes? = some i ↔
      c.halted = false ∧ c.machine.paused = false ∧ Instruction.decode? c.nextWord = some i ∧
        ∃ d, c.fetched.execute i = .ok d ∧ c.step = ({ d with cycles := d.cycles + 1 }, .ok true) := by
  constructor
  · intro h
    unfold executes? at h
    match hx : c.step with
    | (d, r) =>
      rw [hx] at h
      cases stepped_of_eq hx with
      | executed hh hp hi hd =>
        obtain rfl := Option.some.inj (hi.symm.trans h)
        exact ⟨hh, hp, hi, _, hd, rfl⟩
      | _ => cases h
  · rintro ⟨-, -, hi, d, -, hx⟩
    unfold executes?
    rw [hx]
    exact hi

theorem executes?_of_execute {c d : Console} {i : Instruction} (hh : c.halted = false)
    (hp : c.machine.paused = false) (hi : Instruction.decode? c.nextWord = some i)
    (hd : c.fetched.execute i = .ok d) : c.executes? = some i :=
  executes?_eq_some_iff.mpr ⟨hh, hp, hi, d, hd, step_of_executed hh hp hi hd⟩

/-- A step counts the instruction that it executes. -/
theorem cycles_step (c : Console) : c.step.1.cycles = c.cycles + c.executes?.toList.length := by
  match hx : c.step with
  | (d, r) =>
    cases stepped_of_eq hx with
    | executed hh hp hi hd =>
      have hsome := executes?_of_execute hh hp hi hd
      obtain ⟨m, s, latch, random, -, rfl⟩ := withinReach_of_execute hd
      rw [hsome, fetched_eq]
      rfl
    | paused | halted | unknown => simp [executes?, hx, haltAt]
    | faulted => simp [executes?, hx, haltAt_fetched]
    | refused => simp [executes?, hx, fetched_eq]

/-! ## Courses -/

/-- A run that starts at one console, takes its steps from the listed ones and ends at the last one.
Between two steps a batch may end, and a frame may be counted. -/
inductive Course : Console → List Console → Console → Prop
  | nil (c : Console) : Course c [] c
  | step {c d : Console} {via : List Console} : Course c.step.1 via d → Course c (c :: via) d
  | endBatch {c d : Console} {via : List Console} : Course c.endBatch via d → Course c via d
  | countFrame {c d : Console} {via : List Console} :
      Course { c with frames := c.frames + 1 } via d → Course c via d

variable {c d e : Console}

theorem Course.append {first second : List Console} (h : Course c first d)
    (k : Course d second e) : Course c (first ++ second) e := by
  induction h with
  | nil => exact k
  | step _ ih => exact .step (ih k)
  | endBatch _ ih => exact .endBatch (ih k)
  | countFrame _ ih => exact .countFrame (ih k)

theorem course_stepUpTo (n : Nat) (c : Console) :
    Course c (waypointsUpTo n c) (stepUpTo n c).1 := by
  induction n generalizing c with
  | zero => exact .nil c
  | succ n ih =>
    unfold waypointsUpTo stepUpTo
    by_cases hp : c.machine.paused = true
    · rw [if_pos hp, if_pos hp]
      exact .nil c
    · rw [if_neg hp, if_neg hp]
      refine .step ?_
      rcases c.step with ⟨d, r⟩
      cases r with
      | ok _ => exact ih d
      | error _ => exact .nil d

theorem course_runCycles (c : Console) (count : Int) :
    Course c (c.waypointsOfCycles count) (c.runCycles count).1 := by
  unfold waypointsOfCycles runCycles
  by_cases hh : c.halted = true
  · rw [if_pos hh, if_pos hh]
    exact .nil c
  · rw [if_neg hh, if_neg hh]
    have hrun := course_stepUpTo count.toNat c
    rcases hx : stepUpTo count.toNat c with ⟨d, r⟩
    rw [hx] at hrun
    cases r with
    | ok _ => simpa using hrun.append (.endBatch (.nil _))
    | error _ => exact hrun

theorem course_runFrame (c : Console) : Course c c.waypointsOfFrame c.runFrame.1 := by
  unfold waypointsOfFrame runFrame
  cases c.cyclesPerFrame with
  | nothing => exact .nil c
  | number count =>
    have hrun := course_runCycles c count
    dsimp only [runAmount]
    rcases hx : c.runCycles count with ⟨d, r⟩
    rw [hx] at hrun
    cases r with
    | ok _ => simpa using hrun.append (.countFrame (.nil _))
    | error _ => exact hrun

theorem course_runFrames (n : Nat) (c : Console) :
    Course c (waypointsOfFrames n c) (runFrames n c).1 := by
  induction n generalizing c with
  | zero => exact .nil c
  | succ n ih =>
    unfold waypointsOfFrames runFrames
    have hrun := course_runFrame c
    rcases hx : c.runFrame with ⟨d, r⟩
    rw [hx] at hrun
    cases r with
    | ok _ => exact hrun.append (ih d)
    | error _ => simpa using hrun

theorem course_pace (interval : Float) (limit : Option Int) (signal : Signal) (rounds ran : Nat)
    (due : Float) (clock : Clock) (c : Console) :
    Course c (waypointsOfPace interval limit signal rounds ran due clock c)
      (pace interval limit signal rounds ran due clock c).console := by
  induction rounds generalizing ran due clock c with
  | zero => exact .nil c
  | succ rounds ih =>
    unfold waypointsOfPace pace
    by_cases ho : isOver limit signal ran = true
    · rw [if_pos ho, if_pos ho]
      exact .nil c
    · rw [if_neg ho, if_neg ho]
      have hrun := course_runFrame c
      rcases hx : c.runFrame with ⟨d, r⟩
      rw [hx] at hrun
      cases r with
      | error _ => simpa using hrun
      | ok _ =>
        refine hrun.append ?_
        cases clock.read with
        | error _ => exact .nil d
        | ok now =>
          dsimp only
          -- the frame was late, or there is time to sleep; the next round starts either way
          split
          · exact ih _ _ _ d
          · cases clock.next.read with
            | error _ => exact .nil d
            | ok now => exact ih _ _ _ d

theorem course_runPaced (c : Console) (framesPerSecond : Int) (limit : Option Int)
    (signal : Signal) (patience : Nat) (clock : Clock) :
    Course c (c.waypointsOfPaced framesPerSecond limit signal patience clock)
      (c.runPaced framesPerSecond limit signal patience clock).console := by
  unfold waypointsOfPaced runPaced
  cases intervalOf framesPerSecond with
  | error _ => exact .nil c
  | ok interval =>
    cases clock.read with
    | error _ => exact .nil c
    | ok now => exact course_pace interval limit signal _ _ _ _ c

theorem answering_fst {α : Type} (answer : α → Answer) (outcome : Console × Except Stop α) :
    (answering answer outcome).1 = outcome.1 := by
  obtain ⟨d, r⟩ := outcome
  cases r <;> rfl

/-- Every operation that runs takes a course through its waypoints. -/
theorem course_perform (c : Console) {op : Operation} (h : op.Runs) :
    Course c (c.waypoints op) (c.perform op).1 := by
  cases op with
  | step =>
    show Course c [c] (answering _ _).1
    rw [answering_fst]
    exact .step (.nil _)
  | runCycles count =>
    show Course c _ (answering _ _).1
    rw [answering_fst]
    exact course_runCycles c count
  | runFrame =>
    show Course c _ (answering _ _).1
    rw [answering_fst]
    exact course_runFrame c
  | runFrames count =>
    show Course c _ (answering _ _).1
    rw [answering_fst]
    exact course_runFrames count.toNat c
  | runPaced framesPerSecond limit signal patience clock =>
    exact course_runPaced c framesPerSecond limit signal patience clock
  | _ => exact h.elim

/-! ## Laws of a course -/

/-- What the ends of batches and the counting of frames keep, and what every step from a console
that `G` allows keeps, is kept along a course that passes through such consoles only. -/
theorem Course.keeps {P G : Console → Prop} {via : List Console} (h : Course c via d)
    (step : ∀ {c : Console}, P c → G c → P c.step.1) (endBatch : ∀ {c : Console}, P c → P c.endBatch)
    (countFrame : ∀ {c : Console}, P c → P { c with frames := c.frames + 1 })
    (hc : P c) (hg : ∀ e ∈ via, G e) : P d := by
  induction h with
  | nil => exact hc
  | step _ ih =>
    exact ih (step hc (hg _ List.mem_cons_self)) fun e he => hg e (List.mem_cons_of_mem _ he)
  | endBatch _ ih => exact ih (endBatch hc) hg
  | countFrame _ ih => exact ih (countFrame hc) hg

/-- What holds at the start of a course and is kept as in `Course.keeps` holds at a waypoint, if the
waypoints before it are such consoles. -/
theorem Course.holds_at {P G : Console → Prop} {via : List Console} (h : Course c via d)
    (step : ∀ {c : Console}, P c → G c → P c.step.1) (endBatch : ∀ {c : Console}, P c → P c.endBatch)
    (countFrame : ∀ {c : Console}, P c → P { c with frames := c.frames + 1 })
    (hc : P c) {before after : List Console} (hvia : via = before ++ e :: after)
    (hg : ∀ b ∈ before, G b) : P e := by
  induction h generalizing before with
  | nil => simp at hvia
  | @step c d via _ ih =>
    cases before with
    | nil =>
      obtain ⟨rfl, -⟩ := List.cons.inj hvia
      exact hc
    | cons b before =>
      obtain ⟨rfl, hrest⟩ := List.cons.inj hvia
      exact ih (step hc (hg c List.mem_cons_self)) hrest
        fun e he => hg e (List.mem_cons_of_mem c he)
  | endBatch _ ih => exact ih (endBatch hc) hvia hg
  | countFrame _ ih => exact ih (countFrame hc) hvia hg

/-- The same along a history without restarts, if the operations that do not run keep the property
as well. -/
theorem holds_at_passed {P G : Console → Prop}
    (step : ∀ {c : Console}, P c → G c → P c.step.1) (endBatch : ∀ {c : Console}, P c → P c.endBatch)
    (countFrame : ∀ {c : Console}, P c → P { c with frames := c.frames + 1 })
    (other : ∀ {c : Console} {op : Operation}, P c → ¬ op.Runs → ¬ op.Restarts → P (c.perform op).1)
    (hc : P c) {ops : List Operation} (hops : ∀ op ∈ ops, ¬ op.Restarts)
    {before after : List Console} (h : c.passed ops = before ++ e :: after)
    (hg : ∀ b ∈ before, G b) : P e := by
  induction ops generalizing c before with
  | nil => simp [passed] at h
  | cons op ops ih =>
    have hrest : ∀ o ∈ ops, ¬ o.Restarts := fun o ho => hops o (List.mem_cons_of_mem op ho)
    by_cases hr : op.Runs
    · have hcourse := course_perform c hr
      -- the waypoint lies on the first operation or behind it
      rcases List.append_eq_append_iff.mp h with ⟨via, hbefore, hpassed⟩ | ⟨via, hvia, hpassed⟩
      · rw [hbefore] at hg
        have hfirst := hcourse.keeps (P := P) (G := G) step endBatch countFrame hc
          fun b hb => hg b (List.mem_append_left via hb)
        exact ih hfirst hrest hpassed fun b hb => hg b (List.mem_append_right _ hb)
      · cases via with
        | nil =>
          rw [List.append_nil] at hvia
          have hfirst := hcourse.keeps (P := P) (G := G) step endBatch countFrame hc (hvia ▸ hg)
          have hnext : (c.perform op).1.passed ops = [] ++ e :: after := hpassed.symm
          exact ih hfirst hrest hnext fun b hb => absurd hb List.not_mem_nil
        | cons b via =>
          have hfirst := hcourse.holds_at (P := P) (G := G) step endBatch countFrame hc hvia hg
          rw [List.cons_append, List.cons.injEq] at hpassed
          rwa [hpassed.1]
    · rw [passed, waypoints_of_not_runs c hr, List.nil_append] at h
      exact ih (other hc hr (hops op List.mem_cons_self)) hrest h hg

end Console

end ChipEight
