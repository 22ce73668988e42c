/-
# ChipEight.Proofs.Tracing -- the record changes nothing and misses nothing

A console that is traced records what it fetches, between the look at the word and the instruction.
Two things are said of that record.

It cannot be seen from inside. A console and the same one without a record answer every history
alike, and at its end they are still the same but for the record (`untraced_simulation`).

It is complete. `fate?` reads off the answer of a step what became of the instruction that it has
fetched, if it has fetched one, and the record of a history has one entry for each such step, in
order (`Journey.trace_eq`). Most of these instructions were executed, and counted. A fault of the
stack may stand at the end, and nowhere else, because it halts the console. An instruction that was
refused for another reason is recorded as well, but neither counted nor a fault; this needs a screen
without pixels or a delay timer that is no byte, and a console that is `Serviceable` never gets
there.
-/
import ChipEight.Proofs.PowerCycle
import ChipEight.Proofs.Ranges
import ChipEight.Proofs.Simulation
import ChipEight.Proofs.Timers

namespace ChipEight.Console

variable {c d : Console}

/-! ## Consoles without a record -/

/-- The second console is the first one, but it is not traced and nothing was recorded. -/
def Untraced (c d : Console) : Prop :=
  d = c.traced false

theorem Untraced.fetched (h : Untraced c d) : Untraced c.fetched d.fetched := by
  subst h
  unfold Untraced
  rw [fetched_eq, fetched_eq]
  rfl

/-- No instruction looks at the record. -/
theorem Untraced.execute (h : Untraced c d) (i : Instruction) :
    Matching (· = ·) Untraced (c.execute i) (d.execute i) := by
  rw [execute_eq, execute_eq]
  unfold Untraced traced at h
  subst h
  cases i with
  | ret =>
    simp only [effect]
    cases c.machine.stack with
    | nil => exact .error rfl
    | cons back rest => exact .ok rfl
  | call target =>
    simp only [effect]
    split
    · exact .error rfl
    · exact .ok rfl
  | draw x y n =>
    simp only [effect]
    cases c.screen.draw? (c.machine.register x).toNat (c.machine.register y).toNat
        (c.machine.memory.slice c.machine.index.toNat n.val) with
    | none => exact .error rfl
    | some drawn => exact .ok rfl
  | readDelay x =>
    simp only [effect]
    split
    · exact .ok rfl
    · exact .error rfl
  | _ => exact .ok rfl

theorem Untraced.step (h : Untraced c d) : Matched Untraced (· = ·) c.step d.step := by
  have faults : RespectsFaults (· = ·) := by
    rintro e _ rfl
    exact Iff.rfl
  have hfetched := h.fetched
  have hexecute := h.fetched.execute
  subst h
  refine matched_step (fun _ => rfl) faults rfl rfl rfl rfl rfl ?_ hfetched hexecute ?_
  · rintro a _ f _ rfl ⟨⟩
    rfl
  · rintro a _ rfl
    rfl

theorem Untraced.press (h : Untraced c d) (key : Int) :
    Untraced (c.pressKey key) (d.pressKey key) := by
  subst h
  unfold Untraced pressKey
  cases Keypad.key? key with
  | none => rfl
  | some k =>
    cases hl : c.keypad.latch with
    | none | some =>
      simp only [Keypad.press, traced, hl]

theorem Untraced.release (h : Untraced c d) (key : Int) :
    Untraced (c.releaseKey key) (d.releaseKey key) := by
  subst h
  unfold Untraced releaseKey
  cases Keypad.key? key <;> rfl

/-- No use of a console tells whether it is traced. -/
theorem untraced_simulation : Simulation Untraced (· = ·) where
  refl _ := rfl
  halted h := by
    subst h
    rfl
  paused h := by
    subst h
    rfl
  speed h := by
    subst h
    rfl
  step h := h.step
  endBatch h := by
    subst h
    rfl
  countFrame h := by
    subst h
    rfl
  putRom image h := by
    subst h
    rfl
  loadProgram image address h := by
    subst h
    rfl
  press key h := h.press key
  release key h := h.release key
  resetProcessor h := by
    subst h
    rfl
  reset h := by
    subst h
    rfl

/-- A history gives the same answers without the record, and leaves the same console but for it. -/
theorem Untraced.after (h : Untraced c d) (ops : List Operation) :
    c.answers ops = d.answers ops ∧ (c.after ops).traced false = d.after ops := by
  obtain ⟨hanswers, hafter⟩ := untraced_simulation.after h ops
  refine ⟨?_, hafter.symm⟩
  rw [← List.forall₂_eq_eq_eq]
  exact hanswers.imp fun _ _ h => h.eq fun _ _ => Refusal.Matching.eq

/-! ## What becomes of a fetched instruction -/

/-- What became of an instruction that a step has fetched. -/
inductive Fate where
  /-- It was executed. -/
  | executed
  /-- It met a fault of the stack. -/
  | stackFault
  /-- It was refused for a reason that is no fault. -/
  | refused
  deriving DecidableEq, Repr

/-- What the answer of a step says about its instruction. A console that waits or is halted fetches
none, and a word that is unknown is none. -/
def fateOf : Except Stop Bool → Option Fate
  | .ok true => some .executed
  | .ok false => none
  | .error (.fault (.emptyStack _)) => some .stackFault
  | .error (.fault (.fullStack _)) => some .stackFault
  | .error (.fault (.unknownInstruction ..)) => none
  | .error .noPixels => some .refused
  | .error .notAByte => some .refused
  | .error .halted => none
  | .error .notANumber => none

/-- What becomes of the instruction that the next step fetches, if it fetches one. -/
def fate? (c : Console) : Option Fate :=
  fateOf c.step.2

/-- The word that the next step reads, and where it stands. -/
def reading (c : Console) : Fetch :=
  ⟨c.machine.pc, c.nextWord⟩

theorem toNat_reading (c : Console) :
    c.reading.word.toNat =
      256 * (c.machine.memory.read (c.machine.pc.toNat % 4096)).toNat +
        (c.machine.memory.read ((c.machine.pc.toNat + 1) % 4096)).toNat := by
  have hfirst := c.machine.memory.read_congr (Int.emod_emod (c.machine.pc.toNat : Int) 4096)
  have hsecond := c.machine.memory.read_congr (Int.emod_emod (c.machine.pc.toNat + 1 : Int) 4096)
  rw [hfirst, hsecond, Nat.mul_comm]
  exact wordOf_toNat _ _

theorem trace_step (c : Console) :
    c.step.1.trace = (if c.fate?.isSome then c.fetchRecord else []) ++ c.trace := by
  match hx : c.step with
  | (d, r) =>
    unfold fate?
    rw [hx]
    cases stepped_of_eq hx with
    | halted | paused | unknown => rfl
    | executed _ _ _ hd =>
      obtain ⟨_, _, _, _, -, rfl⟩ := withinReach_of_execute hd
      rw [fetched_eq]
      rfl
    | faulted _ _ _ hr =>
      rw [haltAt_fetched]
      cases hr <;> rfl
    | refused _ _ _ hr hno =>
      rw [fetched_eq]
      cases hr with
      | noPixels | notAByte => rfl
      | emptyStack | fullStack => exact absurd rfl (hno _)

/-- What was executed was fetched from a console that executes. -/
theorem fate?_eq_executed_iff : c.fate? = some .executed ↔ c.executes?.isSome = true := by
  unfold fate?
  match hx : c.step with
  | (d, r) =>
    cases stepped_of_eq hx with
    | executed hh hp hi hd => simp [executes?_of_execute hh hp hi hd, fateOf]
    | halted | paused | unknown => simp [executes?, hx, fateOf]
    | faulted _ _ _ hr => cases hr <;> simp [executes?, hx, fateOf]
    | refused _ _ _ hr hno => cases hr <;> simp [executes?, hx, fateOf]

theorem halted_of_stackFault (h : c.fate? = some .stackFault) : c.step.1.halted = true := by
  unfold fate? at h
  match hx : c.step with
  | (d, r) =>
    rw [hx] at h
    cases stepped_of_eq hx with
    | faulted => rfl
    | refused _ _ _ hr hno => cases hr <;> first | exact absurd rfl (hno _) | cases h
    | halted | paused | unknown | executed => cases h

theorem fate?_of_halted (h : c.halted = true) : c.fate? = none := by
  rw [fate?, step_of_halted h]
  rfl

/-! ## Journeys -/

/-- What happens between two steps reaches neither the record nor the count of instructions nor the
halt. -/
structure Between (c d : Console) : Prop where
  tracing : d.tracing = c.tracing
  trace : d.trace = c.trace
  cycles : d.cycles = c.cycles
  halted : d.halted = c.halted

/-- A history that takes its steps from the listed consoles, with something between them. -/
inductive Journey : Console → List Console → Console → Prop
  | nil (c : Console) : Journey c [] c
  | step {c d : Console} {via : List Console} : Journey c.step.1 via d → Journey c (c :: via) d
  | between {c e d : Console} {via : List Console} :
      Between c e → Journey e via d → Journey c via d

theorem Journey.append {e : Console} {first second : List Console} (h : Journey c first d)
    (k : Journey d second e) : Journey c (first ++ second) e := by
  induction h with
  | nil => exact k
  | step _ ih => exact .step (ih k)
  | between hb _ ih => exact .between hb (ih k)

theorem Course.journey {via : List Console} (h : Course c via d) : Journey c via d := by
  induction h with
  | nil c => exact .nil c
  | step _ ih => exact .step ih
  | @endBatch c _ _ _ ih =>
    have hb : Between c c.endBatch := ⟨rfl, rfl, rfl, rfl⟩
    exact .between hb ih
  | @countFrame c _ _ _ ih =>
    have hb : Between c { c with frames := c.frames + 1 } := ⟨rfl, rfl, rfl, rfl⟩
    exact .between hb ih

/-- Every history without restarts is a journey through its waypoints. -/
theorem journey_after (c : Console) {ops : List Operation} (hops : ∀ op ∈ ops, ¬ op.Restarts) :
    Journey c (c.passed ops) (c.after ops) := by
  induction ops generalizing c with
  | nil => exact .nil c
  | cons op ops ih =>
    have hrest := ih (c.perform op).1 fun o ho => hops o (List.mem_cons_of_mem op ho)
    by_cases hr : op.Runs
    · exact (course_perform c hr).journey.append hrest
    · rw [passed, waypoints_of_not_runs c hr, List.nil_append]
      refine .between ?_ hrest
      obtain ⟨m, rom, keypad, hd, -, -⟩ := perform_apart c hr (hops op List.mem_cons_self)
      rw [hd]
      exact ⟨rfl, rfl, rfl, rfl⟩

/-- The consoles among the listed ones whose instruction has one of the given fates. -/
def fated (fates : List Fate) (via : List Console) : List Console :=
  via.filter fun w => w.fate?.any (· ∈ fates)

theorem fated_cons (fates : List Fate) (w : Console) (via : List Console) :
    fated fates (w :: via) = if w.fate?.any (· ∈ fates) then w :: fated fates via else fated fates via :=
  List.filter_cons

/-- The record has an entry for each instruction that was fetched, in order. -/
theorem Journey.trace_eq {via : List Console} (h : Journey c via d) (ht : c.tracing = true) :
    d.trace.reverse =
      c.trace.reverse ++ (fated [.executed, .stackFault, .refused] via).map reading := by
  induction h with
  | nil c => simp [fated]
  | @step c d via _ ih =>
    have hrecord : c.fetchRecord = [c.reading] := if_pos ht
    rw [ih ((sameSetup_step c).1.tracing.trans ht), trace_step, hrecord, fated_cons]
    rcases c.fate? with _ | ⟨⟨⟩⟩ <;> simp
  | between hb _ ih => rw [ih (hb.tracing.trans ht), hb.trace]

/-- The count of instructions goes up by one for each that was executed. -/
theorem Journey.cycles_eq {via : List Console} (h : Journey c via d) :
    d.cycles = c.cycles + (fated [.executed] via).length := by
  induction h with
  | nil c => rfl
  | @step c d via _ ih =>
    rw [ih, cycles_step, fated_cons]
    have hfate : c.fate?.any (· ∈ [Fate.executed]) = c.executes?.isSome := by
      rw [Bool.eq_iff_iff, ← fate?_eq_executed_iff]
      simp [Option.any_eq_true]
    rw [hfate]
    cases c.executes? with
    | none => rfl
    | some i =>
      show c.cycles + 1 + (fated _ via).length = c.cycles + ((fated _ via).length + 1)
      omega
  | between hb _ ih => rw [ih, hb.cycles]

theorem Journey.halted {via : List Console} (h : Journey c via d) (hh : c.halted = true) :
    ∀ w ∈ via, w.halted = true := by
  induction h with
  | nil => exact fun _ hw => absurd hw List.not_mem_nil
  | @step c d via _ ih =>
    rw [step_of_halted hh] at ih
    exact List.forall_mem_cons.mpr ⟨hh, ih hh⟩
  | between hb _ ih => exact ih (hb.halted.trans hh)

theorem fated_of_halted {via : List Console} (h : ∀ w ∈ via, w.halted = true)
    (fates : List Fate) : fated fates via = [] := by
  rw [fated, List.filter_eq_nil_iff]
  intro w hw
  rw [fate?_of_halted (h w hw)]
  exact Bool.false_ne_true

/-- A fault of the stack is the last thing that is fetched. -/
theorem Journey.fated_eq {via : List Console} (h : Journey c via d) :
    fated [.executed, .stackFault, .refused] via =
        fated [.executed, .refused] via ++ fated [.stackFault] via ∧
      (fated [.stackFault] via).length ≤ 1 := by
  induction h with
  | nil => exact ⟨rfl, Nat.zero_le 1⟩
  | @step c d via hj ih =>
    simp only [fated_cons]
    cases hf : c.fate? with
    | none => exact ih
    | some fate =>
      cases fate with
      | executed | refused => exact ⟨congrArg (c :: ·) ih.1, ih.2⟩
      | stackFault =>
        have hrest := hj.halted (halted_of_stackFault hf)
        simp only [fated_of_halted hrest]
        exact ⟨rfl, Nat.le_refl 1⟩
  | between _ _ ih => exact ih

/-! ## Consoles that refuse faults only -/

/-- The screen has pixels, and the delay timer is a byte. -/
structure Serviceable (c : Console) : Prop where
  width : 0 < c.screen.width
  height : 0 < c.screen.height
  delay : 0 ≤ c.machine.delay ∧ c.machine.delay < 256

theorem Serviceable.step (h : c.Serviceable) : c.step.1.Serviceable where
  width := (sameSetup_step c).1.width ▸ h.width
  height := (sameSetup_step c).1.height ▸ h.height
  delay := by
    show 0 ≤ Timer.delay.count c.step.1.machine ∧ Timer.delay.count c.step.1.machine < 256
    by_cases hload : ∃ x, c.executes? = some (Timer.delay.load x)
    · obtain ⟨x, hx⟩ := hload
      rw [count_of_load hx]
      exact Machine.byte_range _
    · rw [count_of_other (not_exists.mp hload)]
      exact h.delay

theorem Serviceable.fate?_ne_refused (h : c.Serviceable) : c.fate? ≠ some .refused := by
  unfold fate?
  match hx : c.step with
  | (d, r) =>
    cases stepped_of_eq hx with
    | halted | paused | unknown | executed => exact nofun
    | faulted _ _ _ hr => cases hr <;> exact nofun
    | refused _ _ _ hr hno =>
      rw [fetched_eq] at hr
      cases hr with
      | emptyStack | fullStack => exact absurd rfl (hno _)
      | noPixels hd =>
        have hdrawn :=
          (congrArg Option.isSome hd).symm.trans (Screen.isSome_draw? h.width h.height _ _ _)
        cases hdrawn
      | notAByte hd => exact absurd h.delay hd

/-- A console that is serviceable stays so, up to each waypoint of a history without restarts. -/
theorem Serviceable.passed (h : c.Serviceable) {ops : List Operation}
    (hops : ∀ op ∈ ops, ¬ op.Restarts) : ∀ w ∈ c.passed ops, w.Serviceable := by
  intro w hw
  obtain ⟨before, after, hvia⟩ := List.append_of_mem hw
  refine holds_at_passed (P := Serviceable) (G := fun _ => True) (fun hc _ => hc.step) ?_ ?_ ?_ h
    hops hvia fun _ _ => trivial
  · intro c hc
    exact ⟨hc.width, hc.height, Machine.countDown_range hc.delay⟩
  · intro c hc
    exact ⟨hc.width, hc.height, hc.delay⟩
  · intro c op hc hr hs
    obtain ⟨m, rom, keypad, hd, hdelay, -⟩ := perform_apart c hr hs
    rw [hd]
    exact ⟨hc.width, hc.height, hdelay ▸ hc.delay⟩

/-- If nothing is refused, what is left is executed. -/
theorem fated_of_serviceable {via : List Console} (h : ∀ w ∈ via, w.Serviceable) :
    fated [.refused] via = [] ∧ fated [.executed, .refused] via = fated [.executed] via := by
  have hno : ∀ w ∈ via, w.fate? ≠ some .refused := fun w hw => (h w hw).fate?_ne_refused
  constructor
  · refine List.filter_eq_nil_iff.mpr fun w hw => ?_
    simpa [Option.any_eq_true] using hno w hw
  · refine List.filter_congr fun w hw => ?_
    have hw := hno w hw
    rcases hf : w.fate? with _ | ⟨⟨⟩⟩
    · rfl
    · rfl
    · rfl
    · exact absurd hf hw

/-- Nothing is fetched while the console waits or is halted, and a word that is unknown is not
recorded. -/
theorem trace_of_unfetched
    (h : c.halted = true ∨ c.machine.paused = true ∨ Instruction.decode? c.nextWord = none) :
    c.fate? = none ∧ c.step.1.trace = c.trace := by
  have hfate : c.fate? = none := by
    unfold fate?
    match hx : c.step with
    | (d, r) =>
      cases stepped_of_eq hx with
      | halted | paused | unknown => rfl
      | executed hh hp hi | faulted hh hp hi | refused hh hp hi => simp_all
  refine ⟨hfate, ?_⟩
  rw [trace_step, hfate]
  rfl

/-- The record of a console is invisible, complete and in order. Whatever is done to it, a console
that is traced answers as one that is not, and differs from it in nothing but the record.

Of a history without restarts the record has one entry for each instruction that was fetched, with
the word that memory held at that moment at the program counter. First come those that were executed
or refused, in order, and at most one entry for a fault of the stack stands behind them. The console
has counted those that were executed, and if it was serviceable at the beginning there are no
others. A word that is unknown is not recorded, and neither is a step of a console that waits or is
halted. -/
theorem record_after (c : Console) (ops : List Operation) :
    let t := c.traced true
    let u := c.traced false
    (t.answers ops = u.answers ops ∧ (t.after ops).traced false = u.after ops) ∧
      ((∀ op ∈ ops, ¬ op.Restarts) →
        let via := t.passed ops
        let d := t.after ops
        d.trace.reverse =
            (fated [.executed, .refused] via).map reading ++
              (fated [.stackFault] via).map reading ∧
          (fated [.stackFault] via).length ≤ 1 ∧
          d.cycles = c.cycles + (fated [.executed] via).length ∧
          (c.Serviceable → fated [.refused] via = [] ∧
            fated [.executed, .refused] via = fated [.executed] via)) ∧
      ∀ w : Console,
        w.reading.address = w.machine.pc ∧
          w.reading.word.toNat =
            256 * (w.machine.memory.read (w.machine.pc.toNat % 4096)).toNat +
              (w.machine.memory.read ((w.machine.pc.toNat + 1) % 4096)).toNat ∧
          (w.halted = true ∨ w.machine.paused = true ∨ Instruction.decode? w.nextWord = none →
            w.fate? = none ∧ w.step.1.trace = w.trace) := by
  intro t u
  have huntraced : Untraced t u := rfl
  refine ⟨huntraced.after ops, ?_, ?_⟩
  · intro hops via d
    have hjourney : Journey t via d := journey_after t hops
    obtain ⟨hsplit, hlast⟩ := hjourney.fated_eq
    refine ⟨?_, hlast, hjourney.cycles_eq, ?_⟩
    · rw [← List.map_append, ← hsplit]
      exact hjourney.trace_eq rfl
    · intro hc
      have ht : t.Serviceable := ⟨hc.width, hc.height, hc.delay⟩
      exact fated_of_serviceable (ht.passed hops)
  · intro w
    exact ⟨rfl, toNat_reading w, trace_of_unfetched⟩

/-- A console with a program that waits for a key, overwrites its own next instructions with a return
and comes to it without a call. -/
def selfRewriting : Console :=
  (new (Screen.blank 64 32) (.ofArray #[]) (.number 10) 440).after
    [.loadRom [0xF2, 0x0A, 0x61, 0xEE, 0xA2, 0x06, 0xF1, 0x55, 0x12, 0x06]]

/-- A use of it that goes on after the fault. -/
def useToTheEnd : List Operation :=
  [.runFrame, .step, .press 7, .runFrames 2, .step, .runCycles 3]

theorem record_after_to_the_end :
    let t := selfRewriting.traced true
    let via := t.passed useToTheEnd
    let d := t.after useToTheEnd
    (∀ op ∈ useToTheEnd, ¬ op.Restarts) ∧ selfRewriting.Serviceable ∧
      d.trace.reverse =
          (fated [.executed] via).map reading ++ (fated [.stackFault] via).map reading ∧
        (fated [.executed] via).map reading =
            [⟨0x200, 0xF20A⟩, ⟨0x202, 0x61EE⟩, ⟨0x204, 0xA206⟩, ⟨0x206, 0xF155⟩, ⟨0x208, 0x1206⟩] ∧
          (fated [.stackFault] via).map reading = [⟨0x206, 0x00EE⟩] ∧ d.cycles = 5 := by
  intro t via d
  have hops : ∀ op ∈ useToTheEnd, ¬ op.Restarts := by
    simp [useToTheEnd, Operation.Restarts]
  have hserviceable : selfRewriting.Serviceable := ⟨by decide, by decide, by decide⟩
  obtain ⟨-, hrun, -⟩ := record_after selfRewriting useToTheEnd
  obtain ⟨hrecord, -, -, hall⟩ := hrun hops
  rw [(hall hserviceable).2] at hrecord
  refine ⟨hops, hserviceable, hrecord, ?_⟩
  decide +kernel

/-- A console whose screen has no pixels, with a program that draws a digit. -/
def blind : Console :=
  (new (Screen.blank 0 0) (.ofArray #[]) (.number 10) 440).after [.loadRom [0xD0, 0x05]]

/-- An instruction that is refused for a reason that is no fault is recorded, although it is neither
executed nor a fault of the stack. -/
theorem record_of_refused_draw :
    let t := blind.traced true
    let d := t.after [.step]
    t.answers [.step] = [.error (.stop .noPixels)] ∧ d.trace = [⟨0x200, 0xD005⟩] ∧
      d.cycles = t.cycles ∧ fated [.stackFault] (t.passed [.step]) = [] := by
  decide +kernel

end ChipEight.Console
