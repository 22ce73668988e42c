/-
# ChipEight.Proofs.Timers -- what the timers stand at after many batches

There are two timers, and both obey one law. An instruction puts a byte into a timer, every batch
that completes takes one off, down to zero, and nothing else reaches it (`Timer`, `count_of_load`,
`count_of_other`). So after some batches a timer that was not loaded stands at what it stood at
before, less the number of batches. If it was loaded, only the last load matters (`LastLoad`): the
batch that has loaded it counts as well, because its tick comes behind its instructions.

How many instructions the batches have executed, and whether the machine was paused, does not enter
into it; `timer_after_batches` says so for every history of batches and keys.
-/
import ChipEight.Proofs.Effects
import ChipEight.Proofs.Rounds

namespace ChipEight

/-! ## Timers -/

/-- The two timers of a machine. -/
inductive Timer where
  /-- The timer that programs read. -/
  | delay
  /-- The timer that the tone follows. -/
  | sound
  deriving DecidableEq, Repr

namespace Timer

/-- What a timer stands at. -/
def count (m : Machine) : Timer → Int
  | .delay => m.delay
  | .sound => m.sound

/-- The instruction that loads a timer from a register. -/
def load (x : Nibble) : Timer → Instruction
  | .delay => .setDelay x
  | .sound => .setSound x

/-- A batch takes one off at its end. -/
@[simp] theorem count_tick (t : Timer) (m : Machine) :
    t.count m.tick = Machine.countDown (t.count m) := by
  cases t <;> rfl

theorem countDown_nonneg {n : Int} (h : 0 ≤ n) : 0 ≤ Machine.countDown n := by
  unfold Machine.countDown
  split <;> omega

/-- One tick and then some more. -/
theorem max_countDown {n : Int} (h : 0 ≤ n) (more : Nat) :
    max 0 (Machine.countDown n - more) = max 0 (n - (more + 1 : Nat)) := by
  unfold Machine.countDown
  split <;> omega

end Timer

namespace Console

open Timer

variable {c d w : Console} {t : Timer}

/-! ## Steps -/

/-- A load puts the byte of the register into the timer. -/
theorem count_of_load {x : Nibble} (h : c.executes? = some (t.load x)) :
    t.count c.step.1.machine = (c.machine.register x).toNat := by
  obtain ⟨-, -, -, d, hd, hs⟩ := executes?_eq_some_iff.mp h
  rw [fetched_eq] at hd
  rw [hs]
  cases t with
  | delay | sound =>
    cases hd
    rfl

/-- No other step reaches the timer. -/
theorem count_of_other (h : ∀ x, c.executes? ≠ some (t.load x)) :
    t.count c.step.1.machine = t.count c.machine := by
  rcases hx : c.step with ⟨d, r⟩
  cases stepped_of_eq hx with
  | halted | paused => rfl
  | unknown => cases t <;> rfl
  | faulted => rw [haltAt_fetched]
  | refused =>
    rw [fetched_eq]
    cases t <;> rfl
  | @executed i d hh hp hi hd =>
    have hexecutes : c.executes? = some i :=
      executes?_eq_some_iff.mpr ⟨hh, hp, hi, d, hd, hx⟩
    have hi : ∀ x, i ≠ t.load x := by
      rintro x rfl
      exact h x hexecutes
    rw [fetched_eq] at hd
    obtain ⟨v, pc, hm⟩ := machine_of_execute hd
    show t.count d.machine = t.count c.machine
    rw [hm]
    cases t with
    | delay =>
      cases i with
      | setDelay x => exact absurd rfl (hi x)
      | _ => rfl
    | sound =>
      cases i with
      | setSound x => exact absurd rfl (hi x)
      | _ => rfl

/-! ## Keys -/

/-- Loading and keys do not reach the timers. -/
theorem count_perform {op : Operation} (hr : ¬ op.Runs) (hs : ¬ op.Restarts) :
    t.count (c.perform op).1.machine = t.count c.machine := by
  obtain ⟨m, rom, keypad, hd, hdelay, hsound, -⟩ := perform_apart c hr hs
  rw [hd]
  cases t with
  | delay => exact hdelay
  | sound => exact hsound

/-- No timer is ever below zero. -/
theorem timers_invariant :
    Invariant (fun c => ∀ t : Timer, 0 ≤ t.count c.machine) (fun _ => True) where
  step {c} h := by
    refine ⟨fun t => ?_, fun _ _ => trivial⟩
    by_cases hload : ∃ x, c.executes? = some (t.load x)
    · obtain ⟨x, hx⟩ := hload
      rw [count_of_load hx]
      omega
    · rw [count_of_other (not_exists.mp hload)]
      exact h t
  endBatch {c} h t := by
    show 0 ≤ t.count c.machine.tick
    rw [count_tick]
    exact countDown_nonneg (h t)
  countFrame h := h
  speed _ _ := trivial
  loadRom {c d image} h hl t := by
    unfold Console.loadRom at hl
    split at hl <;> cases hl
    exact h t
  loadProgram image address h := h
  press {c} key h t := by
    have hcount : t.count (c.perform (.press key)).1.machine = _ := count_perform id id
    exact hcount ▸ h t
  release {c} key h t := by
    have hcount : t.count (c.perform (.release key)).1.machine = _ := count_perform id id
    exact hcount ▸ h t
  resetProcessor _ t := by cases t <;> exact Int.le_refl 0
  reset _ t := by cases t <;> exact Int.le_refl 0

/-! ## One batch -/

/-- A loop that loads the timer nowhere leaves it as it was. -/
theorem count_stepUpTo {n : Nat} (h : ∀ x, t.load x ∉ (waypointsUpTo n c).filterMap executes?) :
    t.count (stepUpTo n c).1.machine = t.count c.machine := by
  apply keeps_stepUpTo (P := fun e => t.count e.machine = t.count c.machine)
    (G := fun e => ∀ x, e.executes? ≠ some (t.load x)) _ rfl
  · intro e he x hx
    exact h x (List.mem_filterMap.mpr ⟨e, he, hx⟩)
  · intro e he hno
    exact (count_of_other hno).trans he

/-- A loop leaves the timer as its last load has left it. -/
theorem count_stepUpTo_of_load {n : Nat} {before after : List Console} {x : Nibble}
    (hvia : waypointsUpTo n c = before ++ w :: after) (hok : (stepUpTo n c).2 = .ok ())
    (hw : w.executes? = some (t.load x)) (hafter : ∀ y, t.load y ∉ after.filterMap executes?) :
    t.count (stepUpTo n c).1.machine = (w.machine.register x).toNat := by
  obtain ⟨k, hrest, hrun⟩ := stepUpTo_behind hvia hok
  rw [← hrest] at hafter
  rw [← hrun, count_stepUpTo hafter, count_of_load hw]

/-- A batch that completes is its loop and one tick. -/
theorem count_of_batch {op : Operation} (hb : op.isBatch = true)
    (hok : (c.perform op).2.isOk = true) :
    ∃ n, c.waypoints op = waypointsUpTo n c ∧ (stepUpTo n c).2 = .ok () ∧
      t.count (c.perform op).1.machine =
        Machine.countDown (t.count (stepUpTo n c).1.machine) := by
  obtain ⟨n, frames, hvia, hloop, hd⟩ := completed_batch hb hok
  refine ⟨n, hvia, hloop, ?_⟩
  rw [hd, ← count_tick]
  rfl

/-! ## Many batches -/

/-- The operations are batches that all complete, with keys between them. -/
structure Rounds (c : Console) (ops : List Operation) : Prop where
  kinds : ∀ op ∈ ops, op.isBatch = true ∨ op.isKey = true
  complete : ∀ answer ∈ c.answers ops, answer.isOk = true

theorem Rounds.uncons {op : Operation} {ops : List Operation} (h : Rounds c (op :: ops)) :
    (op.isBatch = true ∨ op.isKey = true) ∧ (c.perform op).2.isOk = true ∧
      Rounds (c.perform op).1 ops := by
  refine ⟨h.kinds op List.mem_cons_self, h.complete _ List.mem_cons_self, ?_, ?_⟩
  · exact fun o ho => h.kinds o (List.mem_cons_of_mem op ho)
  · exact fun a ha => h.complete a (List.mem_cons_of_mem _ ha)

/-- The last load of a timer in a history: it happened in the batch with this number, counted from
one, and has put this byte into the timer. -/
inductive LastLoad (t : Timer) (c : Console) : List Operation → Nat → UInt8 → Prop
  | intro (before : List Operation) (op : Operation) (after : List Operation)
      {via rest : List Console} {w : Console} {x : Nibble} (batch : op.isBatch = true)
      (points : (c.after before).waypoints op = via ++ w :: rest)
      (loads : w.executes? = some (t.load x))
      (last : ∀ y, t.load y ∉ rest.filterMap executes?)
      (later : ∀ y, t.load y ∉ (c.after (before ++ [op])).executed after) :
      LastLoad t c (before ++ op :: after) (batches before + 1) (w.machine.register x)

theorem Rounds.drop {before after : List Operation} (h : Rounds c (before ++ after)) :
    Rounds (c.after before) after := by
  induction before generalizing c with
  | nil => exact h
  | cons op before ih => exact ih h.uncons.2.2

/-- Batches that do not load a timer take one off each. -/
theorem count_rounds {ops : List Operation} (h : Rounds c ops) (hc : 0 ≤ t.count c.machine)
    (hno : ∀ x, t.load x ∉ c.executed ops) :
    t.count (c.after ops).machine = max 0 (t.count c.machine - batches ops) := by
  induction ops generalizing c with
  | nil =>
    show t.count c.machine = max 0 (t.count c.machine - (0 : Nat))
    omega
  | cons op ops ih =>
    obtain ⟨hkind, hok, hrest⟩ := h.uncons
    have hlater : ∀ x, t.load x ∉ (c.perform op).1.executed ops :=
      fun x hx => hno x (List.mem_append_right _ hx)
    rw [after_cons, batches_cons]
    rcases hkind with hb | hk
    · obtain ⟨n, hvia, -, hcount⟩ := count_of_batch (t := t) hb hok
      have hfirst : ∀ x, t.load x ∉ (waypointsUpTo n c).filterMap executes? :=
        fun x hx => hno x (List.mem_append_left _ (hvia ▸ hx))
      rw [count_stepUpTo hfirst] at hcount
      have hd : 0 ≤ t.count (c.perform op).1.machine := hcount ▸ countDown_nonneg hc
      rw [ih hrest hd hlater, hcount, max_countDown hc, if_pos hb]
    · obtain ⟨hr, hs, hb⟩ := Operation.isKey_apart hk
      have hcount := count_perform (c := c) (t := t) hr hs
      rw [ih hrest (hcount ▸ hc) hlater, hcount, if_neg hb]
      rfl

/-- Batches that load a timer make it stand at what the last load has put there, less one for that
batch and for each one behind it. -/
theorem count_rounds_of_load {ops : List Operation} (h : Rounds c ops) {j : Nat} {v : UInt8}
    (hl : LastLoad t c ops j v) :
    j ≤ batches ops ∧
      t.count (c.after ops).machine = max 0 ((v.toNat : Int) - ((batches ops : Int) - j + 1)) := by
  cases hl with
  | @intro before op after via rest w x hb hpoints hloads hlast hlater =>
  obtain ⟨-, hok, hrest⟩ := h.drop.uncons
  obtain ⟨n, hvia, hloop, hcount⟩ := count_of_batch (t := t) hb hok
  rw [hvia] at hpoints
  rw [count_stepUpTo_of_load hpoints hloop hloads hlast] at hcount
  have hv : (0 : Int) ≤ (w.machine.register x).toNat := Int.natCast_nonneg _
  have hd : 0 ≤ t.count ((c.after before).perform op).1.machine := hcount ▸ countDown_nonneg hv
  rw [after_append] at hlater
  rw [after_append, after_cons, count_rounds hrest hd hlater, hcount, max_countDown hv,
    batches_append, batches_cons, if_pos hb]
  refine ⟨by omega, ?_⟩
  congr 2
  omega

/-- Of the loads of a timer on the way through some consoles there is a last one. -/
theorem exists_last_load {points : List Console}
    (h : ∃ x, t.load x ∈ points.filterMap executes?) :
    ∃ via w rest x, points = via ++ w :: rest ∧ w.executes? = some (t.load x) ∧
      ∀ y, t.load y ∉ rest.filterMap executes? := by
  induction points with
  | nil => simp at h
  | cons p points ih =>
    by_cases hlater : ∃ x, t.load x ∈ points.filterMap executes?
    · obtain ⟨via, w, rest, x, rfl, hw, hrest⟩ := ih hlater
      exact ⟨p :: via, w, rest, x, rfl, hw, hrest⟩
    · obtain ⟨x, hx⟩ := h
      obtain ⟨w, hmem, hw⟩ := List.mem_filterMap.mp hx
      rcases List.mem_cons.mp hmem with rfl | hmem
      · exact ⟨[], w, points, x, rfl, hw, not_exists.mp hlater⟩
      · exact absurd ⟨x, List.mem_filterMap.mpr ⟨w, hmem, hw⟩⟩ hlater

/-- If batches load a timer at all, there is a last load. -/
theorem exists_lastLoad {ops : List Operation} (h : Rounds c ops)
    (hload : ∃ x, t.load x ∈ c.executed ops) : ∃ j v, LastLoad t c ops j v := by
  induction ops generalizing c with
  | nil => simp [executed] at hload
  | cons op ops ih =>
    obtain ⟨hkind, -, hrest⟩ := h.uncons
    by_cases hlater : ∃ x, t.load x ∈ (c.perform op).1.executed ops
    · obtain ⟨j, v, before, o, after, hb, hpoints, hloads, hlast, hno⟩ := ih hrest hlater
      exact ⟨_, _, .intro (op :: before) o after hb hpoints hloads hlast hno⟩
    · obtain ⟨x, hx⟩ := hload
      have hfirst : t.load x ∈ (c.waypoints op).filterMap executes? :=
        (List.mem_append.mp hx).resolve_right (not_exists.mp hlater x)
      rcases hkind with hb | hk
      · obtain ⟨via, w, rest, y, hpoints, hw, hlast⟩ := exists_last_load ⟨x, hfirst⟩
        exact ⟨_, _, .intro [] op ops hb hpoints hw hlast (not_exists.mp hlater)⟩
      · rw [waypoints_of_not_runs c (Operation.isKey_apart hk).1] at hfirst
        simp at hfirst

/-- Let any batches follow on any history, all of them complete, with keys between them. A timer
that none of them loads stands at what it stood at before, less the number of batches, but not below
zero. If there are loads there is a last one, and if it happens in batch `j` of `m` and loads `v`,
the timer stands at `v` less the number of batches from `j` on. -/
theorem timer_after_batches (screen : Screen) (random : RandomBytes) (speed : Amount)
    (toneHz : Int) (ops : List Operation) (t : Timer) {rounds : List Operation}
    (hrounds : Rounds ((new screen random speed toneHz).after ops) rounds) :
    let c := (new screen random speed toneHz).after ops
    let m : Int := batches rounds
    let final := t.count (c.after rounds).machine
    ((∀ x, t.load x ∉ c.executed rounds) → final = max 0 (t.count c.machine - m)) ∧
      ((∃ x, t.load x ∈ c.executed rounds) → ∃ j v, LastLoad t c rounds j v) ∧
      ∀ j v, LastLoad t c rounds j v → j ≤ m ∧ final = max 0 ((v.toNat : Int) - (m - j + 1)) := by
  intro c m final
  have hnew : ∀ t : Timer, 0 ≤ t.count (new screen random speed toneHz).machine := by
    intro t
    cases t <;> exact Int.le_refl 0
  have hc : 0 ≤ t.count c.machine := timers_invariant.after hnew ops t
  refine ⟨count_rounds hrounds hc, exists_lastLoad hrounds, ?_⟩
  intro j v hl
  obtain ⟨hj, hfinal⟩ := count_rounds_of_load hrounds hl
  exact ⟨Int.ofNat_le.mpr hj, hfinal⟩

/-- Four batches, of which one executes nothing and one is paused, then a key, and two batches. -/
def roundsWithKey : List Operation :=
  [.runCycles 2, .runCycles 0, .runCycles 5, .runFrame, .press 9, .runCycles 3, .runCycles (-1)]

/-- A program that starts the delay timer at seven, waits for a key, and then starts the timer at
the number of the key. -/
def keyTimedLoad : List Operation :=
  [.loadRom [0x65, 0x07, 0xF5, 0x15, 0xF2, 0x0A, 0xF2, 0x15, 0x12, 0x08]]

/-- A new console with that program. -/
def keyTimed : Console :=
  (new (Screen.blank 64 32) (.ofArray #[]) (.number 10) 440).after keyTimedLoad

/-- The console after the key, when the timer is about to be started again. -/
def aboutToReload : Console :=
  keyTimed.after (roundsWithKey.take 5)

theorem lastLoad_keyTimed : LastLoad .delay keyTimed roundsWithKey 5 9 := by
  obtain ⟨hh, hp, hok, hload, hvalue⟩ : aboutToReload.halted = false ∧
      aboutToReload.machine.paused ≠ true ∧ aboutToReload.step.2.isOk = true ∧
      aboutToReload.executes? = some (Timer.load 2 .delay) ∧
      aboutToReload.machine.register 2 = 9 := by
    decide +kernel
  have hpoints : aboutToReload.waypoints (.runCycles 3) =
      [] ++ aboutToReload :: waypointsUpTo 2 aboutToReload.step.1 := by
    rw [List.nil_append, ← waypointsUpTo_succ hp hok]
    simp only [waypoints, waypointsOfCycles, hh, Bool.false_eq_true, if_false]
    rfl
  rw [← hvalue]
  exact .intro (roundsWithKey.take 5) (.runCycles 3) [.runCycles (-1)] rfl hpoints hload
    (by decide +kernel) (by decide +kernel)

theorem rounds_keyTimed : Rounds keyTimed roundsWithKey :=
  ⟨by decide, by decide +kernel⟩

theorem timer_after_batches_across_pause :
    Rounds keyTimed roundsWithKey ∧ LastLoad .delay keyTimed roundsWithKey 5 9 ∧
      Timer.delay.count (keyTimed.after roundsWithKey).machine = max 0 (9 - (6 - 5 + 1)) ∧
      Timer.sound.count (keyTimed.after roundsWithKey).machine = 0 := by
  have hdelay := timer_after_batches (Screen.blank 64 32) (.ofArray #[]) (.number 10) 440
    keyTimedLoad .delay rounds_keyTimed
  have hsound := timer_after_batches (Screen.blank 64 32) (.ofArray #[]) (.number 10) 440
    keyTimedLoad .sound rounds_keyTimed
  have hquiet : ∀ x, Timer.load x .sound ∉ keyTimed.executed roundsWithKey := by decide +kernel
  refine ⟨rounds_keyTimed, lastLoad_keyTimed, (hdelay.2.2 5 9 lastLoad_keyTimed).2, ?_⟩
  exact hsound.1 hquiet

end Console

end ChipEight
