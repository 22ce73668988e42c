/-
# ChipEight.Proofs.Tone -- the tone follows the sound timer

A batch that completes reports the tone, after the tick: it is on exactly if the sound timer is not
down to zero (`active_of_completesBatch`). Nothing else touches the buzzer, neither single steps,
keys and loading nor a batch that refuses (`buzzer_of_not_completesBatch`). So the buzzer hears no
more of a history than what the sound timer stood at after each completed batch, and `batchSounds`
lists just that. The tone is on if the last of these values is not zero, and it was started once for
each rise of the values from zero (`rises`).
-/
import ChipEight.Proofs.PowerCycle
import ChipEight.Proofs.Timers

namespace ChipEight

/-! ## Rises -/

/-- The value is not zero, and the one before it, if there is one, is. -/
def isRise : Option Int × Int → Bool
  | (previous, sound) => sound ≠ 0 ∧ ∀ before ∈ previous, before = 0

/-- How often values rise from zero, the first one among them if it follows on none. -/
def rises (previous : Option Int) (sounds : List Int) : Nat :=
  ((previous :: sounds.map some).zip sounds).countP isRise

theorem rises_cons (previous : Option Int) (sound : Int) (sounds : List Int) :
    rises previous (sound :: sounds) =
      rises (some sound) sounds + if isRise (previous, sound) then 1 else 0 :=
  List.countP_cons

/-- A value that follows on one that is not zero is no rise, and one that is zero is none. -/
theorem isRise_eq {previous : Option Int} {active : Bool}
    (h : active = true ↔ ∃ before ∈ previous, before ≠ 0) (sound : Int) :
    isRise (previous, sound) = (decide (sound ≠ 0) && !active) := by
  cases previous with
  | none => cases active <;> simp_all [isRise]
  | some before => cases active <;> simp_all [isRise]

namespace Operation

/-- The operation starts nothing over, and it runs no more than one batch. -/
def isSingle : Operation → Bool
  | .runFrames _ | .runPaced .. | .resetProcessor | .reset => false
  | _ => true

end Operation

namespace Console

variable {c : Console} {op : Operation}

/-! ## The end of a batch -/

/-- The operation is a batch, and it completes. -/
def completesBatch (c : Console) (op : Operation) : Bool :=
  op.isBatch && (c.perform op).2.isOk

/-- What the sound timer stands at after each batch of a history that completes, in order. -/
def batchSounds (c : Console) : List Operation → List Int
  | [] => []
  | op :: ops =>
    let d := (c.perform op).1
    if c.completesBatch op then d.machine.sound :: d.batchSounds ops else d.batchSounds ops

/-- Loops do not touch the buzzer, wherever they end. -/
theorem buzzer_stepUpTo (n : Nat) (c : Console) : (stepUpTo n c).1.buzzer = c.buzzer :=
  keeps_stepUpTo (P := fun d => d.buzzer = c.buzzer) (G := fun _ => True)
    (fun {d} hd _ => (undisturbed_step d).1.trans hd) rfl fun _ _ => trivial

/-- Loading and keys do not touch the buzzer. -/
theorem buzzer_of_apart (hr : ¬ op.Runs) (hs : ¬ op.Restarts) :
    (c.perform op).1.buzzer = c.buzzer := by
  obtain ⟨m, rom, keypad, hd, -, -⟩ := perform_apart c hr hs
  rw [hd]

/-- A batch that completes starts the tone if the sound timer is above zero at its end, and stops it
otherwise. -/
theorem buzzer_of_completesBatch (h : c.completesBatch op = true) :
    (c.perform op).1.buzzer =
      if 0 < (c.perform op).1.machine.sound then c.buzzer.start c.toneHz else c.buzzer.stop := by
  obtain ⟨hb, hok⟩ := Bool.and_eq_true_iff.mp h
  have hpitch : (c.perform op).1.toneHz = c.toneHz := (sameSetup_perform c op).1.toneHz
  obtain ⟨n, frames, -, -, hd⟩ := completed_batch hb hok
  rw [hd] at hpitch ⊢
  rw [← buzzer_stepUpTo n c, ← hpitch]
  rfl

/-- Nothing else touches the buzzer, a batch that refuses included. -/
theorem buzzer_of_not_completesBatch (hs : op.isSingle = true) (h : ¬ c.completesBatch op = true) :
    (c.perform op).1.buzzer = c.buzzer := by
  by_cases hb : op.isBatch = true
  · have hno : (c.perform op).2.isOk ≠ true := fun hok => h (Bool.and_eq_true_iff.mpr ⟨hb, hok⟩)
    obtain ⟨n, frames, hd⟩ := refused_batch hb hno
    rw [hd]
    exact buzzer_stepUpTo n c
  · cases op with
    | step =>
      rw [perform, answering_fst]
      exact (undisturbed_step c).1
    | loadRom | loadProgram | press | release => exact buzzer_of_apart id id
    | runCycles | runFrame => exact absurd rfl hb
    | runFrames | runPaced | resetProcessor | reset => cases hs

/-- After a batch that completes, the tone is on exactly if the sound timer is not zero. -/
theorem active_of_completesBatch (h : c.completesBatch op = true)
    (hd : 0 ≤ (c.perform op).1.machine.sound) :
    (c.perform op).1.buzzer.active = true ↔ (c.perform op).1.machine.sound ≠ 0 := by
  rw [buzzer_of_completesBatch h]
  split
  · exact iff_of_true rfl (by omega)
  · exact iff_of_false Bool.false_ne_true (by omega)

/-- A batch that completes starts the tone if that is a rise. -/
theorem starts_of_completesBatch (h : c.completesBatch op = true)
    (hd : 0 ≤ (c.perform op).1.machine.sound) {previous : Option Int}
    (hactive : c.buzzer.active = true ↔ ∃ before ∈ previous, before ≠ 0) :
    (c.perform op).1.buzzer.starts =
      c.buzzer.starts + if isRise (previous, (c.perform op).1.machine.sound) then 1 else 0 := by
  rw [buzzer_of_completesBatch h, isRise_eq hactive]
  by_cases hsound : 0 < (c.perform op).1.machine.sound
  · have hne : (c.perform op).1.machine.sound ≠ 0 := by omega
    rw [if_pos hsound, decide_eq_true hne]
    simp only [Buzzer.start]
    cases c.buzzer.active <;> rfl
  · have hzero : (c.perform op).1.machine.sound = 0 := by omega
    rw [hzero]
    rfl

/-! ## Histories -/

/-- Over a history the tone follows the values of the sound timer after each completed batch: it is
on if the last one is not zero, and it has been started once for each rise. -/
theorem buzzer_after {ops : List Operation} (hops : ∀ op ∈ ops, op.isSingle = true)
    (hc : ∀ t : Timer, 0 ≤ t.count c.machine) {previous : Option Int}
    (hactive : c.buzzer.active = true ↔ ∃ before ∈ previous, before ≠ 0) :
    ((c.after ops).buzzer.active = true ↔
        ∃ last ∈ (c.batchSounds ops).getLast?.or previous, last ≠ 0) ∧
      (c.after ops).buzzer.starts = c.buzzer.starts + rises previous (c.batchSounds ops) := by
  -- `previous` is what the last completed batch has left, if there was one
  induction ops generalizing c previous with
  | nil => exact ⟨hactive, rfl⟩
  | cons op ops ih =>
    have hsingle : op.isSingle = true := hops op List.mem_cons_self
    have hrest : ∀ o ∈ ops, o.isSingle = true := fun o ho => hops o (List.mem_cons_of_mem op ho)
    have hd := (timers_invariant.perform hc op).1
    rw [after_cons, batchSounds]
    by_cases hb : c.completesBatch op = true
    · have hnext : (c.perform op).1.buzzer.active = true ↔
          ∃ before ∈ some (c.perform op).1.machine.sound, before ≠ 0 := by
        simpa using active_of_completesBatch hb (hd .sound)
      obtain ⟨hlast, hstarts⟩ := ih hrest hd hnext
      rw [if_pos hb, List.getLast?_cons, rises_cons]
      refine ⟨?_, ?_⟩
      · simpa using hlast
      · rw [hstarts, starts_of_completesBatch hb (hd .sound) hactive]
        omega
    · have hsame := buzzer_of_not_completesBatch hsingle hb
      rw [if_neg hb, ← hsame]
      exact ih hrest hd (hsame ▸ hactive)

/-- A tone that is on has the frequency of the console. -/
theorem pitch_invariant :
    Invariant (fun c => c.buzzer.active = true → c.buzzer.frequency = c.toneHz)
      (fun _ => True) where
  step {c} h := by
    refine ⟨?_, fun _ _ => trivial⟩
    show c.step.1.buzzer.active = true → c.step.1.buzzer.frequency = c.step.1.toneHz
    rw [(undisturbed_step c).1, (sameSetup_step c).1.toneHz]
    exact h
  endBatch {c} h := by
    show (c.endBatch).buzzer.active = true → (c.endBatch).buzzer.frequency = c.toneHz
    rw [(batchEnd_endBatch c).tone]
    split
    · intro _
      rfl
    · intro hactive
      cases hactive
  countFrame h := h
  speed _ _ := trivial
  loadRom {c d image} h hl := by
    unfold Console.loadRom at hl
    split at hl <;> cases hl
    exact h
  loadProgram image address h := h
  press {c} key h := by
    rcases pressKey_cases c key with ⟨-, hd⟩ | ⟨k, -, ⟨-, hd⟩ | ⟨x, -, hd⟩⟩ <;> rw [hd] <;> exact h
  release {c} key h := by
    obtain ⟨held, hd⟩ := releaseKey_eq c key
    rw [hd]
    exact h
  resetProcessor h := h
  reset _ hactive := by cases hactive

/-- From a new console on, let no operation start anything over or run more than one batch. Then
the tone follows the sound timer. A batch that completes leaves the tone on if and only if the sound
timer is not zero then, and every other operation leaves the buzzer as it was: steps, keys, loading,
and batches that refuse. The tone is on if the last completed batch has left the sound timer above
zero. It was started as often as a completed batch has left it there and was the first one, or
followed on one that has left it at zero. A tone that is on has the frequency of the console. -/
theorem tone_follows_sound (screen : Screen) (random : RandomBytes) (speed : Amount) (toneHz : Int)
    {ops : List Operation} (hops : ∀ op ∈ ops, op.isSingle = true) :
    let c := (new screen random speed toneHz).after ops
    let sounds := (new screen random speed toneHz).batchSounds ops
    (∀ op : Operation,
        (c.completesBatch op = true →
          ((c.perform op).1.buzzer.active = true ↔ (c.perform op).1.machine.sound ≠ 0)) ∧
        (op.isSingle = true → c.completesBatch op = false → (c.perform op).1.buzzer = c.buzzer)) ∧
      (c.buzzer.active = true ↔ ∃ last ∈ sounds.getLast?, last ≠ 0) ∧
      c.buzzer.starts = rises none sounds ∧
      (c.buzzer.active = true → c.buzzer.frequency = toneHz) := by
  intro c sounds
  have hnew : ∀ t : Timer, 0 ≤ t.count (new screen random speed toneHz).machine := by
    intro t
    cases t <;> exact Int.le_refl 0
  have hsilent : (new screen random speed toneHz).buzzer.active = true ↔
      ∃ before ∈ (none : Option Int), before ≠ 0 := by
    simp [new, Buzzer.silent]
  have hc : ∀ t : Timer, 0 ≤ t.count c.machine := timers_invariant.after hnew ops
  obtain ⟨hlast, hstarts⟩ := buzzer_after hops hnew hsilent
  refine ⟨?_, ?_, ?_, ?_⟩
  · intro op
    constructor
    · intro hb
      exact active_of_completesBatch hb ((timers_invariant.perform hc op).1 .sound)
    · intro hs hb
      exact buzzer_of_not_completesBatch hs (ne_true_of_eq_false hb)
  · simpa using hlast
  · exact hstarts.trans (Nat.zero_add _)
  · intro hactive
    have hpitch : c.toneHz = toneHz := (sameSetup_after (new screen random speed toneHz) ops).toneHz
    rw [← hpitch]
    refine pitch_invariant.after ?_ ops hactive
    intro hon
    cases hon

/-- A program that sounds for two batches and waits for a key. After the key it sounds again, and
the next batch meets a word that is no instruction. -/
def soundsTwice : List Operation :=
  [.loadRom [0x65, 0x02, 0xF5, 0x18, 0xF7, 0x0A, 0xF5, 0x18, 0xF0, 0xFF],
    .runCycles 2, .step, .runFrame, .press 3, .step, .runCycles 0, .runCycles 4]

theorem tone_follows_sound_until_refusal :
    (∀ op ∈ soundsTwice, op.isSingle = true) ∧
      let c := (new (Screen.blank 64 32) (.ofArray #[]) (.number 5) 440).after soundsTwice
      c.halted = true ∧ c.buzzer.active = true ∧ c.buzzer.starts = 2 ∧
        c.buzzer.frequency = 440 := by
  have hsingle : ∀ op ∈ soundsTwice, op.isSingle = true := by decide
  have hsounds : (new (Screen.blank 64 32) (.ofArray #[]) (.number 5) 440).batchSounds soundsTwice =
      [1, 0, 1] := by
    decide +kernel
  obtain ⟨-, hlast, hstarts, hpitch⟩ :=
    tone_follows_sound (Screen.blank 64 32) (.ofArray #[]) (.number 5) 440 hsingle
  rw [hsounds] at hlast hstarts
  have hactive := hlast.mpr (by decide)
  exact ⟨hsingle, by decide +kernel, hactive, hstarts, hpitch hactive⟩

end Console

end ChipEight
