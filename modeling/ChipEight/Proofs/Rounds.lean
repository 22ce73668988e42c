/-
# ChipEight.Proofs.Rounds -- completed batches, one after another

Whoever drives a console runs one batch after another, or one frame after another, and passes keys
on between them. What such a console does is said in two layers. The loop of a batch is a run of
steps from its waypoints (`keeps_stepUpTo`), and it can be cut at any of them
(`stepUpTo_behind`). A batch or a frame that completes is this loop and one end of a batch
(`completed_batch`), so whoever follows the batches of a history counts them (`batches`) and never
looks at their loops again.
-/
import ChipEight.Proofs.Batch
import ChipEight.Proofs.Course

namespace ChipEight

namespace Operation

/-- The operation is one batch, of a given size or of the size of a frame. -/
def isBatch : Operation → Bool
  | .runCycles _ | .runFrame => true
  | _ => false

/-- A key goes down or up. -/
def isKey : Operation → Bool
  | .press _ | .release _ => true
  | _ => false

/-- A key neither runs anything nor starts anything over. -/
theorem isKey_apart {op : Operation} (h : op.isKey = true) :
    ¬ op.Runs ∧ ¬ op.Restarts ∧ ¬ op.isBatch = true := by
  cases op with
  | press | release => exact ⟨id, id, Bool.false_ne_true⟩
  | _ => cases h

end Operation

/-- The number of batches among operations. -/
def batches (ops : List Operation) : Nat :=
  ops.countP Operation.isBatch

theorem batches_cons (op : Operation) (ops : List Operation) :
    batches (op :: ops) = batches ops + if op.isBatch then 1 else 0 :=
  List.countP_cons

theorem batches_append (first second : List Operation) :
    batches (first ++ second) = batches first + batches second :=
  List.countP_append

namespace Console

variable {c d w : Console}

/-! ## The loop of a batch -/

theorem waypointsUpTo_succ (hp : c.machine.paused ≠ true) (h : c.step.2.isOk = true) (n : Nat) :
    waypointsUpTo (n + 1) c = c :: waypointsUpTo n c.step.1 := by
  rcases hx : c.step with ⟨d, r⟩
  rw [hx] at h
  cases r with
  | ok _ => simp only [waypointsUpTo, if_neg hp, hx]
  | error _ => cases h

/-- What steps keep from consoles that `G` allows, a loop keeps that passes through such consoles
only. -/
theorem keeps_stepUpTo {P G : Console → Prop} (step : ∀ {c : Console}, P c → G c → P c.step.1)
    (hc : P c) {n : Nat} (hg : ∀ e ∈ waypointsUpTo n c, G e) : P (stepUpTo n c).1 := by
  induction n generalizing c with
  | zero => exact hc
  | succ n ih =>
    unfold waypointsUpTo at hg
    unfold stepUpTo
    by_cases hp : c.machine.paused = true
    · rw [if_pos hp]
      exact hc
    · rw [if_neg hp] at hg ⊢
      have hfirst := step hc (hg c List.mem_cons_self)
      rcases hx : c.step with ⟨d, r⟩
      rw [hx] at hfirst hg
      cases r with
      | ok _ => exact ih hfirst fun e he => hg e (List.mem_cons_of_mem c he)
      | error _ => exact hfirst

/-- A loop that completes goes on behind each of its waypoints, as a shorter loop. -/
theorem stepUpTo_behind {n : Nat} {before after : List Console}
    (h : waypointsUpTo n c = before ++ w :: after) (hok : (stepUpTo n c).2 = .ok ()) :
    ∃ k, waypointsUpTo k w.step.1 = after ∧ stepUpTo k w.step.1 = stepUpTo n c := by
  induction n generalizing c before with
  | zero => simp [waypointsUpTo] at h
  | succ n ih =>
    by_cases hp : c.machine.paused = true
    · simp [waypointsUpTo, hp] at h
    · cases hstep : c.step.2 with
      | error e =>
        have hloop : (stepUpTo (n + 1) c).2 = .error e := by
          rcases hx : c.step with ⟨d, r⟩
          rw [hx] at hstep
          cases hstep
          simp only [stepUpTo, if_neg hp, hx]
        rw [hloop] at hok
        cases hok
      | ok _ =>
        have hgoes : c.step.2.isOk = true := by
          rw [hstep]
          rfl
        rw [stepUpTo_succ hp hgoes] at hok ⊢
        rw [waypointsUpTo_succ hp hgoes] at h
        -- the waypoint is the first one, or one of the loop that is left
        cases before with
        | nil =>
          obtain ⟨rfl, hrest⟩ := List.cons.inj h
          exact ⟨n, hrest, rfl⟩
        | cons b before =>
          obtain ⟨-, hrest⟩ := List.cons.inj h
          exact ih hrest hok

/-! ## Batches -/

theorem isOk_answering {α : Type} {answer : α → Answer} {outcome : Console × Except Stop α} :
    (answering answer outcome).2.isOk = outcome.2.isOk := by
  obtain ⟨d, r⟩ := outcome
  cases r <;> rfl

theorem completed_runCycles {count : Int} (hok : (c.runCycles count).2.isOk = true) :
    c.waypointsOfCycles count = waypointsUpTo count.toNat c ∧
      (stepUpTo count.toNat c).2 = .ok () ∧
      c.runCycles count = ((stepUpTo count.toNat c).1.endBatch, .ok ()) := by
  unfold waypointsOfCycles
  unfold runCycles at hok ⊢
  by_cases hh : c.halted = true
  · rw [if_pos hh] at hok
    cases hok
  · rw [if_neg hh] at hok
    rw [if_neg hh, if_neg hh]
    rcases hx : stepUpTo count.toNat c with ⟨d, r⟩
    rw [hx] at hok
    cases r with
    | error _ => cases hok
    | ok _ => exact ⟨rfl, rfl, rfl⟩

theorem refused_runCycles {count : Int} (hno : (c.runCycles count).2.isOk ≠ true) :
    ∃ n, (c.runCycles count).1 = (stepUpTo n c).1 := by
  unfold runCycles at hno ⊢
  by_cases hh : c.halted = true
  · rw [if_pos hh]
    exact ⟨0, rfl⟩
  · rw [if_neg hh] at hno ⊢
    refine ⟨count.toNat, ?_⟩
    rcases hx : stepUpTo count.toNat c with ⟨d, r⟩
    rw [hx] at hno
    cases r with
    | ok _ => exact absurd rfl hno
    | error _ => rfl

/-- A frame of a given size answers as its batch does. -/
theorem runFrame_answer {count : Int} (h : c.cyclesPerFrame = .number count) :
    c.runFrame.2 = (c.runCycles count).2 := by
  simp only [runFrame, h, runAmount]
  rcases c.runCycles count with ⟨d, r⟩
  cases r <;> rfl

/-- A frame is its batch, and it is counted if the batch completes. -/
theorem runFrame_console {count : Int} (h : c.cyclesPerFrame = .number count) :
    ∃ frames, c.runFrame.1 = { (c.runCycles count).1 with frames := frames } := by
  simp only [runFrame, h, runAmount]
  rcases c.runCycles count with ⟨d, r⟩
  cases r with
  | ok _ => exact ⟨d.frames + 1, rfl⟩
  | error _ => exact ⟨d.frames, rfl⟩

theorem runFrame_of_nothing (h : c.cyclesPerFrame = .nothing) :
    c.runFrame = (c, .error (if c.halted then .halted else .notANumber)) := by
  simp only [runFrame, h, runAmount]

/-- A batch or a frame that completes is its loop and one end of a batch, and a frame is counted. -/
theorem completed_batch {op : Operation} (hb : op.isBatch = true)
    (hok : (c.perform op).2.isOk = true) :
    ∃ n frames, c.waypoints op = waypointsUpTo n c ∧ (stepUpTo n c).2 = .ok () ∧
      (c.perform op).1 = { (stepUpTo n c).1.endBatch with frames := frames } := by
  cases op with
  | runCycles count =>
    rw [perform, isOk_answering] at hok
    rw [perform, answering_fst]
    obtain ⟨hvia, hloop, hrun⟩ := completed_runCycles hok
    refine ⟨count.toNat, (stepUpTo count.toNat c).1.frames, hvia, hloop, ?_⟩
    rw [hrun]
    rfl
  | runFrame =>
    rw [perform, isOk_answering] at hok
    rw [perform, answering_fst]
    cases ha : c.cyclesPerFrame with
    | nothing =>
      rw [runFrame_of_nothing ha] at hok
      cases hok
    | number count =>
      rw [runFrame_answer ha] at hok
      obtain ⟨hvia, hloop, hrun⟩ := completed_runCycles hok
      obtain ⟨frames, hd⟩ := runFrame_console ha
      rw [hrun] at hd
      refine ⟨count.toNat, frames, ?_, hloop, hd⟩
      rw [← hvia]
      simp only [waypoints, waypointsOfFrame, ha]
  | _ => cases hb

/-- A batch or a frame that refuses has no end: it is a loop, if it comes that far. -/
theorem refused_batch {op : Operation} (hb : op.isBatch = true)
    (hno : (c.perform op).2.isOk ≠ true) :
    ∃ n frames, (c.perform op).1 = { (stepUpTo n c).1 with frames := frames } := by
  cases op with
  | runCycles count =>
    rw [perform, isOk_answering] at hno
    rw [perform, answering_fst]
    obtain ⟨n, hrun⟩ := refused_runCycles hno
    exact ⟨n, (stepUpTo n c).1.frames, hrun⟩
  | runFrame =>
    rw [perform, isOk_answering] at hno
    rw [perform, answering_fst]
    cases ha : c.cyclesPerFrame with
    | nothing =>
      rw [runFrame_of_nothing ha]
      exact ⟨0, c.frames, rfl⟩
    | number count =>
      rw [runFrame_answer ha] at hno
      obtain ⟨n, hrun⟩ := refused_runCycles hno
      obtain ⟨frames, hd⟩ := runFrame_console ha
      rw [hrun] at hd
      exact ⟨n, frames, hd⟩
  | _ => cases hb

end Console

end ChipEight
