/-
# ChipEight.Proofs.Stepping -- steps that are asked for by a line

The monitor makes so many steps, and stops at the first one that completes no instruction. `Closes` lists
the ways in which that comes to an end, each with what is printed then.

The lines of the instructions come from two places. Without tracing they are printed from what the
monitor has looked at before each step, and with tracing from what the console has recorded in the middle
of it. Both show the same (`Closes.trace_eq`), whatever the instruction did to its own bytes, except for
an instruction that meets a fault of the stack: it is recorded, but not completed.
-/
import ChipEight.Proofs.Answers
import ChipEight.Proofs.Batch
import ChipEight.Proofs.Coherence
import ChipEight.Proofs.Tracing

namespace ChipEight

open Text

/-! ## Steps that execute -/

namespace Console

variable {c d : Console}

/-- Each of the first so many steps executes an instruction. -/
def ExecutesFirst (c : Console) (k : Nat) : Prop :=
  ∀ j < k, (c.afterSteps j).step.2 = .ok true

theorem ExecutesFirst.cons (hx : c.step.2 = .ok true) {k : Nat}
    (h : c.step.1.ExecutesFirst k) : c.ExecutesFirst (k + 1) := by
  intro j hj
  cases j with
  | zero => exact hx
  | succ j => exact h j (Nat.lt_of_succ_lt_succ hj)

/-- What the first so many steps fetch, in order. -/
def fetchedFirst (c : Console) (k : Nat) : List Fetch :=
  (List.range k).map fun j => (c.afterSteps j).reading

theorem fetchedFirst_succ (c : Console) (k : Nat) :
    c.fetchedFirst (k + 1) = c.reading :: c.step.1.fetchedFirst k := by
  rw [fetchedFirst, List.range_succ_eq_map, List.map_cons, List.map_map]
  rfl

theorem fetchedFirst_succ_last (c : Console) (k : Nat) :
    c.fetchedFirst (k + 1) = c.fetchedFirst k ++ [(c.afterSteps k).reading] := by
  rw [fetchedFirst, List.range_succ, List.map_append]
  rfl

theorem tracing_afterSteps (c : Console) (k : Nat) : (c.afterSteps k).tracing = c.tracing := by
  induction k with
  | zero => rfl
  | succ k ih => rw [afterSteps_succ_last, (sameSetup_step _).1.tracing, ih]

/-- A console that is traced records what its steps fetch. -/
theorem ExecutesFirst.trace_eq {k : Nat} (h : c.ExecutesFirst k) (ht : c.tracing = true) :
    (c.afterSteps k).trace.reverse = c.trace.reverse ++ c.fetchedFirst k := by
  induction k with
  | zero => exact (List.append_nil _).symm
  | succ k ih =>
    have hfate : (c.afterSteps k).fate? = some .executed := by
      rw [fate?, h k k.lt_succ_self]
      rfl
    have hrecord : (c.afterSteps k).fetchRecord = [(c.afterSteps k).reading] :=
      if_pos ((tracing_afterSteps c k).trans ht)
    rw [afterSteps_succ_last, trace_step, hfate, Option.isSome_some, if_pos rfl, hrecord,
      List.reverse_append, ih fun j hj => h j (Nat.lt_succ_of_lt hj), fetchedFirst_succ_last,
      List.append_assoc]
    rfl

theorem Untraced.afterSteps (h : Untraced c d) (k : Nat) :
    Untraced (c.afterSteps k) (d.afterSteps k) := by
  induction k with
  | zero => exact h
  | succ k ih =>
    rw [afterSteps_succ_last, afterSteps_succ_last]
    exact ih.step.1

theorem Untraced.reading_eq (h : Untraced c d) : d.reading = c.reading := by
  subst h
  rfl

theorem Untraced.fetchedFirst_eq (h : Untraced c d) (k : Nat) :
    d.fetchedFirst k = c.fetchedFirst k :=
  List.map_congr_left fun j _ => (h.afterSteps j).reading_eq

/-- The next steps of both consoles answer alike. -/
theorem Untraced.step_eq (h : Untraced c d) {e : Console} {answer : Except Stop Bool}
    (hx : c.step = (e, answer)) : d.step = (e.traced false, answer) := by
  obtain ⟨hconsole, hanswer⟩ := h.step
  rw [hx] at hconsole hanswer
  exact Prod.ext hconsole (hanswer.eq fun _ _ => id).symm

theorem Untraced.executesFirst (h : Untraced c d) {k : Nat} (hx : c.ExecutesFirst k) :
    d.ExecutesFirst k := by
  intro j hj
  obtain ⟨-, hanswer⟩ := (h.afterSteps j).step
  rw [← hanswer.eq fun _ _ => id]
  exact hx j hj

end Console

namespace Monitor

open Console

/-! ## How stepping ends -/

/-- So many steps at most, stopped behind the first ones that execute an instruction: what is left, the
line of an instruction that was begun without being completed, and what is printed in the end. -/
inductive Closes (c : Console) (n k : Nat) : Console → List Text → List Text → Prop where
  /-- All steps were made. -/
  | done (all : k = n) : Closes c n k (c.afterSteps k) [] []
  /-- The next step finds a machine that waits for a key. -/
  | waiting {d : Console} (early : k < n) (step : (c.afterSteps k).step = (d, .ok false)) :
      Closes c n k d [] ["CPU is waiting for a key ('press <k>').".toList]
  /-- The next step finds a machine that is halted, with the fault that halted it. -/
  | halted {d : Console} {f : Fault} (early : k < n)
      (step : (c.afterSteps k).step = (d, .error .halted)) (fault : d.fault = some f) :
      Closes c n k d [] ["CPU is halted: ".toList ++ f.message]
  /-- The next step finds no instruction. -/
  | unknown {d : Console} {w : UInt16} {a : Int} (early : k < n)
      (step : (c.afterSteps k).step = (d, .error (.fault (.unknownInstruction w a)))) :
      Closes c n k d [] ["Fault: ".toList ++ (Fault.unknownInstruction w a).message]
  /-- The next instruction meets a fault of the stack. -/
  | stack {d : Console} {f : Fault} (early : k < n)
      (step : (c.afterSteps k).step = (d, .error (.fault f)))
      (known : ∀ w a, f ≠ .unknownInstruction w a) :
      Closes c n k d [(c.afterSteps k).reading.line] ["Fault: ".toList ++ f.message]

variable {c d e : Console} {n k : Nat} {begun message : List Text}

/-- A step that executes an instruction comes in front. -/
theorem Closes.cons (h : Closes c.step.1 n k d begun message) :
    Closes c (n + 1) (k + 1) d begun message := by
  cases h with
  | done all => exact .done (congrArg Nat.succ all)
  | waiting early step => exact .waiting (Nat.succ_lt_succ early) step
  | halted early step fault => exact .halted (Nat.succ_lt_succ early) step fault
  | unknown early step => exact .unknown (Nat.succ_lt_succ early) step
  | stack early step known => exact .stack (Nat.succ_lt_succ early) step known

/-- Without a record stepping ends in the same way. -/
theorem Closes.untraced (h : Closes c n k e begun message) (hu : Untraced c d) :
    Closes d n k (e.traced false) begun message := by
  have hw := hu.afterSteps k
  cases h with
  | done all =>
    rw [← show d.afterSteps k = _ from hw]
    exact .done all
  | waiting early step => exact .waiting early (hw.step_eq step)
  | halted early step fault => exact .halted early (hw.step_eq step) fault
  | unknown early step => exact .unknown early (hw.step_eq step)
  | stack early step known =>
    rw [← hw.reading_eq]
    exact .stack early (hw.step_eq step) known

/-- The record of stepping shows what was executed, and what was begun. -/
theorem Closes.trace_eq (h : Closes c n k d begun message) (hx : c.ExecutesFirst k)
    (ht : c.tracing = true) :
    d.recordLines = c.recordLines ++ (c.fetchedFirst k).map Fetch.line ++ begun := by
  have hbefore : (c.afterSteps k).recordLines = c.recordLines ++ (c.fetchedFirst k).map Fetch.line := by
    rw [recordLines, hx.trace_eq ht, List.map_append]
    rfl
  have hlast {r : Except Stop Bool} (hs : (c.afterSteps k).step = (d, r)) :
      d.recordLines = (c.afterSteps k).recordLines ++
        if (fateOf r).isSome then [(c.afterSteps k).reading.line] else [] := by
    have htrace := trace_step (c.afterSteps k)
    have hrecord : (c.afterSteps k).fetchRecord = [(c.afterSteps k).reading] :=
      if_pos ((tracing_afterSteps c k).trans ht)
    rw [fate?, hs, hrecord] at htrace
    have htrace : d.trace = _ := htrace
    rw [recordLines, htrace]
    split <;> simp [recordLines]
  rw [← hbefore]
  cases h with
  | done => exact (List.append_nil _).symm
  | waiting _ step | halted _ step | unknown _ step => exact hlast step
  | stack _ step known =>
    rw [hlast step]
    rename_i f _
    cases f with
    | unknownInstruction w a => exact absurd rfl (known w a)
    | emptyStack | fullStack => rfl

/-! ## Steps of the monitor -/

theorem stepMany_of_executed (hx : c.step = (d, .ok true)) (n : Nat) :
    stepMany (n + 1) c =
      { stepMany n d with completed := c.reading :: (stepMany n d).completed } := by
  rw [stepMany, hx]
  rfl

theorem stepMany_of_waiting (hx : c.step = (d, .ok false)) (n : Nat) :
    stepMany (n + 1) c = ⟨d, [], .waiting⟩ := by
  rw [stepMany, hx]

theorem stepMany_of_refused {reason : Stop} (hx : c.step = (d, .error reason)) (n : Nat) :
    stepMany (n + 1) c = ⟨d, [], .refused reason⟩ := by
  rw [stepMany, hx]

/-- A step is refused by a halted console only. -/
theorem halted_of_step_halted (hk : c.Coherent) (hx : c.step = (d, .error .halted)) :
    ∃ f, d.fault = some f := by
  cases stepped_of_eq hx with
  | halted hh => exact Option.ne_none_iff_exists'.mp (hk.fault.mp hh)
  | refused _ _ _ hr => cases hr

/-- The steps of the monitor are those that are made by hand, up to the first one that executes no
instruction. -/
theorem closes_stepMany {width height : Nat} (hw : 0 < width) (hh : 0 < height)
    (hc : c.WellFormed width height) (hk : c.Coherent) (n : Nat) :
    ∃ k begun, c.ExecutesFirst k ∧ (stepMany n c).completed = c.fetchedFirst k ∧
      Closes c n k (stepMany n c).console begun (stepMany n c).closing := by
  fun_induction stepMany n c with
  | case1 c => exact ⟨0, [], nofun, rfl, .done rfl⟩
  | case2 n c d hx rest ih =>
    obtain rfl : d = c.step.1 := (congrArg Prod.fst hx).symm
    obtain ⟨k, begun, hexecutes, hcompleted, hcloses⟩ := ih (hc.step hw hh).1 hk.step
    refine ⟨k + 1, begun, hexecutes.cons (congrArg Prod.snd hx), ?_, hcloses.cons⟩
    rw [fetchedFirst_succ, ← hcompleted]
    rfl
  | case3 n c d hx => exact ⟨0, [], nofun, rfl, .waiting n.succ_pos hx⟩
  | case4 n c d reason hx =>
    have hkind := (hc.step hw hh).2 reason (congrArg Prod.snd hx)
    cases reason with
    | halted =>
      obtain ⟨f, hf⟩ := halted_of_step_halted hk hx
      refine ⟨0, [], nofun, rfl, ?_⟩
      rw [show Stepped.closing _ = ["CPU is halted: ".toList ++ haltedBy d] from rfl, haltedBy, hf]
      exact .halted n.succ_pos hx hf
    | fault f =>
      cases f with
      | unknownInstruction w a => exact ⟨0, [], nofun, rfl, .unknown n.succ_pos hx⟩
      | emptyStack a | fullStack a =>
        exact ⟨0, [c.reading.line], nofun, rfl, .stack n.succ_pos hx nofun⟩
    | noPixels | notAByte | notANumber => cases hkind

/-- Nobody who steps a console can tell whether it is traced. -/
theorem untraced_stepMany (h : Untraced c d) (n : Nat) :
    Untraced (stepMany n c).console (stepMany n d).console ∧
      (stepMany n d).completed = (stepMany n c).completed ∧
        (stepMany n d).closing = (stepMany n c).closing := by
  subst h
  have hsame (c : Console) : Untraced c (c.traced false) := rfl
  fun_induction stepMany n c with
  | case1 c => exact ⟨rfl, rfl, rfl⟩
  | case2 n c e hx rest ih =>
    obtain ⟨hconsole, hcompleted, hclosing⟩ := ih
    rw [stepMany_of_executed ((hsame c).step_eq hx), hcompleted, (hsame c).reading_eq]
    exact ⟨hconsole, rfl, hclosing⟩
  | case3 n c e hx =>
    rw [stepMany_of_waiting ((hsame c).step_eq hx)]
    exact ⟨rfl, rfl, rfl⟩
  | case4 n c e reason hx =>
    rw [stepMany_of_refused ((hsame c).step_eq hx)]
    exact ⟨rfl, rfl, rfl⟩

/-! ## Lines that ask for steps -/

theorem tracing_of_step {r : Except Stop Bool} (hx : c.step = (d, r)) : d.tracing = c.tracing := by
  have hsame := (sameSetup_step c).1.tracing
  rwa [hx] at hsame

/-- What is left is not traced if the start was not, and traced if it was. -/
theorem tracing_stepMany (c : Console) (n : Nat) : (stepMany n c).console.tracing = c.tracing := by
  fun_induction stepMany n c with
  | case1 => rfl
  | case2 n c d hx rest ih => exact ih.trans (tracing_of_step hx)
  | case3 n c d hx => exact tracing_of_step hx
  | case4 n c d reason hx => exact tracing_of_step hx

theorem answer_of_step {line argument : Text} {n : Int}
    (hline : Request.ofLine line = .command .step argument) (hn : countOr 1 argument = .ok n)
    (d : Directory) (c : Console) : answer d c line = stepReply c n := by
  unfold answer
  rw [hline]
  simp only [obey, hn]

theorem coherent_invariant : Invariant Coherent (fun _ => True) where
  toInvariant := Console.coherent_invariant
  traced _ h := h.same rfl rfl rfl rfl

/-- A line that asks for steps makes so many of them at most, by hand, and stops behind the first ones
that execute an instruction, whatever was done to the console before. It prints a line for each of these
with the address and the word as they were before the step, and then one message if it stopped early; the
session goes on in any case. A console that is traced ends as the same console, and prints the same but
for the line of an instruction that met a fault of the stack, in front of the message. -/
theorem step_answer {width height : Nat} (hw : 0 < width) (hh : 0 < height) {random : RandomBytes}
    {speed toneHz : Int} {c : Console}
    (h : Reached (new (Screen.blank width height) random (.number speed) toneHz) c) (d : Directory)
    {line argument : Text} {n : Int} (hline : Request.ofLine line = .command .step argument)
    (hn : countOr 1 argument = .ok n) :
    let plain := c.traced false
    let reply := answer d plain line
    let traced := answer d (c.traced true) line
    ∃ k begun message, plain.ExecutesFirst k ∧ Closes plain n.toNat k reply.console begun message ∧
      (reply.standing = .ongoing ∧
        reply.output = unlines ((plain.fetchedFirst k).map Fetch.line ++ message)) ∧
      traced.console = reply.console.traced true ∧ traced.standing = .ongoing ∧
        traced.output = unlines ((plain.fetchedFirst k).map Fetch.line ++ begun ++ message) := by
  intro plain reply traced
  have hkept := wellFormed_invariant hw hh
  have hwell := hkept.reached (wellFormed_new width height random speed toneHz) h
  have hcoherent := coherent_invariant.reached (coherent_of_running rfl rfl rfl rfl) h
  have hkind (on : Bool) := (hkept.stepMany (hkept.traced on hwell) n.toNat).2
  obtain ⟨k, begun, hexecutes, hcompleted, hcloses⟩ := closes_stepMany hw hh
    (hkept.traced true hwell) (coherent_invariant.traced true hcoherent) n.toNat
  -- the console with a record is stepped, and the other one follows it
  have huntraced : Untraced (c.traced true) plain := rfl
  obtain ⟨hconsole, hsame, hclosing⟩ := untraced_stepMany huntraced n.toNat
  have hreply : reply = stepReply plain n := answer_of_step hline hn d plain
  have htraced : traced = stepReply (c.traced true) n := answer_of_step hline hn d _
  have hleft : reply.console = (stepMany n.toNat (c.traced true)).console.traced false := by
    rw [hreply, stepReply_eq n (hkind false)]
    show (stepMany n.toNat plain).console.withoutRecord = _
    rw [withoutRecord, tracing_stepMany, hconsole]
    rfl
  refine ⟨k, begun, (stepMany n.toNat (c.traced true)).closing,
    huntraced.executesFirst hexecutes, ?_, ⟨?_, ?_⟩, ?_, ?_, ?_⟩
  · rw [hleft]
    exact hcloses.untraced huntraced
  · rw [hreply, stepReply_eq n (hkind false)]
    rfl
  · rw [hreply, stepReply_eq n (hkind false)]
    show unlines ((if plain.tracing then _ else _) ++ _) = _
    rw [if_neg (show ¬ plain.tracing = true from Bool.false_ne_true), hsame, hclosing, hcompleted,
      huntraced.fetchedFirst_eq]
  · rw [htraced, stepReply_eq n (hkind true), hleft]
    show (stepMany n.toNat (c.traced true)).console.withoutRecord = _
    rw [withoutRecord, tracing_stepMany]
    rfl
  · rw [htraced, stepReply_eq n (hkind true)]
    rfl
  · rw [htraced, stepReply_eq n (hkind true)]
    show unlines ((if (c.traced true).tracing then _ else _) ++ _) = _
    rw [if_pos (show (c.traced true).tracing = true from rfl), hcloses.trace_eq hexecutes rfl,
      huntraced.fetchedFirst_eq]
    rfl

/-- A program that overwrites its second instruction while that is executed, and then returns without a
call. -/
def selfOverwriting : Console :=
  (Console.standard (.ofArray #[]) (.number 10)).after
    [.loadRom [0xA2, 0x02, 0xF0, 0x55, 0x00, 0xEE]]

/-- The second line shows the word as it was before. The return is shown with tracing on only. -/
theorem step_answer_selfOverwriting :
    let lines := ["  200: A202  LD I, 0x202", "  202: F055  LD [I], V0"].map String.toList
    let fault := "Fault: Return with empty call stack @ 0x204".toList
    let plain := selfOverwriting.traced false
    let reply := answer ⟨[], []⟩ plain "step 5".toList
    let traced := answer ⟨[], []⟩ (selfOverwriting.traced true) "step 5".toList
    (∃ k begun message, plain.ExecutesFirst k ∧ Closes plain 5 k reply.console begun message) ∧
      reply.output = unlines (lines ++ [fault]) ∧ traced.console = reply.console.traced true ∧
      traced.output = unlines (lines ++ ["  204: 00EE  RET".toList] ++ [fault]) ∧
      reply.console.machine.memory.readWord 0x202 = 0x0055 := by
  intro lines fault plain reply traced
  have hreached : Reached (Console.standard (.ofArray #[]) (.number 10)) selfOverwriting :=
    .operation (.loadRom [0xA2, 0x02, 0xF0, 0x55, 0x00, 0xEE]) .start
  obtain ⟨k, begun, message, hexecutes, hcloses, -, hsame, -⟩ :=
    step_answer (show 0 < 64 by decide) (show 0 < 32 by decide) hreached ⟨[], []⟩
      (show Request.ofLine "step 5".toList = .command .step "5".toList by decide +kernel)
      (show countOr 1 "5".toList = .ok 5 from rfl)
  refine ⟨⟨k, begun, message, hexecutes, hcloses⟩, ?_, hsame, ?_, ?_⟩
  · decide +kernel
  · decide +kernel
  · decide +kernel

end Monitor

end ChipEight
