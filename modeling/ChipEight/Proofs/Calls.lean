/-
# ChipEight.Proofs.Calls -- returns come back behind their calls

A call puts the address behind it on the stack, and a return goes to the newest address there. Every
other step leaves the stack alone (`stack_step`), whatever it does to memory, the program counter or
the pause, and so does everything that is no step, but for starting over.

So as long as the stack is deeper than before a call, it ends with what the call left: the address
behind the call, and below it the entries from before (`EndsWith`). The first step that makes the
stack as shallow as before the call is therefore a return that goes there (`call_returns`). Nested
calls, jumps, skips, waits and stores into the program in between make no difference.
-/
import ChipEight.Proofs.Course
import ChipEight.Proofs.Effects

namespace ChipEight.Console

open Instruction

variable {c d : Console}

/-! ## The stack -/

/-- A call finds room, and puts the address behind it on the stack. -/
theorem stack_of_call {target : Address} (h : c.executes? = some (.call target)) :
    c.machine.stack.length < Machine.stackDepth ∧
      c.step.1.machine.stack = ((c.machine.pc + 2).toNat : Int) :: c.machine.stack := by
  obtain ⟨-, -, -, d, hd, hs⟩ := executes?_eq_some_iff.mp h
  rw [fetched_eq, execute_eq] at hd
  simp only [effect] at hd
  split at hd <;> cases hd
  rename_i hroom
  rw [hs]
  exact ⟨Nat.lt_of_not_le hroom, rfl⟩

/-- A return takes the newest address off the stack, and goes there. -/
theorem stack_of_ret (h : c.executes? = some .ret) :
    ∃ back, c.machine.stack = back :: c.step.1.machine.stack ∧
      c.step.1.machine.pc = wordOfInt back := by
  obtain ⟨-, -, -, d, hd, hs⟩ := executes?_eq_some_iff.mp h
  rw [fetched_eq, execute_eq] at hd
  simp only [effect] at hd
  split at hd <;> cases hd
  rename_i back rest hstack
  rw [hs]
  exact ⟨back, hstack, rfl⟩

/-- No other step reaches the stack. -/
theorem stack_of_other (hcall : ∀ target, c.executes? ≠ some (.call target))
    (hret : c.executes? ≠ some .ret) : c.step.1.machine.stack = c.machine.stack := by
  rcases hx : c.step with ⟨d, r⟩
  cases stepped_of_eq hx with
  | halted | paused | unknown => rfl
  | faulted => rw [haltAt_fetched]
  | refused =>
    rw [fetched_eq]
    rfl
  | @executed i d hh hp hi hd =>
    have hexecutes : c.executes? = some i :=
      executes?_eq_some_iff.mpr ⟨hh, hp, hi, d, hd, hx⟩
    rw [fetched_eq] at hd
    cases i with
    | call target => exact absurd hexecutes (hcall target)
    | ret => exact absurd hexecutes hret
    | _ =>
      obtain ⟨v, pc, hm⟩ := machine_of_execute hd
      show d.machine.stack = c.machine.stack
      rw [hm]
      rfl

/-- A step puts an address on the stack, or takes the newest one off as a return, or leaves the
stack as it was. -/
theorem stack_step (c : Console) :
    (c.machine.stack.length < Machine.stackDepth ∧
        ∃ address : Int, c.step.1.machine.stack = address :: c.machine.stack) ∨
      (c.executes? = some .ret ∧ ∃ back, c.machine.stack = back :: c.step.1.machine.stack ∧
        c.step.1.machine.pc = wordOfInt back) ∨
      c.step.1.machine.stack = c.machine.stack := by
  by_cases hcall : ∃ target, c.executes? = some (.call target)
  · obtain ⟨target, h⟩ := hcall
    obtain ⟨hroom, hpush⟩ := stack_of_call h
    exact .inl ⟨hroom, _, hpush⟩
  · by_cases hret : c.executes? = some .ret
    · exact .inr (.inl ⟨hret, stack_of_ret hret⟩)
    · exact .inr (.inr (stack_of_other (not_exists.mp hcall) hret))

theorem stack_perform {op : Operation} (hr : ¬ op.Runs) (hs : ¬ op.Restarts) :
    (c.perform op).1.machine.stack = c.machine.stack := by
  obtain ⟨m, rom, keypad, hd, -, -, hstack⟩ := perform_apart c hr hs
  rw [hd]
  exact hstack

/-! ## The stack below a call -/

/-- The stack ends with this address and these entries. -/
def EndsWith (address : UInt16) (entries : List Int) (d : Console) : Prop :=
  ∃ frames, d.machine.stack = frames ++ (address.toNat : Int) :: entries

variable {address : UInt16} {entries : List Int}

/-- As long as the stack stays deeper than the entries, a step leaves the end of it alone. -/
theorem EndsWith.step (h : EndsWith address entries d)
    (hdeep : entries.length < d.step.1.machine.stack.length) :
    EndsWith address entries d.step.1 := by
  obtain ⟨frames, hframes⟩ := h
  rcases stack_step d with ⟨-, pushed, hpush⟩ | ⟨-, back, hpop, -⟩ | hsame
  · refine ⟨pushed :: frames, ?_⟩
    rw [hpush, hframes, List.cons_append]
  · rw [hframes] at hpop
    cases frames with
    | nil =>
      obtain ⟨-, hrest⟩ := List.cons.inj hpop
      rw [← hrest] at hdeep
      exact absurd hdeep (Nat.lt_irrefl _)
    | cons frame frames =>
      obtain ⟨-, hrest⟩ := List.cons.inj hpop
      exact ⟨frames, hrest.symm⟩
  · exact ⟨frames, hsame.trans hframes⟩

/-- The step that makes the stack as shallow as the entries is a return to the address. -/
theorem EndsWith.return (h : EndsWith address entries d)
    (hshallow : d.step.1.machine.stack.length ≤ entries.length) :
    d.executes? = some .ret ∧ d.step.1.machine.pc = address ∧
      d.step.1.machine.stack = entries := by
  obtain ⟨frames, hframes⟩ := h
  have hlong : entries.length < d.machine.stack.length := by
    rw [hframes, List.length_append, List.length_cons]
    omega
  rcases stack_step d with ⟨-, pushed, hpush⟩ | ⟨hret, back, hpop, hpc⟩ | hsame
  · rw [hpush, List.length_cons] at hshallow
    omega
  · rw [hframes] at hpop
    cases frames with
    | nil =>
      obtain ⟨hback, hrest⟩ := List.cons.inj hpop
      refine ⟨hret, ?_, hrest.symm⟩
      rw [hpc, ← hback, wordOfInt_toNat]
    | cons frame frames =>
      rw [List.cons_append, List.cons.injEq] at hpop
      rw [← hpop.2, List.length_append, List.length_cons] at hshallow
      omega
  · rw [hsame] at hshallow
    omega

/-! ## How deep the stack gets -/

/-- Nothing makes the stack deeper than calls may go. -/
theorem depth_invariant :
    Invariant (fun c => c.machine.stack.length ≤ Machine.stackDepth) fun _ => True where
  step {c} h := by
    refine ⟨?_, fun _ _ => trivial⟩
    rcases stack_step c with ⟨hroom, address, hpush⟩ | ⟨-, back, hpop, -⟩ | hsame
    · rw [hpush, List.length_cons]
      exact hroom
    · rw [hpop, List.length_cons] at h
      exact Nat.le_of_succ_le h
    · rw [hsame]
      exact h
  endBatch h := h
  countFrame h := h
  speed _ _ := trivial
  loadRom h hl := by
    unfold Console.loadRom at hl
    split at hl <;> cases hl
    exact h
  loadProgram _ _ h := h
  press {c} key h := by
    have hs : (c.perform (.press key)).1.machine.stack = c.machine.stack := stack_perform id id
    exact hs ▸ h
  release {c} key h := by
    have hs : (c.perform (.release key)).1.machine.stack = c.machine.stack := stack_perform id id
    exact hs ▸ h
  resetProcessor _ := Nat.zero_le _
  reset _ := Nat.zero_le _

/-! ## Stack faults -/

theorem fetched_stack (c : Console) : c.fetched.machine.stack = c.machine.stack := by
  rw [fetched_eq]
  rfl

section Faults

variable (hh : c.halted = false) (hp : c.machine.paused = false)
include hh hp

section Call

variable {target : Address} (hi : decode? c.nextWord = some (.call target))
include hi

/-- A call is refused if there is no room. -/
theorem fullStack_iff :
    (∃ a, c.step.2 = .error (.fault (.fullStack a))) ↔
      Machine.stackDepth ≤ c.machine.stack.length := by
  simp only [step_fault_iff hh hp hi, ← fetched_stack c]
  constructor
  · rintro ⟨a, ha⟩
    cases refuses_of_execute ha with
    | fullStack hfull => exact hfull
  · intro hfull
    exact ⟨_, (execute_eq _ _).trans (if_pos hfull)⟩

theorem executes?_call (hroom : c.machine.stack.length < Machine.stackDepth) :
    c.executes? = some (.call target) := by
  rw [← fetched_stack] at hroom
  exact executes?_of_execute hh hp hi ((execute_eq _ _).trans (if_neg (Nat.not_le.mpr hroom)))

end Call

section Return

variable (hi : decode? c.nextWord = some .ret)
include hi

/-- A return is refused if no call is open. -/
theorem emptyStack_iff :
    (∃ a, c.step.2 = .error (.fault (.emptyStack a))) ↔ c.machine.stack = [] := by
  simp only [step_fault_iff hh hp hi, ← fetched_stack c]
  constructor
  · rintro ⟨a, ha⟩
    cases refuses_of_execute ha with
    | emptyStack hempty => exact hempty
  · intro hempty
    refine ⟨(c.fetched.machine.pc.toNat : Int) - 2, ?_⟩
    simp only [execute_eq, effect, hempty]

theorem executes?_ret (hopen : c.machine.stack ≠ []) : c.executes? = some .ret := by
  rw [← fetched_stack] at hopen
  obtain ⟨back, rest, hs⟩ := List.exists_cons_of_ne_nil hopen
  have hx : c.fetched.execute .ret = .ok (c.fetched.withMachine
      { c.fetched.machine with pc := wordOfInt back, stack := rest }) := by
    simp only [execute_eq, effect, hs]
  exact executes?_of_execute hh hp hi hx

end Return

end Faults

/-! ## Calls and returns -/

/-- Take any console, whatever was done to it, and let its next step be a call. Whatever follows
without starting over, in steps, batches and frames with keys and loads in between: as long as each
step leaves the stack deeper than before the call, no return to the caller has happened, and the
first step that does not is a return, right behind the call, with the stack as it was before.

There is room for the call exactly if fewer than sixteen are open, and a return finds an address
exactly if one is open; a call or a return that does not is a fault. -/
theorem call_returns (screen : Screen) (random : RandomBytes) (speed : Amount) (toneHz : Int)
    (history : List Operation) :
    let c := (new screen random speed toneHz).after history
    (∀ target, c.executes? = some (.call target) → c.machine.stack.length < 16 ∧
        ∀ rest, (∀ op ∈ rest, ¬ op.Restarts) →
          ∀ before e after, c.step.1.passed rest = before ++ e :: after →
            (∀ b ∈ before, c.machine.stack.length < b.step.1.machine.stack.length) →
            e.step.1.machine.stack.length ≤ c.machine.stack.length →
              e.executes? = some .ret ∧ e.step.1.machine.pc = c.machine.pc + 2 ∧
                e.step.1.machine.stack = c.machine.stack) ∧
      (c.halted = false → c.machine.paused = false →
        (∀ target, decode? c.nextWord = some (.call target) →
            ((∃ a, c.step.2 = .error (.fault (.fullStack a))) ↔ c.machine.stack.length = 16) ∧
              (c.machine.stack.length ≠ 16 → c.executes? = some (.call target))) ∧
          (decode? c.nextWord = some .ret →
            ((∃ a, c.step.2 = .error (.fault (.emptyStack a))) ↔ c.machine.stack.length = 0) ∧
              (c.machine.stack.length ≠ 0 → c.executes? = some .ret))) := by
  intro c
  have hdepth : c.machine.stack.length ≤ 16 :=
    depth_invariant.after (Nat.zero_le _) history
  refine ⟨?_, ?_⟩
  · intro target hcall
    obtain ⟨hroom, hpush⟩ := stack_of_call hcall
    refine ⟨hroom, ?_⟩
    intro rest hrest before e after hpassed hdeep hshallow
    have hends : EndsWith (c.machine.pc + 2) c.machine.stack e :=
      holds_at_passed (P := EndsWith (c.machine.pc + 2) c.machine.stack)
        (G := fun b => c.machine.stack.length < b.step.1.machine.stack.length)
        EndsWith.step id id
        (fun h hr hs => by
          obtain ⟨frames, hframes⟩ := h
          exact ⟨frames, (stack_perform hr hs).trans hframes⟩)
        ⟨[], hpush⟩ hrest hpassed hdeep
    exact hends.return hshallow
  · intro hh hp
    refine ⟨?_, ?_⟩
    · intro target hi
      refine ⟨?_, ?_⟩
      · rw [fullStack_iff hh hp hi]
        exact ⟨Nat.le_antisymm hdepth, Nat.le_of_eq ∘ Eq.symm⟩
      · intro hne
        exact executes?_call hh hp hi (Nat.lt_of_le_of_ne hdepth hne)
    · intro hi
      refine ⟨?_, ?_⟩
      · rw [emptyStack_iff hh hp hi, List.length_eq_zero_iff]
      · intro hne
        exact executes?_ret hh hp hi fun h => hne (List.length_eq_zero_iff.mpr h)

/-- A console about to make a call within which there is another call, and in that one a wait for a
key. -/
def nestedCaller : Console :=
  (new (Screen.blank 64 32) (.ofArray #[]) (.number 10) 440).after
    [.loadRom [0x22, 0x04, 0x12, 0x02, 0x22, 0x08, 0x00, 0xEE, 0xF2, 0x0A, 0x00, 0xEE]]

/-- A console whose program has called itself sixteen times. -/
def deepCaller : Console :=
  (new (Screen.blank 64 32) (.ofArray #[]) (.number 10) 440).after
    [.loadRom [0x22, 0x00], .runCycles 16]

/-- A batch that ends in the wait, the key, and a frame that returns twice. -/
def batchKeyFrame : List Operation :=
  [.runCycles 5, .press 3, .runFrame]

theorem call_returns_nested :
    (nestedCaller.executes? = some (.call 0x204) ∧
        ∃ before e after, nestedCaller.step.1.passed batchKeyFrame = before ++ e :: after ∧
          before.length = 3 ∧ e.executes? = some .ret ∧ e.step.1.machine.pc = 0x202 ∧
            e.step.1.machine.stack = []) ∧
      deepCaller.machine.stack.length = 16 ∧
        ∃ a, deepCaller.step.2 = .error (.fault (.fullStack a)) := by
  have hnested := call_returns (Screen.blank 64 32) (.ofArray #[]) (.number 10) 440
    [.loadRom [0x22, 0x04, 0x12, 0x02, 0x22, 0x08, 0x00, 0xEE, 0xF2, 0x0A, 0x00, 0xEE]]
  have hdeep := call_returns (Screen.blank 64 32) (.ofArray #[]) (.number 10) 440
    [.loadRom [0x22, 0x00], .runCycles 16]
  constructor
  · rw [← nestedCaller] at hnested
    have hcall : nestedCaller.executes? = some (.call 0x204) := by decide +kernel
    have hrest : ∀ op ∈ batchKeyFrame, ¬ op.Restarts := by
      simp [batchKeyFrame, Operation.Restarts]
    -- three steps leave the stack deeper, and the fourth one returns
    obtain ⟨hmany, hbefore, hat⟩ :
        3 < (nestedCaller.step.1.passed batchKeyFrame).length ∧
          (∀ b ∈ (nestedCaller.step.1.passed batchKeyFrame).take 3,
            nestedCaller.machine.stack.length < b.step.1.machine.stack.length) ∧
            ∀ e ∈ (nestedCaller.step.1.passed batchKeyFrame)[3]?,
              e.step.1.machine.stack.length ≤ nestedCaller.machine.stack.length := by
      decide +kernel
    have hthree : ((nestedCaller.step.1.passed batchKeyFrame).take 3).length = 3 := by
      rw [List.length_take]
      omega
    have hfourth : (nestedCaller.step.1.passed batchKeyFrame)[3]? = some _ :=
      List.getElem?_eq_getElem hmany
    have hsplit : nestedCaller.step.1.passed batchKeyFrame =
        (nestedCaller.step.1.passed batchKeyFrame).take 3 ++
          (nestedCaller.step.1.passed batchKeyFrame)[3] ::
            (nestedCaller.step.1.passed batchKeyFrame).drop 4 := by
      rw [← List.drop_eq_getElem_cons hmany, List.take_append_drop]
    obtain ⟨hret, hpc, hstack⟩ :=
      (hnested.1 0x204 hcall).2 _ hrest _ _ _ hsplit hbefore (hat _ hfourth)
    exact ⟨hcall, _, _, _, hsplit, hthree, hret, hpc, hstack⟩
  · rw [← deepCaller] at hdeep
    obtain ⟨hh, hp, hi, hfull⟩ : deepCaller.halted = false ∧ deepCaller.machine.paused = false ∧
        decode? deepCaller.nextWord = some (.call 0x200) ∧
          deepCaller.machine.stack.length = 16 := by
      decide +kernel
    exact ⟨hfull, ((hdeep.2 hh hp).1 0x200 hi).1.mpr hfull⟩

end ChipEight.Console
