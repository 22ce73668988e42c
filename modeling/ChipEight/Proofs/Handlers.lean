/-
# ChipEight.Proofs.Handlers -- all writes of an instruction, or none

A handler writes step by step, and if it stops early, what it has written so far stays. `handle_eq`
says that this is never seen: each instruction either makes all its writes, or it is refused and has
made none. For most instructions there is nothing to refuse. A return and a call look at the stack
before they touch it, the delay timer is looked at before it is read, and a sprite that cannot be drawn
as a whole is not drawn at all (`Screen.plot_eq`).

`effect` says at once what the writes of an instruction come to. All that follows about instructions is
a case analysis on it, and no other proof opens a handler.
-/
import ChipEight.Console.Step

namespace ChipEight.Console

/-- What an instruction comes to: all its writes together, or the reason why there are none. -/
def effect (c : Console) (i : Instruction) : Except Stop Console :=
  let m := c.machine
  match i with
  | .clear => .ok { c with screen := c.screen.clear }
  | .ret =>
    match m.stack with
    | [] => .error (.fault (.emptyStack ((m.pc.toNat : Int) - 2)))
    | back :: rest => .ok (c.withMachine { m with pc := wordOfInt back, stack := rest })
  | .sys _ => .ok c
  | .jump a => .ok (c.withMachine { m with pc := UInt16.ofNat a.val })
  | .call a =>
    if Machine.stackDepth ≤ m.stack.length then
      .error (.fault (.fullStack ((m.pc.toNat : Int) - 2)))
    else
      .ok (c.withMachine { m with pc := UInt16.ofNat a.val, stack := m.pc.toNat :: m.stack })
  | .skipEqByte x kk => .ok (c.withMachine (m.skipIf (m.register x == kk)))
  | .skipNeByte x kk => .ok (c.withMachine (m.skipIf (m.register x != kk)))
  | .skipEq x y => .ok (c.withMachine (m.skipIf (m.register x == m.register y)))
  | .loadByte x kk => .ok (c.withMachine (m.setRegister x kk))
  | .addByte x kk => .ok (c.withMachine (m.setRegister x (m.register x + kk)))
  | .alu op x y => .ok (c.withMachine (m.compute op x y))
  | .skipNe x y => .ok (c.withMachine (m.skipIf (m.register x != m.register y)))
  | .loadIndex a => .ok (c.withMachine { m with index := UInt16.ofNat a.val })
  | .jumpFrom a =>
    .ok (c.withMachine { m with pc := UInt16.ofNat (a.val + (m.register (Nibble.ofNat 0)).toNat) })
  | .random x kk =>
    .ok { c with
      machine := m.setRegister x (c.random.head &&& kk)
      random := c.random.tail }
  | .draw x y n =>
    let sprite := m.memory.slice m.index.toNat n.val
    match c.screen.draw? (m.register x).toNat (m.register y).toNat sprite with
    | none => .error .noPixels
    | some (screen, hit) =>
      .ok { c with
        machine := m.setRegister Machine.flag (if hit then 1 else 0)
        screen := screen }
  | .skipHeld x => .ok (c.withMachine (m.skipIf (c.keypad.isHeld (m.register x).toNat)))
  | .skipFree x => .ok (c.withMachine (m.skipIf (!c.keypad.isHeld (m.register x).toNat)))
  | .readDelay x =>
    if 0 ≤ m.delay ∧ m.delay < 256 then
      .ok (c.withMachine (m.setRegister x (byteOfInt m.delay)))
    else .error .notAByte
  | .awaitKey x => .ok { c with machine := { m with paused := true }, keypad := c.keypad.await x }
  | .setDelay x => .ok (c.withMachine { m with delay := (m.register x).toNat })
  | .setSound x => .ok (c.withMachine { m with sound := (m.register x).toNat })
  | .addIndex x => .ok (c.withMachine { m with index := m.index + (m.register x).toUInt16 })
  | .glyph x =>
    .ok (c.withMachine
      { m with index := UInt16.ofNat ((m.register x).toNat % 16 * Memory.glyphHeight) })
  | .digits x => .ok (c.withMachine (m.load (Machine.decimalDigits (m.register x)) m.index.toNat))
  | .store x => .ok (c.withMachine (m.storeRegisters x))
  | .fetch x => .ok (c.withMachine (m.fetchRegisters x))

/-- The answer of a handler that makes all its writes, or none. -/
def wholly (c : Console) : Except Stop Console → Except Stop Unit × Console
  | .ok d => (.ok (), d)
  | .error e => (.error e, c)

/-- A handler that reads the machine goes on with the machine of the console. -/
theorem run_machine_bind (k : Machine → Handler Unit) (c : Console) :
    (Handler.machine >>= k).run.run c = (k c.machine).run.run c :=
  rfl

theorem run_get_bind (k : Console → Handler Unit) (c : Console) :
    (get >>= k).run.run c = (k c).run.run c :=
  rfl

/-- A handler that writes goes on with the console that it has made. -/
theorem run_modify_bind (f : Console → Console) (k : Unit → Handler Unit) (c : Console) :
    (modify f >>= k).run.run c = (k ()).run.run (f c) :=
  rfl

variable (c : Console)

/-- The stack is looked at before it is shortened. -/
theorem handle_ret : c.handle .ret = c.wholly (c.effect .ret) := by
  unfold handle effect Instruction.handler Handler.returnFromCall
  rw [run_machine_bind]
  dsimp only
  cases c.machine.stack <;> rfl

/-- The depth of the stack is looked at before it grows. -/
theorem handle_call (a : Address) : c.handle (.call a) = c.wholly (c.effect (.call a)) := by
  unfold handle effect Instruction.handler Handler.enterCall
  rw [run_machine_bind]
  dsimp only
  by_cases hfull : Machine.stackDepth ≤ c.machine.stack.length
  · rw [if_pos hfull, if_pos hfull]
    rfl
  · rw [if_neg hfull, if_neg hfull]
    rfl

/-- The timer is looked at before it is put into the register. -/
theorem handle_readDelay (x : Nibble) :
    c.handle (.readDelay x) = c.wholly (c.effect (.readDelay x)) := by
  unfold handle effect Instruction.handler Handler.readDelay
  rw [run_machine_bind]
  dsimp only
  by_cases hbyte : 0 ≤ c.machine.delay ∧ c.machine.delay < 256
  · rw [if_pos hbyte, if_pos hbyte]
    rfl
  · rw [if_neg hbyte, if_neg hbyte]
    rfl

/-- The screen is written before the answer is known, but a sprite that is not drawn has left no
trace on it. -/
theorem handle_draw (x y n : Nibble) :
    c.handle (.draw x y n) = c.wholly (c.effect (.draw x y n)) := by
  unfold handle effect Instruction.handler Handler.drawSprite Screen.draw Screen.draw?
  rw [run_get_bind]
  dsimp only
  rw [run_modify_bind, Screen.plot_eq]
  cases Screen.plot? (c.machine.register x).toNat (c.machine.register y).toNat c.screen
    (spots (c.machine.memory.slice c.machine.index.toNat n.val)) <;> rfl

/-- Each instruction makes all its writes, or it is refused and has made none. -/
theorem handle_eq (i : Instruction) : c.handle i = c.wholly (c.effect i) := by
  cases i with
  | ret => exact c.handle_ret
  | call a => exact c.handle_call a
  | draw x y n => exact c.handle_draw x y n
  | readDelay x => exact c.handle_readDelay x
  | _ => rfl

theorem execute_eq (i : Instruction) : c.execute i = c.effect i := by
  rw [execute, handle_eq]
  cases c.effect i <;> rfl

variable {c} {d : Console} {i : Instruction} {e : Stop}

theorem handle_of_executed (h : c.execute i = .ok d) : c.handle i = (.ok (), d) := by
  rw [execute_eq] at h
  rw [handle_eq, h, wholly]

theorem handle_of_refused (h : c.execute i = .error e) : c.handle i = (.error e, c) := by
  rw [execute_eq] at h
  rw [handle_eq, h, wholly]

/-- A handler that stops early has written nothing. -/
theorem unwritten_of_error (h : c.handle i = (.error e, d)) : d = c := by
  rw [handle_eq] at h
  cases heffect : c.effect i with
  | ok made =>
    rw [heffect] at h
    cases h
  | error reason =>
    rw [heffect] at h
    exact (Prod.mk.inj h).2.symm

/-- This is a fact about these handlers: one that stops after a write leaves what it has written. -/
example (c : Console) (m : Machine) :
    (do Handler.write fun _ => m; throw .noPixels : Handler Unit).run.run c =
      (.error .noPixels, c.withMachine m) :=
  rfl

end ChipEight.Console
