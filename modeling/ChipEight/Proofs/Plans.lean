/-
# ChipEight.Proofs.Plans -- instructions before their values are known

The labels of a program have a say in an instruction at one place only: at most one operand of it is
looked up, for an address, a byte or a height. All other operands name registers or special places,
and they decide about the form without any label.

A `Plan` is what the mnemonic and the operands decide on their own: the instruction, or how to make
it once the value of one operand is there. `family_toOption` says that an instruction is
accepted if it has a plan and the plan can be completed, so what holds of all instructions follows
from what holds of plans. Which error is reported does not matter here.

Plans see operands through their small letters, so the case of ASCII letters has no influence on
them (`plan?_lowerAscii`).
-/
import ChipEight.Proofs.LetterCase
import Mathlib.Data.List.Forall2

namespace ChipEight

/-! ## Computations without their errors -/

theorem toOption_bind {ε α β : Type} (x : Except ε α) (f : α → Except ε β) :
    (x >>= f).toOption = x.toOption.bind fun a => (f a).toOption := by
  cases x <;> rfl

theorem toOption_mapError {ε ε' α : Type} (x : Except ε α) (f : ε → ε') :
    (x.mapError f).toOption = x.toOption := by
  cases x <;> rfl

namespace Assembly

open Text

/-! ## Plans -/

/-- How the value of an operand goes into an instruction. -/
inductive Slot where
  /-- As an address. -/
  | address (make : Address → Instruction)
  /-- As a byte. -/
  | byte (make : UInt8 → Instruction)
  /-- As the height of a sprite. -/
  | height (make : Nibble → Instruction)

/-- An instruction as far as it is settled without any label. -/
inductive Plan where
  /-- Nothing is left open. -/
  | settled (i : Instruction)
  /-- The value of the operand in this place is left open. -/
  | awaiting (place : Nat) (slot : Slot)

namespace Slot

/-- The instruction with the value of an operand, if it is in range. -/
def fill (labels : Labels) (t : Text) : Slot → Option Instruction
  | .address make => (Assembly.address labels t).toOption.map make
  | .byte make => (Assembly.byte labels t).toOption.map make
  | .height make => (Assembly.height labels t).toOption.map make

end Slot

namespace Plan

/-- The place of the operand whose value is left open. -/
def place? : Plan → Option Nat
  | .settled _ => none
  | .awaiting place _ => some place

/-- The instruction that comes out, if the value that is left open is there and in range. -/
def complete (labels : Labels) (operands : List Text) : Plan → Option Instruction
  | .settled i => some i
  | .awaiting place slot => operands[place]?.bind fun t => slot.fill labels t

end Plan

/-- The plan of a comparison of a register with a register or a byte. -/
def comparisonPlan? (operands : List Text) (withRegister : Nibble → Nibble → Instruction)
    (withByte : Nibble → UInt8 → Instruction) : Option Plan := do
  let x ← register? (← operands[0]?)
  match register? (← operands[1]?) with
  | some y => some (.settled (withRegister x y))
  | none => some (.awaiting 1 (.byte (withByte x)))

/-- The plan of a load. -/
def loadPlan? (operands : List Text) : Option Plan := do
  let target ← operands[0]?
  let source ← operands[1]?
  if lower target = ['i'] then some (.awaiting 1 (.address .loadIndex))
  else
    match loadInto? (lower target) with
    | some into => some (.settled (into (← register? source)))
    | none =>
      let x ← register? target
      match loadFrom? (lower source) with
      | some make => some (.settled (make x))
      | none =>
        match register? source with
        | some y => some (.settled (.alu .move x y))
        | none => some (.awaiting 1 (.byte (.loadByte x)))

/-- The plan of an addition. -/
def additionPlan? (operands : List Text) : Option Plan := do
  let target ← operands[0]?
  if lower target = ['i'] then some (.settled (.addIndex (← register? (← operands[1]?))))
  else
    let x ← register? target
    match register? (← operands[1]?) with
    | some y => some (.settled (.alu .add x y))
    | none => some (.awaiting 1 (.byte (.addByte x)))

/-- The plan of a jump. -/
def jumpPlan? (operands : List Text) : Option Plan :=
  if operands.length = 2 then
    if operands[0]?.map lower = some "v0".toList then some (.awaiting 1 (.address .jumpFrom))
    else none
  else some (.awaiting 0 (.address .jump))

/-- The plan of an operation on registers. -/
def operationPlan? (op : AluOp) (operands : List Text) : Option Plan := do
  let x ← register? (← operands[0]?)
  match operands[1]? with
  | some second => some (.settled (.alu op x (← register? second)))
  | none => some (.settled (.alu op x (Nibble.ofNat 0)))

/-- The plan that the operands choose in a family. -/
def Mnemonic.plan? (operands : List Text) : Mnemonic → Option Plan
  | .cls => some (.settled .clear)
  | .ret => some (.settled .ret)
  | .sys => some (.awaiting 0 (.address .sys))
  | .jp => jumpPlan? operands
  | .call => some (.awaiting 0 (.address .call))
  | .se => comparisonPlan? operands .skipEq .skipEqByte
  | .sne => comparisonPlan? operands .skipNe .skipNeByte
  | .ld => loadPlan? operands
  | .add => additionPlan? operands
  | .alu op => operationPlan? op operands
  | .rnd => do
    let x ← register? (← operands[0]?)
    some (.awaiting 1 (.byte (.random x)))
  | .drw => do
    let x ← register? (← operands[0]?)
    let y ← register? (← operands[1]?)
    some (.awaiting 2 (.height (.draw x y)))
  | .skp => do some (.settled (.skipHeld (← register? (← operands[0]?))))
  | .sknp => do some (.settled (.skipFree (← register? (← operands[0]?))))

/-! ## Completing a plan -/

section Completing

variable {labels : Labels} {operands : List Text}

theorem toOption_register (t : Text) : (register t).toOption = register? t := by
  unfold register
  cases register? t <;> rfl

theorem toOption_operand (operands : List Text) (k : Nat) :
    (operand operands k).toOption = operands[k]? := by
  unfold operand
  cases operands[k]? <;> rfl

/-- What stands behind a value is made from it if the value is there. -/
theorem toOption_bind_ok {ε α β : Type} (x : Except ε α) (f : α → β) :
    (x >>= fun a => Except.ok (f a)).toOption = x.toOption.map f := by
  cases x <;> rfl

theorem comparison_toOption (withRegister : Nibble → Nibble → Instruction)
    (withByte : Nibble → UInt8 → Instruction) :
    (comparison labels operands withRegister withByte).toOption =
      (comparisonPlan? operands withRegister withByte).bind (Plan.complete labels operands) := by
  simp only [comparison, comparisonPlan?, toOption_bind, toOption_operand, toOption_register,
    Option.bind_eq_bind, Option.bind_assoc]
  refine Option.bind_congr fun first _ => Option.bind_congr fun x _ => ?_
  refine Option.bind_congr fun second h1 => ?_
  cases register? second with
  | some y => rfl
  | none =>
    simp only [Option.bind_some, Plan.complete, h1, Slot.fill]
    exact toOption_bind_ok _ _

theorem load_toOption :
    (load labels operands).toOption =
      (loadPlan? operands).bind (Plan.complete labels operands) := by
  simp only [load, loadPlan?, toOption_bind, toOption_operand, Option.bind_eq_bind,
    Option.bind_assoc]
  refine Option.bind_congr fun target _ => Option.bind_congr fun source h1 => ?_
  by_cases hindex : lower target = ['i']
  · simp only [if_pos hindex, Option.bind_some, Plan.complete, h1, Slot.fill]
    exact toOption_bind_ok _ _
  simp only [if_neg hindex]
  cases loadInto? (lower target) with
  | some into =>
    simp only [toOption_bind_ok, toOption_register, Option.bind_assoc]
    cases register? source <;> rfl
  | none =>
    simp only [toOption_bind, toOption_register, Option.bind_assoc]
    refine Option.bind_congr fun x _ => ?_
    cases loadFrom? (lower source) with
    | some make => rfl
    | none =>
      cases register? source with
      | some y => rfl
      | none =>
        simp only [Option.bind_some, Plan.complete, h1, Slot.fill]
        exact toOption_bind_ok _ _

theorem addition_toOption :
    (addition labels operands).toOption =
      (additionPlan? operands).bind (Plan.complete labels operands) := by
  simp only [addition, additionPlan?, toOption_bind, toOption_operand, Option.bind_eq_bind,
    Option.bind_assoc]
  refine Option.bind_congr fun target _ => ?_
  by_cases hindex : lower target = ['i']
  · simp only [if_pos hindex, toOption_bind, toOption_operand, toOption_register,
      Option.bind_assoc]
    refine Option.bind_congr fun source _ => ?_
    cases register? source <;> rfl
  simp only [if_neg hindex, toOption_bind, toOption_operand, toOption_register, Option.bind_assoc]
  refine Option.bind_congr fun x _ => Option.bind_congr fun second h1 => ?_
  cases register? second with
  | some y => rfl
  | none =>
    simp only [Option.bind_some, Plan.complete, h1, Slot.fill]
    exact toOption_bind_ok _ _

/-- An instruction with nothing but an address. -/
theorem address_toOption (make : Address → Instruction) :
    (do .ok (make (← address labels (← operand operands 0))) :
        Except Problem Instruction).toOption =
      (Plan.awaiting 0 (.address make)).complete labels operands := by
  simp only [toOption_bind, toOption_operand, Plan.complete, Slot.fill]
  refine Option.bind_congr fun t _ => ?_
  cases (address labels t) <;> rfl

theorem jump_toOption :
    (jump labels operands).toOption =
      (jumpPlan? operands).bind (Plan.complete labels operands) := by
  unfold jump jumpPlan?
  split
  · rename_i base target
    by_cases hbase : lower base = "v0".toList
    · simp only [List.length_cons, List.length_nil, if_true, List.getElem?_cons_zero,
        Option.map_some, hbase, Option.bind_some]
      exact toOption_bind_ok _ _
    · simp only [List.length_cons, List.length_nil, if_true, List.getElem?_cons_zero,
        Option.map_some, hbase, if_false, Option.some.injEq]
      rfl
  · rename_i hother
    have hlength : operands.length ≠ 2 := by
      intro hlength
      obtain ⟨base, target, rfl⟩ := List.length_eq_two.mp hlength
      exact hother base target rfl
    rw [if_neg hlength]
    exact address_toOption .jump

theorem operation_toOption (op : AluOp) :
    (operation op operands).toOption =
      (operationPlan? op operands).bind (Plan.complete labels operands) := by
  simp only [operation, operationPlan?, toOption_bind, toOption_operand, toOption_register,
    Option.bind_eq_bind, Option.bind_assoc]
  refine Option.bind_congr fun first _ => Option.bind_congr fun x _ => ?_
  cases operands[1]? with
  | none => rfl
  | some second =>
    simp only [toOption_bind_ok, toOption_register, Option.bind_assoc]
    cases register? second <;> rfl

/-- An instruction is accepted if it has a plan and the plan can be completed. -/
theorem family_toOption (m : Mnemonic) :
    (m.instruction labels operands).toOption =
      (m.plan? operands).bind (Plan.complete labels operands) := by
  cases m with
  | cls | ret => rfl
  | sys => exact address_toOption .sys
  | call => exact address_toOption .call
  | jp => exact jump_toOption
  | se | sne => exact comparison_toOption _ _
  | ld => exact load_toOption
  | add => exact addition_toOption
  | alu op => exact operation_toOption op
  | rnd =>
    simp only [Mnemonic.instruction, Mnemonic.plan?, toOption_bind, toOption_operand,
      toOption_register, Option.bind_eq_bind, Option.bind_assoc, Option.bind_some, Plan.complete]
    refine Option.bind_congr fun first _ => Option.bind_congr fun x _ => ?_
    refine Option.bind_congr fun second _ => ?_
    rw [← toOption_bind]
    exact toOption_bind_ok _ _
  | drw =>
    simp only [Mnemonic.instruction, Mnemonic.plan?, toOption_bind, toOption_operand,
      toOption_register, Option.bind_eq_bind, Option.bind_assoc, Option.bind_some, Plan.complete]
    -- the height is looked at first, but nothing is made without the registers either
    cases operands[2]? with
    | none => simp
    | some third =>
      cases hn : height labels third with
      | error p => simp [Slot.fill, hn, Except.toOption]
      | ok n => simp [Slot.fill, hn, Except.toOption]
  | skp | sknp =>
    simp only [Mnemonic.instruction, Mnemonic.plan?, toOption_bind, toOption_operand,
      toOption_register, Option.bind_eq_bind, Option.bind_assoc]
    refine Option.bind_congr fun first _ => ?_
    cases register? first <;> rfl

/-- A line means an instruction if its mnemonic exists and the plan of its operands can be
completed. -/
theorem instruction_toOption {text name rest : Text}
    (h : splitMnemonic? text = some (name, rest)) :
    (instruction labels text).toOption =
      (mnemonicNames.lookup (lower name)).bind fun m =>
        (m.plan? (splitOperands rest)).bind (Plan.complete labels (splitOperands rest)) := by
  unfold instruction
  rw [h]
  cases hm : mnemonicNames.lookup (lower name) with
  | none => simp only [hm, Option.bind_none]; rfl
  | some m => simp only [hm, Option.bind_some, family_toOption]

end Completing

/-! ## Operands that plans take alike -/

/-- A plan cannot tell the two operands apart: neither is a register or a special place, or both are
the same one. -/
structure SameRole (t t' : Text) : Prop where
  register : register? t = register? t'
  index : lower t = ['i'] ↔ lower t' = ['i']
  into : loadInto? (lower t) = loadInto? (lower t')
  source : loadFrom? (lower t) = loadFrom? (lower t')
  base : lower t = "v0".toList ↔ lower t' = "v0".toList

theorem SameRole.refl (t : Text) : SameRole t t :=
  ⟨rfl, Iff.rfl, rfl, rfl, Iff.rfl⟩

section Roles

variable {operands operands' : List Text}

/-- What is looked for in one place of both lists is found in both or in none. -/
theorem bind_getElem?_congr {β : Type} {R : Text → Text → Prop} {f g : Text → Option β}
    (h : List.Forall₂ R operands operands') (k : Nat) (hfg : ∀ t t', R t t' → f t = g t') :
    operands[k]?.bind f = operands'[k]?.bind g := by
  induction h generalizing k with
  | nil => rfl
  | cons first others ih =>
    cases k with
    | zero => exact hfg _ _ first
    | succ k => exact ih k

theorem bind_register?_congr {β : Type} (f : Nibble → Option β)
    (h : List.Forall₂ SameRole operands operands') (k : Nat) :
    (operands[k]?.bind fun t => (register? t).bind f) =
      operands'[k]?.bind fun t => (register? t).bind f := by
  apply bind_getElem?_congr h
  intro t t' ht
  rw [ht.register]

theorem comparisonPlan?_congr (h : List.Forall₂ SameRole operands operands')
    (withRegister : Nibble → Nibble → Instruction) (withByte : Nibble → UInt8 → Instruction) :
    comparisonPlan? operands withRegister withByte =
      comparisonPlan? operands' withRegister withByte := by
  unfold comparisonPlan?
  apply bind_getElem?_congr h
  intro first first' hfirst
  rw [hfirst.register]
  refine Option.bind_congr fun x _ => ?_
  apply bind_getElem?_congr h
  intro second second' hsecond
  rw [hsecond.register]

theorem loadPlan?_congr (h : List.Forall₂ SameRole operands operands') :
    loadPlan? operands = loadPlan? operands' := by
  unfold loadPlan?
  apply bind_getElem?_congr h
  intro target target' htarget
  apply bind_getElem?_congr h
  intro source source' hsource
  simp only [htarget.index, htarget.into, htarget.register, hsource.register, hsource.source]

theorem additionPlan?_congr (h : List.Forall₂ SameRole operands operands') :
    additionPlan? operands = additionPlan? operands' := by
  unfold additionPlan?
  apply bind_getElem?_congr h
  intro target target' htarget
  simp only [htarget.index, htarget.register, Option.bind_eq_bind]
  split
  · exact bind_register?_congr _ h 1
  · refine Option.bind_congr fun x _ => ?_
    apply bind_getElem?_congr h
    intro second second' hsecond
    rw [hsecond.register]

theorem jumpPlan?_congr (h : List.Forall₂ SameRole operands operands') :
    jumpPlan? operands = jumpPlan? operands' := by
  have hbase : operands[0]?.map lower = some "v0".toList ↔
      operands'[0]?.map lower = some "v0".toList := by
    cases h with
    | nil => rfl
    | cons first others => simpa using first.base
  unfold jumpPlan?
  simp only [h.length_eq, hbase]

theorem operationPlan?_congr (op : AluOp) (h : List.Forall₂ SameRole operands operands') :
    operationPlan? op operands = operationPlan? op operands' := by
  unfold operationPlan?
  cases h with
  | nil => rfl
  | cons first others =>
    simp only [List.getElem?_cons_zero, Option.bind_eq_bind, Option.bind_some, first.register]
    cases others with
    | nil => rfl
    | cons second rest =>
      simp only [List.getElem?_cons_succ, List.getElem?_cons_zero, second.register]

/-- Operands that plans take alike lead to the same plan. -/
theorem plan?_congr (h : List.Forall₂ SameRole operands operands') (m : Mnemonic) :
    m.plan? operands = m.plan? operands' := by
  cases m with
  | cls | ret | sys | call => rfl
  | jp => exact jumpPlan?_congr h
  | se | sne => exact comparisonPlan?_congr h _ _
  | ld => exact loadPlan?_congr h
  | add => exact additionPlan?_congr h
  | alu op => exact operationPlan?_congr op h
  | rnd | skp | sknp => exact bind_register?_congr _ h 0
  | drw =>
    show (operands[0]?.bind fun t => (register? t).bind _) = _
    rw [bind_register?_congr _ h 0]
    refine Option.bind_congr fun first _ => Option.bind_congr fun x _ => ?_
    exact bind_register?_congr _ h 1

end Roles

/-! ## Small letters -/

theorem register?_lowerAscii (t : Text) : register? (lowerAscii t) = register? t := by
  unfold register?
  rw [trim_lowerAscii, lower_lowerAscii]

theorem SameRole.lowerAscii (t : Text) : SameRole (lowerAscii t) t := by
  refine ⟨register?_lowerAscii t, ?_, ?_, ?_, ?_⟩ <;> rw [lower_lowerAscii]

/-- Plans do not see the case of ASCII letters. -/
theorem plan?_lowerAscii (operands : List Text) (m : Mnemonic) :
    m.plan? (operands.map lowerAscii) = m.plan? operands := by
  apply plan?_congr
  rw [List.forall₂_map_left_iff]
  exact List.forall₂_same.mpr fun t _ => .lowerAscii t

end Assembly

end ChipEight
