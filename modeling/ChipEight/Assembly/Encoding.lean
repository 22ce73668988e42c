/-
# ChipEight.Assembly.Encoding -- the instruction that a line means

A mnemonic stands for a family of instructions, and the operands choose among them. `instruction`
reads both and answers the instruction itself, so the word that goes into the image is the one under
which the machine knows that instruction.

Operands are looked at one after another, and the first that is missing or wrong is the one
reported. Operands beyond those an instruction has are ignored, with one exception: a jump with
exactly two operands is the indexed one.
-/
import ChipEight.Assembly.Source

namespace ChipEight.Assembly

open Text

/-! ## Mnemonics -/

/-- The families of instructions. -/
inductive Mnemonic where
  | cls
  | ret
  | sys
  | jp
  | call
  | se
  | sne
  | ld
  | add
  | alu (op : AluOp)
  | rnd
  | drw
  | skp
  | sknp
  deriving DecidableEq, Repr

/-- The names of the families in small letters. -/
def mnemonicNames : List (Text × Mnemonic) :=
  [("cls".toList, .cls), ("ret".toList, .ret), ("sys".toList, .sys), ("jp".toList, .jp),
   ("call".toList, .call), ("se".toList, .se), ("sne".toList, .sne), ("ld".toList, .ld),
   ("add".toList, .add), ("or".toList, .alu .or), ("and".toList, .alu .and),
   ("xor".toList, .alu .xor), ("sub".toList, .alu .sub), ("shr".toList, .alu .shr),
   ("subn".toList, .alu .subn), ("shl".toList, .alu .shl), ("rnd".toList, .rnd),
   ("drw".toList, .drw), ("skp".toList, .skp), ("sknp".toList, .sknp)]

/-! ## Operands with a meaning of their own -/

/-- What a load into a register does if it loads from one of the special places. -/
def loadFrom? (source : Text) : Option (Nibble → Instruction) :=
  if source = "dt".toList then some .readDelay
  else if source = "k".toList then some .awaitKey
  else if source = "[i]".toList then some .fetch
  else none

/-- What a load from a register does if it loads into one of the special places. -/
def loadInto? (target : Text) : Option (Nibble → Instruction) :=
  if target = "dt".toList then some .setDelay
  else if target = "st".toList then some .setSound
  else if target = "f".toList then some .glyph
  else if target = "b".toList then some .digits
  else if target = "[i]".toList then some .store
  else none

/-- The operand with this number. -/
def operand (operands : List Text) (k : Nat) : Except Problem Text :=
  match operands[k]? with
  | some t => .ok t
  | none => .error .missingOperand

/-! ## Instructions -/

/-- A comparison of a register with a register or a byte. -/
def comparison (labels : Labels) (operands : List Text)
    (withRegister : Nibble → Nibble → Instruction) (withByte : Nibble → UInt8 → Instruction) :
    Except Problem Instruction := do
  let x ← register (← operand operands 0)
  let second ← operand operands 1
  match register? second with
  | some y => .ok (withRegister x y)
  | none => .ok (withByte x (← byte labels second))

/-- A load. -/
def load (labels : Labels) (operands : List Text) : Except Problem Instruction := do
  let target ← operand operands 0
  let source ← operand operands 1
  if lower target = ['i'] then .ok (.loadIndex (← address labels source))
  else
    match loadInto? (lower target) with
    | some into => .ok (into (← register source))
    | none =>
      let x ← register target
      match loadFrom? (lower source) with
      | some make => .ok (make x)
      | none =>
        match register? source with
        | some y => .ok (.alu .move x y)
        | none => .ok (.loadByte x (← byte labels source))

/-- An addition. -/
def addition (labels : Labels) (operands : List Text) : Except Problem Instruction := do
  let target ← operand operands 0
  if lower target = ['i'] then .ok (.addIndex (← register (← operand operands 1)))
  else
    let x ← register target
    let second ← operand operands 1
    match register? second with
    | some y => .ok (.alu .add x y)
    | none => .ok (.addByte x (← byte labels second))

/-- A jump. -/
def jump (labels : Labels) (operands : List Text) : Except Problem Instruction := do
  match operands with
  | [base, target] =>
    if lower base = "v0".toList then .ok (.jumpFrom (← address labels target))
    else .error .badIndexedJump
  | _ => .ok (.jump (← address labels (← operand operands 0)))

/-- An operation on two registers; the second one may be left out and is register 0 then. -/
def operation (op : AluOp) (operands : List Text) : Except Problem Instruction := do
  let x ← register (← operand operands 0)
  match operands[1]? with
  | some second => .ok (.alu op x (← register second))
  | none => .ok (.alu op x (Nibble.ofNat 0))

/-- The instruction of a family that the operands choose. -/
def Mnemonic.instruction (labels : Labels) (operands : List Text) :
    Mnemonic → Except Problem Instruction
  | .cls => .ok .clear
  | .ret => .ok .ret
  | .sys => do .ok (.sys (← address labels (← operand operands 0)))
  | .jp => jump labels operands
  | .call => do .ok (.call (← address labels (← operand operands 0)))
  | .se => comparison labels operands .skipEq .skipEqByte
  | .sne => comparison labels operands .skipNe .skipNeByte
  | .ld => load labels operands
  | .add => addition labels operands
  | .alu op => operation op operands
  | .rnd => do
    let x ← register (← operand operands 0)
    .ok (.random x (← byte labels (← operand operands 1)))
  | .drw => do
    let n ← height labels (← operand operands 2)
    let x ← register (← operand operands 0)
    .ok (.draw x (← register (← operand operands 1)) n)
  | .skp => do .ok (.skipHeld (← register (← operand operands 0)))
  | .sknp => do .ok (.skipFree (← register (← operand operands 0)))

/-- The instruction that a line means. -/
def instruction (labels : Labels) (text : Text) : Except Problem Instruction :=
  match splitMnemonic? text with
  | none => .error .missingOperand
  | some (name, rest) =>
    match mnemonicNames.lookup (lower name) with
    | none => .error (.unknownMnemonic name)
    | some mnemonic => mnemonic.instruction labels (splitOperands rest)

end ChipEight.Assembly
