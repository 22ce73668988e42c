/-
# ChipEight.Instruction.Rendered -- instructions as text

`render` writes an instruction the way program text does: the mnemonic in capitals, a blank, and the
operands with a comma and a blank between them. Registers are `V0` to `VF`, addresses and bytes are
hexadecimal with three and two digits, the height of a sprite is decimal.

`renderWord` is the text that a word should have: that of the instruction it is read as, and for a
word that is no instruction the data directive `DW`.
-/
import ChipEight.Instruction.Basic
import ChipEight.Numeral.Basic

namespace ChipEight

open Numeral

/-- The name of a register. -/
def registerName (x : Nibble) : Text :=
  'V' :: upperHex 1 x.val

/-- The mnemonic of an operation on two registers. -/
def AluOp.mnemonic : AluOp → Text
  | .move => "LD".toList
  | .or => "OR".toList
  | .and => "AND".toList
  | .xor => "XOR".toList
  | .add => "ADD".toList
  | .sub => "SUB".toList
  | .shr => "SHR".toList
  | .subn => "SUBN".toList
  | .shl => "SHL".toList

namespace Instruction

/-- Three hexadecimal digits. -/
def renderAddress (a : Address) : Text :=
  hex 5 a.val

/-- Two hexadecimal digits. -/
def renderByte (b : UInt8) : Text :=
  hex 4 b.toNat

/-- The instruction as program text. -/
def render : Instruction → Text
  | .clear => "CLS".toList
  | .ret => "RET".toList
  | .sys a => "SYS ".toList ++ renderAddress a
  | .jump a => "JP ".toList ++ renderAddress a
  | .call a => "CALL ".toList ++ renderAddress a
  | .skipEqByte x kk => "SE ".toList ++ registerName x ++ ", ".toList ++ renderByte kk
  | .skipNeByte x kk => "SNE ".toList ++ registerName x ++ ", ".toList ++ renderByte kk
  | .skipEq x y => "SE ".toList ++ registerName x ++ ", ".toList ++ registerName y
  | .loadByte x kk => "LD ".toList ++ registerName x ++ ", ".toList ++ renderByte kk
  | .addByte x kk => "ADD ".toList ++ registerName x ++ ", ".toList ++ renderByte kk
  | .alu op x y =>
    op.mnemonic ++ [' '] ++ registerName x ++ ", ".toList ++ registerName y
  | .skipNe x y => "SNE ".toList ++ registerName x ++ ", ".toList ++ registerName y
  | .loadIndex a => "LD I, ".toList ++ renderAddress a
  | .jumpFrom a => "JP V0, ".toList ++ renderAddress a
  | .random x kk => "RND ".toList ++ registerName x ++ ", ".toList ++ renderByte kk
  | .draw x y n =>
    "DRW ".toList ++ registerName x ++ ", ".toList ++ registerName y ++ ", ".toList ++
      decimal n.val
  | .skipHeld x => "SKP ".toList ++ registerName x
  | .skipFree x => "SKNP ".toList ++ registerName x
  | .readDelay x => "LD ".toList ++ registerName x ++ ", DT".toList
  | .awaitKey x => "LD ".toList ++ registerName x ++ ", K".toList
  | .setDelay x => "LD DT, ".toList ++ registerName x
  | .setSound x => "LD ST, ".toList ++ registerName x
  | .addIndex x => "ADD I, ".toList ++ registerName x
  | .glyph x => "LD F, ".toList ++ registerName x
  | .digits x => "LD B, ".toList ++ registerName x
  | .store x => "LD [I], ".toList ++ registerName x
  | .fetch x => "LD ".toList ++ registerName x ++ ", [I]".toList

/-- The text that a word should have: its instruction, or the word itself as data. -/
def renderWord (w : UInt16) : Text :=
  match decode? w with
  | some i => i.render
  | none => "DW ".toList ++ hex 6 w.toNat

end Instruction

end ChipEight
