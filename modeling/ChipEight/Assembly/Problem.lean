/-
# ChipEight.Assembly.Problem -- what can be wrong with program text

A `Problem` is about one statement whose bytes are asked for: an operand that is missing, unknown or
out of range, or a mnemonic that does not exist. A `Cause` is what makes a line wrong: a problem of
its statement, or something that is seen before any byte is made, about its label or its place. An
`AssemblyError` adds the number of the line.

Texts from the program are shown quoted. A message about an unknown name is itself quoted as a
whole, and a number that is too long to be written is replaced by the words that say so.
-/
import ChipEight.Numeral.Literal

namespace ChipEight.Assembly

open Text Numeral

/-- What is wrong with the operands or the mnemonic of a statement. -/
inductive Problem where
  /-- There are fewer operands than the instruction needs. -/
  | missingOperand
  /-- The operand is neither a label nor a number. -/
  | unknownName (operand : Text)
  /-- The operand is no register. -/
  | badRegister (operand : Text)
  /-- The value is no address of twelve bits. -/
  | addressRange (value : Int)
  /-- The value is no byte, with or without a sign. -/
  | byteRange (value : Int)
  /-- The value is no height of a sprite. -/
  | heightRange (value : Int)
  /-- A jump with two operands starts with something else than register 0. -/
  | badIndexedJump
  /-- No instruction has this mnemonic. -/
  | unknownMnemonic (mnemonic : Text)
  deriving DecidableEq, Repr

namespace Problem

/-- A number between two texts, or the words for a number that is too long. -/
def withNumber (before : Text) (n : Int) (behind : Text) : Text :=
  match written n with
  | .ok digits => before ++ digits ++ behind
  | .error e => e.message

/-- The words for the problem. -/
def message : Problem → Text
  | .missingOperand => "list index out of range".toList
  | .unknownName t => quoted ("Unknown label or bad number: ".toList ++ quoted t)
  | .badRegister t => "Invalid register: ".toList ++ quoted t
  | .addressRange v => "Address ".toList ++ hex 0 v ++ " out of range".toList
  | .byteRange v => withNumber "Byte ".toList v " out of range".toList
  | .heightRange v => withNumber "Sprite height ".toList v " out of range".toList
  | .badIndexedJump => "indexed jump must use V0".toList
  | .unknownMnemonic m => "Unknown mnemonic: ".toList ++ quoted m

end Problem

/-- What is wrong with a line. -/
inductive Cause where
  /-- The label is no name. -/
  | badLabel (label : Text)
  /-- The label was defined before. -/
  | duplicateLabel (label : Text)
  /-- The place to go on at is no number. -/
  | badOrigin (operand : Text)
  /-- The place to go on at lies behind the current one. -/
  | originBehind (target address : Int)
  /-- The statement cannot be made into bytes. -/
  | statement (problem : Problem) (text : Text)
  deriving DecidableEq, Repr

namespace Cause

/-- The words for the cause. -/
def message : Cause → Text
  | .badLabel l => "Bad label: ".toList ++ quoted l
  | .duplicateLabel l => "Duplicate label: ".toList ++ l
  | .badOrigin t => "Bad .org address: ".toList ++ quoted t
  | .originBehind target address =>
    ".org ".toList ++ hex 0 target ++ " is behind ".toList ++ hex 0 address
  | .statement p text => p.message ++ " in ".toList ++ quoted text

end Cause

/-- Why program text is refused. -/
structure AssemblyError where
  /-- The line, counted from one. -/
  line : Nat
  /-- What is wrong with it. -/
  cause : Cause
  deriving DecidableEq, Repr

namespace AssemblyError

/-- The words for the refusal. -/
def message (e : AssemblyError) : Text :=
  "Line ".toList ++ decimal e.line ++ ": ".toList ++ e.cause.message

end AssemblyError

end ChipEight.Assembly
