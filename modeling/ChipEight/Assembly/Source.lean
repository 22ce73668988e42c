/-
# ChipEight.Assembly.Source -- lines, statements and operands of program text

A line is what stands between two line feeds. A semicolon starts a comment that goes to the end of
the line, and lines that are blank without their comment do not matter further.

A line may define a label: the text in front of its first colon. What remains is a statement. A
statement is a directive if it starts with `.org`, `.db` or `.dw` in either case, whatever follows
these letters, and an instruction otherwise.

Operands are separated by commas. Blanks around an operand do not belong to it, and an operand that
is empty without them is none at all. An operand names a register, or it has a value. Register names
are a V and a hexadecimal digit, in either case. A value is that of the label with exactly this name,
or else the number that the operand is a literal of; so a label wins over a number, though no name can
be read as one.

Values are checked where they are used: an address has twelve bits, a byte lies between -128 and 255
and is cut to eight bits, and the height of a sprite has four bits.
-/
import ChipEight.Assembly.Problem
import ChipEight.Instruction.Basic
import ChipEight.Text.Characters
import ChipEight.Text.LowerCase

namespace ChipEight.Assembly

open Text Numeral

/-! ## Lines -/

/-- A line that holds more than blanks and a comment. -/
structure SourceLine where
  /-- The number of the line, counted from one. -/
  number : Nat
  /-- The line without its comment and without blanks at its ends. -/
  text : Text
  deriving DecidableEq, Repr

/-- A line without its comment and without blanks at its ends. -/
def withoutComment (raw : Text) : Text :=
  trim (cut ';' raw).1

/-- The lines of a program text that matter. -/
def sourceLines (source : Text) : List SourceLine :=
  ((splitOn '\n' source).zipIdx 1).filterMap fun (raw, number) =>
    match withoutComment raw with
    | [] => none
    | text => some ⟨number, text⟩

/-- The label of a line, if it has one, and its statement, which may be empty. -/
def labelAndStatement (text : Text) : Option Text × Text :=
  match cut ':' text with
  | (_, none) => (none, text)
  | (label, some rest) => (some (trim label), trim rest)

/-! ## Operands -/

/-- The operands in a text. -/
def splitOperands (s : Text) : List Text :=
  ((splitOn ',' s).map trim).filter fun operand => !operand.isEmpty

/-- The mnemonic of an instruction, and the text of its operands; nothing if all is blank. -/
def splitMnemonic? (s : Text) : Option (Text × Text) :=
  firstWord? s

/-! ## Statements -/

/-- The kinds of statement. -/
inductive Form where
  /-- Goes on at an address, with zeros up to there. -/
  | origin (target : Text)
  /-- One byte for each operand. -/
  | bytes (operands : List Text)
  /-- One word for each operand. -/
  | words (operands : List Text)
  /-- An instruction. -/
  | instruction
  deriving DecidableEq, Repr

/-- The statement starts with these letters in either case. -/
def startsWith (letters : Text) (statement : Text) : Bool :=
  (after? letters (lower statement)).isSome

/-- The kind of a statement. -/
def Form.ofStatement (s : Text) : Form :=
  if startsWith ".org".toList s then .origin (trim (s.drop 4))
  else if startsWith ".db".toList s then .bytes (splitOperands (s.drop 3))
  else if startsWith ".dw".toList s then .words (splitOperands (s.drop 3))
  else .instruction

/-! ## Registers -/

/-- The register that an operand names. -/
def register? (operand : Text) : Option Nibble :=
  match lower (trim operand) with
  | ['v', c] =>
    match digit? c with
    | some d => if h : d < 16 then some ⟨d, h⟩ else none
    | none => none
  | _ => none

/-- The register that an operand has to name. -/
def register (operand : Text) : Except Problem Nibble :=
  match register? operand with
  | some x => .ok x
  | none => .error (.badRegister operand)

/-! ## Values -/

/-- The labels of a program with their values, in the order of their definition. -/
abbrev Labels := List (Text × Int)

/-- The number that a literal means. -/
def number (operand : Text) : Except NumeralError Int :=
  read 0 (trim operand)

/-- The value of an operand. -/
def resolve (labels : Labels) (operand : Text) : Except Problem Int :=
  match labels.lookup operand with
  | some value => .ok value
  | none =>
    match number operand with
    | .ok value => .ok value
    | .error _ => .error (.unknownName operand)

/-- The value of an operand that has to be an address. -/
def address (labels : Labels) (operand : Text) : Except Problem Address := do
  let v ← resolve labels operand
  if h : 0 ≤ v ∧ v < 4096 then .ok ⟨v.toNat, by omega⟩ else .error (.addressRange v)

/-- The value of an operand that has to be a byte. -/
def byte (labels : Labels) (operand : Text) : Except Problem UInt8 := do
  let v ← resolve labels operand
  if -128 ≤ v ∧ v ≤ 255 then .ok (byteOfInt v) else .error (.byteRange v)

/-- The value of an operand that has to be the height of a sprite. -/
def height (labels : Labels) (operand : Text) : Except Problem Nibble := do
  let v ← resolve labels operand
  match Nibble.ofInt? v with
  | some n => .ok n
  | none => .error (.heightRange v)

end ChipEight.Assembly
