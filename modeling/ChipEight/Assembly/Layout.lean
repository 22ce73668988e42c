/-
# ChipEight.Assembly.Layout -- where statements and labels stand

The layout of a program is fixed before any byte is made: each statement gets the address where its
bytes start and the number of its bytes, and each label gets the address of what follows it. No
label is needed for that, so labels may be used before they are defined.

A line's label is looked at before its statement. A name that is taken, or is no name, is refused,
and so is an origin that is no number or lies behind the current address.
-/
import ChipEight.Assembly.Source
import ChipEight.Text.Identifier

namespace ChipEight.Assembly

open Text

/-- A statement at its place. -/
structure Placed where
  /-- The number of its line. -/
  line : Nat
  /-- The statement as it was written. -/
  text : Text
  /-- Its kind. -/
  form : Form
  /-- Where its bytes start. -/
  address : Int
  /-- The number of its bytes. -/
  size : Nat
  deriving DecidableEq, Repr

/-- The labels and the statements of a program. -/
structure Layout where
  /-- The labels in the order of their definition. -/
  labels : Labels
  /-- The statements in the order of the program. -/
  statements : List Placed
  deriving DecidableEq, Repr

/-- The number of bytes that a statement takes at an address. -/
def Form.size (address : Int) : Form → Except Cause Nat
  | .origin operand =>
    match number operand with
    | .error _ => .error (.badOrigin operand)
    | .ok target =>
      if target < address then .error (.originBehind target address)
      else .ok (target - address).toNat
  | .bytes operands => .ok operands.length
  | .words operands => .ok (2 * operands.length)
  | .instruction => .ok 2

/-- The labels with one more at an address. -/
def define (labels : Labels) (address : Int) (label : Text) : Except Cause Labels :=
  if !isIdentifier label then .error (.badLabel label)
  else if (labels.lookup label).isSome then .error (.duplicateLabel label)
  else .ok (labels ++ [(label, address)])

/-- The labels with those of a line. -/
def defineAll (labels : Labels) (address : Int) : Option Text → Except Cause Labels
  | none => .ok labels
  | some label => define labels address label

/-- Places the lines one after another from an address on. -/
def place (labels : Labels) (address : Int) : List SourceLine → Except AssemblyError Layout
  | [] => .ok ⟨labels, []⟩
  | line :: lines =>
    let (label?, text) := labelAndStatement line.text
    match defineAll labels address label? with
    | .error cause => .error ⟨line.number, cause⟩
    | .ok labels =>
      if text.isEmpty then place labels address lines
      else
        let form := Form.ofStatement text
        match form.size address with
        | .error cause => .error ⟨line.number, cause⟩
        | .ok size =>
          match place labels (address + size) lines with
          | .error e => .error e
          | .ok layout =>
            .ok { layout with
              statements := ⟨line.number, text, form, address, size⟩ :: layout.statements }

/-- The layout of a program text whose first byte stands at `base`. -/
def layout (source : Text) (base : Int) : Except AssemblyError Layout :=
  place [] base (sourceLines source)

end ChipEight.Assembly
