/-
# ChipEight.Assembly.Image -- from program text to bytes

Once the layout is fixed, every statement is made into its bytes on its own, with all labels known.
The image is these bytes one after another. Errors of the layout come first, wherever they are;
after them the first statement that has a problem is reported.

One thing can go wrong that is no fault of the text as such: there may be no room for the zeros that
an origin asks for. That ends the work without a message about a line.
-/
import ChipEight.Assembly.Encoding
import ChipEight.Assembly.Layout
import ChipEight.Room

namespace ChipEight.Assembly

open Text

/-- What a statement is made into. -/
inductive Content where
  /-- So many zeros. -/
  | zeros (count : Nat)
  /-- Bytes. -/
  | bytes (values : List UInt8)
  deriving DecidableEq, Repr

namespace Content

/-- The bytes. -/
def toList : Content → List UInt8
  | .zeros count => List.replicate count 0
  | .bytes values => values

/-- The number of bytes. -/
def size : Content → Nat
  | .zeros count => count
  | .bytes values => values.length

theorem length_toList (c : Content) : c.toList.length = c.size := by
  cases c <;> simp [toList, size]

end Content

/-- A statement with what it is made into. -/
structure Piece where
  /-- The statement. -/
  statement : Placed
  /-- What it is made into. -/
  content : Content
  deriving DecidableEq, Repr

/-- The bytes of a piece. -/
def Piece.bytes (p : Piece) : List UInt8 :=
  p.content.toList

/-- A program that was made into bytes. -/
structure Assembled where
  /-- The labels in the order of their definition. -/
  labels : Labels
  /-- The statements with their bytes, in the order of the program. -/
  pieces : List Piece
  deriving DecidableEq, Repr

/-! ## What can go wrong -/

/-- Why there is no room for zeros. -/
inductive RoomError where
  /-- Their number does not fit into 64 bits with a sign. -/
  | beyondSizes
  /-- They do not fit into memory. -/
  | beyondMemory
  deriving DecidableEq, Repr

/-- The words for the error. Running out of memory leaves none. -/
def RoomError.message : RoomError → Text
  | .beyondSizes => "cannot fit 'int' into an index-sized integer".toList
  | .beyondMemory => []

/-- So many zeros, if there is room for them. -/
def zeros (count : Nat) : Except RoomError Content :=
  if countLimit ≤ count then .error .beyondSizes
  else if memoryLimit ≤ count then .error .beyondMemory
  else .ok (.zeros count)

/-- Why no image is made. -/
inductive AssemblyFailure where
  /-- A line is wrong. -/
  | line (error : AssemblyError)
  /-- There is no room. -/
  | room (error : RoomError)
  deriving DecidableEq, Repr

/-- The words for the failure. -/
def AssemblyFailure.message : AssemblyFailure → Text
  | .line e => e.message
  | .room e => e.message

/-! ## Bytes -/

/-- The two bytes of a word, the high one first. -/
def wordBytes (w : UInt16) : List UInt8 :=
  [highByte w, lowByte w]

/-- The values of operands, one after another. -/
def resolveAll (labels : Labels) : List Text → Except Problem (List Int)
  | [] => .ok []
  | t :: ts => do
    let v ← resolve labels t
    let vs ← resolveAll labels ts
    .ok (v :: vs)

/-- A problem of a statement as a failure. -/
def Placed.failure (s : Placed) (p : Problem) : AssemblyFailure :=
  .line ⟨s.line, .statement p s.text⟩

/-- What a statement is made into. -/
def Placed.emit (labels : Labels) (s : Placed) : Except AssemblyFailure Content :=
  match s.form with
  | .origin _ => (zeros s.size).mapError .room
  | .bytes operands => do
    let values ← (resolveAll labels operands).mapError s.failure
    .ok (.bytes (values.map byteOfInt))
  | .words operands => do
    let values ← (resolveAll labels operands).mapError s.failure
    .ok (.bytes (values.flatMap fun v => wordBytes (wordOfInt v)))
  | .instruction => do
    let i ← (instruction labels s.text).mapError s.failure
    .ok (.bytes (wordBytes i.encode))

/-- All statements with what they are made into, or the first failure. -/
def emitAll (labels : Labels) : List Placed → Except AssemblyFailure (List Piece)
  | [] => .ok []
  | s :: ss => do
    let content ← s.emit labels
    let pieces ← emitAll labels ss
    .ok (⟨s, content⟩ :: pieces)

/-- Makes a program text into bytes that start at `base`. -/
def assemble (source : Text) (base : Int) : Except AssemblyFailure Assembled := do
  let l ← (layout source base).mapError .line
  let pieces ← emitAll l.labels l.statements
  .ok ⟨l.labels, pieces⟩

/-- The bytes of the program. -/
def Assembled.image (a : Assembled) : List UInt8 :=
  a.pieces.flatMap Piece.bytes

/-- The number of bytes of the program. -/
def Assembled.size (a : Assembled) : Nat :=
  a.pieces.foldr (fun p size => p.content.size + size) 0

theorem length_image (a : Assembled) : a.image.length = a.size := by
  unfold Assembled.image Assembled.size
  induction a.pieces with
  | nil => rfl
  | cons p ps ih =>
    simp [List.flatMap_cons, ih, Piece.bytes, Content.length_toList]

end ChipEight.Assembly
