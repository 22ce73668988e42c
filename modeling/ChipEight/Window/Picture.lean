/-
# ChipEight.Window.Picture -- a frame in colours

A window shows a frame column by column, so its picture is a list of columns, each a list of colours
from top to bottom. A pixel has the one colour if its value is odd and the other one if it is even.

Pixels and the parts of colours are bytes. `byte` reads one from an integer and refuses any other
integer, in other words if that one does not even fit into 64 bits with a sign. `table` reads rows
of bytes; it looks at the lengths of the rows before it looks at any integer.
-/
import ChipEight.Screen

namespace ChipEight.Window

/-! ## Bytes -/

/-- Why an integer is no byte. -/
inductive ByteError where
  /-- It does not fit into 64 bits with a sign. -/
  | tooWide
  /-- It is no number from 0 to 255. -/
  | outside (n : Int)
  deriving DecidableEq, Repr

/-- The words for the error. -/
def ByteError.message : ByteError → Text
  | .tooWide => "Python int too large to convert to C long".toList
  | .outside n =>
    "Python integer ".toList ++ Numeral.decimal n ++ " out of bounds for uint8".toList

/-- An integer as a byte. -/
def byte (n : Int) : Except ByteError UInt8 :=
  if !fits n then .error .tooWide
  else if n < 0 ∨ 255 < n then .error (.outside n)
  else .ok (UInt8.ofNat n.toNat)

/-! ## Tables -/

/-- Why rows of integers are no table of bytes. -/
inductive TableError where
  /-- These many rows differ in length. -/
  | uneven (rows : Nat)
  /-- An integer is no byte. -/
  | byte (error : ByteError)
  deriving DecidableEq, Repr

/-- The words for the error. -/
def TableError.message : TableError → Text
  | .uneven rows =>
    ("setting an array element with a sequence. The requested array has an " ++
      "inhomogeneous shape after 1 dimensions. The detected shape was ").toList ++
      sidesText [rows] ++ " + inhomogeneous part.".toList
  | .byte e => e.message

/-- All rows have the length of the first one. -/
def isRectangular {α : Type} (rows : List (List α)) : Bool :=
  rows.all fun row => row.length == (rows.headD []).length

/-- Integers as bytes. -/
def bytes (row : List Int) : Except TableError (List UInt8) :=
  row.mapM fun n => (byte n).mapError .byte

/-- Rows of integers as rows of bytes. -/
def table (rows : List (List Int)) : Except TableError (List (List UInt8)) :=
  if isRectangular rows then rows.mapM bytes else .error (.uneven rows.length)

/-! ## Colours -/

/-- A colour by its three parts. -/
structure Colour where
  /-- The red part. -/
  red : UInt8
  /-- The green part. -/
  green : UInt8
  /-- The blue part. -/
  blue : UInt8
  deriving DecidableEq, Repr

/-- The colour with the parts given one after another. -/
def Colour.ofBytes? : List UInt8 → Option Colour
  | [red, green, blue] => some ⟨red, green, blue⟩
  | _ => none

/-- The parts of a colour. -/
def Colour.toBytes (c : Colour) : List UInt8 :=
  [c.red, c.green, c.blue]

/-- The colour of lit pixels. -/
def white : Colour := ⟨255, 255, 255⟩

/-- The colour of dark pixels. -/
def black : Colour := ⟨0, 0, 0⟩

/-- The colour of a pixel. -/
def colourOf (on off : Colour) (value : UInt8) : Colour :=
  if value % 2 = 1 then on else off

/-! ## Pictures -/

/-- The picture of `width` columns of a frame that is given by its rows. -/
def picture (on off : Colour) (width : Nat) (rows : List (List UInt8)) : List (List Colour) :=
  (List.range width).map fun x => rows.map fun row => colourOf on off (row.getD x 0)

/-- The frame as rows of ones and zeros. -/
def bytesOf {width height : Nat} (b : Bitmap width height) : List (List UInt8) :=
  b.toLists.map fun row => row.map fun pixel => if pixel then 1 else 0

/-- The picture of a bitmap. -/
def pictureOf {width height : Nat} (on off : Colour) (b : Bitmap width height) :
    List (List Colour) :=
  picture on off width (bytesOf b)

end ChipEight.Window
