/-
# ChipEight.Assembly.Listing -- the program beside its bytes

A listing has a row for every statement but the origins: the address, up to eight of its bytes, and
the statement. Labels have rows of their own, in front of the first row that has their address;
those of one address stand in the order of their definition, and are shown once.

Whoever asks for a listing gets it printed once the program is assembled as a whole, so a program
that is refused prints no part of it.
-/
import ChipEight.Assembly.Image

namespace ChipEight.Assembly

open Text Numeral

/-- The statement moves the address and has no row. -/
def Form.isOrigin : Form → Bool
  | .origin _ => true
  | _ => false

/-- Up to eight bytes in hexadecimal, with dots behind if there are more. -/
def hexColumn (bytes : List UInt8) : Text :=
  joinWith [' '] ((bytes.take 8).map fun b => upperHex 2 b.toNat) ++
    (if 8 < bytes.length then " ...".toList else [])

/-- The row of a statement. -/
def statementRow (p : Piece) : Text :=
  "  ".toList ++ upperHex 3 p.statement.address ++ "  ".toList ++
    padRight 10 (hexColumn p.bytes) ++ "  ".toList ++ p.statement.text

/-- The row of a label. -/
def labelRow (label : Text) : Text :=
  List.replicate 14 ' ' ++ label ++ [':']

/-- The rows of the statements, each after the rows of the labels that are left for its address. -/
def rows (labels : Labels) : List Piece → List Text
  | [] => []
  | p :: ps =>
    if p.statement.form.isOrigin then rows labels ps
    else
      let (here, elsewhere) := labels.partition fun l => l.2 == p.statement.address
      here.map (fun l => labelRow l.1) ++ statementRow p :: rows elsewhere ps

/-- The listing, each row ended by a line feed. -/
def Assembled.listing (a : Assembled) : Text :=
  unlines (rows a.labels a.pieces)

/-- Makes a program text into bytes, and prints the listing behind what was printed before if one is
asked for. -/
def assembleAloud (source : Text) (base : Int) (listing : Bool) (printed : Text) :
    Except AssemblyFailure Assembled × Text :=
  match assemble source base with
  | .ok a => (.ok a, if listing then printed ++ a.listing else printed)
  | .error e => (.error e, printed)

end ChipEight.Assembly
