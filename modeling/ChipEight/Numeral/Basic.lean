/-
# ChipEight.Numeral.Basic -- writing and rounding numbers

Integers are written in four ways:

* `decimal`, digits with a minus sign when it is needed;
* `hex width`, small hexadecimal digits behind `0x`, where sign and `0x` count towards the width and
  the zeros that fill it stand behind them;
* `upperHex width`, capital hexadecimal digits without `0x`, filled with zeros behind the sign;
* `decimal?`, which refuses integers of more than `digitLimit` digits.

A width is a least width: a longer number is written in full.

`roundHalfEven` rounds a quotient of natural numbers to the nearest whole number, and a tie goes to
the even neighbour. `toPrecision` rounds a number in the same way to its first fifty-three binary
digits, which are all that a floating-point number of 64 bits holds. `floatLimit` is where the range
of these numbers ends.

An `Amount` is the value of a quantity: a number, or nothing if nothing was left of what it was given
by. A quantity without a number can be shown, but it counts nothing.
-/
import ChipEight.Text.Basic

namespace ChipEight

namespace Numeral

open Text

/-! ## Integers as text -/

/-- The longest decimal number that is written or read where the length is checked. -/
def digitLimit : Nat := 4300

/-- The sign in front of a number. -/
def sign (n : Int) : Text :=
  if n < 0 then ['-'] else []

/-- Decimal digits. -/
def decimal (n : Int) : Text :=
  sign n ++ Nat.toDigits 10 n.natAbs

/-- Decimal digits, unless there are more than `digitLimit` of them. -/
def decimal? (n : Int) : Option Text :=
  if (Nat.toDigits 10 n.natAbs).length ≤ digitLimit then some (decimal n) else none

/-- Hexadecimal digits behind `0x`. -/
def hex (width : Nat) (n : Int) : Text :=
  let front := sign n ++ ['0', 'x']
  front ++ zeroPad (width - front.length) (Nat.toDigits 16 n.natAbs)

/-- Capital hexadecimal digits. -/
def upperHex (width : Nat) (n : Int) : Text :=
  sign n ++ zeroPad (width - (sign n).length) ((Nat.toDigits 16 n.natAbs).map Char.toUpper)

/-! ## Quotients as whole numbers -/

/-- The whole number nearest to `n / d`; of two the even one. -/
def roundHalfEven (n d : Nat) : Nat :=
  let whole := n / d
  let rest := n % d
  if 2 * rest < d then whole
  else if d < 2 * rest then whole + 1
  else if whole % 2 = 0 then whole
  else whole + 1

/-- The binary digits behind the first one that a floating-point number keeps. -/
def precision : Nat := 52

/-- The weight of the last binary digit that is kept of a number between `n` and `n + 1`. -/
def lastPlace (n : Nat) : Nat :=
  Nat.pow 2 (Nat.log2 n - precision)

/-- The nearest number that has no more binary digits than are kept. -/
def toPrecision (n : Nat) : Nat :=
  roundHalfEven n (lastPlace n) * lastPlace n

/-- The least number out of the range of floating-point numbers: half a step above the largest. -/
def floatLimit : Nat := Nat.pow 2 970 * (Nat.pow 2 54 - 1)

theorem roundHalfEven_le (n d : Nat) : roundHalfEven n d ≤ n / d + 1 := by
  unfold roundHalfEven
  grind

end Numeral

/-! ## Quantities -/

/-- The value of a quantity. -/
inductive Amount where
  /-- A number. -/
  | number (n : Int)
  /-- No number. -/
  | nothing
  deriving DecidableEq, Repr

namespace Amount

/-- The amount as text. -/
def text : Amount → Text
  | .number n => Numeral.decimal n
  | .nothing => ['[', ']']

/-- The number, if there is one. -/
def number? : Amount → Option Int
  | .number n => some n
  | .nothing => none

end Amount

end ChipEight
