/-
# ChipEight.Numeral.Literal -- integers read from text

`read base` reads an integer literal, with blanks around it and a sign in front.

* In base 0 the literal names its own base: `0x`, `0o` and `0b`, in either case, stand for sixteen,
  eight and two, and without one of them the base is ten. A decimal literal may then start with a
  zero only if its value is zero.
* In base 16 the mark `0x` may stand in front.
* Single underscores may stand between digits, and one behind a mark.
* Decimal digits of every script count as digits, and every white space as a blank, except that the
  four ASCII separators U+001C to U+001F are not allowed here.

Three things can be wrong, and the first of them in this order is the one reported: underscores in
the wrong place, a decimal number of more than `digitLimit` digits, and everything else.
-/
import ChipEight.Text.Characters
import ChipEight.Text.Quoted

namespace ChipEight.Numeral

open Text

/-! ## What can go wrong -/

/-- Why a number is not read or written. -/
inductive NumeralError where
  /-- The text is no literal of this base. -/
  | malformed (base : Nat) (text : Text)
  /-- The text is a decimal number of too many digits. -/
  | tooLongToRead (digits : Nat)
  /-- The number has too many decimal digits to be written. -/
  | tooLongToWrite
  deriving Repr, DecidableEq

/-- The words for what went wrong. A text is quoted, and cut after two hundred characters. -/
def NumeralError.message : NumeralError → Text
  | .malformed base text =>
    "invalid literal for int() with base ".toList ++ decimal base ++ ": ".toList ++
      (quoted text).take 200
  | .tooLongToRead digits =>
    "Exceeds the limit (4300 digits) for integer string conversion: value has ".toList ++
      decimal digits ++
      " digits; use sys.set_int_max_str_digits() to increase the limit".toList
  | .tooLongToWrite =>
    ("Exceeds the limit (4300 digits) for integer string conversion; " ++
      "use sys.set_int_max_str_digits() to increase the limit").toList

/-- The number in decimal digits, or the error that it is too long. -/
def written (n : Int) : Except NumeralError Text :=
  match decimal? n with
  | some t => .ok t
  | none => .error .tooLongToWrite

/-! ## Characters of a literal -/

/-- The ASCII character that stands for `c` in a literal: white space of other scripts stands for a
blank, their digits for ours, and anything else for a character that no literal holds. -/
def plain (c : Char) : Char :=
  if c.toNat < 128 then c
  else if isBlank c then ' '
  else match digitValue? c with
    | some d => Nat.digitChar d
    | none => '?'

/-- Blanks that may stand around a literal. -/
def isPadding (c : Char) : Bool :=
  c == ' ' || (9 ≤ c.toNat && c.toNat ≤ 13)

/-- The value of a digit; the letters in either case go on behind the nine. -/
def digit? (c : Char) : Option Nat :=
  let n := c.toNat
  if 48 ≤ n && n ≤ 57 then some (n - 48)
  else if 97 ≤ n && n ≤ 122 then some (n - 87)
  else if 65 ≤ n && n ≤ 90 then some (n - 55)
  else none

/-- A digit of this radix. -/
def isDigitOf (radix : Nat) (c : Char) : Bool :=
  match digit? c with
  | some d => d < radix
  | none => false

/-! ## Parts of a literal -/

/-- The sign, true for minus, and the rest. -/
def takeSign : Text → Bool × Text
  | '+' :: r => (false, r)
  | '-' :: r => (true, r)
  | r => (false, r)

/-- The text without the one underscore that may stand behind a mark. -/
def skipUnderscore : Text → Text
  | '_' :: r => r
  | r => r

/-- What the front of a literal says about its digits. -/
structure Front where
  /-- The radix of the digits. -/
  radix : Nat
  /-- The digits started with a zero that is no part of a mark, so they have to mean zero. -/
  mustBeZero : Bool
  /-- The text from the first digit on. -/
  digits : Text

/-- Reads the mark of a radix, if there is one. -/
def front (base : Nat) (s : Text) : Front :=
  match s with
  | '0' :: c :: r =>
    if (base == 0 || base == 16) && (c == 'x' || c == 'X') then ⟨16, false, skipUnderscore r⟩
    else if base == 0 && (c == 'o' || c == 'O') then ⟨8, false, skipUnderscore r⟩
    else if base == 0 && (c == 'b' || c == 'B') then ⟨2, false, skipUnderscore r⟩
    else if base == 0 then ⟨10, true, s⟩
    else ⟨base, false, s⟩
  | _ => ⟨if base == 0 then 10 else base, false, s⟩

/-- The digits are not empty, and every underscore among them stands between two digits.
`behindMark` says that what came before was an underscore or the start. -/
def wellSeparated : (behindMark : Bool) → Text → Bool
  | behindMark, [] => !behindMark
  | behindMark, c :: cs =>
    if c = '_' then !behindMark && wellSeparated true cs else wellSeparated false cs

/-- The number that digits of a radix mean; underscores mean nothing. -/
def value (radix : Nat) (digits : Text) : Nat :=
  digits.foldl (fun n c => match digit? c with
    | some d => radix * n + d
    | none => n) 0

/-! ## Reading -/

/-- Reads an integer literal. `base` is 0, 10 or 16. -/
def read (base : Nat) (s : Text) : Except NumeralError Int :=
  let (negative, unsigned) := takeSign ((s.map plain).dropWhile isPadding)
  let ⟨radix, mustBeZero, rest⟩ := front base unsigned
  let digits := rest.takeWhile fun c => isDigitOf radix c || c == '_'
  let behind := rest.dropWhile fun c => isDigitOf radix c || c == '_'
  let count := (digits.filter (· ≠ '_')).length
  let n := value radix digits
  if !wellSeparated true digits then .error (.malformed base s)
  else if radix = 10 ∧ digitLimit < count then .error (.tooLongToRead count)
  else if (mustBeZero && n != 0) || !behind.all isPadding then .error (.malformed base s)
  else .ok (if negative then -n else n)

end ChipEight.Numeral
