/-
# ChipEight.Text.Utf8 -- text from bytes

`decodeUtf8` reads bytes as UTF-8. What it refuses it describes by the place of the faulty sequence
and one of three reasons:

* the first byte starts no sequence;
* a byte inside the sequence is not one that may stand there; the faulty part are the bytes before
  it;
* the bytes end inside the sequence; the faulty part goes to the end.

The second byte of a sequence is bounded more narrowly than the others, so that no character has two
encodings and no half of a surrogate pair has one.

`unifyLines` turns the line ends of other systems, a carriage return with or without a line feed,
into line feeds.
-/
import ChipEight.Numeral.Basic
import ChipEight.Text.Basic

namespace ChipEight.Text

/-- Why bytes are no text. -/
inductive Utf8Reason where
  | badStart
  | badContinuation
  | unfinished
  deriving DecidableEq, Repr

/-- Bytes that are no text. -/
structure Utf8Error where
  /-- The first byte of the sequence. -/
  first : UInt8
  /-- Its place. -/
  start : Nat
  /-- The number of faulty bytes. -/
  length : Nat
  /-- What is wrong. -/
  reason : Utf8Reason
  deriving DecidableEq, Repr

/-- The words for a reason. -/
def Utf8Reason.message : Utf8Reason → Text
  | .badStart => "invalid start byte".toList
  | .badContinuation => "invalid continuation byte".toList
  | .unfinished => "unexpected end of data".toList

/-- The words for bytes that are no text. One byte is shown, and of several their places. -/
def Utf8Error.message (e : Utf8Error) : Text :=
  "'utf-8' codec can't decode ".toList ++
    (if e.length = 1 then
      "byte ".toList ++ Numeral.hex 4 e.first.toNat ++ " in position ".toList ++
        Numeral.decimal e.start
    else
      "bytes in position ".toList ++ Numeral.decimal e.start ++ "-".toList ++
        Numeral.decimal (e.start + e.length - 1 : Nat)) ++
    ": ".toList ++ e.reason.message

/-! ## One character -/

/-- What the first byte of a sequence of several bytes says about the others. -/
structure Lead where
  /-- The number of the other bytes. -/
  others : Nat
  /-- The least value of the second byte. -/
  low : Nat
  /-- The greatest value of the second byte. -/
  high : Nat
  /-- The bits of the first byte that belong to the code point. -/
  bits : Nat

/-- Reads the first byte of a sequence of several bytes. -/
def lead? (b : UInt8) : Option Lead :=
  let n := b.toNat
  if n < 0xC2 then none
  else if n < 0xE0 then some ⟨1, 0x80, 0xBF, n - 0xC0⟩
  else if n = 0xE0 then some ⟨2, 0xA0, 0xBF, 0⟩
  else if n = 0xED then some ⟨2, 0x80, 0x9F, n - 0xE0⟩
  else if n < 0xF0 then some ⟨2, 0x80, 0xBF, n - 0xE0⟩
  else if n = 0xF0 then some ⟨3, 0x90, 0xBF, 0⟩
  else if n < 0xF4 then some ⟨3, 0x80, 0xBF, n - 0xF0⟩
  else if n = 0xF4 then some ⟨3, 0x80, 0x8F, n - 0xF0⟩
  else none

/-- Adds the other bytes of a sequence to the bits read so far. `seen` counts the bytes so far; the
error is the number of faulty bytes, with the reason. -/
def continuation (others low high seen bits : Nat) (bytes : List UInt8) :
    Except (Nat × Utf8Reason) Nat :=
  match others, bytes with
  | 0, _ => .ok bits
  | _ + 1, [] => .error (seen, .unfinished)
  | k + 1, b :: bs =>
    if low ≤ b.toNat ∧ b.toNat ≤ high then
      continuation k 0x80 0xBF (seen + 1) (64 * bits + (b.toNat - 0x80)) bs
    else .error (seen, .badContinuation)

/-- The character that starts with a byte, and the number of the other bytes it takes. -/
def firstChar (b : UInt8) (bytes : List UInt8) : Except (Nat × Utf8Reason) (Char × Nat) :=
  if b.toNat < 0x80 then .ok (Char.ofNat b.toNat, 0)
  else
    match lead? b with
    | none => .error (1, .badStart)
    | some l =>
      match continuation l.others l.low l.high 1 l.bits bytes with
      | .error e => .error e
      | .ok code => .ok (Char.ofNat code, l.others)

/-! ## Texts -/

/-- The text of bytes that start at a place. -/
def decodeUtf8From (start : Nat) (bytes : List UInt8) : Except Utf8Error Text :=
  match bytes with
  | [] => .ok []
  | b :: bs =>
    match firstChar b bs with
    | .error (length, reason) => .error ⟨b, start, length, reason⟩
    | .ok (c, others) =>
      match decodeUtf8From (start + 1 + others) (bs.drop others) with
      | .error e => .error e
      | .ok t => .ok (c :: t)
termination_by bytes.length
decreasing_by
  simp only [List.length_drop, List.length_cons]
  omega

/-- The text of bytes. -/
def decodeUtf8 (bytes : List UInt8) : Except Utf8Error Text :=
  decodeUtf8From 0 bytes

/-- The text with line feeds as its only line ends. -/
def unifyLines : Text → Text
  | [] => []
  | '\r' :: '\n' :: cs => '\n' :: unifyLines cs
  | '\r' :: cs => '\n' :: unifyLines cs
  | c :: cs => c :: unifyLines cs

end ChipEight.Text
