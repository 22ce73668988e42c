/-
# ChipEight.Text.Characters -- classes of characters, and white space

A class of characters is written down as the list of its runs of consecutive code points. A run is a
pair of its first and its last code point, so a single character is a pair of equal numbers. Only
`covers` reads such a list.

Unicode lists the ten decimal digits of a script as ten consecutive code points from zero to nine. So
the table `zeros` of the zeros is enough: `digitValue? c` is the distance of `c` from the zero it
follows, if that distance is below ten.

`isBlank` is the white space of Unicode together with the four information separators U+001C to
U+001F. A line feed is blank like the others: who reads lines takes the text apart first. `trim` takes
blanks away at both ends, `words` takes the text apart at its blanks, and `firstWord?` takes one word
off the front. None of them ever returns a piece that starts with a blank.
-/
import ChipEight.Text.Basic

namespace ChipEight.Text

/-! ## Runs of code points -/

/-- The character lies in one of the runs. -/
def covers (runs : List (Nat × Nat)) (c : Char) : Bool :=
  runs.any fun run => run.1 ≤ c.toNat && c.toNat ≤ run.2

theorem covers_iff (runs : List (Nat × Nat)) (c : Char) :
    covers runs c = true ↔ ∃ run ∈ runs, run.1 ≤ c.toNat ∧ c.toNat ≤ run.2 := by
  simp [covers]

/-- What holds of the characters with the first code points, one by one, holds of each of them. -/
theorem of_toNat_lt {p : Char → Prop} {bound : Nat} (h : ∀ n < bound, p (Char.ofNat n)) {c : Char}
    (hc : c.toNat < bound) : p c := by
  have hchar := h c.toNat hc
  rwa [Char.ofNat_toNat] at hchar

/-- Every run of one list ends before or starts after every run of the other. -/
def areApart (runs others : List (Nat × Nat)) : Bool :=
  others.all fun o => runs.all fun r => r.2.blt o.1 || o.2.blt r.1

/-- Two lists of runs that are apart share no character. -/
theorem not_covers_of_apart {runs others : List (Nat × Nat)} (apart : areApart runs others = true)
    {c : Char} (h : covers runs c = true) : covers others c = false := by
  simp only [areApart, List.all_eq_true, Bool.or_eq_true, Nat.blt_eq] at apart
  obtain ⟨r, hr, hlow, hhigh⟩ := (covers_iff runs c).mp h
  cases ho : covers others c with
  | false => rfl
  | true =>
    obtain ⟨o, hmem, olow, ohigh⟩ := (covers_iff others c).mp ho
    rcases apart o hmem r hr with h | h <;> omega

/-! ## Decimal digits -/

/-- The code points of the digit zero in each script. -/
def zeros : List Nat :=
  [0x30, 0x660, 0x6f0, 0x7c0, 0x966, 0x9e6, 0xa66, 0xae6, 0xb66, 0xbe6, 0xc66, 0xce6, 0xd66,
   0xde6, 0xe50, 0xed0, 0xf20, 0x1040, 0x1090, 0x17e0, 0x1810, 0x1946, 0x19d0, 0x1a80, 0x1a90,
   0x1b50, 0x1bb0, 0x1c40, 0x1c50, 0xa620, 0xa8d0, 0xa900, 0xa9d0, 0xa9f0, 0xaa50, 0xabf0,
   0xff10, 0x104a0, 0x10d30, 0x11066, 0x110f0, 0x11136, 0x111d0, 0x112f0, 0x11450, 0x114d0,
   0x11650, 0x116c0, 0x11730, 0x118e0, 0x11950, 0x11c50, 0x11d50, 0x11da0, 0x16a60, 0x16ac0,
   0x16b50, 0x1d7ce, 0x1d7d8, 0x1d7e2, 0x1d7ec, 0x1d7f6, 0x1e140, 0x1e2f0, 0x1e950, 0x1fbf0]

/-- The value of a decimal digit of any script. -/
def digitValue? (c : Char) : Option Nat :=
  (zeros.find? fun first => first ≤ c.toNat && c.toNat < first + 10).map (c.toNat - ·)

/-! ## White space -/

/-- The code points of white space. -/
def blankRuns : List (Nat × Nat) :=
  [(9, 0xd), (0x1c, 0x20), (0x85, 0x85), (0xa0, 0xa0), (0x1680, 0x1680), (0x2000, 0x200a),
   (0x2028, 0x2029), (0x202f, 0x202f), (0x205f, 0x205f), (0x3000, 0x3000)]

/-- White space. -/
def isBlank (c : Char) : Bool :=
  covers blankRuns c

/-- The text from its first character that is not blank. -/
def trimStart (s : Text) : Text :=
  s.dropWhile isBlank

/-- The text up to its last character that is not blank. -/
def trimEnd (s : Text) : Text :=
  (s.reverse.dropWhile isBlank).reverse

/-- The text without the blanks at its two ends. -/
def trim (s : Text) : Text :=
  trimEnd (trimStart s)

/-- The text holds nothing but blanks. -/
def isAllBlank (s : Text) : Bool :=
  s.all isBlank

/-- The first word, and what follows it without the blanks between; no word if all is blank.
Blanks at the very end of what follows are kept. -/
def firstWord? (s : Text) : Option (Text × Text) :=
  match trimStart s with
  | [] => none
  | c :: cs =>
    some (c :: cs.takeWhile (fun d => !isBlank d),
      trimStart (cs.dropWhile fun d => !isBlank d))

theorem length_trimStart_le (s : Text) : (trimStart s).length ≤ s.length :=
  (List.dropWhile_sublist _).length_le

/-- What follows the first word is shorter than the text. -/
theorem length_lt_of_firstWord? {s word rest : Text} (h : firstWord? s = some (word, rest)) :
    rest.length < s.length := by
  have hs := length_trimStart_le s
  unfold firstWord? at h
  split at h
  · simp at h
  · rename_i c cs htrim
    simp only [Option.some.injEq, Prod.mk.injEq] at h
    have hr := length_trimStart_le (cs.dropWhile fun d => !isBlank d)
    have hd : (cs.dropWhile fun d => !isBlank d).length ≤ cs.length :=
      (List.dropWhile_sublist _).length_le
    rw [htrim, List.length_cons] at hs
    rw [← h.2]
    omega

/-- The words of the text: its longest pieces without a blank. -/
def words (s : Text) : List Text :=
  match h : firstWord? s with
  | none => []
  | some (word, rest) =>
    have := length_lt_of_firstWord? h
    word :: words rest
termination_by s.length

end ChipEight.Text
