/-
# ChipEight.Proofs.Digits -- written digits mean their number

Digits that `Nat.toDigits` writes in a radix of at most sixteen are digits of that radix and mean
the number they were written for (`value_toDigits`). Zeros in front of them mean nothing.

A literal that is a sign, a mark and digits behind it is read by `read` in the steps of its definition:
no blank stands in front, the sign is taken off, the mark names the radix, and the digits reach up to
the end (`read_signed`). A sign may be left out where the number is not negative.
-/
import ChipEight.Numeral.Literal
import Mathlib.Data.List.Basic
import Mathlib.Data.List.TakeWhile

namespace ChipEight.Numeral

open Text

/-! ## Single digits -/

theorem digit?_digitChar {d : Nat} (h : d < 16) : digit? d.digitChar = some d := by
  have all : ∀ d < 16, digit? (Nat.digitChar d) = some d := by decide
  exact all d h

theorem isDigitOf_digitChar {radix d : Nat} (hr : radix ≤ 16) (h : d < radix) :
    isDigitOf radix d.digitChar = true := by
  rw [isDigitOf, digit?_digitChar (by omega)]
  exact decide_eq_true h

/-- Digits of every radix are ASCII digits and letters. -/
theorem isDigitOf_range {radix : Nat} {c : Char} (h : isDigitOf radix c = true) :
    (48 ≤ c.toNat ∧ c.toNat ≤ 57) ∨ (65 ≤ c.toNat ∧ c.toNat ≤ 90) ∨
      (97 ≤ c.toNat ∧ c.toNat ≤ 122) := by
  have hd : (digit? c).isSome = true := by
    cases hc : digit? c with
    | some d => rfl
    | none => simp [isDigitOf, hc] at h
  simp only [digit?, Bool.and_eq_true, decide_eq_true_eq] at hd
  split at hd
  · exact .inl ‹_›
  · split at hd
    · exact .inr (.inr ‹_›)
    · split at hd
      · exact .inr (.inl ‹_›)
      · simp at hd

theorem plain_of_isDigitOf {radix : Nat} {c : Char} (h : isDigitOf radix c = true) :
    plain c = c := by
  have := isDigitOf_range h
  exact if_pos (by omega)

theorem map_plain {radix : Nat} {digits : Text} (h : ∀ c ∈ digits, isDigitOf radix c = true) :
    digits.map plain = digits := by
  rw [List.map_congr_left fun c hc => plain_of_isDigitOf (h c hc)]
  exact List.map_id' digits

/-- In front of a digit nothing is taken away. -/
theorem takeSign_of_digit {radix : Nat} {c : Char} (hc : isDigitOf radix c = true) (cs : Text) :
    takeSign ((c :: cs).dropWhile isPadding) = (false, c :: cs) := by
  have hrange := isDigitOf_range hc
  have hpadding : isPadding c = false := by
    simp only [isPadding, Bool.or_eq_false_iff, beq_eq_false_iff_ne, Bool.and_eq_false_iff,
      decide_eq_false_iff_not]
    refine ⟨?_, by omega⟩
    rintro rfl
    exact absurd hrange (by decide)
  rw [List.dropWhile_cons, hpadding]
  unfold takeSign
  split
  · rename_i he
    cases he
    exact absurd hrange (by decide)
  · rename_i he
    cases he
    exact absurd hrange (by decide)
  · rfl

theorem ne_underscore_of_isDigitOf {radix : Nat} {c : Char} (h : isDigitOf radix c = true) :
    c ≠ '_' := by
  rintro rfl
  exact absurd (isDigitOf_range h) (by decide)

/-! ## The value of digits -/

theorem value_append_digit (radix : Nat) (digits : Text) {c : Char} {d : Nat}
    (h : digit? c = some d) : value radix (digits ++ [c]) = radix * value radix digits + d := by
  simp only [value, List.foldl_append, List.foldl_cons, List.foldl_nil, h]

theorem value_zeros_append (radix k : Nat) (digits : Text) :
    value radix (List.replicate k '0' ++ digits) = value radix digits := by
  have hzeros : value radix (List.replicate k '0') = 0 := by
    induction k with
    | zero => rfl
    | succ k ih =>
      have hzero : digit? '0' = some 0 := by decide
      rw [List.replicate_succ', value_append_digit radix _ hzero, ih]
      rfl
  unfold value at hzeros ⊢
  rw [List.foldl_append, hzeros]

/-- Digits mean the number that they were written for. -/
theorem value_toDigits {radix : Nat} (hlow : 1 < radix) (hhigh : radix ≤ 16) (n : Nat) :
    value radix (Nat.toDigits radix n) = n := by
  -- a number is one digit, or a smaller number with one digit behind it
  induction n using Nat.base_induction radix hlow with
  | single m hm =>
    rw [Nat.toDigits_of_lt_base hm, ← List.nil_append [m.digitChar],
      value_append_digit radix [] (digit?_digitChar (by omega))]
    simp [value]
  | digit m k hk hm ih =>
    rw [← Nat.toDigits_append_toDigits hlow hm hk, Nat.toDigits_of_lt_base hk,
      value_append_digit radix _ (digit?_digitChar (by omega)), ih]

/-- Every written digit stands for a number below the radix. -/
theorem exists_of_mem_toDigits {radix : Nat} (hlow : 1 < radix) {n : Nat} {c : Char}
    (h : c ∈ Nat.toDigits radix n) : ∃ d < radix, d.digitChar = c := by
  induction n using Nat.base_induction radix hlow with
  | single m hm =>
    rw [Nat.toDigits_of_lt_base hm, List.mem_singleton] at h
    exact ⟨m, hm, h.symm⟩
  | digit m k hk hm ih =>
    rw [← Nat.toDigits_append_toDigits hlow hm hk, Nat.toDigits_of_lt_base hk, List.mem_append,
      List.mem_singleton] at h
    rcases h with h | rfl
    · exact ih h
    · exact ⟨k, hk, rfl⟩

theorem isDigitOf_of_mem_toDigits {radix : Nat} (hlow : 1 < radix) (hhigh : radix ≤ 16) (n : Nat) :
    ∀ c ∈ Nat.toDigits radix n, isDigitOf radix c = true := by
  intro c hc
  obtain ⟨d, hd, rfl⟩ := exists_of_mem_toDigits hlow hc
  exact isDigitOf_digitChar hhigh hd

/-! ## Signs -/

/-- The sign may stand in front of the digits of the number. A zero has either. -/
inductive SignFor (n : Int) : Text → Prop where
  | none (h : 0 ≤ n) : SignFor n []
  | plus (h : 0 ≤ n) : SignFor n ['+']
  | minus (h : n ≤ 0) : SignFor n ['-']

theorem signFor_sign (n : Int) : SignFor n (sign n) := by
  unfold sign
  split
  · exact .minus (by omega)
  · exact .none (by omega)

/-- A sign in front of a digit is taken off, and settles which number the digits stand for. -/
theorem takeSign_signed {n : Int} {lead : Text} (hlead : SignFor n lead) {radix : Nat} {c : Char}
    (hc : isDigitOf radix c = true) {cs : Text} (hplain : (c :: cs).map plain = c :: cs) :
    ∃ negative, takeSign (((lead ++ c :: cs).map plain).dropWhile isPadding) = (negative, c :: cs) ∧
      (if negative then -(n.natAbs : Int) else (n.natAbs : Int)) = n := by
  rw [List.map_append, hplain]
  cases hlead with
  | none h => exact ⟨false, takeSign_of_digit hc cs, Int.natAbs_of_nonneg h⟩
  | plus h => exact ⟨false, rfl, Int.natAbs_of_nonneg h⟩
  | minus h =>
    refine ⟨true, rfl, ?_⟩
    show -(n.natAbs : Int) = n
    omega

/-! ## Reading -/

theorem wellSeparated_of_digits {radix : Nat} {digits : Text}
    (h : ∀ c ∈ digits, isDigitOf radix c = true) : wellSeparated false digits = true := by
  induction digits with
  | nil => rfl
  | cons c cs ih =>
    rw [wellSeparated, if_neg (ne_underscore_of_isDigitOf (h c List.mem_cons_self))]
    exact ih fun d hd => h d (List.mem_cons_of_mem c hd)

/-- A literal that has nothing behind its digits is read as the number they mean, with its sign. -/
theorem read_of_digits {base radix : Nat} {negative : Bool} {s unsigned digits : Text}
    (hsign : takeSign ((s.map plain).dropWhile isPadding) = (negative, unsigned))
    (hfront : front base unsigned = ⟨radix, false, digits⟩) (hne : digits ≠ [])
    (h : ∀ c ∈ digits, isDigitOf radix c = true)
    (hlimit : radix = 10 → digits.length ≤ digitLimit) :
    read base s =
      .ok (if negative then -(value radix digits : Int) else (value radix digits : Int)) := by
  have hall : ∀ c ∈ digits, (isDigitOf radix c || c == '_') = true := by
    intro c hc
    rw [h c hc]
    rfl
  have htake : digits.takeWhile (fun c => isDigitOf radix c || c == '_') = digits :=
    List.takeWhile_eq_self_iff.mpr hall
  have hdrop : digits.dropWhile (fun c => isDigitOf radix c || c == '_') = [] :=
    List.dropWhile_eq_nil_iff.mpr hall
  have hsep : wellSeparated true digits = true := by
    obtain ⟨c, cs, rfl⟩ := List.exists_cons_of_ne_nil hne
    rw [wellSeparated, if_neg (ne_underscore_of_isDigitOf (h c List.mem_cons_self))]
    exact wellSeparated_of_digits fun d hd => h d (List.mem_cons_of_mem c hd)
  have hcount : ¬ (radix = 10 ∧ digitLimit < (digits.filter (· ≠ '_')).length) := by
    rintro ⟨hr, hlong⟩
    have := List.length_filter_le (fun c => decide (c ≠ '_')) digits
    have := hlimit hr
    omega
  simp only [read, hsign, hfront, htake, hdrop, hsep, hcount, Bool.not_true, Bool.false_eq_true,
    if_false, Bool.false_and, List.all_nil, Bool.or_self]

/-- A literal with a sign in front is read as the number of this sign and of what its digits mean. -/
theorem read_signed {base radix radix' : Nat} {n : Int} {lead digits cs : Text} {c : Char}
    (hlead : SignFor n lead) (hc : isDigitOf radix' c = true)
    (hplain : (c :: cs).map plain = c :: cs) (hfront : front base (c :: cs) = ⟨radix, false, digits⟩)
    (hne : digits ≠ []) (h : ∀ c ∈ digits, isDigitOf radix c = true)
    (hlimit : radix = 10 → digits.length ≤ digitLimit) (hvalue : value radix digits = n.natAbs) :
    read base (lead ++ c :: cs) = .ok n := by
  obtain ⟨negative, hsign, hn⟩ := takeSign_signed hlead hc hplain
  rw [read_of_digits hsign hfront hne h hlimit, hvalue, hn]

/-- The letters that name a radix behind a zero. -/
def radixMarks : List (Char × Nat) :=
  [('x', 16), ('X', 16), ('o', 8), ('O', 8), ('b', 2), ('B', 2)]

theorem front_marked {mark : Char} {radix : Nat} (hmark : (mark, radix) ∈ radixMarks)
    (digits : Text) : front 0 ('0' :: mark :: digits) = ⟨radix, false, skipUnderscore digits⟩ := by
  simp only [radixMarks, List.mem_cons, Prod.mk.injEq, List.not_mem_nil, or_false] at hmark
  rcases hmark with h | h | h | h | h | h <;> obtain ⟨rfl, rfl⟩ := h <;> rfl

/-- Digits behind a mark are read as the number they mean, with its sign. -/
theorem read_marked {n : Int} {lead digits : Text} {mark : Char} {radix : Nat}
    (hlead : SignFor n lead) (hmark : (mark, radix) ∈ radixMarks) (hne : digits ≠ [])
    (h : ∀ c ∈ digits, isDigitOf radix c = true) (hvalue : value radix digits = n.natAbs) :
    read 0 (lead ++ '0' :: mark :: digits) = .ok n := by
  have hmarks : ∀ entry ∈ radixMarks, plain entry.1 = entry.1 ∧ entry.2 ≠ 10 := by decide
  obtain ⟨hletter, hten⟩ := hmarks _ hmark
  have hplain : ('0' :: mark :: digits).map plain = '0' :: mark :: digits := by
    rw [List.map_cons, List.map_cons, map_plain h, hletter]
    rfl
  have hzero : isDigitOf 10 '0' = true := by decide
  -- an underscore behind the mark would be no digit
  have hskip : skipUnderscore digits = digits := by
    unfold skipUnderscore
    split
    · exact absurd rfl (ne_underscore_of_isDigitOf (h '_' List.mem_cons_self))
    · rfl
  have hfront := front_marked hmark digits
  rw [hskip] at hfront
  exact read_signed hlead hzero hplain hfront hne h (fun he => absurd he hten) hvalue

/-- Decimal digits are read as the number they were written for, with its sign, in every base that
takes them for decimal digits. -/
theorem read_toDigits {base : Nat} {n : Int} {lead : Text} (hlead : SignFor n lead)
    (hfront : front base (Nat.toDigits 10 n.natAbs) = ⟨10, false, Nat.toDigits 10 n.natAbs⟩)
    (hlimit : (Nat.toDigits 10 n.natAbs).length ≤ digitLimit) :
    read base (lead ++ Nat.toDigits 10 n.natAbs) = .ok n := by
  have hdigits : ∀ c ∈ Nat.toDigits 10 n.natAbs, isDigitOf 10 c = true :=
    isDigitOf_of_mem_toDigits (by decide) (by decide) _
  have hvalue : value 10 (Nat.toDigits 10 n.natAbs) = n.natAbs :=
    value_toDigits (by decide) (by decide) _
  have hne : Nat.toDigits 10 n.natAbs ≠ [] := Nat.toDigits_ne_nil
  have hplain := map_plain hdigits
  generalize Nat.toDigits 10 n.natAbs = digits at *
  obtain ⟨c, cs, rfl⟩ := List.exists_cons_of_ne_nil hne
  exact read_signed hlead (hdigits c List.mem_cons_self) hplain hfront hne hdigits (fun _ => hlimit)
    hvalue

/-- A number in hexadecimal is its mark and digits behind it, zeros at the front included. -/
theorem hex_natCast (width n : Nat) :
    hex width n = '0' :: 'x' :: (List.replicate (width - 2 - (Nat.toDigits 16 n).length) '0' ++
      Nat.toDigits 16 n) := by
  have hsign : sign n = [] := if_neg (by omega)
  rw [hex, hsign, Int.natAbs_natCast]
  rfl

theorem exists_of_mem_hexDigits {k n : Nat} {c : Char}
    (h : c ∈ List.replicate k '0' ++ Nat.toDigits 16 n) : ∃ d < 16, d.digitChar = c := by
  rw [List.mem_append, List.mem_replicate] at h
  rcases h with ⟨_, rfl⟩ | h
  · exact ⟨0, by decide, rfl⟩
  · exact exists_of_mem_toDigits (by decide) h

/-- A number in capital letters has a digit at least, and no blanks. -/
theorem upperHex_ne_nil (width : Nat) (n : Int) : upperHex width n ≠ [] := by
  have hdigits : Nat.toDigits 16 n.natAbs ≠ [] := Nat.toDigits_ne_nil
  simp [upperHex, zeroPad, hdigits]

theorem isBlank_of_mem_upperHex {width : Nat} {n : Int} {c : Char} (h : c ∈ upperHex width n) :
    isBlank c = false := by
  have hdigits : ∀ d < 16, isBlank (Nat.digitChar d).toUpper = false := by decide
  simp only [upperHex, sign, zeroPad, List.mem_append, List.mem_replicate, List.mem_map] at h
  rcases h with h | ⟨-, rfl⟩ | ⟨digit, hdigit, rfl⟩
  · split at h
    · rw [List.mem_singleton.mp h]
      decide
    · cases h
  · decide
  · obtain ⟨d, hd, rfl⟩ := exists_of_mem_toDigits (by decide) hdigit
    exact hdigits d hd

theorem not_mem_upperHex {c : Char} (hc : isBlank c = true) (width : Nat) (n : Int) :
    c ∉ upperHex width n := by
  intro hmem
  rw [isBlank_of_mem_upperHex hmem] at hc
  cases hc

/-! ## Columns -/

/-- A column of hexadecimal digits that means a number. -/
structure IsColumn (column : Text) (width n : Nat) : Prop where
  length : column.length = width
  digits : ∀ c ∈ column, isDigitOf 16 c = true
  number : read 16 column = .ok n

/-- A row that starts with two blanks, a column of three digits, a colon and a blank. -/
theorem IsColumn.row {column : Text} {n : Nat} (h : IsColumn column 3 n) (rest : Text) :
    let row := "  ".toList ++ (column ++ (": ".toList ++ rest))
    (row.drop 2).take 3 = column ∧ row.drop 7 = rest := by
  refine ⟨List.take_left' h.length, ?_⟩
  show List.drop 5 (column ++ _) = rest
  rw [← List.drop_drop (i := 2) (j := 3), List.drop_left' h.length]
  rfl

/-- Digits without a mark are read in base sixteen as the number they mean. -/
theorem read_sixteen {digits : Text} (hne : digits ≠ [])
    (h : ∀ c ∈ digits, isDigitOf 16 c = true) : read 16 digits = .ok (value 16 digits) := by
  have hstart : takeSign ((digits.map plain).dropWhile isPadding) = (false, digits) := by
    rw [map_plain h]
    obtain ⟨c, cs, rfl⟩ := List.exists_cons_of_ne_nil hne
    exact takeSign_of_digit (h c List.mem_cons_self) cs
  have hfront : front 16 digits = ⟨16, false, digits⟩ := by
    unfold front
    split
    · rename_i c r
      have hc : c ≠ 'x' ∧ c ≠ 'X' := by
        refine ⟨?_, ?_⟩ <;> rintro rfl
        · exact absurd (h 'x' (by simp)) (by decide)
        · exact absurd (h 'X' (by simp)) (by decide)
      simp [hc.1, hc.2]
    · rfl
  rw [read_of_digits hstart hfront hne h (by omega)]
  rfl

theorem digit?_toUpper {d : Nat} (h : d < 16) : digit? d.digitChar.toUpper = some d := by
  have all : ∀ d < 16, digit? (Nat.digitChar d).toUpper = some d := by decide
  exact all d h

theorem value_map_toUpper (n : Nat) :
    value 16 ((Nat.toDigits 16 n).map Char.toUpper) = n := by
  refine Eq.trans ?_ (value_toDigits (show 1 < 16 by decide) (by decide) n)
  unfold value
  rw [List.foldl_map]
  refine List.foldl_ext _ _ _ fun m c hc => ?_
  obtain ⟨d, hd, rfl⟩ := exists_of_mem_toDigits (by decide) hc
  rw [digit?_toUpper hd, digit?_digitChar hd]

theorem upperHex_natCast (width n : Nat) :
    upperHex width n = List.replicate (width - (Nat.toDigits 16 n).length) '0' ++
      (Nat.toDigits 16 n).map Char.toUpper := by
  have hsign : sign n = [] := if_neg (by omega)
  rw [upperHex, hsign, Int.natAbs_natCast, zeroPad, List.length_map]
  rfl

/-- A number that is not too large is written as a column. -/
theorem isColumn_upperHex {width n : Nat} (hwidth : 0 < width) (h : n < Nat.pow 16 width) :
    IsColumn (upperHex width n) width n := by
  have hdigits : ∀ c ∈ upperHex width n, isDigitOf 16 c = true := by
    intro c hc
    rw [upperHex_natCast, List.mem_append, List.mem_replicate, List.mem_map] at hc
    rcases hc with ⟨-, rfl⟩ | ⟨c, hc, rfl⟩
    · decide
    · obtain ⟨d, hd, rfl⟩ := exists_of_mem_toDigits (by decide) hc
      rw [isDigitOf, digit?_toUpper hd]
      exact decide_eq_true hd
  have hlength := (Nat.length_toDigits_le_iff (b := 16) (by decide) hwidth).mpr h
  refine ⟨?_, hdigits, ?_⟩
  · rw [upperHex_natCast, List.length_append, List.length_replicate, List.length_map]
    omega
  · rw [read_sixteen (upperHex_ne_nil width n) hdigits, upperHex_natCast, value_zeros_append,
      value_map_toUpper]

/-- A number in hexadecimal is made of a minus, a mark and digits in small letters. -/
theorem of_mem_hex {p : Char → Prop} (minus : p '-') (mark : p 'x')
    (digits : ∀ d < 16, p (Nat.digitChar d)) {width : Nat} {n : Int} {c : Char}
    (h : c ∈ hex width n) : p c := by
  simp only [hex, sign, zeroPad, List.mem_append, List.mem_cons, List.not_mem_nil, or_false] at h
  rcases h with (h | rfl | rfl) | h
  · split at h
    · rw [List.mem_singleton.mp h]
      exact minus
    · cases h
  · exact digits 0 (by decide)
  · exact mark
  · obtain ⟨d, hd, rfl⟩ := exists_of_mem_hexDigits (List.mem_append.mpr h)
    exact digits d hd

/-- What is written in hexadecimal is read again. -/
theorem read_hex (width : Nat) (n : Int) : read 0 (hex width n) = .ok n := by
  have hwritten : hex width n = sign n ++ '0' :: 'x' ::
      zeroPad (width - (sign n ++ ['0', 'x']).length) (Nat.toDigits 16 n.natAbs) := by
    simp [hex]
  rw [hwritten, zeroPad]
  have hmark : ('x', 16) ∈ radixMarks := by decide
  apply read_marked (signFor_sign n) hmark
  · simp [Nat.toDigits_ne_nil]
  · intro c hc
    obtain ⟨d, hd, rfl⟩ := exists_of_mem_hexDigits hc
    exact isDigitOf_digitChar (by decide) hd
  · rw [value_zeros_append, value_toDigits (by decide) (by decide)]

end ChipEight.Numeral
