/-
# ChipEight.Proofs.Literals -- literals are numbers, and names are not

A number has many literals: its decimal digits, or a mark and the digits of the radix that the mark
names, with zeros in front of them and letters in either case, and each of them with a sign. All of
them are read as the number (`number_of_literal`), whatever blanks stand around them.

A name is never read as a number (`number_of_isIdentifier`). It starts with a letter or an underscore.
A letter is no decimal digit of any script and no sign, and without a mark a number has no other
digits; an underscore has to stand behind a digit or a mark. So the order in which an operand is looked
up among the labels and read as a number does not matter.
-/
import ChipEight.Assembly.Layout
import ChipEight.Proofs.Digits
import ChipEight.Proofs.LetterCase
import ChipEight.Proofs.Statement

namespace ChipEight

open Text Numeral

/-! ## Literals -/

namespace Numeral

/-- The text is a literal of the number: decimal digits that are not too many, or digits behind a
mark, with a sign in front that fits the number. -/
inductive IsLiteral (n : Int) : Text → Prop where
  | decimal {lead : Text} (sign : SignFor n lead)
      (short : (Nat.toDigits 10 n.natAbs).length ≤ digitLimit) :
      IsLiteral n (lead ++ Nat.toDigits 10 n.natAbs)
  | marked {lead digits : Text} {mark : Char} {radix : Nat} (sign : SignFor n lead)
      (known : (mark, radix) ∈ radixMarks) (zeros : Nat)
      (same : SameButCase digits (Nat.toDigits radix n.natAbs)) :
      IsLiteral n (lead ++ '0' :: mark :: (List.replicate zeros '0' ++ digits))

theorem digit?_toLower (c : Char) : digit? c.toLower = digit? c := by
  apply of_toLower
  decide

theorem value_lowerAscii (radix : Nat) (s : Text) : value radix (lowerAscii s) = value radix s := by
  unfold value lowerAscii
  rw [List.foldl_map]
  simp only [digit?_toLower]

theorem isDigitOf_toLower (radix : Nat) (c : Char) : isDigitOf radix c.toLower = isDigitOf radix c := by
  rw [isDigitOf, digit?_toLower, isDigitOf]

theorem radix_of_mark {mark : Char} {radix : Nat} (h : (mark, radix) ∈ radixMarks) :
    1 < radix ∧ radix ≤ 16 := by
  have all : ∀ entry ∈ radixMarks, 1 < entry.2 ∧ entry.2 ≤ 16 := by decide
  exact all _ h

/-- A number above zero is not written with a zero in front. -/
theorem head?_toDigits {n : Nat} (h : 0 < n) : (Nat.toDigits 10 n).head? ≠ some '0' := by
  have hten : 1 < 10 := by decide
  induction n using Nat.base_induction 10 hten with
  | single m hm =>
    have hdigits : ∀ d < 10, 0 < d → Nat.digitChar d ≠ '0' := by decide
    rw [Nat.toDigits_of_lt_base hm]
    simpa using hdigits m hm h
  | digit m k hk hm ih =>
    obtain ⟨c, cs, hcs⟩ := List.exists_cons_of_ne_nil (Nat.toDigits_ne_nil (b := 10) (n := m))
    have hfirst := ih hm
    rw [← Nat.toDigits_append_toDigits hten hm hk, hcs]
    rw [hcs] at hfirst
    exact hfirst

/-- Decimal digits have no mark, and are not taken for digits that have to mean zero. -/
theorem front_toDigits (n : Nat) :
    front 0 (Nat.toDigits 10 n) = ⟨10, false, Nat.toDigits 10 n⟩ := by
  rcases Nat.eq_zero_or_pos n with rfl | hpos
  · rfl
  · have hhead := head?_toDigits hpos
    generalize Nat.toDigits 10 n = digits at hhead ⊢
    unfold front
    split
    · exact absurd rfl hhead
    · rfl

/-- What stands behind the mark of a literal are digits of its radix. -/
theorem isDigitOf_behind_mark {mark : Char} {radix n : Nat} {digits : Text}
    (known : (mark, radix) ∈ radixMarks) (zeros : Nat)
    (same : SameButCase digits (Nat.toDigits radix n)) :
    ∀ c ∈ List.replicate zeros '0' ++ digits, isDigitOf radix c = true := by
  obtain ⟨hlow, hhigh⟩ := radix_of_mark known
  intro c hc
  rcases List.mem_append.mp hc with hc | hc
  · have hzero : isDigitOf radix (Nat.digitChar 0) = true := isDigitOf_digitChar hhigh (by omega)
    rw [List.eq_of_mem_replicate hc]
    exact hzero
  · have hsame (d : Char) : isDigitOf radix d.toLower = true ↔ isDigitOf radix d = true := by
      rw [isDigitOf_toLower]
    exact same.symm.forall_mem hsame (isDigitOf_of_mem_toDigits hlow hhigh n) c hc

/-- A literal is read as its number. -/
theorem IsLiteral.read_eq {n : Int} {t : Text} (h : IsLiteral n t) : read 0 t = .ok n := by
  cases h with
  | decimal sign short => exact read_toDigits sign (front_toDigits n.natAbs) short
  | @marked lead digits mark radix sign known zeros same =>
    obtain ⟨hlow, hhigh⟩ := radix_of_mark known
    have hne : digits ≠ [] := same.symm.ne_nil Nat.toDigits_ne_nil
    apply read_marked sign known
    · simp [hne]
    · exact isDigitOf_behind_mark known zeros same
    · rw [value_zeros_append, ← value_lowerAscii, same, value_lowerAscii, value_toDigits hlow hhigh]

end Numeral

namespace Assembly

/-! ## Literals as operands -/

theorem isBoundary_of_isDigitOf {radix : Nat} {c : Char} (h : isDigitOf radix c = true) :
    isBoundary c = false := by
  have hrange := isDigitOf_range h
  have hascii : c.toNat < 128 := by omega
  refine of_toNat_lt (p := fun c => (48 ≤ c.toNat ∧ c.toNat ≤ 57) ∨ (65 ≤ c.toNat ∧ c.toNat ≤ 90) ∨
    (97 ≤ c.toNat ∧ c.toNat ≤ 122) → isBoundary c = false) ?_ hascii hrange
  decide +kernel

theorem isBoundary_of_mem_sign {n : Int} {lead : Text} (h : SignFor n lead) {c : Char}
    (hc : c ∈ lead) : isBoundary c = false := by
  cases h with
  | none => cases hc
  | plus =>
    rw [List.mem_singleton.mp hc]
    decide
  | minus =>
    rw [List.mem_singleton.mp hc]
    decide

/-- A literal holds signs, digits and a mark, and none of them ends anything. -/
theorem token_of_literal {n : Int} {t : Text} (h : IsLiteral n t) : Token t := by
  cases h with
  | decimal sign short =>
    refine ⟨by simp [Nat.toDigits_ne_nil], ?_⟩
    intro c hc
    rcases List.mem_append.mp hc with hc | hc
    · exact isBoundary_of_mem_sign sign hc
    · exact isBoundary_of_isDigitOf (isDigitOf_of_mem_toDigits (by decide) (by decide) _ c hc)
  | @marked lead digits mark radix sign known zeros same =>
    have hmark : ∀ entry ∈ radixMarks, isBoundary entry.1 = false := by decide
    refine ⟨by simp, ?_⟩
    intro c hc
    rcases List.mem_append.mp hc with hc | hc
    · exact isBoundary_of_mem_sign sign hc
    · rcases List.mem_cons.mp hc with rfl | hc
      · decide
      rcases List.mem_cons.mp hc with rfl | hc
      · exact hmark _ known
      · exact isBoundary_of_isDigitOf (isDigitOf_behind_mark known zeros same c hc)

/-- A literal is read as its number, whatever blanks stand around it. -/
theorem number_of_literal {n : Int} {t front back : Text} (h : IsLiteral n t)
    (hf : isAllBlank front = true) (hb : isAllBlank back = true) :
    number (front ++ t ++ back) = .ok n := by
  rw [number, trim_pad hf hb, (token_of_literal h).trim_eq, h.read_eq]

/-! ## Names -/

/-- What starts a name or goes on in one ends nothing. -/
theorem isBoundary_of_name {runs : List (Nat × Nat)} (h : runs = nameStartRuns ∨ runs = nameRuns)
    {c : Char} (hc : covers runs c = true) : isBoundary c = false := by
  have apart : areApart runs blankRuns = true := by
    rcases h with rfl | rfl <;> decide +kernel
  have ends : [',', ':', ';'].any (covers runs) = false := by
    rcases h with rfl | rfl <;> decide +kernel
  have hblank : isBlank c = false := not_covers_of_apart apart hc
  have hne : ∀ e ∈ [',', ':', ';'], (c == e) = false := by
    intro e he
    rw [beq_eq_false_iff_ne]
    rintro rfl
    exact List.any_eq_false.mp ends c he hc
  simp only [List.mem_cons, List.not_mem_nil, or_false, forall_eq_or_imp, forall_eq] at hne
  simp only [isBoundary, hblank, hne.1, hne.2.1, hne.2.2, Bool.or_self]

theorem isBlank_of_nameStart {c : Char} (h : covers nameStartRuns c = true) : isBlank c = false :=
  isBlank_of_inner (isBoundary_of_name (.inl rfl) h)

/-- The decimal digits of each script are the ten code points from its zero on. -/
def digitRuns : List (Nat × Nat) :=
  Text.zeros.map fun first => (first, first + 9)

theorem digitValue?_eq_none {c : Char} (h : covers digitRuns c = false) : digitValue? c = none := by
  unfold digitValue?
  rw [Option.map_eq_none_iff, List.find?_eq_none]
  intro first hfirst hdigit
  simp only [Bool.and_eq_true, decide_eq_true_eq] at hdigit
  have hcovered : covers digitRuns c = true :=
    (covers_iff _ c).mpr ⟨_, List.mem_map_of_mem hfirst, hdigit.1, by dsimp only; omega⟩
  rw [h] at hcovered
  cases hcovered

/-- The first of these scripts is the one of the ASCII digits. -/
theorem isDigitOf_ten_eq_false {c : Char} (hc : c.toNat < 128) (h : covers digitRuns c = false) :
    isDigitOf 10 c = false := by
  apply Bool.eq_false_iff.mpr
  intro hten
  have hrange : 48 ≤ c.toNat ∧ c.toNat ≤ 57 := by
    refine of_toNat_lt (p := fun c => isDigitOf 10 c = true → 48 ≤ c.toNat ∧ c.toNat ≤ 57) ?_ hc hten
    decide +kernel
  have hcovered : covers digitRuns c = true := (covers_iff _ c).mpr ⟨(48, 57), by decide, hrange⟩
  rw [h] at hcovered
  cases hcovered

/-- Blanks around a literal are white space. -/
theorem isPadding_eq_false {c : Char} (h : isBlank c = false) : isPadding c = false := by
  apply Bool.eq_false_iff.mpr
  intro hpadding
  simp only [isPadding, Bool.or_eq_true, beq_iff_eq, Bool.and_eq_true, decide_eq_true_eq] at hpadding
  have hblank : isBlank c = true := by
    rcases hpadding with rfl | hrun
    · decide
    · exact (covers_iff _ c).mpr ⟨(9, 13), by decide, hrun⟩
  rw [h] at hblank
  cases hblank

/-- What starts a name stands for a character that starts no number. -/
theorem plain_of_nameStart {c : Char} (h : covers nameStartRuns c = true) :
    isPadding (plain c) = false ∧ plain c ≠ '+' ∧ plain c ≠ '-' ∧
      isDigitOf 10 (plain c) = false := by
  have apart : areApart nameStartRuns digitRuns = true := by decide +kernel
  have hblank := isBlank_of_nameStart h
  have hdigit := not_covers_of_apart apart h
  by_cases hc : c.toNat < 128
  · have signs : ['+', '-'].any (covers nameStartRuns) = false := by decide +kernel
    have hsign : ∀ e ∈ ['+', '-'], c ≠ e := by
      rintro e he rfl
      exact List.any_eq_false.mp signs c he h
    rw [plain, if_pos hc]
    exact ⟨isPadding_eq_false hblank, hsign '+' (by simp), hsign '-' (by simp),
      isDigitOf_ten_eq_false hc hdigit⟩
  · have hplain : plain c = '?' := by
      rw [plain, if_neg hc, hblank, digitValue?_eq_none hdigit]
      rfl
    rw [hplain]
    decide

/-- A text is no number if it starts with a character that starts none. -/
theorem read_of_start {s cs : Text} {c : Char} (hs : s.map plain = c :: cs)
    (hpadding : isPadding c = false) (hplus : c ≠ '+') (hminus : c ≠ '-')
    (hdigit : isDigitOf 10 c = false) : read 0 s = .error (.malformed 0 s) := by
  have hsign : takeSign ((s.map plain).dropWhile isPadding) = (false, c :: cs) := by
    rw [hs, List.dropWhile_cons, hpadding]
    unfold takeSign
    split
    · rename_i he
      exact absurd (List.cons.inj he).1 hplus
    · rename_i he
      exact absurd (List.cons.inj he).1 hminus
    · rfl
  have hfront : front 0 (c :: cs) = ⟨10, false, c :: cs⟩ := by
    unfold front
    split
    · rename_i he
      rw [(List.cons.inj he).1] at hdigit
      cases hdigit
    · rfl
  -- an underscore is counted with the digits, but may not be the first of them
  have hbad : wellSeparated true
      ((c :: cs).takeWhile fun d => isDigitOf 10 d || d == '_') = false := by
    rw [List.takeWhile_cons, hdigit, Bool.false_or]
    cases hunderscore : c == '_' with
    | false => rfl
    | true =>
      rw [beq_iff_eq] at hunderscore
      simp only [if_true, wellSeparated, hunderscore]
      rfl
  simp only [Numeral.read, hsign, hfront, hbad, Bool.not_false, if_true]

/-- A name is made of characters that end nothing. -/
theorem token_of_isIdentifier {name : Text} (h : isIdentifier name = true) : Token name := by
  cases name with
  | nil => cases h
  | cons c cs =>
    rw [isIdentifier, Bool.and_eq_true, List.all_eq_true] at h
    obtain ⟨hstart, hrest⟩ := h
    refine ⟨by simp, ?_⟩
    intro d hd
    rcases List.mem_cons.mp hd with rfl | hd
    · exact isBoundary_of_name (.inl rfl) hstart
    · exact isBoundary_of_name (.inr rfl) (hrest d hd)

/-- A name is not read as a number. -/
theorem number_of_isIdentifier {name : Text} (h : isIdentifier name = true) :
    number name = .error (.malformed 0 name) := by
  have htoken := token_of_isIdentifier h
  cases name with
  | nil => cases h
  | cons c cs =>
    rw [isIdentifier, Bool.and_eq_true] at h
    obtain ⟨hpadding, hplus, hminus, hdigit⟩ := plain_of_nameStart h.1
    rw [number, htoken.trim_eq]
    exact read_of_start rfl hpadding hplus hminus hdigit

end Assembly

end ChipEight
