/-
# ChipEight.Proofs.Spelling -- how registers are spelled

The assembler recognises a register in the small letters of an operand, and small letters are those
of Unicode. That admits no spelling beyond the plain ones (`register?_eq_some_iff`): a V in either
case and a hexadecimal digit in either case. For a character outside ASCII becomes an ASCII letter in
one case only, the Kelvin sign, which becomes a k; and a k is no digit of a register.

Operands come from the text of a line without blanks at their ends, so an operand is a register as
it stands or not at all.
-/
import ChipEight.Assembly.Encoding
import ChipEight.Proofs.Pieces
import Mathlib.Tactic.ByContra

namespace ChipEight

open Text Numeral

/-! ## Small letters -/

namespace Text

/-- An ASCII character other than k is the small letter of ASCII characters only. -/
theorem toNat_lt_of_lowerChar {c : Char} (hpos : 0 < (lowerChar c).toNat)
    (hlt : (lowerChar c).toNat < 128) (hk : lowerChar c ≠ 'k') : c.toNat < 128 := by
  by_contra hc
  unfold lowerChar at hpos hlt hk
  rw [if_neg hc] at hpos hlt hk
  split at hpos
  · rename_i run hfind
    rw [hfind] at hlt hk
    -- the one run that leads into ASCII is the Kelvin sign
    have hruns : ∀ run ∈ caseRuns, 128 ≤ (run.first : Int) + run.shift ∨
        run.first = 0x212a ∧ run.last = 0x212a ∧ run.shift = -8383 := by decide +kernel
    have hcovered := List.find?_some hfind
    simp only [Bool.and_eq_true, decide_eq_true_eq] at hcovered
    obtain ⟨⟨hfirst, hlast⟩, -⟩ := hcovered
    dsimp only at hpos hlt hk
    rcases hruns run (List.mem_of_find?_eq_some hfind) with hge | ⟨hf, hl, hshift⟩
    · by_cases hvalid : ((c.toNat : Int) + run.shift).toNat.isValidChar
      · rw [Char.ofNat, dif_pos hvalid] at hlt
        have hcode : ((c.toNat : Int) + run.shift).toNat < 128 := hlt
        omega
      · -- a number that is no code point would give the character zero
        rw [Char.ofNat, dif_neg hvalid] at hpos
        exact absurd hpos (by decide)
    · have hcode : c.toNat = 0x212a := by omega
      rw [hcode, hshift] at hk
      exact hk rfl
  · rename_i hfind
    rw [hfind] at hlt
    exact hc hlt

/-- Digits beyond nine are the same in small letters. -/
theorem digit?_lowerChar {c : Char} (hc : c.toNat < 128) : digit? (lowerChar c) = digit? c := by
  refine of_toNat_lt (p := fun c => digit? (lowerChar c) = digit? c) ?_ hc
  decide +kernel

theorem toNat_lt_of_digit? {c : Char} {d : Nat} (h : digit? c = some d) : c.toNat < 128 := by
  unfold digit? at h
  simp only [Bool.and_eq_true, decide_eq_true_eq] at h
  split at h
  · omega
  · split at h
    · omega
    · split at h
      · omega
      · cases h

/-- The digits of a register are ASCII characters, and letters from g on are none of them. -/
theorem ne_of_digit? {c : Char} {d : Nat} (hd : d < 16) (h : digit? c = some d) :
    c ≠ 'k' ∧ c ≠ 'i' ∧ 0 < c.toNat := by
  refine ⟨?_, ?_, ?_⟩
  · rintro rfl
    obtain rfl : 20 = d := Option.some.inj h
    omega
  · rintro rfl
    obtain rfl : 18 = d := Option.some.inj h
    omega
  · by_contra hzero
    simp [digit?, Nat.eq_zero_of_not_pos hzero] at h

/-- A hexadecimal digit in small letters was one before. -/
theorem digit?_of_lowerChar {c : Char} {d : Nat} (hd : d < 16) (h : digit? (lowerChar c) = some d) :
    digit? c = some d := by
  obtain ⟨hk, -, hpos⟩ := ne_of_digit? hd h
  rw [← h, digit?_lowerChar (toNat_lt_of_lowerChar hpos (toNat_lt_of_digit? h) hk)]

/-- The two ways to write a V. -/
theorem eq_of_lowerChar_eq_v {c : Char} (h : lowerChar c = 'v') : c = 'v' ∨ c = 'V' := by
  have hc : c.toNat < 128 := toNat_lt_of_lowerChar (by simp [h]) (by simp [h]) (by simp [h])
  refine of_toNat_lt (p := fun c => lowerChar c = 'v' → c = 'v' ∨ c = 'V') ?_ hc h
  decide +kernel

theorem eq_nil_of_lowerAfter {before s : Text} (h : lowerAfter before s = []) : s = [] := by
  cases s with
  | nil => rfl
  | cons c s =>
    unfold lowerAfter at h
    split at h
    · split at h <;> cases h
    · split at h <;> cases h

/-- If small letters start with an ASCII character other than i, it is the small letter of the first
character of the text. -/
theorem lowerAfter_eq_cons {before s rest : Text} {d : Char} (hd : d.toNat < 128) (hi : d ≠ 'i')
    (h : lowerAfter before s = d :: rest) :
    ∃ c cs, s = c :: cs ∧ lowerChar c = d ∧ lowerAfter (c :: before) cs = rest := by
  cases s with
  | nil => cases h
  | cons c cs =>
    unfold lowerAfter at h
    split at h
    · split at h <;> cases h <;> exact absurd hd (by decide)
    · split at h
      · cases h
        exact absurd rfl hi
      · cases h
        exact ⟨c, cs, rfl, rfl, rfl⟩

/-! ## Trimmed text -/

theorem isBlank_of_head?_dropWhile {s : Text} {c : Char} (h : (s.dropWhile isBlank).head? = some c) :
    isBlank c = false := by
  have hhead := List.head?_dropWhile_not isBlank s
  rwa [h] at hhead

/-- What is trimmed neither starts nor ends with a blank. -/
theorem trimmed_trim (s : Text) : Trimmed (trim s) := by
  refine ⟨?_, ?_⟩
  · intro c hc
    -- the end that is cut off leaves the first character, if it leaves any
    obtain ⟨r, hr⟩ : ∃ r, trimStart s = trim s ++ r := by
      obtain ⟨r, hr⟩ := List.dropWhile_suffix (l := (trimStart s).reverse) isBlank
      refine ⟨r.reverse, ?_⟩
      rw [trim, trimEnd, ← List.reverse_append, hr, List.reverse_reverse]
    apply isBlank_of_head?_dropWhile (s := s)
    show (trimStart s).head? = some c
    rw [hr, List.head?_append, hc]
    rfl
  · intro c hc
    apply isBlank_of_head?_dropWhile (s := (trimStart s).reverse)
    rwa [trim, trimEnd, List.getLast?_reverse] at hc

theorem trim_eq_iff {s : Text} : trim s = s ↔ Trimmed s :=
  ⟨fun h => h ▸ trimmed_trim s, Trimmed.trim_eq⟩

instance (s : Text) : Decidable (Trimmed s) :=
  decidable_of_iff _ trim_eq_iff

end Text

namespace Assembly

/-! ## Registers -/

/-- The text is a V and the hexadecimal digit of the register, each in either case. -/
def NamesRegister (t : Text) (x : Nibble) : Prop :=
  ∃ v d, t = [v, d] ∧ (v = 'v' ∨ v = 'V') ∧ digit? d = some x.val

theorem NamesRegister.of_register? {t : Text} (ht : Trimmed t) {x : Nibble}
    (h : register? t = some x) : NamesRegister t x := by
  unfold register? at h
  rw [ht.trim_eq] at h
  split at h
  · rename_i e hlower
    split at h
    · rename_i n hdigit
      split at h
      · rename_i hn
        cases h
        obtain ⟨v, s, rfl, hv, hs⟩ := lowerAfter_eq_cons (by decide) (by decide) hlower
        obtain ⟨-, hi, -⟩ := ne_of_digit? hn hdigit
        obtain ⟨d, s, rfl, rfl, hnil⟩ := lowerAfter_eq_cons (toNat_lt_of_digit? hdigit) hi hs
        obtain rfl := eq_nil_of_lowerAfter hnil
        exact ⟨v, d, rfl, eq_of_lowerChar_eq_v hv, digit?_of_lowerChar hn hdigit⟩
      · cases h
    · cases h
  · cases h

theorem NamesRegister.lower_eq {t : Text} {x : Nibble} (h : NamesRegister t x) :
    ∃ e, lower t = ['v', e] ∧ digit? e = some x.val := by
  obtain ⟨v, d, rfl, hv, hdigit⟩ := h
  have hd := toNat_lt_of_digit? hdigit
  have hlowerv : v.toNat < 128 ∧ lowerChar v = 'v' := by
    rcases hv with rfl | rfl <;> decide
  refine ⟨lowerChar d, ?_, (digit?_lowerChar hd).trans hdigit⟩
  rw [lower, lowerAfter_cons hlowerv.1, lowerAfter_cons hd, hlowerv.2]
  rfl

/-- An operand is a register if it is spelled like one. -/
theorem register?_eq_some_iff {t : Text} (ht : Trimmed t) {x : Nibble} :
    register? t = some x ↔ NamesRegister t x := by
  refine ⟨.of_register? ht, fun h => ?_⟩
  obtain ⟨e, hlower, hdigit⟩ := h.lower_eq
  unfold register?
  rw [ht.trim_eq, hlower]
  simp only [hdigit, x.isLt, dif_pos]

theorem register?_eq_none_iff {t : Text} (ht : Trimmed t) :
    register? t = none ↔ ∀ x, ¬ NamesRegister t x := by
  rw [Option.eq_none_iff_forall_ne_some]
  exact forall_congr' fun x => not_congr (register?_eq_some_iff ht)

theorem register_eq_ok_iff {t : Text} (ht : Trimmed t) {x : Nibble} :
    register t = .ok x ↔ NamesRegister t x := by
  rw [← register?_eq_some_iff ht, register]
  cases register? t with
  | none => simp
  | some y => simp

/-! ## Operands -/

theorem trimmed_of_mem_splitOperands {s t : Text} (h : t ∈ splitOperands s) : Trimmed t := by
  obtain ⟨u, -, rfl⟩ := List.mem_map.mp (List.mem_filter.mp h).1
  exact trimmed_trim u

theorem operand_eq_ok_iff {operands : List Text} {k : Nat} {t : Text} :
    operand operands k = .ok t ↔ operands[k]? = some t := by
  unfold operand
  cases operands[k]? with
  | none => simp
  | some u => simp

end Assembly

end ChipEight
