/-
# ChipEight.Proofs.LetterCase -- the case of ASCII letters

Two texts may differ in the case of ASCII letters at most (`SameButCase`). What depends on a text
through `lower` alone does not see the difference: small letters are those of Unicode and look at the
characters around them, but case is no property of an ASCII letter that they look at
(`lower_lowerAscii`). Nor does anything see it that only asks for blanks, commas, colons and
semicolons.

A fact about single characters is checked for the ASCII letters one by one, and holds of the others
because they have no other case here (`of_toLower`).
-/
import ChipEight.Proofs.Spelling

namespace ChipEight

namespace Text

/-! ## Characters -/

/-- What is the same for both cases of each ASCII letter does not see the case of any character. -/
theorem of_toLower {α : Type} {f : Char → α}
    (h : ∀ n < 26, f (Char.ofNat (0x41 + n)).toLower = f (Char.ofNat (0x41 + n))) (c : Char) :
    f c.toLower = f c := by
  by_cases hc : 0x41 ≤ c.toNat ∧ c.toNat ≤ 0x5a
  · have hchar := h (c.toNat - 0x41) (by omega)
    rwa [Nat.add_sub_cancel' hc.1, Char.ofNat_toNat] at hchar
  · -- other characters have no small letter here
    have hsame : c.toLower = c := dif_neg hc
    rw [hsame]

theorem toLower_of_le {c : Char} (hc : 128 ≤ c.toNat) : c.toLower = c := by
  refine dif_neg ?_
  rintro ⟨-, hle⟩
  have hcode : c.toNat ≤ 0x5a := hle
  omega

theorem toNat_toLower_lt (c : Char) : decide (c.toLower.toNat < 128) = decide (c.toNat < 128) := by
  apply of_toLower (f := fun c => decide (c.toNat < 128))
  decide +kernel

theorem isBlank_toLower (c : Char) : isBlank c.toLower = isBlank c := by
  apply of_toLower
  decide +kernel

theorem lowerChar_toLower (c : Char) : lowerChar c.toLower = lowerChar c := by
  apply of_toLower
  decide +kernel

theorem cased_toLower (c : Char) : covers casedRuns c.toLower = covers casedRuns c := by
  apply of_toLower
  decide +kernel

/-- No letter is passed over when the end of a word is looked for. -/
theorem passedOver_toLower (c : Char) :
    covers passedOverRuns c.toLower = covers passedOverRuns c := by
  have apart : areApart [(0x41, 0x5a), (0x61, 0x7a)] passedOverRuns = true := by decide +kernel
  have letters : ∀ n < 26, covers [(0x41, 0x5a), (0x61, 0x7a)] (Char.ofNat (0x41 + n)) = true ∧
      covers [(0x41, 0x5a), (0x61, 0x7a)] (Char.ofNat (0x41 + n)).toLower = true := by
    decide +kernel
  apply of_toLower
  intro n hn
  obtain ⟨hcapital, hsmall⟩ := letters n hn
  rw [not_covers_of_apart apart hcapital, not_covers_of_apart apart hsmall]

/-! ## Texts -/

/-- The text with its ASCII letters in small, and all other characters as they are. -/
def lowerAscii (s : Text) : Text :=
  s.map Char.toLower

theorem lowerAscii_append (s t : Text) : lowerAscii (s ++ t) = lowerAscii s ++ lowerAscii t :=
  List.map_append

theorem trimStart_lowerAscii (s : Text) : trimStart (lowerAscii s) = lowerAscii (trimStart s) := by
  have hblank : isBlank ∘ Char.toLower = isBlank := funext isBlank_toLower
  rw [trimStart, lowerAscii, List.dropWhile_map, hblank]
  rfl

theorem trimEnd_lowerAscii (s : Text) : trimEnd (lowerAscii s) = lowerAscii (trimEnd s) := by
  have hstart := trimStart_lowerAscii s.reverse
  unfold trimStart lowerAscii at hstart
  unfold trimEnd lowerAscii
  rw [← List.map_reverse, hstart, List.map_reverse]

theorem trim_lowerAscii (s : Text) : trim (lowerAscii s) = lowerAscii (trim s) := by
  rw [trim, trimStart_lowerAscii, trimEnd_lowerAscii, trim]

/-- Around a capital sigma only the case of its neighbours counts that they have as characters. -/
theorem meetsCased_lowerAscii (s : Text) : meetsCased (lowerAscii s) = meetsCased s := by
  have hpassed : covers passedOverRuns ∘ Char.toLower = covers passedOverRuns :=
    funext passedOver_toLower
  unfold meetsCased
  rw [lowerAscii, List.dropWhile_map, hpassed]
  cases s.dropWhile (covers passedOverRuns) with
  | nil => rfl
  | cons c cs => exact cased_toLower c

/-- Letters in front of a text become small before it. -/
theorem lowerAfter_append {s : Text} (h : ∀ c ∈ s, c.toNat < 128) (before t : Text) :
    lowerAfter before (s ++ t) = s.map Char.toLower ++ lowerAfter (s.reverse ++ before) t := by
  induction s generalizing before with
  | nil => rfl
  | cons c cs ih =>
    have hc : c.toNat < 128 := h c List.mem_cons_self
    have htail := ih (fun d hd => h d (List.mem_cons_of_mem c hd)) (c :: before)
    rw [List.cons_append, lowerAfter_cons hc, htail, lowerChar, if_pos hc]
    simp

theorem lowerAfter_lowerAscii (before s : Text) :
    lowerAfter (lowerAscii before) (lowerAscii s) = lowerAfter before s := by
  induction s generalizing before with
  | nil => rfl
  | cons c cs ih =>
    have htail := ih (c :: before)
    show lowerAfter (lowerAscii before) (c.toLower :: lowerAscii cs) = _
    by_cases hc : c.toNat < 128
    · have hsmall : c.toLower.toNat < 128 := by simpa [hc] using toNat_toLower_lt c
      rw [lowerAfter_cons hsmall, lowerAfter_cons hc, lowerChar_toLower]
      exact congrArg _ htail
    · rw [toLower_of_le (Nat.le_of_not_lt hc), lowerAfter, lowerAfter, meetsCased_lowerAscii,
        meetsCased_lowerAscii]
      have hhead : lowerAscii (c :: before) = c :: lowerAscii before := by
        rw [lowerAscii, List.map_cons, toLower_of_le (Nat.le_of_not_lt hc)]
        rfl
      rw [← hhead, htail]

theorem lower_lowerAscii (s : Text) : lower (lowerAscii s) = lower s :=
  lowerAfter_lowerAscii [] s

theorem trimmed_lowerAscii {s : Text} : Trimmed (lowerAscii s) ↔ Trimmed s := by
  constructor
  · intro h
    refine ⟨fun c hc => ?_, fun c hc => ?_⟩
    · rw [← isBlank_toLower]
      apply h.first
      rw [lowerAscii, List.head?_map, hc]
      rfl
    · rw [← isBlank_toLower]
      apply h.last
      rw [lowerAscii, List.getLast?_map, hc]
      rfl
  · intro h
    refine ⟨fun c hc => ?_, fun c hc => ?_⟩
    · rw [lowerAscii, List.head?_map] at hc
      obtain ⟨d, hd, rfl⟩ := Option.map_eq_some_iff.mp hc
      rw [isBlank_toLower]
      exact h.first d hd
    · rw [lowerAscii, List.getLast?_map] at hc
      obtain ⟨d, hd, rfl⟩ := Option.map_eq_some_iff.mp hc
      rw [isBlank_toLower]
      exact h.last d hd

/-! ## Texts that differ in case -/

/-- The texts are equal but for the case of ASCII letters. -/
def SameButCase (s t : Text) : Prop :=
  lowerAscii s = lowerAscii t

instance (s t : Text) : Decidable (SameButCase s t) :=
  inferInstanceAs (Decidable (lowerAscii s = lowerAscii t))

namespace SameButCase

variable {s t : Text}

@[refl] theorem refl (s : Text) : SameButCase s s :=
  rfl

theorem symm (h : SameButCase s t) : SameButCase t s :=
  Eq.symm h

theorem trans (h : SameButCase s t) {u : Text} (h' : SameButCase t u) : SameButCase s u :=
  Eq.trans h h'

theorem append (h : SameButCase s t) {u v : Text} (h' : SameButCase u v) :
    SameButCase (s ++ u) (t ++ v) := by
  unfold SameButCase
  rw [lowerAscii_append, lowerAscii_append, h, h']

theorem lower_eq (h : SameButCase s t) : lower s = lower t := by
  rw [← lower_lowerAscii s, h, lower_lowerAscii]

theorem length_eq (h : SameButCase s t) : s.length = t.length := by
  have hlength := congrArg List.length h
  rwa [lowerAscii, lowerAscii, List.length_map, List.length_map] at hlength

theorem ne_nil (h : SameButCase s t) (hs : s ≠ []) : t ≠ [] := by
  rw [← List.length_pos_iff] at hs ⊢
  rwa [← h.length_eq]

/-- A character that is no letter stands in both texts or in none. -/
theorem not_mem (h : SameButCase s t) {c : Char}
    (hc : ∀ n < 26, ((Char.ofNat (0x41 + n)).toLower == c) = (Char.ofNat (0x41 + n) == c))
    (hs : c ∉ s) : c ∉ t := by
  have hall := of_toLower (f := (· == c)) hc
  have hself : c.toLower = c := by simpa using hall c
  intro ht
  have hmem : c ∈ lowerAscii s := by
    rw [h, ← hself]
    exact List.mem_map_of_mem ht
  obtain ⟨d, hd, hdc⟩ := List.mem_map.mp hmem
  have hsame : d = c := by simpa [hdc] using (hall d).symm
  exact hs (hsame ▸ hd)

/-- What holds of all characters, and does not see their case, holds of the others as well. -/
theorem forall_mem (h : SameButCase s t) {P : Char → Prop} (hP : ∀ c : Char, P c.toLower ↔ P c)
    (hs : ∀ c ∈ s, P c) : ∀ c ∈ t, P c := by
  intro c hc
  have hmem : c.toLower ∈ lowerAscii s := by
    rw [h]
    exact List.mem_map_of_mem hc
  obtain ⟨d, hd, hdc⟩ := List.mem_map.mp hmem
  rw [← hP c, ← hdc, hP d]
  exact hs d hd

/-- A word stays one word. -/
theorem word (h : SameButCase s t) (hs : ∀ c ∈ s, isBlank c = false) :
    ∀ c ∈ t, isBlank c = false := by
  apply h.forall_mem _ hs
  intro c
  rw [isBlank_toLower]

/-- What starts with a blank, or is empty, stays so. -/
theorem head_blank (h : SameButCase s t) (hs : ∀ c, s.head? = some c → isBlank c = true) :
    ∀ c, t.head? = some c → isBlank c = true := by
  intro c hc
  have hhead : (lowerAscii s).head? = some c.toLower := by
    rw [h, lowerAscii, List.head?_map, hc]
    rfl
  rw [lowerAscii, List.head?_map] at hhead
  obtain ⟨d, hd, hdc⟩ := Option.map_eq_some_iff.mp hhead
  rw [← isBlank_toLower, ← hdc, isBlank_toLower]
  exact hs d hd

theorem trimmed (h : SameButCase s t) (hs : Trimmed s) : Trimmed t := by
  rw [← trimmed_lowerAscii] at hs ⊢
  rwa [← h]

end SameButCase

end Text

end ChipEight
