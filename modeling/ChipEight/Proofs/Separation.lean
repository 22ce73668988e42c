/-
# ChipEight.Proofs.Separation -- operands that are taken apart and put together

Operands stand between commas. Blanks around them do not belong to them, and where nothing but blanks
stands between two commas there is no operand. So any commas and blanks may stand in front of the first
operand, behind the last one, and between two others, if there is one comma at least in each of these
places: a text has the operands that it is spread out from, and no others (`splitOperands_eq_iff`).

In front of the operands stands the mnemonic, which is parted from them by blanks. What is left behind
the blanks starts with none, so one blank in their place parts the text in the same way again.
-/
import ChipEight.Proofs.Spelling
import ChipEight.Proofs.Statement
import Mathlib.Data.List.TakeWhile

namespace ChipEight.Assembly

open Text

/-! ## Operands and what stands between them -/

/-- The text can be an operand: it is not empty, has no blanks at its ends, and holds no comma. -/
structure IsOperand (t : Text) : Prop where
  nonempty : t ≠ []
  trimmed : Trimmed t
  noComma : ',' ∉ t

/-- What may stand between two operands: commas, one at least, and blanks. -/
structure IsSeparator (sep : Text) : Prop where
  comma : ',' ∈ sep
  gap : IsGap sep

/-- The operands one after another, with a separator between neighbours. -/
inductive Joined : List Text → Text → Prop where
  | none : Joined [] []
  | last (t : Text) : Joined [t] t
  | more {t u sep rest : Text} {ts : List Text} (separator : IsSeparator sep)
      (others : Joined (u :: ts) rest) : Joined (t :: u :: ts) (t ++ sep ++ rest)

/-- The operands with separators between them, and any commas and blanks around all of them. -/
def Spread (ts : List Text) (s : Text) : Prop :=
  ∃ front joined back, IsGap front ∧ IsGap back ∧ Joined ts joined ∧ s = front ++ joined ++ back

/-! ## Gaps -/

theorem IsGap.append {gap gap' : Text} (h : IsGap gap) (h' : IsGap gap') : IsGap (gap ++ gap') := by
  intro c hc
  rcases List.mem_append.mp hc with hc | hc
  · exact h c hc
  · exact h' c hc

theorem IsGap.comma {gap : Text} (h : IsGap gap) : IsGap (',' :: gap) := by
  intro c hc
  rcases List.mem_cons.mp hc with rfl | hc
  · exact .inl rfl
  · exact h c hc

/-- A gap without a comma is blank. -/
theorem IsGap.isAllBlank {gap : Text} (h : IsGap gap) (hcomma : ',' ∉ gap) :
    Text.isAllBlank gap = true := by
  apply List.all_eq_true.mpr
  intro c hc
  rcases h c hc with rfl | hblank
  · exact absurd hc hcomma
  · exact hblank

/-- A separator is blank up to its first comma, and a gap behind it. -/
theorem IsSeparator.exists_eq {sep : Text} (h : IsSeparator sep) :
    ∃ blanks gap, isAllBlank blanks = true ∧ IsGap gap ∧ sep = blanks ++ ',' :: gap := by
  obtain ⟨blanks, gap, rfl, hfirst⟩ := List.eq_append_cons_of_mem h.comma
  refine ⟨blanks, gap, ?_, ?_, rfl⟩
  · have hgap : IsGap blanks := fun c hc => h.gap c (List.mem_append_left _ hc)
    exact hgap.isAllBlank hfirst
  · intro c hc
    exact h.gap c (List.mem_append_right _ (List.mem_cons_of_mem _ hc))

theorem IsSeparator.around {blanks gap : Text} (h : isAllBlank blanks = true) (hgap : IsGap gap) :
    IsSeparator (blanks ++ ',' :: gap) where
  comma := List.mem_append_right _ List.mem_cons_self
  gap := (IsGap.of_isAllBlank h).append hgap.comma

/-! ## Taking operands apart -/

theorem isOperand_of_mem {s t : Text} (h : t ∈ splitOperands s) : IsOperand t := by
  obtain ⟨hmem, hne⟩ := List.mem_filter.mp h
  obtain ⟨piece, hpiece, rfl⟩ := List.mem_map.mp hmem
  refine ⟨by simpa using hne, trimmed_trim piece, ?_⟩
  intro hcomma
  exact not_mem_of_mem_splitOn hpiece (mem_of_mem_trim hcomma)

/-- An operand ends in front of blanks or a comma, and what stands behind the separator does not
matter to it. -/
theorem splitOperands_separated {t sep : Text} (ht : IsOperand t) (hsep : IsSeparator sep)
    (s : Text) : splitOperands (t ++ sep ++ s) = t :: splitOperands s := by
  obtain ⟨blanks, gap, hblanks, hgap, rfl⟩ := hsep.exists_eq
  have hsplit : t ++ (blanks ++ ',' :: gap) ++ s = (t ++ blanks) ++ ',' :: (gap ++ s) := by simp
  rw [hsplit, splitOperands_append, splitOperands_gap_append hgap,
    splitOperands_lone ht.trimmed ht.nonempty ht.noComma hblanks]
  rfl

theorem splitOperands_lone_gap {t gap : Text} (ht : IsOperand t) (hgap : IsGap gap) :
    splitOperands (t ++ gap) = [t] := by
  by_cases hcomma : ',' ∈ gap
  · have hseparated := splitOperands_separated ht ⟨hcomma, hgap⟩ []
    rw [List.append_nil] at hseparated
    exact hseparated
  · exact splitOperands_lone ht.trimmed ht.nonempty ht.noComma (hgap.isAllBlank hcomma)

/-- Operands come back from the text that they are joined to, whatever gap stands behind them. -/
theorem splitOperands_joined {ts : List Text} {joined gap : Text} (h : Joined ts joined)
    (hts : ∀ t ∈ ts, IsOperand t) (hgap : IsGap gap) : splitOperands (joined ++ gap) = ts := by
  induction h with
  | none => exact splitOperands_gap hgap
  | last t => exact splitOperands_lone_gap (hts t List.mem_cons_self) hgap
  | @more t u sep rest ts separator others ih =>
    have hrest : splitOperands (rest ++ gap) = u :: ts := by
      apply ih
      intro v hv
      exact hts v (List.mem_cons_of_mem t hv)
    rw [List.append_assoc, splitOperands_separated (hts t List.mem_cons_self) separator, hrest]

/-- A piece that is not blank is an operand with blanks around it. -/
theorem exists_blanks_around (piece : Text) :
    ∃ front back, isAllBlank front = true ∧ isAllBlank back = true ∧
      piece = front ++ trim piece ++ back := by
  refine ⟨piece.takeWhile isBlank, ((trimStart piece).reverse.takeWhile isBlank).reverse, ?_, ?_, ?_⟩
  · exact List.all_takeWhile
  · rw [isAllBlank, List.all_reverse]
    exact List.all_takeWhile
  · have hend : trim piece ++ ((trimStart piece).reverse.takeWhile isBlank).reverse =
        trimStart piece := by
      rw [trim, trimEnd, ← List.reverse_append, List.takeWhile_append_dropWhile,
        List.reverse_reverse]
    rw [List.append_assoc, hend]
    exact List.takeWhile_append_dropWhile.symm

/-- One more piece in front of a text that is spread out from its operands. -/
theorem Spread.cons {ts : List Text} {s : Text} (h : Spread ts s) (piece : Text) :
    Spread (if !(trim piece).isEmpty then trim piece :: ts else ts) (piece ++ ',' :: s) := by
  obtain ⟨gap, joined, gap', hgap, hgap', hjoined, rfl⟩ := h
  obtain ⟨front, back, hfront, hback, hpiece⟩ := exists_blanks_around piece
  have hblank : IsGap front := .of_isAllBlank hfront
  have hbetween : IsSeparator (back ++ ',' :: gap) := .around hback hgap
  generalize trim piece = t at hpiece ⊢
  subst hpiece
  split
  · rcases ts with _ | ⟨u, ts⟩
    · -- it is the last operand, and all that follows is the gap behind it
      cases hjoined
      refine ⟨front, t, back ++ ',' :: gap ++ gap', hblank, ?_, .last t, by simp⟩
      exact hbetween.gap.append hgap'
    · exact ⟨front, t ++ (back ++ ',' :: gap) ++ joined, gap', hblank, hgap',
        .more hbetween hjoined, by simp⟩
  · -- the piece is blank and belongs to the gap in front
    rename_i hempty
    obtain rfl : t = [] := by simpa using hempty
    refine ⟨front ++ (back ++ ',' :: gap), joined, gap', ?_, hgap', hjoined, by simp⟩
    exact hblank.append hbetween.gap

/-- A text without commas has one operand at most. -/
theorem spread_piece (piece : Text) :
    Spread (if !(trim piece).isEmpty then [trim piece] else []) piece := by
  obtain ⟨front, back, hfront, hback, hpiece⟩ := exists_blanks_around piece
  refine ⟨front, trim piece, back, .of_isAllBlank hfront, .of_isAllBlank hback, ?_, hpiece⟩
  by_cases hempty : trim piece = []
  · rw [hempty]
    exact .none
  · rw [if_pos (by simp [hempty])]
    exact .last _

/-- The induction is on the pieces between commas, of which there is one more than commas. -/
theorem spread_joinWith {pieces : List Text} (hne : pieces ≠ []) :
    Spread ((pieces.map trim).filter fun t => !t.isEmpty) (joinWith [','] pieces) := by
  induction pieces with
  | nil => exact absurd rfl hne
  | cons piece pieces ih =>
    rw [List.map_cons, List.filter_cons]
    rcases pieces with _ | ⟨next, pieces⟩
    · exact spread_piece piece
    · rw [joinWith_cons [','] piece (by simp), List.append_assoc]
      exact (ih (by simp)).cons piece

/-- A text is spread out from its operands. -/
theorem spread_splitOperands (s : Text) : Spread (splitOperands s) s := by
  have hwhole := spread_joinWith (splitOn_ne_nil ',' s)
  rw [joinWith_splitOn] at hwhole
  exact hwhole

/-- A text has exactly the operands that it is spread out from. -/
theorem splitOperands_eq_iff {s : Text} {ts : List Text} :
    splitOperands s = ts ↔ (∀ t ∈ ts, IsOperand t) ∧ Spread ts s := by
  constructor
  · rintro rfl
    exact ⟨fun t ht => isOperand_of_mem ht, spread_splitOperands s⟩
  · rintro ⟨hts, front, joined, back, hfront, hback, hjoined, rfl⟩
    rw [List.append_assoc, splitOperands_gap_append hfront, splitOperands_joined hjoined hts hback]

theorem Joined.spread {ts : List Text} {joined : Text} (h : Joined ts joined) :
    Spread ts joined := by
  have hnone : IsGap [] := by
    intro c hc
    cases hc
  exact ⟨[], joined, [], hnone, hnone, h, by simp⟩

/-! ## Mnemonics -/

/-- The text opens with the word, blanks perhaps in front of it, and goes on with blanks and the
rest, which starts with none. -/
structure OpensWith (s word rest : Text) : Prop where
  nonempty : word ≠ []
  noBlank : ∀ c ∈ word, isBlank c = false
  start : ∀ c, rest.head? = some c → isBlank c = false
  whole : ∃ front gap, isAllBlank front = true ∧ isAllBlank gap = true ∧
    (rest ≠ [] → gap ≠ []) ∧ s = front ++ word ++ gap ++ rest

theorem OpensWith.behind {s word rest blanks : Text} (h : OpensWith s word rest)
    (hblanks : isAllBlank blanks = true) : OpensWith (blanks ++ s) word rest where
  nonempty := h.nonempty
  noBlank := h.noBlank
  start := h.start
  whole := by
    obtain ⟨front, gap, hfront, hgap, hsome, rfl⟩ := h.whole
    refine ⟨blanks ++ front, gap, ?_, hgap, hsome, by simp⟩
    rw [isAllBlank, List.all_append, Bool.and_eq_true]
    exact ⟨hblanks, hfront⟩

/-- The first word reaches from its first character up to the next blank. -/
theorem opensWith_of_cons {c : Char} (hc : isBlank c = false) (cs : Text) :
    OpensWith (c :: cs) (c :: cs.takeWhile fun d => !isBlank d)
      (trimStart (cs.dropWhile fun d => !isBlank d)) := by
  have hword : cs.takeWhile (fun d => !isBlank d) ++ cs.dropWhile (fun d => !isBlank d) = cs :=
    List.takeWhile_append_dropWhile
  have hends := List.head?_dropWhile_not (fun d => !isBlank d) cs
  refine ⟨by simp, ?_, ?_, ?_⟩
  · intro d hd
    rcases List.mem_cons.mp hd with rfl | hd
    · exact hc
    · simpa using List.mem_takeWhile_imp hd
  · intro d hd
    exact isBlank_of_head?_dropWhile hd
  · generalize cs.takeWhile (fun d => !isBlank d) = word at hword ⊢
    generalize cs.dropWhile (fun d => !isBlank d) = behind at hword hends ⊢
    have hgap : behind.takeWhile isBlank ++ trimStart behind = behind :=
      List.takeWhile_append_dropWhile
    refine ⟨[], behind.takeWhile isBlank, rfl, List.all_takeWhile, ?_, ?_⟩
    · intro hrest
      -- the word ends at a blank, which is the first one of the gap
      cases behind with
      | nil => exact absurd rfl hrest
      | cons d ds =>
        have hd : isBlank d = true := by simpa using hends
        rw [List.takeWhile_cons_of_pos hd]
        simp
    · rw [List.append_assoc, hgap, List.nil_append, List.cons_append, hword]

/-- A text that is not blank opens with its first word. -/
theorem exists_firstWord? {s : Text} (h : isAllBlank s = false) :
    ∃ word rest, firstWord? s = some (word, rest) ∧ OpensWith s word rest := by
  have hfront : s.takeWhile isBlank ++ trimStart s = s := List.takeWhile_append_dropWhile
  cases hs : trimStart s with
  | nil =>
    -- a text that is trimmed away is blank
    have hblank : isAllBlank s = true := List.all_eq_true.mpr (List.dropWhile_eq_nil_iff.mp hs)
    rw [h] at hblank
    cases hblank
  | cons c cs =>
    have hhead : (trimStart s).head? = some c := by
      rw [hs]
      rfl
    have hopens := opensWith_of_cons (isBlank_of_head?_dropWhile hhead) cs
    have hfirst : firstWord? s = some (c :: cs.takeWhile (fun d => !isBlank d),
        trimStart (cs.dropWhile fun d => !isBlank d)) := by
      unfold firstWord?
      rw [hs]
    refine ⟨_, _, hfirst, ?_⟩
    rw [← hfront, hs]
    exact hopens.behind List.all_takeWhile

/-- A word and a rest that are put together with one blank come apart again. -/
theorem OpensWith.firstWord?_eq {s word rest : Text} (h : OpensWith s word rest) :
    firstWord? (word ++ ' ' :: rest) = some (word, rest) := by
  have hblank : isBlank ' ' = true := by decide
  have hends : ∀ c, (' ' :: rest).head? = some c → isBlank c = true := by
    intro c hc
    cases hc
    exact hblank
  have hrest : trimStart rest = rest := by
    cases rest with
    | nil => rfl
    | cons c cs => exact trimStart_of_not_blank (h.start c rfl) cs
  rw [firstWord?_append h.nonempty h.noBlank hends, trimStart_cons hblank, hrest]

/-! ## Taking apart and putting together -/

/-- The operands of a text are operands and make up the text but for commas and blanks, and put
together in any way with commas and blanks between them they come apart into the same ones; this is
so for every list of operands. The mnemonic of a text that is not blank is the word that the text
starts with, and put together with what follows it and one blank between it comes apart into the
same mnemonic and the same rest, and so into the same operands. -/
theorem splitting_law (s : Text) :
    ((∀ t ∈ splitOperands s, IsOperand t) ∧ Spread (splitOperands s) s) ∧
      (∀ joined, Joined (splitOperands s) joined → splitOperands joined = splitOperands s) ∧
      (∀ ts joined, (∀ t ∈ ts, IsOperand t) → Joined ts joined → splitOperands joined = ts) ∧
      (isAllBlank s = false → ∃ name rest, splitMnemonic? s = some (name, rest) ∧
        OpensWith s name rest ∧ splitMnemonic? (name ++ ' ' :: rest) = some (name, rest)) := by
  have hback (ts : List Text) (joined : Text) (hts : ∀ t ∈ ts, IsOperand t)
      (hjoined : Joined ts joined) : splitOperands joined = ts :=
    splitOperands_eq_iff.mpr ⟨hts, hjoined.spread⟩
  obtain ⟨hts, hspread⟩ := splitOperands_eq_iff.mp (Eq.refl (splitOperands s))
  refine ⟨⟨hts, hspread⟩, ?_, hback, ?_⟩
  · intro joined hjoined
    exact hback _ joined hts hjoined
  · intro hblank
    obtain ⟨name, rest, hfirst, hstarts⟩ := exists_firstWord? hblank
    exact ⟨name, rest, hfirst, hstarts, hstarts.firstWord?_eq⟩

/-- Two commas and blanks of several kinds stand between the operands. -/
theorem splitting_law_with_gaps :
    splitOperands "v1 ,\t, 0x10".toList = ["v1".toList, "0x10".toList] ∧
      splitMnemonic? "LD v1 ,\t, 0x10".toList = some ("LD".toList, "v1 ,\t, 0x10".toList) := by
  obtain ⟨-, -, hjoin, hmnemonic⟩ := splitting_law "\n LD\t\tv1 ,\t, 0x10".toList
  constructor
  · apply hjoin
    · intro t ht
      simp only [List.mem_cons, List.not_mem_nil, or_false] at ht
      rcases ht with rfl | rfl
      · exact ⟨by decide, by decide, by decide⟩
      · exact ⟨by decide, by decide, by decide⟩
    · have hsep : IsSeparator " ,\t, ".toList := ⟨by decide, by decide⟩
      exact @Joined.more "v1".toList "0x10".toList _ _ [] hsep (.last _)
  · obtain ⟨name, rest, hfirst, -, hagain⟩ := hmnemonic (by decide)
    have hparts : splitMnemonic? "\n LD\t\tv1 ,\t, 0x10".toList =
        some ("LD".toList, "v1 ,\t, 0x10".toList) := by decide
    obtain ⟨rfl, rfl⟩ := Prod.mk.inj (Option.some.inj (hfirst.symm.trans hparts))
    exact hagain

end ChipEight.Assembly
