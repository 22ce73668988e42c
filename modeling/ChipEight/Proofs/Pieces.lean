/-
# ChipEight.Proofs.Pieces -- text that is put together and taken apart again

`joinWith_splitOn` gives back a text from its pieces. Here is the other direction: pieces without
the separator come back from the text they are joined to (`splitOn_joinWith`), a separator splits
what stands before it and what stands behind it each on its own (`splitOn_append`), and a word that
is followed by a blank is the first word. Lines are joined or ended by a line feed, and only the last line
shows which (`unlines_joinWith`).

Trimming is settled by the two ends of a text alone: a text that neither starts nor ends with a
blank is left as it is, and blanks around a text make no difference (`trim_pad`).
-/
import ChipEight.Text.Characters

namespace ChipEight.Text

/-! ## Separators -/

theorem splitOn_cons_self (sep : Char) (s : Text) :
    splitOn sep (sep :: s) = [] :: splitOn sep s := by
  rw [splitOn, if_pos rfl]

theorem splitOn_cons_of_ne {sep c : Char} (hc : c ≠ sep) {s piece : Text} {pieces : List Text}
    (hs : splitOn sep s = piece :: pieces) : splitOn sep (c :: s) = (c :: piece) :: pieces := by
  rw [splitOn, if_neg hc, hs]

/-- A separator parts the pieces before it from the pieces behind it. -/
theorem splitOn_append (sep : Char) (s t : Text) :
    splitOn sep (s ++ sep :: t) = splitOn sep s ++ splitOn sep t := by
  induction s with
  | nil =>
    show splitOn sep (sep :: t) = [[]] ++ splitOn sep t
    rw [splitOn_cons_self]
    rfl
  | cons c cs ih =>
    rw [List.cons_append]
    by_cases hc : c = sep
    · subst hc
      rw [splitOn_cons_self, splitOn_cons_self, ih]
      rfl
    · obtain ⟨piece, pieces, hs⟩ := List.exists_cons_of_ne_nil (splitOn_ne_nil sep cs)
      rw [hs] at ih
      rw [splitOn_cons_of_ne hc hs, splitOn_cons_of_ne hc ih]
      rfl

/-- A text without the separator is one piece. -/
theorem splitOn_of_not_mem {sep : Char} {s : Text} (h : sep ∉ s) : splitOn sep s = [s] := by
  induction s with
  | nil => rfl
  | cons c cs ih =>
    rw [List.mem_cons, not_or] at h
    exact splitOn_cons_of_ne (Ne.symm h.1) (ih h.2)

/-- Pieces without the separator come back from the text they are joined to. -/
theorem splitOn_joinWith {sep : Char} {pieces : List Text} (hne : pieces ≠ [])
    (h : ∀ piece ∈ pieces, sep ∉ piece) : splitOn sep (joinWith [sep] pieces) = pieces := by
  induction pieces with
  | nil => exact absurd rfl hne
  | cons piece pieces ih =>
    have hpiece := splitOn_of_not_mem (h piece List.mem_cons_self)
    rcases pieces with _ | ⟨next, pieces⟩
    · exact hpiece
    · have hrest := ih (by simp) fun p hp => h p (List.mem_cons_of_mem piece hp)
      rw [joinWith_cons [sep] piece (by simp), List.append_assoc, List.singleton_append,
        splitOn_append, hpiece, hrest]
      rfl

theorem joinWith_cons_ne_nil (sep : Text) {t : Text} (ht : t ≠ []) (ts : List Text) :
    joinWith sep (t :: ts) ≠ [] := by
  rcases ts with _ | ⟨u, us⟩
  · exact ht
  · rw [joinWith_cons sep t (by simp)]
    simp [ht]

/-- What is joined holds the separators and the pieces, and nothing else. -/
theorem mem_joinWith {sep : Text} {ts : List Text} {c : Char} (h : c ∈ joinWith sep ts) :
    c ∈ sep ∨ ∃ t ∈ ts, c ∈ t := by
  induction ts with
  | nil => simp [joinWith] at h
  | cons t ts ih =>
    rcases ts with _ | ⟨u, us⟩
    · exact .inr ⟨t, List.mem_cons_self, h⟩
    · rw [joinWith_cons sep t (by simp), List.mem_append, List.mem_append] at h
      rcases h with (h | h) | h
      · exact .inr ⟨t, List.mem_cons_self, h⟩
      · exact .inl h
      · rcases ih h with h | ⟨v, hv, hc⟩
        · exact .inl h
        · exact .inr ⟨v, List.mem_cons_of_mem t hv, hc⟩

/-- There is nothing to cut off a text without the separator. -/
theorem cut_of_not_mem {sep : Char} {s : Text} (h : sep ∉ s) : cut sep s = (s, none) := by
  induction s with
  | nil => rfl
  | cons c cs ih =>
    rw [List.mem_cons, not_or] at h
    rw [cut, if_neg (Ne.symm h.1), ih h.2]

/-- A separator ends what stands in front of the first one. -/
theorem cut_append {sep : Char} {s : Text} (h : sep ∉ s) (t : Text) :
    cut sep (s ++ sep :: t) = (s, some t) := by
  induction s with
  | nil => exact if_pos rfl
  | cons c cs ih =>
    rw [List.mem_cons, not_or] at h
    rw [List.cons_append, cut, if_neg (Ne.symm h.1), ih h.2]

/-- What holds no separator stands in front of the first one as a whole. -/
theorem cut_append_fst {sep : Char} {s : Text} (h : sep ∉ s) (t : Text) :
    (cut sep (s ++ t)).1 = s ++ (cut sep t).1 := by
  induction s with
  | nil => rfl
  | cons c cs ih =>
    rw [List.mem_cons, not_or] at h
    rw [List.cons_append, cut, if_neg (Ne.symm h.1), ih h.2]
    rfl

/-- Behind a separator nothing matters to what stands in front of the first one. -/
theorem cut_fst_of_mem {sep : Char} {s : Text} (h : sep ∈ s) (t : Text) :
    (cut sep (s ++ t)).1 = (cut sep s).1 := by
  obtain ⟨front, back, rfl, hfront⟩ := List.eq_append_cons_of_mem h
  rw [List.append_assoc, List.cons_append, cut_append hfront, cut_append hfront]

/-- What a separator cuts off was there before. -/
theorem mem_of_mem_cut {sep : Char} {s : Text} {c : Char} :
    (c ∈ (cut sep s).1 → c ∈ s) ∧ ∀ rest, (cut sep s).2 = some rest → c ∈ rest → c ∈ s := by
  by_cases hmem : sep ∈ s
  · obtain ⟨front, back, rfl, hfront⟩ := List.eq_append_cons_of_mem hmem
    rw [cut_append hfront]
    refine ⟨List.mem_append_left _, ?_⟩
    rintro rest ⟨⟩ hc
    exact List.mem_append_right _ (List.mem_cons_of_mem sep hc)
  · rw [cut_of_not_mem hmem]
    exact ⟨id, nofun⟩

/-! ## Lines -/

theorem unlines_append (first second : List Text) :
    unlines (first ++ second) = unlines first ++ unlines second :=
  List.flatMap_append

/-- Lines that are joined and ended by one line feed are ended by one each. -/
theorem unlines_joinWith {lines : List Text} (h : lines ≠ []) :
    unlines [joinWith ['\n'] lines] = unlines lines := by
  induction lines with
  | nil => exact absurd rfl h
  | cons line lines ih =>
    cases lines with
    | nil => rfl
    | cons next lines =>
      have hne : next :: lines ≠ [] := List.cons_ne_nil next lines
      have hrest := ih hne
      simp only [unlines, List.flatMap_cons, List.flatMap_nil, List.append_nil] at hrest ⊢
      rw [joinWith_cons _ _ hne, List.append_assoc, hrest]

/-! ## Blanks at the ends -/

theorem trimStart_cons {c : Char} (hc : isBlank c = true) (s : Text) :
    trimStart (c :: s) = trimStart s := by
  rw [trimStart, List.dropWhile_cons_of_pos hc, trimStart]

theorem trimStart_of_not_blank {c : Char} (hc : isBlank c = false) (s : Text) :
    trimStart (c :: s) = c :: s :=
  List.dropWhile_cons_of_neg (by simp [hc])

theorem trim_cons {c : Char} (hc : isBlank c = true) (s : Text) : trim (c :: s) = trim s := by
  rw [trim, trimStart_cons hc, trim]

/-- Neither the first nor the last character is blank. -/
structure Trimmed (s : Text) : Prop where
  /-- The first character is not blank. -/
  first : ∀ c, s.head? = some c → isBlank c = false
  /-- The last character is not blank. -/
  last : ∀ c, s.getLast? = some c → isBlank c = false

theorem Trimmed.of_forall {s : Text} (h : ∀ c ∈ s, isBlank c = false) : Trimmed s where
  first c hc := h c (List.mem_of_mem_head? hc)
  last c hc := h c (List.mem_of_getLast? hc)

/-- What starts like one trimmed text and ends like another is trimmed. -/
theorem Trimmed.append {s u : Text} (hs : Trimmed s) (hu : Trimmed u) (hne : s ≠ []) (hun : u ≠ [])
    (t : Text) : Trimmed (s ++ t ++ u) where
  first c hc := by
    obtain ⟨d, ds, rfl⟩ := List.exists_cons_of_ne_nil hne
    exact hs.first c hc
  last c hc := by
    rw [List.getLast?_append, List.getLast?_eq_some_getLast hun, Option.some_or] at hc
    exact hu.last c ((List.getLast?_eq_some_getLast hun).trans hc)

theorem trimEnd_of_last {s : Text} (h : ∀ c, s.getLast? = some c → isBlank c = false) :
    trimEnd s = s := by
  unfold trimEnd
  -- seen from behind, the text starts with its last character
  cases hs : s.reverse with
  | nil => simpa using hs.symm
  | cons c cs =>
    have hc : isBlank c = false := by
      apply h
      rw [List.getLast?_eq_head?_reverse, hs]
      rfl
    rw [List.dropWhile_cons_of_neg (by simp [hc]), ← hs, List.reverse_reverse]

theorem Trimmed.trimStart_eq {s : Text} (h : Trimmed s) : trimStart s = s := by
  cases s with
  | nil => rfl
  | cons c cs => exact trimStart_of_not_blank (h.first c rfl) cs

/-- Trimming leaves a trimmed text as it is. -/
theorem Trimmed.trim_eq {s : Text} (h : Trimmed s) : trim s = s := by
  rw [trim, h.trimStart_eq, trimEnd_of_last h.last]

theorem trimStart_append {blanks : Text} (h : isAllBlank blanks = true) (s : Text) :
    trimStart (blanks ++ s) = trimStart s :=
  List.dropWhile_append_of_pos (List.all_eq_true.mp h)

theorem trimEnd_append {blanks : Text} (h : isAllBlank blanks = true) (s : Text) :
    trimEnd (s ++ blanks) = trimEnd s := by
  have hall : ∀ c ∈ blanks.reverse, isBlank c = true := by
    intro c hc
    exact List.all_eq_true.mp h c (List.mem_reverse.mp hc)
  rw [trimEnd, List.reverse_append, List.dropWhile_append_of_pos hall, trimEnd]

/-- Trimming starts anew behind a character that is not blank. -/
theorem trimStart_append_cons {c : Char} (hc : isBlank c = false) (s t : Text) :
    trimStart (s ++ c :: t) = trimStart s ++ c :: t := by
  unfold trimStart
  rw [List.dropWhile_append]
  split
  · rename_i hs
    rw [List.isEmpty_iff.mp hs, List.dropWhile_cons_of_neg (by simp [hc])]
    rfl
  · rfl

theorem trimEnd_append_cons {c : Char} (hc : isBlank c = false) (s t : Text) :
    trimEnd (s ++ c :: t) = s ++ c :: trimEnd t := by
  have hback := trimStart_append_cons hc t.reverse s.reverse
  unfold trimStart at hback
  unfold trimEnd
  rw [List.reverse_append, List.reverse_cons, List.append_assoc, List.singleton_append, hback]
  simp

/-- Blanks around a text do not matter when it is trimmed. -/
theorem trim_pad {front back : Text} (hf : isAllBlank front = true) (hb : isAllBlank back = true)
    (s : Text) : trim (front ++ s ++ back) = trim s := by
  rw [List.append_assoc, trim, trimStart_append hf, trim, trimStart, trimStart, List.dropWhile_append]
  split
  · rename_i hs
    have hblank := trimStart_append hb []
    rw [List.append_nil, trimStart] at hblank
    rw [hblank, List.isEmpty_iff.mp hs]
    rfl
  · exact trimEnd_append hb _

/-- At its start a text can be trimmed before it is trimmed as a whole. -/
theorem trim_trimStart (s : Text) : trim (trimStart s) = trim s := by
  have hsplit : s.takeWhile isBlank ++ trimStart s ++ [] = s := by
    rw [List.append_nil]
    exact List.takeWhile_append_dropWhile
  have hfront : isAllBlank (s.takeWhile isBlank) = true := List.all_takeWhile
  have hnone : isAllBlank [] = true := rfl
  have hpad := trim_pad hfront hnone (trimStart s)
  rw [hsplit] at hpad
  exact hpad.symm

theorem trim_trimEnd (s : Text) : trim (trimEnd s) = trim s := by
  have hsplit : trimEnd s ++ (s.reverse.takeWhile isBlank).reverse = s := by
    rw [trimEnd, ← List.reverse_append, List.takeWhile_append_dropWhile, List.reverse_reverse]
  have hback : isAllBlank (s.reverse.takeWhile isBlank).reverse = true := by
    rw [isAllBlank, List.all_reverse]
    exact List.all_takeWhile
  have hnone : isAllBlank [] = true := rfl
  have hpad := trim_pad hnone hback (trimEnd s)
  rw [List.nil_append, hsplit] at hpad
  exact hpad.symm

theorem mem_of_mem_trim {s : Text} {c : Char} (h : c ∈ trim s) : c ∈ s := by
  rw [trim, trimEnd, List.mem_reverse] at h
  have hstart := List.mem_reverse.mp ((List.dropWhile_sublist _).mem h)
  exact (List.dropWhile_sublist _).mem hstart

theorem not_mem_of_isAllBlank {blanks : Text} (h : isAllBlank blanks = true) {c : Char}
    (hc : isBlank c = false) : c ∉ blanks := by
  intro hmem
  rw [List.all_eq_true.mp h c hmem] at hc
  cases hc

/-! ## The first word -/

/-- A word is the first word of a text that ends or goes on with a blank behind it. -/
theorem firstWord?_append {word rest : Text} (hne : word ≠ [])
    (hword : ∀ c ∈ word, isBlank c = false) (hrest : ∀ c, rest.head? = some c → isBlank c = true) :
    firstWord? (word ++ rest) = some (word, trimStart rest) := by
  obtain ⟨c, cs, rfl⟩ := List.exists_cons_of_ne_nil hne
  have hcs : ∀ d ∈ cs, (!isBlank d) = true := by
    intro d hd
    rw [hword d (List.mem_cons_of_mem c hd)]
    rfl
  have htake : rest.takeWhile (fun d => !isBlank d) = [] := by
    cases rest with
    | nil => rfl
    | cons d ds => exact List.takeWhile_cons_of_neg (by simp [hrest d rfl])
  have hdrop : rest.dropWhile (fun d => !isBlank d) = rest := by
    cases rest with
    | nil => rfl
    | cons d ds => exact List.dropWhile_cons_of_neg (by simp [hrest d rfl])
  unfold firstWord?
  rw [List.cons_append, trimStart_of_not_blank (hword c List.mem_cons_self)]
  simp only
  rw [List.takeWhile_append_of_pos hcs, List.dropWhile_append_of_pos hcs, htake, hdrop,
    List.append_nil]

/-! ## Words -/

/-- The first word is followed by the words of what follows it. -/
theorem words_eq (s : Text) :
    words s = match firstWord? s with
      | none => []
      | some (word, rest) => word :: words rest := by
  rw [words]
  split <;> simp [*]

/-- Blanks in front belong to no word. -/
theorem words_blanks_append {blanks : Text} (h : isAllBlank blanks = true) (s : Text) :
    words (blanks ++ s) = words s := by
  rw [words_eq, words_eq s, firstWord?, firstWord?, trimStart_append h]

theorem words_blanks {blanks : Text} (h : isAllBlank blanks = true) : words blanks = [] := by
  have hnone := words_blanks_append h []
  rw [List.append_nil] at hnone
  rw [hnone, words_eq]
  rfl

theorem words_trimStart (s : Text) : words (trimStart s) = words s := by
  have hfront : isAllBlank (s.takeWhile isBlank) = true := List.all_takeWhile
  have happend := words_blanks_append hfront (trimStart s)
  rw [trimStart, List.takeWhile_append_dropWhile] at happend
  exact happend.symm

theorem words_append {word rest : Text} (hne : word ≠ []) (hword : ∀ c ∈ word, isBlank c = false)
    (hrest : ∀ c, rest.head? = some c → isBlank c = true) :
    words (word ++ rest) = word :: words rest := by
  rw [words_eq, firstWord?_append hne hword hrest]
  exact congrArg _ (words_trimStart rest)

/-- Words come back from the text they are joined to, whatever blanks stand behind it. -/
theorem words_joinWith {pieces : List Text} (hne : ∀ t ∈ pieces, t ≠ [])
    (hblank : ∀ t ∈ pieces, ∀ c ∈ t, isBlank c = false) {blanks : Text}
    (hblanks : isAllBlank blanks = true) : words (joinWith [' '] pieces ++ blanks) = pieces := by
  induction pieces with
  | nil => exact words_blanks hblanks
  | cons t ts ih =>
    have ht := hne t List.mem_cons_self
    have htblank := hblank t List.mem_cons_self
    have hrest := ih (fun u hu => hne u (List.mem_cons_of_mem t hu))
      (fun u hu => hblank u (List.mem_cons_of_mem t hu))
    rcases ts with _ | ⟨u, us⟩
    · have hhead : ∀ c, blanks.head? = some c → isBlank c = true := fun c hc =>
        List.all_eq_true.mp hblanks c (List.mem_of_head? hc)
      rw [joinWith, words_append ht htblank hhead, words_blanks hblanks]
    · have hhead : ∀ c, (' ' :: (joinWith [' '] (u :: us) ++ blanks)).head? = some c →
          isBlank c = true := by
        intro c hc
        cases hc
        decide
      rw [joinWith_cons _ t (by simp), List.append_assoc, List.append_assoc]
      show words (t ++ ' ' :: (joinWith [' '] (u :: us) ++ blanks)) = _
      rw [words_append ht htblank hhead, ← words_trimStart, trimStart_cons (by decide),
        words_trimStart, hrest]

end ChipEight.Text
