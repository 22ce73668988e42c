/-
# ChipEight.Proofs.Statement -- statements that are written out and read again

A statement is usually written as its name, a blank, and its operands with a comma and a blank
between them (`statement`). If the name and the operands are tokens, texts that hold no blank and
nothing that ends an operand, a label or a line, then each reader of program text finds in it what
was put there: the operands come back from what they are joined to, the name is the first word, and
the line as a whole has no comment and no label.
-/
import ChipEight.Assembly.Layout
import ChipEight.Proofs.Pieces
import Mathlib.Data.List.Basic

namespace ChipEight.Assembly

open Text

/-! ## Tokens -/

/-- White space, and the characters that end an operand, a label or a line. -/
def isBoundary (c : Char) : Bool :=
  isBlank c || c == ',' || c == ':' || c == ';'

/-- A text that program text never takes apart. -/
structure Token (s : Text) : Prop where
  /-- It is not empty. -/
  ne_nil : s ≠ []
  /-- No character of it ends anything. -/
  inner : ∀ c ∈ s, isBoundary c = false

theorem token_iff (s : Text) :
    (!s.isEmpty && s.all fun c => !isBoundary c) = true ↔ Token s := by
  rw [Bool.and_eq_true, Bool.not_eq_true', List.isEmpty_eq_false_iff, List.all_eq_true]
  constructor
  · rintro ⟨hne, hinner⟩
    exact ⟨hne, fun c hc => by simpa using hinner c hc⟩
  · rintro ⟨hne, hinner⟩
    exact ⟨hne, fun c hc => by simp [hinner c hc]⟩

instance (s : Text) : Decidable (Token s) :=
  decidable_of_iff _ (token_iff s)

theorem isBlank_of_inner {c : Char} (h : isBoundary c = false) : isBlank c = false := by
  simp only [isBoundary, Bool.or_eq_false_iff] at h
  exact h.1.1.1

namespace Token

variable {s : Text}

theorem not_blank (h : Token s) : ∀ c ∈ s, isBlank c = false :=
  fun c hc => isBlank_of_inner (h.inner c hc)

theorem not_mem (h : Token s) {c : Char} (hc : isBoundary c = true) : c ∉ s := by
  intro hmem
  rw [h.inner c hmem] at hc
  exact Bool.false_ne_true hc

theorem trimmed (h : Token s) : Trimmed s :=
  .of_forall h.not_blank

theorem trim_eq (h : Token s) : trim s = s :=
  h.trimmed.trim_eq

end Token

/-! ## Operands -/

/-- A comma parts the operands before it from those behind it. -/
theorem splitOperands_append (s t : Text) :
    splitOperands (s ++ ',' :: t) = splitOperands s ++ splitOperands t := by
  unfold splitOperands
  rw [splitOn_append, List.map_append, List.filter_append]

/-- A blank in front belongs to no operand. -/
theorem splitOperands_cons {c : Char} (hc : isBlank c = true) (s : Text) :
    splitOperands (c :: s) = splitOperands s := by
  have hne : c ≠ ',' := by
    rintro rfl
    exact absurd hc (by decide)
  obtain ⟨piece, pieces, hs⟩ := List.exists_cons_of_ne_nil (splitOn_ne_nil ',' s)
  unfold splitOperands
  rw [splitOn_cons_of_ne hne hs, hs, List.map_cons, List.map_cons, trim_cons hc]

/-- Nothing but commas and blanks. -/
def IsGap (gap : Text) : Prop :=
  ∀ c ∈ gap, c = ',' ∨ isBlank c = true

theorem isGap_iff (gap : Text) : (gap.all fun c => c == ',' || isBlank c) = true ↔ IsGap gap := by
  simp [IsGap]

instance (gap : Text) : Decidable (IsGap gap) :=
  decidable_of_iff _ (isGap_iff gap)

theorem IsGap.of_isAllBlank {blanks : Text} (h : isAllBlank blanks = true) : IsGap blanks := by
  intro c hc
  exact .inr (List.all_eq_true.mp h c hc)

/-- A gap in front belongs to no operand. -/
theorem splitOperands_gap_append {gap : Text} (h : IsGap gap) (s : Text) :
    splitOperands (gap ++ s) = splitOperands s := by
  induction gap with
  | nil => rfl
  | cons c cs ih =>
    have hrest : splitOperands (cs ++ s) = splitOperands s := by
      apply ih
      intro d hd
      exact h d (List.mem_cons_of_mem c hd)
    rcases h c List.mem_cons_self with rfl | hblank
    · show splitOperands ([] ++ ',' :: (cs ++ s)) = _
      rw [splitOperands_append, hrest]
      rfl
    · rw [List.cons_append, splitOperands_cons hblank, hrest]

theorem splitOperands_gap {gap : Text} (h : IsGap gap) : splitOperands gap = [] := by
  have happend := splitOperands_gap_append h []
  rw [List.append_nil] at happend
  exact happend

theorem splitOperands_blanks_append {blanks : Text} (h : isAllBlank blanks = true) (s : Text) :
    splitOperands (blanks ++ s) = splitOperands s :=
  splitOperands_gap_append (.of_isAllBlank h) s

theorem splitOperands_blanks {blanks : Text} (h : isAllBlank blanks = true) :
    splitOperands blanks = [] :=
  splitOperands_gap (.of_isAllBlank h)

/-- A text without a comma is one operand, whatever blanks stand behind it. -/
theorem splitOperands_lone {t blanks : Text} (ht : Trimmed t) (hne : t ≠ []) (hcomma : ',' ∉ t)
    (h : isAllBlank blanks = true) : splitOperands (t ++ blanks) = [t] := by
  have hnone : isAllBlank [] = true := rfl
  have htrim : trim (t ++ blanks) = t := (trim_pad hnone h t).trans ht.trim_eq
  have hwhole : ',' ∉ t ++ blanks := by
    rw [List.mem_append, not_or]
    exact ⟨hcomma, not_mem_of_isAllBlank h (by decide)⟩
  unfold splitOperands
  rw [splitOn_of_not_mem hwhole, List.map_singleton, htrim]
  exact List.filter_eq_self.mpr (by simp [hne])

theorem splitOperands_token {t : Text} (h : Token t) : splitOperands t = [t] := by
  have hnone : isAllBlank [] = true := rfl
  have hlone := splitOperands_lone h.trimmed h.ne_nil (h.not_mem (by decide)) hnone
  rwa [List.append_nil] at hlone

/-- Operands come back from the text they are joined to. -/
theorem splitOperands_joinWith {operands : List Text} (h : ∀ t ∈ operands, Token t) :
    splitOperands (joinWith ", ".toList operands) = operands := by
  induction operands with
  | nil => decide
  | cons t ts ih =>
    have ht := splitOperands_token (h t List.mem_cons_self)
    rcases ts with _ | ⟨u, us⟩
    · exact ht
    · have hsep : t ++ ", ".toList ++ joinWith ", ".toList (u :: us) =
          t ++ ',' :: ' ' :: joinWith ", ".toList (u :: us) := by
        simp
      -- the comma parts the operands, and the blank behind it belongs to none
      rw [joinWith_cons _ t (by simp), hsep, splitOperands_append, splitOperands_cons (by decide),
        ht, ih fun v hv => h v (List.mem_cons_of_mem t hv)]
      rfl

theorem trimmed_joinWith (sep : Text) {operands : List Text} (h : ∀ t ∈ operands, Token t) :
    Trimmed (joinWith sep operands) := by
  induction operands with
  | nil => exact .of_forall (by simp [joinWith])
  | cons t ts ih =>
    have ht := h t List.mem_cons_self
    rcases ts with _ | ⟨u, us⟩
    · exact ht.trimmed
    · have hu := h u (by simp)
      rw [joinWith_cons sep t (by simp)]
      exact ht.trimmed.append (ih fun v hv => h v (List.mem_cons_of_mem t hv)) ht.ne_nil
        (joinWith_cons_ne_nil sep hu.ne_nil us) sep

/-! ## Statements -/

/-- A statement: its name, and behind a blank its operands if there are any. -/
def statement (name : Text) (operands : List Text) : Text :=
  match operands with
  | [] => name
  | t :: ts => name ++ ' ' :: joinWith ", ".toList (t :: ts)

section Statement

variable {name : Text} {operands : List Text}

theorem splitMnemonic?_statement (hname : Token name) (hops : ∀ t ∈ operands, Token t) :
    splitMnemonic? (statement name operands) = some (name, joinWith ", ".toList operands) := by
  unfold splitMnemonic?
  cases operands with
  | nil =>
    have hrest : ∀ c, ([] : Text).head? = some c → isBlank c = true := by
      intro c hc
      cases hc
    have h := firstWord?_append hname.ne_nil hname.not_blank hrest
    rw [List.append_nil] at h
    exact h
  | cons t ts =>
    have hrest : ∀ c, (' ' :: joinWith ", ".toList (t :: ts)).head? = some c →
        isBlank c = true := by
      intro c hc
      cases hc
      decide
    have htrim : trimStart (' ' :: joinWith ", ".toList (t :: ts)) =
        joinWith ", ".toList (t :: ts) := by
      rw [trimStart_cons (by decide), (trimmed_joinWith _ hops).trimStart_eq]
    show firstWord? (name ++ ' ' :: joinWith ", ".toList (t :: ts)) = _
    rw [firstWord?_append hname.ne_nil hname.not_blank hrest, htrim]

theorem statement_ne_nil (hname : Token name) : statement name operands ≠ [] := by
  cases operands with
  | nil => exact hname.ne_nil
  | cons t ts => simp [statement]

theorem trimmed_statement (hname : Token name) (hops : ∀ t ∈ operands, Token t) :
    Trimmed (statement name operands) := by
  cases operands with
  | nil => exact hname.trimmed
  | cons t ts =>
    have ht := hops t List.mem_cons_self
    have h := hname.trimmed.append (trimmed_joinWith ", ".toList hops) hname.ne_nil
      (joinWith_cons_ne_nil _ ht.ne_nil ts) [' ']
    rw [List.append_assoc] at h
    exact h

/-- Only blanks and commas are added to the name and the operands. -/
theorem mem_statement {c : Char} (h : c ∈ statement name operands) :
    c = ' ' ∨ c = ',' ∨ c ∈ name ∨ ∃ t ∈ operands, c ∈ t := by
  cases operands with
  | nil => exact .inr (.inr (.inl h))
  | cons t ts =>
    rw [statement, List.mem_append, List.mem_cons] at h
    rcases h with h | rfl | h
    · exact .inr (.inr (.inl h))
    · exact .inl rfl
    · rcases mem_joinWith h with h | h
      · have hsep : c = ',' ∨ c = ' ' := by simpa using h
        rcases hsep with rfl | rfl
        · exact .inr (.inl rfl)
        · exact .inl rfl
      · exact .inr (.inr (.inr h))

end Statement

/-! ## Lines -/

/-- The text starts with an ASCII character that starts no directive. -/
def startsPlain : Text → Bool
  | [] => false
  | c :: _ => c.toNat < 128 && lowerChar c != '.'

/-- All directives start with a dot, so one comparison settles the three of them. -/
theorem ofStatement_of_no_dot {s : Text}
    (h : ∀ letters, startsWith ('.' :: letters) s = false) : Form.ofStatement s = .instruction := by
  unfold Form.ofStatement
  rw [if_neg (by simp [h]), if_neg (by simp [h]), if_neg (by simp [h])]

/-- Directives are told by their dot, so what starts with another ASCII character is none. -/
theorem ofStatement_of_startsPlain {c : Char} {s : Text} (h : startsPlain (c :: s) = true) :
    Form.ofStatement (c :: s) = .instruction := by
  simp only [startsPlain, Bool.and_eq_true, decide_eq_true_eq, bne_iff_ne] at h
  obtain ⟨hc, hdot⟩ := h
  apply ofStatement_of_no_dot
  intro letters
  rw [startsWith, lower, lowerAfter_cons hc, after?, if_neg (Ne.symm hdot)]
  rfl

/-- A line that is an instruction and nothing else. -/
structure PlainLine (s : Text) : Prop where
  /-- It is not empty. -/
  ne_nil : s ≠ []
  /-- No blanks stand at its ends. -/
  trimmed : Trimmed s
  /-- It holds no line feed. -/
  line : '\n' ∉ s
  /-- It holds no comment. -/
  comment : ';' ∉ s
  /-- It holds no label. -/
  label : ':' ∉ s
  /-- It is no directive. -/
  form : Form.ofStatement s = .instruction

/-- The statement of tokens is a plain line if its name cannot start a directive. -/
theorem plainLine_statement {name : Text} {operands : List Text} (hname : Token name)
    (hfirst : startsPlain name = true) (hops : ∀ t ∈ operands, Token t) :
    PlainLine (statement name operands) := by
  -- a boundary could only be one of the blanks and commas between the tokens
  have hnot : ∀ c, isBoundary c = true → c ≠ ' ' → c ≠ ',' → c ∉ statement name operands := by
    intro c hb hblank hcomma hc
    rcases mem_statement hc with h | h | h | ⟨t, ht, h⟩
    · exact hblank h
    · exact hcomma h
    · exact hname.not_mem hb h
    · exact (hops t ht).not_mem hb h
  refine ⟨statement_ne_nil hname, trimmed_statement hname hops, ?_, ?_, ?_, ?_⟩
  · exact hnot '\n' (by decide) (by decide) (by decide)
  · exact hnot ';' (by decide) (by decide) (by decide)
  · exact hnot ':' (by decide) (by decide) (by decide)
  · obtain ⟨c, cs, rfl⟩ := List.exists_cons_of_ne_nil hname.ne_nil
    cases operands with
    | nil => exact ofStatement_of_startsPlain hfirst
    | cons t ts => exact ofStatement_of_startsPlain hfirst

/-- Instructions one after another, the first one with a line number and at an address. -/
def inSequence (number : Nat) (address : Int) : List Text → List Placed
  | [] => []
  | t :: ts => ⟨number, t, .instruction, address, 2⟩ :: inSequence (number + 1) (address + 2) ts

theorem PlainLine.withoutComment_eq {s : Text} (h : PlainLine s) : withoutComment s = s := by
  rw [withoutComment, cut_of_not_mem h.comment, h.trimmed.trim_eq]

theorem PlainLine.labelAndStatement_eq {s : Text} (h : PlainLine s) :
    labelAndStatement s = (none, s) := by
  rw [labelAndStatement, cut_of_not_mem h.label]

/-- Plain lines are the source lines of the text they are joined to, each under its number. -/
theorem sourceLines_joinWith {ts : List Text} (h : ∀ t ∈ ts, PlainLine t) :
    sourceLines (joinWith ['\n'] ts) = (ts.zipIdx 1).map fun (t, n) => ⟨n, t⟩ := by
  by_cases hne : ts = []
  · -- no lines are joined to the empty text, which is one line, but a blank one
    subst hne
    decide
  rw [sourceLines, splitOn_joinWith hne fun t ht => (h t ht).line,
    List.filterMap_eq_map_iff_forall_eq_some]
  rintro ⟨t, n⟩ hmem
  have ht := h t (List.fst_mem_of_mem_zipIdx hmem)
  simp only [ht.withoutComment_eq]
  split
  · exact absurd rfl ht.ne_nil
  · rfl

/-- Every plain line is placed behind the one before it, and no label is defined. -/
theorem place_plainLines {ts : List Text} (h : ∀ t ∈ ts, PlainLine t) (labels : Labels)
    (number : Nat) (address : Int) :
    place labels address ((ts.zipIdx number).map fun (t, n) => ⟨n, t⟩) =
      .ok ⟨labels, inSequence number address ts⟩ := by
  induction ts generalizing number address with
  | nil => rfl
  | cons t ts ih =>
    have ht := h t List.mem_cons_self
    have hempty : t.isEmpty = false := by simp [ht.ne_nil]
    have hrest := ih (fun u hu => h u (List.mem_cons_of_mem t hu)) (number + 1) (address + 2)
    -- sizes are natural numbers and addresses integers
    have htwo : ((2 : Nat) : Int) = 2 := rfl
    rw [List.zipIdx_cons, List.map_cons, place]
    simp only [ht.labelAndStatement_eq, hempty, ht.form, defineAll, Form.size]
    simp only [Bool.false_eq_true, if_false, htwo, hrest]
    rfl

theorem layout_joinWith {ts : List Text} (h : ∀ t ∈ ts, PlainLine t) (base : Int) :
    layout (joinWith ['\n'] ts) base = .ok ⟨[], inSequence 1 base ts⟩ := by
  rw [layout, sourceLines_joinWith h, place_plainLines h]

end ChipEight.Assembly
