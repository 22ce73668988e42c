/-
# ChipEight.Proofs.Edits -- edits that leave the image alone

Program text can be laid out in many ways. Lines that are blank or hold a comment only may be put in
and taken out, blanks may stand at the ends of a line, a comment behind it, a label on its own line or
in front of its statement, and the case of ASCII letters is free wherever a name is read that is no
label: in the mnemonic, in the name of a directive, and in operands that are registers or special
places. `Edit` is one such change of a text, and `edits_keep_image` says that no sequence of them, in
either direction, changes whether the text is assembled or to which bytes.

Edits of layout alone leave the lines as they are read, or part one line into a label and a
statement. A change of case leaves the form of a statement as it is (`Recased.form`), and the plan of
an instruction, so that only an operand of which the value is looked up could tell the difference
(`Recased.instruction`). All edits keep the meaning of the lines that they touch
(`Rewritten.meaning_eq`).
-/
import ChipEight.Proofs.Meaning
import ChipEight.Proofs.Statement
import Mathlib.Logic.Relation

namespace ChipEight.Assembly

open Text

/-! ## Parts of a line -/

/-- Blanks, and behind them a comment perhaps. -/
inductive Trail : Text → Prop where
  | blanks {blanks : Text} (blank : isAllBlank blanks = true) : Trail blanks
  | comment {blanks : Text} (blank : isAllBlank blanks = true) (comment : Text) :
      Trail (blanks ++ ';' :: comment)

/-- What may stand in front of a statement: blanks, or a label with its colon and blanks. A statement
without a label has no colon, as that would end a label. -/
inductive Lead (statement : Text) : Text → Prop where
  | blanks {blanks : Text} (blank : isAllBlank blanks = true) (noLabel : ':' ∉ statement) :
      Lead statement blanks
  | label {label blanks : Text} (noColon : ':' ∉ label) (noComment : ';' ∉ label)
      (blank : isAllBlank blanks = true) : Lead statement (label ++ ':' :: blanks)

/-- The text `front ++ statement ++ back` is a line with this statement. -/
structure Carries (front statement back : Text) : Prop where
  nonempty : statement ≠ []
  trimmed : Trimmed statement
  noComment : ';' ∉ statement
  lead : Lead statement front
  trail : Trail back

/-- What may stand between the mnemonic and an operand: blanks, or other operands up to a comma and
blanks. -/
inductive OperandLead : Text → Prop where
  | blanks {blanks : Text} (blank : isAllBlank blanks = true) : OperandLead blanks
  | comma (others : Text) {blanks : Text} (blank : isAllBlank blanks = true) :
      OperandLead (others ++ ',' :: blanks)

/-- What may stand behind an operand: blanks, or blanks, a comma and other operands. -/
inductive OperandTrail : Text → Prop where
  | blanks {blanks : Text} (blank : isAllBlank blanks = true) : OperandTrail blanks
  | comma {blanks : Text} (blank : isAllBlank blanks = true) (others : Text) :
      OperandTrail (blanks ++ ',' :: others)

/-- The text is a mnemonic with other text behind it. -/
structure Headed (name rest : Text) : Prop where
  nonempty : name ≠ []
  word : ∀ c ∈ name, isBlank c = false
  ends : ∀ c, rest.head? = some c → isBlank c = true
  form : Form.ofStatement (name ++ rest) = .instruction

/-! ## Edits -/

/-- The names of the directives. -/
def directiveNames : List Text :=
  [".org".toList, ".db".toList, ".dw".toList]

/-- An instruction with this mnemonic and these operands looks up the value of the operand in this
place. It reads other operands as registers or special places, or not at all. -/
def ReadAsValue (name : Text) (operands : List Text) (k : Nat) : Prop :=
  ∃ m plan, (lower name, m) ∈ mnemonicNames ∧ m.plan? operands = some plan ∧ plan.place? = some k

/-- The statements differ in the case of ASCII letters at most, and only in the name of a directive,
in the mnemonic, or in one operand that is not read as a value. -/
inductive Recased : Text → Text → Prop where
  | directive {name name' letters : Text} (known : letters ∈ directiveNames)
      (spelled : SameButCase name letters) (spelled' : SameButCase name' letters) (rest : Text) :
      Recased (name ++ rest) (name' ++ rest)
  | mnemonic {name name' rest : Text} (headed : Headed name rest) (same : SameButCase name name') :
      Recased (name ++ rest) (name' ++ rest)
  | operand {name front t t' back : Text} (headed : Headed name (front ++ t ++ back))
      (nonempty : t ≠ []) (trimmed : Trimmed t) (noComma : ',' ∉ t) (lead : OperandLead front)
      (trail : OperandTrail back) (same : SameButCase t t')
      (noValue : ¬ ReadAsValue name (splitOperands (front ++ t ++ back))
        (splitOperands front).length) :
      Recased (name ++ (front ++ t ++ back)) (name ++ (front ++ t' ++ back))

/-- Some lines of a text are changed into others. -/
inductive Rewritten : List Text → List Text → Prop where
  /-- A line without a label and a statement is put in. -/
  | blank {raw : Text} (trail : Trail raw) : Rewritten [] [raw]
  /-- Blanks are added at the ends of a line. -/
  | padded {front back : Text} (blank : isAllBlank front = true) (blank' : isAllBlank back = true)
      (raw : Text) : Rewritten [raw] [front ++ raw ++ back]
  /-- A comment is added to a line. -/
  | comment (raw comment : Text) : Rewritten [raw] [raw ++ ';' :: comment]
  /-- A label gets a line of its own. -/
  | split {label rest : Text} (noColon : ':' ∉ label) (noComment : ';' ∉ label)
      (nonempty : withoutComment rest ≠ []) (noLabel : ':' ∉ withoutComment rest) :
      Rewritten [label ++ ':' :: rest] [label ++ [':'], rest]
  /-- The case of letters is changed in a statement. -/
  | recased {front s s' back : Text} (carries : Carries front s back) (recased : Recased s s') :
      Rewritten [front ++ s ++ back] [front ++ s' ++ back]

/-- The second text is the first one with some lines changed. -/
def Edit (source source' : Text) : Prop :=
  ∃ before old new after, splitOn '\n' source = before ++ old ++ after ∧
    splitOn '\n' source' = before ++ new ++ after ∧ Rewritten old new

/-! ## Comments and labels -/

theorem Trail.cut {back : Text} (h : Trail back) : isAllBlank (cut ';' back).1 = true := by
  cases h with
  | blanks blank => rwa [cut_of_not_mem (not_mem_of_isAllBlank blank (by decide))]
  | comment blank comment => rwa [cut_append (not_mem_of_isAllBlank blank (by decide))]

/-- Nothing behind a statement counts. -/
theorem withoutComment_append {s back : Text} (hs : ';' ∉ s) (h : Trail back) :
    withoutComment (s ++ back) = trim s := by
  have hnone : isAllBlank [] = true := rfl
  rw [withoutComment, cut_append_fst hs]
  exact trim_pad hnone h.cut s

theorem withoutComment_of_trail {raw : Text} (h : Trail raw) : withoutComment raw = [] :=
  withoutComment_append (s := []) (by simp) h

theorem withoutComment_comment (raw comment : Text) :
    withoutComment (raw ++ ';' :: comment) = withoutComment raw := by
  unfold withoutComment
  by_cases h : ';' ∈ raw
  · rw [cut_fst_of_mem h]
  · rw [cut_append h, cut_of_not_mem h]

theorem withoutComment_pad {front back : Text} (hf : isAllBlank front = true)
    (hb : isAllBlank back = true) (raw : Text) :
    withoutComment (front ++ raw ++ back) = withoutComment raw := by
  have hnone : isAllBlank [] = true := rfl
  have hfront : ';' ∉ front := not_mem_of_isAllBlank hf (by decide)
  unfold withoutComment
  rw [List.append_assoc, cut_append_fst hfront]
  by_cases h : ';' ∈ raw
  · have hpad := trim_pad hf hnone (cut ';' raw).1
    rw [List.append_nil] at hpad
    rwa [cut_fst_of_mem h back]
  · have hback : ';' ∉ raw ++ back := by
      rw [List.mem_append, not_or]
      exact ⟨h, not_mem_of_isAllBlank hb (by decide)⟩
    rw [cut_of_not_mem hback, cut_of_not_mem h, ← List.append_assoc]
    exact trim_pad hf hb raw

/-- A label is found in a line with or without the blanks at its ends. -/
theorem labelAndStatement_trim {label : Text} (h : ':' ∉ label) (rest : Text) :
    labelAndStatement (trim (label ++ ':' :: rest)) = (some (trim label), trim rest) := by
  have hcolon : isBlank ':' = false := by decide
  have hlabel : ':' ∉ trimStart label := fun hmem => h ((List.dropWhile_sublist _).mem hmem)
  rw [trim, trimStart_append_cons hcolon, trimEnd_append_cons hcolon, labelAndStatement,
    cut_append hlabel]
  simp only [trim_trimStart, trim_trimEnd]

/-- A label ends at its colon, and the statement behind it is what would be read without it. -/
theorem read_labelled {label : Text} (noColon : ':' ∉ label) (noComment : ';' ∉ label)
    (rest : Text) :
    labelAndStatement (withoutComment (label ++ ':' :: rest)) =
      (some (trim label), withoutComment rest) := by
  have hlabel : ';' ∉ label ++ [':'] := by
    rw [List.mem_append, not_or]
    exact ⟨noComment, by decide⟩
  have hcode := cut_append_fst hlabel rest
  rw [List.append_assoc, List.append_assoc] at hcode
  rw [withoutComment, ← List.singleton_append, hcode]
  exact labelAndStatement_trim noColon _

/-- The statement of a line is read as it was put there, and what stands in front of it decides about
the label alone. -/
theorem Carries.read {front s back : Text} (h : Carries front s back) :
    labelAndStatement (withoutComment (front ++ s ++ back)) =
      ((cut ':' front).2.map fun _ => trim (cut ':' front).1, s) := by
  have hs {blanks : Text} (blank : isAllBlank blanks = true) :
      withoutComment (blanks ++ s ++ back) = s := by
    have hnone : isAllBlank [] = true := rfl
    have hclean : ';' ∉ blanks ++ s := by
      rw [List.mem_append, not_or]
      exact ⟨not_mem_of_isAllBlank blank (by decide), h.noComment⟩
    have htrim := trim_pad blank hnone s
    rw [List.append_nil, h.trimmed.trim_eq] at htrim
    rw [withoutComment_append hclean h.trail, htrim]
  cases h.lead with
  | blanks blank noLabel =>
    rw [hs blank, labelAndStatement, cut_of_not_mem noLabel,
      cut_of_not_mem (not_mem_of_isAllBlank blank (by decide))]
    rfl
  | label noColon noComment blank =>
    rw [List.append_assoc, List.append_assoc, List.cons_append, read_labelled noColon noComment,
      ← List.append_assoc, hs blank, cut_append noColon]
    rfl

/-- A line whose statement changes in case only carries the new one. -/
theorem Carries.recase {front s s' back : Text} (h : Carries front s back)
    (same : SameButCase s s') : Carries front s' back where
  nonempty := same.ne_nil h.nonempty
  trimmed := same.trimmed h.trimmed
  noComment := same.not_mem (by decide) h.noComment
  lead := by
    cases h.lead with
    | blanks blank noLabel => exact .blanks blank (same.not_mem (by decide) noLabel)
    | label noColon noComment blank => exact .label noColon noComment blank
  trail := h.trail

/-! ## Directives -/

theorem after?_append (s t : Text) : after? s (s ++ t) = some t := by
  induction s with
  | nil => rfl
  | cons c cs ih => rw [List.cons_append, after?, if_pos rfl, ih]

section Directives

variable {name : Text} (rest : Text)

/-- The start of a statement is compared with a directive in small letters. -/
theorem lower_directive {letters : Text} (known : letters ∈ directiveNames)
    (h : SameButCase name letters) :
    lower (name ++ rest) = letters ++ lowerAfter (letters.reverse ++ []) rest := by
  have hascii : ∀ l ∈ directiveNames,
      (l.all fun c => decide (c.toNat < 128)) = true ∧ l.map Char.toLower = l := by decide
  obtain ⟨hall, hsmall⟩ := hascii letters known
  have hletters : ∀ c ∈ letters, c.toNat < 128 := by
    intro c hc
    exact of_decide_eq_true (List.all_eq_true.mp hall c hc)
  have hsame : SameButCase (name ++ rest) (letters ++ rest) := h.append (.refl rest)
  rw [hsame.lower_eq, lower, lowerAfter_append hletters, hsmall]

theorem drop_directive {letters : Text} (h : SameButCase name letters) :
    (name ++ rest).drop letters.length = rest := by
  rw [← h.length_eq]
  exact List.drop_left

theorem form_org (h : SameButCase name ".org".toList) :
    Form.ofStatement (name ++ rest) = .origin (trim rest) := by
  have hlower := lower_directive rest (by decide) h
  have hdrop : (name ++ rest).drop 4 = rest := drop_directive rest h
  unfold Form.ofStatement startsWith
  rw [hlower, after?_append, hdrop]
  rfl

theorem form_db (h : SameButCase name ".db".toList) :
    Form.ofStatement (name ++ rest) = .bytes (splitOperands rest) := by
  have hlower := lower_directive rest (by decide) h
  have hdrop : (name ++ rest).drop 3 = rest := drop_directive rest h
  unfold Form.ofStatement startsWith
  rw [hlower, after?_append, hdrop]
  rfl

theorem form_dw (h : SameButCase name ".dw".toList) :
    Form.ofStatement (name ++ rest) = .words (splitOperands rest) := by
  have hlower := lower_directive rest (by decide) h
  have hdrop : (name ++ rest).drop 3 = rest := drop_directive rest h
  unfold Form.ofStatement startsWith
  rw [hlower, after?_append, hdrop]
  rfl

/-- A directive is the same directive in other letters, and no instruction. -/
theorem form_directive {name' letters : Text} (known : letters ∈ directiveNames)
    (h : SameButCase name letters) (h' : SameButCase name' letters) :
    Form.ofStatement (name ++ rest) = Form.ofStatement (name' ++ rest) ∧
      Form.ofStatement (name ++ rest) ≠ .instruction := by
  simp only [directiveNames, List.mem_cons, List.not_mem_nil, or_false] at known
  rcases known with rfl | rfl | rfl
  · simp [form_org rest h, form_org rest h']
  · simp [form_db rest h, form_db rest h']
  · simp [form_dw rest h, form_dw rest h']

end Directives

/-! ## Instructions -/

/-- Whether a text is an instruction does not depend on the case of its letters. -/
theorem form_of_sameButCase {s s' : Text} (same : SameButCase s s')
    (h : Form.ofStatement s = .instruction) : Form.ofStatement s' = .instruction := by
  have hstarts (letters : Text) : startsWith letters s' = startsWith letters s := by
    rw [startsWith, startsWith, same.lower_eq]
  unfold Form.ofStatement at h ⊢
  simp only [hstarts]
  split at h
  · cases h
  split at h
  · cases h
  split at h
  · cases h
  rw [if_neg ‹_›, if_neg ‹_›, if_neg ‹_›]

theorem splitOperands_trimStart (s : Text) : splitOperands (trimStart s) = splitOperands s := by
  have hfront : isAllBlank (s.takeWhile isBlank) = true := List.all_takeWhile
  have happend := splitOperands_blanks_append hfront (trimStart s)
  rw [trimStart, List.takeWhile_append_dropWhile] at happend
  exact happend.symm

/-- Whether a text has a mnemonic in front can be computed. -/
theorem Headed.of_check {name rest : Text} (nonempty : name ≠ [])
    (word : name.any isBlank = false) (ends : rest.head?.all isBlank = true)
    (form : Form.ofStatement (name ++ rest) = .instruction) : Headed name rest where
  nonempty := nonempty
  word := by
    intro c hc
    simpa using List.any_eq_false.mp word c hc
  ends := by
    intro c hc
    rwa [hc] at ends
  form := form

/-- An instruction by its mnemonic and its operands. -/
theorem Headed.toOption_eq {name rest : Text} (h : Headed name rest) (labels : Labels) :
    (instruction labels (name ++ rest)).toOption =
      (mnemonicNames.lookup (lower name)).bind fun m =>
        (m.plan? (splitOperands rest)).bind (Plan.complete labels (splitOperands rest)) := by
  have hsplit : splitMnemonic? (name ++ rest) = some (name, trimStart rest) :=
    firstWord?_append h.nonempty h.word h.ends
  rw [instruction_toOption hsplit, splitOperands_trimStart]

theorem Headed.recase {name name' rest rest' : Text} (h : Headed name rest)
    (hname : SameButCase name name') (hrest : SameButCase rest rest') : Headed name' rest' where
  nonempty := hname.ne_nil h.nonempty
  word := hname.word h.word
  ends := hrest.head_blank h.ends
  form := form_of_sameButCase (hname.append hrest) h.form

/-- The operands of a text are those in front of one of them, this one, and those behind it. -/
theorem splitOperands_around {front t back : Text} (lead : OperandLead front)
    (trail : OperandTrail back) (nonempty : t ≠ []) (trimmed : Trimmed t) (noComma : ',' ∉ t) :
    splitOperands (front ++ t ++ back) = splitOperands front ++ t :: splitOperands back := by
  have hback : splitOperands (t ++ back) = t :: splitOperands back := by
    cases trail with
    | blanks blank =>
      rw [splitOperands_lone trimmed nonempty noComma blank, splitOperands_blanks blank]
    | comma blank others =>
      rw [← List.append_assoc, splitOperands_append, splitOperands_append,
        splitOperands_lone trimmed nonempty noComma blank, splitOperands_blanks blank]
      rfl
  rw [List.append_assoc]
  cases lead with
  | blanks blank =>
    rw [splitOperands_blanks_append blank, hback, splitOperands_blanks blank]
    rfl
  | comma others blank =>
    rw [List.append_assoc, List.cons_append, splitOperands_append, splitOperands_append,
      splitOperands_blanks_append blank, hback, splitOperands_blanks blank, List.append_nil]

theorem getElem?_around {α : Type} {front back : List α} {t t' : α} {k : Nat}
    (hk : k ≠ front.length) : (front ++ t :: back)[k]? = (front ++ t' :: back)[k]? := by
  rcases Nat.lt_or_gt_of_ne hk with hlt | hgt
  · rw [List.getElem?_append_left hlt, List.getElem?_append_left hlt]
  · rw [List.getElem?_append_right (Nat.le_of_lt hgt), List.getElem?_append_right (Nat.le_of_lt hgt),
      List.getElem?_cons, List.getElem?_cons, if_neg (by omega), if_neg (by omega)]

namespace Recased

variable {s s' : Text}

theorem same (h : Recased s s') : SameButCase s s' := by
  cases h with
  | directive known spelled spelled' rest =>
    exact (SameButCase.trans spelled spelled'.symm).append (.refl rest)
  | mnemonic headed same => exact same.append (.refl _)
  | operand _ _ _ _ _ _ same =>
    exact (SameButCase.refl _).append (((SameButCase.refl _).append same).append (.refl _))

/-- A change of case leaves the form of a statement as it is. -/
theorem form (h : Recased s s') : Form.ofStatement s = Form.ofStatement s' := by
  have hsame := h.same
  cases h with
  | directive known spelled spelled' rest => exact (form_directive rest known spelled spelled').1
  | mnemonic headed | operand headed =>
    rw [headed.form]
    exact (form_of_sameButCase hsame headed.form).symm

/-- Two instructions that differ in case are made from one plan, and if a value is looked up for it,
it is that of the same operand. -/
theorem instruction (h : Recased s s') (hform : Form.ofStatement s = .instruction)
    (labels : Labels) :
    (Assembly.instruction labels s).toOption = (Assembly.instruction labels s').toOption := by
  cases h with
  | directive known spelled spelled' rest =>
    exact absurd hform (form_directive rest known spelled spelled').2
  | mnemonic headed same =>
    rw [headed.toOption_eq, (headed.recase same (.refl _)).toOption_eq, same.lower_eq]
  | @operand name front t t' back headed nonempty trimmed noComma lead trail same noValue =>
    have hrest : SameButCase (front ++ t ++ back) (front ++ t' ++ back) :=
      ((SameButCase.refl front).append same).append (.refl back)
    have hops := splitOperands_around lead trail nonempty trimmed noComma
    have hops' := splitOperands_around lead trail (same.ne_nil nonempty) (same.trimmed trimmed)
      (same.not_mem (by decide) noComma)
    rw [headed.toOption_eq, (headed.recase (.refl name) hrest).toOption_eq]
    refine Option.bind_congr fun m hm => ?_
    have hplan : m.plan? (splitOperands (front ++ t' ++ back)) =
        m.plan? (splitOperands (front ++ t ++ back)) := by
      rw [← plan?_lowerAscii, ← plan?_lowerAscii (splitOperands (front ++ t ++ back)), hops, hops',
        List.map_append, List.map_append, List.map_cons, List.map_cons, same]
    rw [hplan]
    refine Option.bind_congr fun plan hchosen => ?_
    cases hplace : plan with
    | settled i => rfl
    | awaiting place slot =>
      have hother : place ≠ (splitOperands front).length := by
        rintro rfl
        exact noValue ⟨m, plan, mem_of_lookup hm, hchosen, by rw [hplace]; rfl⟩
      rw [Plan.complete, Plan.complete, hops, hops', getElem?_around hother]

/-- The bytes of a statement do not change with its case. -/
theorem bytes (h : Recased s s') (known : Labels) (size : Nat) :
    statementBytes? known s size = statementBytes? known s' size := by
  have hform := h.form
  unfold statementBytes? Placed.emit
  rw [← hform]
  cases hs : Form.ofStatement s with
  | origin operand => rfl
  | bytes operands | words operands => simp only [toOption_bind, toOption_mapError]
  | instruction => simp only [toOption_bind, toOption_mapError, h.instruction hs]

end Recased

/-! ## Lines -/

/-- Lines that are the same without their comments are read alike. -/
theorem linesOf_congr {raw raw' : Text} (h : withoutComment raw = withoutComment raw') :
    linesOf [raw] = linesOf [raw'] := by
  rw [linesOf, linesOf, List.map_singleton, List.map_singleton, h]

/-- A line with a label and a statement means what both of them mean on lines of their own. -/
theorem meaning_split {line first second : SourceLine} {label s : Text} (hs : s ≠ [])
    (hline : labelAndStatement line.text = (some label, s))
    (hfirst : labelAndStatement first.text = (some label, []))
    (hsecond : labelAndStatement second.text = (none, s)) (after : List SourceLine)
    (labels : Labels) (address : Int) :
    meaning labels address (line :: after) = meaning labels address (first :: second :: after) := by
  rw [meaning_cons, meaning_cons]
  simp only [SourceLine.label?, SourceLine.statement, hline, hfirst, if_neg hs, if_true]
  refine Option.bind_congr fun labels' _ => ?_
  rw [meaning_cons]
  simp only [SourceLine.label?, SourceLine.statement, hsecond, if_neg hs]
  rfl

/-- All edits keep the meaning of the lines that they touch. -/
theorem Rewritten.meaning_eq {old new : List Text} (h : Rewritten old new)
    (after : List SourceLine) (labels : Labels) (address : Int) :
    meaning labels address (linesOf old ++ after) = meaning labels address (linesOf new ++ after) := by
  cases h with
  | @blank raw trail => rw [linesOf_cons_of_blank (withoutComment_of_trail trail)]
  | padded blank blank' raw => rw [linesOf_congr (withoutComment_pad blank blank' raw)]
  | comment raw comment => rw [linesOf_congr (withoutComment_comment raw comment)]
  | @split label rest noColon noComment nonempty noLabel =>
    have hline := read_labelled noColon noComment rest
    have hfirst := read_labelled noColon noComment []
    have hsecond : labelAndStatement (withoutComment rest) = (none, withoutComment rest) := by
      rw [labelAndStatement, cut_of_not_mem noLabel]
    rw [linesOf_cons (ne_nil_of_read hline (by simp)), linesOf_cons (ne_nil_of_read hfirst (by simp)),
      linesOf_cons nonempty]
    exact meaning_split nonempty hline hfirst hsecond after labels address
  | @recased front s s' back carries recased =>
    have carries' := carries.recase recased.same
    have hread := carries.read
    have hread' := carries'.read
    rw [linesOf_cons (ne_nil_of_read hread (by simp [carries.nonempty])),
      linesOf_cons (ne_nil_of_read hread' (by simp [carries'.nonempty]))]
    refine meaning_cons_congr ⟨?_, ?_, ?_, ?_⟩ (fun _ _ => rfl) labels address
    · simp only [SourceLine.label?, hread, hread']
    · simp only [SourceLine.statement, hread, hread', carries.nonempty, carries'.nonempty]
    · intro a
      simp only [SourceLine.statement, hread, hread', recased.form]
    · intro known size
      simp only [SourceLine.statement, hread, hread', recased.bytes]

/-! ## Programs -/

theorem Edit.image_eq {source source' : Text} (h : Edit source source') (base : Int) :
    (assemble source base).toOption.map Assembled.image =
      (assemble source' base).toOption.map Assembled.image := by
  obtain ⟨before, old, new, after, hsource, hsource', hrewritten⟩ := h
  have hmeaning (labels : Labels) (address : Int) :
      meaning labels address (linesOf (splitOn '\n' source)) =
        meaning labels address (linesOf (splitOn '\n' source')) := by
    rw [hsource, hsource']
    simp only [linesOf_append, List.append_assoc]
    exact meaning_append_congr _ (hrewritten.meaning_eq _) labels address
  rw [image_eq_meaning, image_eq_meaning, hmeaning]

/-- Texts that come from one another by edits, done or undone, in any number and in any order, are
assembled to the same bytes, or neither is assembled. -/
theorem edits_keep_image {source source' : Text} (h : Relation.EqvGen Edit source source')
    (base : Int) :
    (assemble source base).toOption.map Assembled.image =
      (assemble source' base).toOption.map Assembled.image := by
  induction h with
  | rel _ _ edit => exact edit.image_eq base
  | refl _ => rfl
  | symm _ _ _ ih => exact ih.symm
  | trans _ _ _ _ _ first second => exact first.trans second

/-- A program text of two lines. -/
def terse : Text :=
  "a: ld i, b\nb: .db 7".toList

/-- The same program with a comment, with a label on a line of its own, and in other letters. -/
def airy : Text :=
  "; two lines\na:\n LD I, b\nb: .Db 7".toList

theorem edits_keep_image_airy :
    Relation.EqvGen Edit terse airy ∧
      (assemble airy 0x200).toOption.map Assembled.image = some [0xA2, 0x02, 0x07] := by
  -- the label, the special place, the mnemonic, the directive and the comment, one after another
  have hlabel : Edit terse "a:\n ld i, b\nb: .db 7".toList :=
    ⟨[], _, _, ["b: .db 7".toList], by decide, by decide,
      @Rewritten.split "a".toList " ld i, b".toList (by decide) (by decide) (by decide) (by decide)⟩
  have hplace : Edit "a:\n ld i, b\nb: .db 7".toList "a:\n ld I, b\nb: .db 7".toList := by
    have hvalue : ¬ ReadAsValue "ld".toList ["i".toList, "b".toList] 0 := by
      rintro ⟨m, plan, hm, hplan, hfirst⟩
      obtain rfl : m = .ld := by
        have hlower : lower "ld".toList = "ld".toList := by decide
        rw [hlower] at hm
        simpa [mnemonicNames] using hm
      have hawaits : Mnemonic.ld.plan? ["i".toList, "b".toList] =
          some (.awaiting 1 (.address .loadIndex)) := by rfl
      rw [hawaits] at hplan
      cases hplan
      cases hfirst
    have hcase : Recased "ld i, b".toList "ld I, b".toList :=
      @Recased.operand "ld".toList " ".toList "i".toList "I".toList ", b".toList
        (.of_check (by decide) (by decide) (by decide) (by decide)) (by decide) (by decide) (by decide)
        (.blanks (by decide)) (@OperandTrail.comma [] (by decide) " b".toList) (by decide) hvalue
    exact ⟨["a:".toList], _, _, ["b: .db 7".toList], by decide, by decide,
      @Rewritten.recased " ".toList _ _ [] ⟨by decide, by decide, by decide,
        .blanks (by decide) (by decide), .blanks (by decide)⟩ hcase⟩
  have hmnemonic : Edit "a:\n ld I, b\nb: .db 7".toList "a:\n LD I, b\nb: .db 7".toList := by
    have hcase : Recased "ld I, b".toList "LD I, b".toList :=
      @Recased.mnemonic "ld".toList "LD".toList " I, b".toList
        (.of_check (by decide) (by decide) (by decide) (by decide)) (by decide)
    exact ⟨["a:".toList], _, _, ["b: .db 7".toList], by decide, by decide,
      @Rewritten.recased " ".toList _ _ [] ⟨by decide, by decide, by decide,
        .blanks (by decide) (by decide), .blanks (by decide)⟩ hcase⟩
  have hdirective : Edit "a:\n LD I, b\nb: .db 7".toList "a:\n LD I, b\nb: .Db 7".toList := by
    have hcase : Recased ".db 7".toList ".Db 7".toList :=
      @Recased.directive ".db".toList ".Db".toList ".db".toList (by decide) (by decide) (by decide)
        " 7".toList
    exact ⟨["a:".toList, " LD I, b".toList], _, _, [], by decide, by decide,
      @Rewritten.recased "b: ".toList _ _ [] ⟨by decide, by decide, by decide,
        @Lead.label _ "b".toList " ".toList (by decide) (by decide) (by decide),
        .blanks (by decide)⟩ hcase⟩
  have hcomment : Edit "a:\n LD I, b\nb: .Db 7".toList airy :=
    ⟨[], _, _, ["a:".toList, " LD I, b".toList, "b: .Db 7".toList], by decide, by decide,
      .blank (@Trail.comment [] (by decide) " two lines".toList)⟩
  have hall : Relation.EqvGen Edit terse airy :=
    .trans _ _ _ (.rel _ _ hlabel) <| .trans _ _ _ (.rel _ _ hplace) <|
      .trans _ _ _ (.rel _ _ hmnemonic) <| .trans _ _ _ (.rel _ _ hdirective) (.rel _ _ hcomment)
  refine ⟨hall, (edits_keep_image hall 0x200).symm.trans ?_⟩
  decide +kernel

end ChipEight.Assembly
