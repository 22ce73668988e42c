/-
# ChipEight.Proofs.Blame -- the line that is reported

A program text is refused because of one of its lines, and this module says which. What can be wrong
with a line is said without the assembler: `Misplaced` compares its label and its origin with the
lines before it, and `Encodable` asks whether its operands have values and its instruction has a
form, all labels known. The line that is blamed is the first one that is misplaced, wherever it
stands, and only if there is none the first one that is not encodable (`Blamed`).

Each pass is followed line by line. `place_cases` says where the layout stops, by induction over the
lines with those already placed carried along, and `emittedAll_of_place` says where the bytes stop.
A program text goes through one after the other, and `Verdict` is what may come out.
-/
import ChipEight.Assembly.Listing
import ChipEight.Proofs.Choice
import ChipEight.Proofs.Emission

namespace ChipEight.Assembly

open Text

/-! ## Lines that are misplaced -/

/-- The address behind a line that stands at this one. -/
def SourceLine.next (address : Int) (line : SourceLine) : Int :=
  if line.statement = [] then address
  else
    match Form.ofStatement line.statement with
    | .origin operand =>
      match Assembly.number operand with
      | .ok target => target
      | .error _ => address
    | .bytes operands => address + operands.length
    | .words operands => address + 2 * operands.length
    | .instruction => address + 2

/-- The address behind lines of which the first one stands at `base`. -/
def addressBehind (base : Int) (lines : List SourceLine) : Int :=
  lines.foldl SourceLine.next base

/-- The label of the line, if it has one, is a name that no line before it defines. -/
def FreshLabel (before : List SourceLine) (line : SourceLine) : Prop :=
  ∀ label, line.label? = some label →
    isIdentifier label = true ∧ ∀ earlier ∈ before, earlier.label? ≠ some label

/-- The line cannot stand behind the lines before it, for this cause. Its label is looked at before
its origin. -/
inductive Misplaced (base : Int) (before : List SourceLine) (line : SourceLine) : Cause → Prop where
  | badLabel {label : Text} (labelled : line.label? = some label)
      (noName : isIdentifier label = false) : Misplaced base before line (.badLabel label)
  | duplicateLabel {label : Text} {earlier : SourceLine} (labelled : line.label? = some label)
      (name : isIdentifier label = true) (mem : earlier ∈ before)
      (taken : earlier.label? = some label) : Misplaced base before line (.duplicateLabel label)
  | badOrigin {operand : Text} (fresh : FreshLabel before line)
      (form : Form.ofStatement line.statement = .origin operand)
      (noNumber : ∀ target, number operand ≠ .ok target) :
      Misplaced base before line (.badOrigin operand)
  | originBehind {operand : Text} {target : Int} (fresh : FreshLabel before line)
      (form : Form.ofStatement line.statement = .origin operand)
      (read : number operand = .ok target) (behind : target < addressBehind base before) :
      Misplaced base before line (.originBehind target (addressBehind base before))

/-- No line is misplaced. -/
def Placeable (base : Int) (lines : List SourceLine) : Prop :=
  ∀ before line after cause, lines = before ++ line :: after → ¬ Misplaced base before line cause

/-- The labels that lines define, each with the address of its line. -/
def labelsOf (address : Int) : List SourceLine → Labels
  | [] => []
  | line :: lines =>
    line.label?.toList.map (fun label => (label, address)) ++ labelsOf (line.next address) lines

/-! ## Lines that are not encodable -/

/-- The text is an instruction: its mnemonic exists, and its operands choose one of the forms. -/
def Readable (labels : Labels) (text : Text) : Prop :=
  ∃ name rest m f i, splitMnemonic? text = some (name, rest) ∧ (lower name, m) ∈ mnemonicNames ∧
    Denotes labels (splitOperands rest) f m i

/-- The statement of a line, if it has one, can be made into bytes. -/
def Encodable (labels : Labels) (statement : Text) : Prop :=
  statement = [] ∨
    match Form.ofStatement statement with
    | .origin _ => True
    | .bytes operands | .words operands => ∀ t ∈ operands, ∃ v, HasValue labels t v
    | .instruction => Readable labels statement

/-- What is wrong with a statement that is not encodable: the first operand of a directive that has
no value, or what is wrong with an instruction. -/
inductive HasProblem (labels : Labels) (statement : Text) : Problem → Prop where
  | unknownName {before after : List Text} {t : Text}
      (form : Form.ofStatement statement = .bytes (before ++ t :: after) ∨
        Form.ofStatement statement = .words (before ++ t :: after))
      (known : ∀ u ∈ before, ∃ v, HasValue labels u v) (unknown : ¬ ∃ v, HasValue labels t v) :
      HasProblem labels statement (.unknownName t)
  | instruction {p : Problem} (form : Form.ofStatement statement = .instruction)
      (refused : instruction labels statement = .error p) : HasProblem labels statement p

/-- The line that is blamed for a program text, and the cause. -/
inductive Blamed (base : Int) (lines : List SourceLine) : AssemblyError → Prop where
  /-- It is the first one that is misplaced. -/
  | placing {before after : List SourceLine} {line : SourceLine} {cause : Cause}
      (here : lines = before ++ line :: after) (first : Placeable base before)
      (wrong : Misplaced base before line cause) : Blamed base lines ⟨line.number, cause⟩
  /-- No line is misplaced, and it is the first one that is not encodable. -/
  | encoding {before after : List SourceLine} {line : SourceLine} {p : Problem}
      (placeable : Placeable base lines) (here : lines = before ++ line :: after)
      (first : ∀ earlier ∈ before, Encodable (labelsOf base lines) earlier.statement)
      (wrong : ¬ Encodable (labelsOf base lines) line.statement)
      (problem : HasProblem (labelsOf base lines) line.statement p) :
      Blamed base lines ⟨line.number, .statement p line.statement⟩

/-! ## Lines of a text -/

/-- The lines of a program text are the texts between its line feeds that are not blank without
their comment, each under its number. -/
theorem mem_sourceLines_iff {source : Text} {line : SourceLine} :
    line ∈ sourceLines source ↔
      1 ≤ line.number ∧ ∃ raw, (splitOn '\n' source)[line.number - 1]? = some raw ∧
        withoutComment raw = line.text ∧ line.text ≠ [] := by
  simp only [sourceLines, List.mem_filterMap, Prod.exists,
    List.mk_mem_zipIdx_iff_le_and_getElem?_sub]
  constructor
  · rintro ⟨raw, number, ⟨hone, hraw⟩, hline⟩
    split at hline
    · cases hline
    · rename_i hne
      cases hline
      exact ⟨hone, raw, hraw, rfl, hne⟩
  · rintro ⟨hone, raw, hraw, htext, hne⟩
    refine ⟨raw, line.number, ⟨hone, hraw⟩, ?_⟩
    rw [htext]
    split
    · exact absurd ‹_› hne
    · rfl

/-- The lines of a program text stand in the order of their numbers. -/
theorem sourceLines_pairwise (source : Text) :
    (sourceLines source).Pairwise fun earlier later => earlier.number < later.number := by
  have hnumbers : ((splitOn '\n' source).zipIdx 1).Pairwise fun a b => a.2 < b.2 := by
    rw [← List.pairwise_map, List.zipIdx_map_snd]
    exact List.pairwise_lt_range'
  refine hnumbers.filterMap _ ?_
  rintro ⟨raw, number⟩ ⟨raw', number'⟩ hless line hline line' hline'
  dsimp only at hline hline'
  split at hline
  · cases hline
  · split at hline'
    · cases hline'
    · cases hline
      cases hline'
      exact hless

/-! ## The layout -/

section Placing

variable {base : Int} {before lines : List SourceLine} {line : SourceLine}

theorem addressBehind_concat :
    addressBehind base (before ++ [line]) = line.next (addressBehind base before) := by
  rw [addressBehind, List.foldl_append]
  rfl

theorem labelsOf_concat :
    labelsOf base (before ++ [line]) =
      labelsOf base before ++
        line.label?.toList.map fun label => (label, addressBehind base before) := by
  induction before generalizing base with
  | nil => simp [labelsOf, addressBehind]
  | cons first before ih =>
    rw [List.cons_append, labelsOf, ih, labelsOf, List.append_assoc]
    rfl

/-- A name is taken if a line defines it. -/
theorem lookup_labelsOf_eq_none_iff {label : Text} :
    (labelsOf base lines).lookup label = none ↔ ∀ line ∈ lines, line.label? ≠ some label := by
  induction lines generalizing base with
  | nil => simp [labelsOf]
  | cons line lines ih =>
    rw [labelsOf, List.lookup_append, Option.or_eq_none_iff, ih, List.forall_mem_cons]
    apply and_congr_left
    intro _
    cases line.label? with
    | none => simp
    | some own =>
      by_cases hown : own = label
      · simp [hown]
      · have hne : (label == own) = false := by simpa using Ne.symm hown
        simp [List.lookup_cons, hne, hown]

/-- One more line at the end is placeable if it is not misplaced. -/
theorem Placeable.concat (h : Placeable base before)
    (hline : ∀ cause, ¬ Misplaced base before line cause) : Placeable base (before ++ [line]) := by
  intro first middle after cause hsplit
  rcases List.eq_nil_or_concat after with rfl | ⟨after, last, rfl⟩
  · obtain ⟨rfl, hlast⟩ := List.append_inj' hsplit rfl
    cases hlast
    exact hline cause
  · rw [List.concat_eq_append, ← List.cons_append, ← List.append_assoc] at hsplit
    exact h first middle after cause (List.append_inj' hsplit rfl).1

/-- The label of a line is added if it is fresh, and otherwise the line is misplaced. -/
theorem defineAll_cases (base : Int) (before : List SourceLine) (line : SourceLine) :
    (FreshLabel before line ∧
        defineAll (labelsOf base before) (addressBehind base before) line.label? =
          .ok (labelsOf base (before ++ [line]))) ∨
      ∃ cause, Misplaced base before line cause ∧
        defineAll (labelsOf base before) (addressBehind base before) line.label? =
          .error cause := by
  rw [labelsOf_concat]
  cases hlabel : line.label? with
  | none =>
    refine .inl ⟨?_, ?_⟩
    · intro label h
      rw [hlabel] at h
      cases h
    · simp [defineAll]
  | some label =>
    have hfree : (labelsOf base before).lookup label = none ↔
        ∀ earlier ∈ before, earlier.label? ≠ some label := lookup_labelsOf_eq_none_iff
    cases hname : isIdentifier label with
    | false =>
      refine .inr ⟨_, .badLabel hlabel hname, ?_⟩
      simp [defineAll, define, hname]
    | true =>
      cases hlookup : (labelsOf base before).lookup label with
      | none =>
        refine .inl ⟨?_, ?_⟩
        · intro own hown
          rw [hlabel] at hown
          cases hown
          exact ⟨hname, hfree.mp hlookup⟩
        · simp [defineAll, define, hname, hlookup]
      | some value =>
        obtain ⟨earlier, hmem, htaken⟩ : ∃ earlier ∈ before, earlier.label? = some label := by
          by_contra hno
          push Not at hno
          rw [hfree.mpr hno] at hlookup
          cases hlookup
        refine .inr ⟨_, .duplicateLabel hlabel hname hmem htaken, ?_⟩
        simp [defineAll, define, hname, hlookup]

/-- With a fresh label, only an origin can be wrong that does not lead ahead. -/
theorem Misplaced.origin {cause : Cause} (h : Misplaced base before line cause)
    (hfresh : FreshLabel before line) :
    ∃ operand, Form.ofStatement line.statement = .origin operand ∧
      ∀ target, number operand = .ok target → target < addressBehind base before := by
  cases h with
  | badLabel labelled noName =>
    rw [(hfresh _ labelled).1] at noName
    cases noName
  | duplicateLabel labelled _ mem taken => exact absurd taken ((hfresh _ labelled).2 _ mem)
  | badOrigin _ form noNumber => exact ⟨_, form, fun target h => absurd h (noNumber target)⟩
  | originBehind _ form read behind =>
    refine ⟨_, form, ?_⟩
    intro target h
    rw [read] at h
    cases h
    exact behind

/-- A line with a fresh label has a size that leads to the next line, unless it is misplaced. -/
theorem size_cases (base : Int) {before : List SourceLine} {line : SourceLine}
    (hfresh : FreshLabel before line) (hne : line.statement ≠ []) :
    (∃ size : Nat, (Form.ofStatement line.statement).size (addressBehind base before) = .ok size ∧
        addressBehind base before + size = addressBehind base (before ++ [line]) ∧
        ∀ cause, ¬ Misplaced base before line cause) ∨
      ∃ cause, Misplaced base before line cause ∧
        (Form.ofStatement line.statement).size (addressBehind base before) = .error cause := by
  rw [addressBehind_concat, SourceLine.next, if_neg hne]
  cases hform : Form.ofStatement line.statement with
  | origin operand =>
    cases hread : number operand with
    | error e =>
      refine .inr ⟨_, .badOrigin hfresh hform ?_, ?_⟩
      · intro target htarget
        rw [hread] at htarget
        cases htarget
      · simp [Form.size, hread]
    | ok target =>
      by_cases hbehind : target < addressBehind base before
      · refine .inr ⟨_, .originBehind hfresh hform hread hbehind, ?_⟩
        simp [Form.size, hread, hbehind]
      · refine .inl ⟨(target - addressBehind base before).toNat, ?_, ?_, ?_⟩
        · simp [Form.size, hread, hbehind]
        · simp only [hread]
          omega
        · intro cause hwrong
          obtain ⟨_, hform', hahead⟩ := hwrong.origin hfresh
          rw [hform] at hform'
          cases hform'
          exact hbehind (hahead target hread)
  | bytes operands | words operands | instruction =>
    refine .inl ⟨_, rfl, by simp, ?_⟩
    intro cause hwrong
    obtain ⟨_, hform', -⟩ := hwrong.origin hfresh
    rw [hform] at hform'
    cases hform'

/-- A line without a statement is not misplaced if its label is fresh. -/
theorem not_misplaced_of_bare {cause : Cause} (hfresh : FreshLabel before line)
    (hbare : line.statement = []) : ¬ Misplaced base before line cause := by
  intro hwrong
  obtain ⟨operand, hform, -⟩ := hwrong.origin hfresh
  have hnone : Form.ofStatement [] = .instruction := by decide
  rw [hbare, hnone] at hform
  cases hform

section Passing

variable {labels labels' : Labels} {address : Int}

theorem place_of_label {cause : Cause}
    (h : defineAll labels address line.label? = .error cause) :
    place labels address (line :: lines) = .error ⟨line.number, cause⟩ := by
  unfold SourceLine.label? at h
  simp only [place, h]

theorem place_of_bare (h : defineAll labels address line.label? = .ok labels')
    (hbare : line.statement = []) :
    place labels address (line :: lines) = place labels' address lines := by
  unfold SourceLine.label? at h
  unfold SourceLine.statement at hbare
  simp only [place, h, hbare, List.isEmpty_nil, if_true]

theorem place_of_size {cause : Cause} (h : defineAll labels address line.label? = .ok labels')
    (hne : line.statement ≠ [])
    (hsize : (Form.ofStatement line.statement).size address = .error cause) :
    place labels address (line :: lines) = .error ⟨line.number, cause⟩ := by
  unfold SourceLine.label? at h
  unfold SourceLine.statement at hne hsize
  simp only [place, h, List.isEmpty_iff, hne, if_false, hsize]

theorem place_of_statement (lines : List SourceLine) {size : Nat}
    (h : defineAll labels address line.label? = .ok labels') (hne : line.statement ≠ [])
    (hsize : (Form.ofStatement line.statement).size address = .ok size) :
    place labels address (line :: lines) = (place labels' (address + size) lines).map fun l =>
      { l with
        statements :=
          ⟨line.number, line.statement, Form.ofStatement line.statement, address, size⟩ ::
            l.statements } := by
  unfold SourceLine.label? at h
  unfold SourceLine.statement at hne hsize
  simp only [place, h, List.isEmpty_iff, hne, if_false, hsize]
  cases place labels' (address + size) lines <;> rfl

end Passing

/-- The layout stops at the first line that is misplaced, and if there is none it has the labels of
all lines. -/
theorem place_cases (lines : List SourceLine) (hclean : Placeable base before) :
    (∃ statements, Placeable base (before ++ lines) ∧
        place (labelsOf base before) (addressBehind base before) lines =
          .ok ⟨labelsOf base (before ++ lines), statements⟩) ∨
      ∃ earlier line later cause, before ++ lines = earlier ++ line :: later ∧
        Placeable base earlier ∧ Misplaced base earlier line cause ∧
        place (labelsOf base before) (addressBehind base before) lines =
          .error ⟨line.number, cause⟩ := by
  -- a line that is not misplaced joins those before it, and the others are placed behind it
  induction lines generalizing before with
  | nil =>
    rw [List.append_nil]
    exact .inl ⟨[], hclean, rfl⟩
  | cons line lines ih =>
    rcases defineAll_cases base before line with ⟨hfresh, hlabels⟩ | ⟨cause, hwrong, hlabels⟩
    · rw [List.append_cons]
      by_cases hbare : line.statement = []
      · have hnext := hclean.concat fun cause => not_misplaced_of_bare hfresh hbare
        have haddress : addressBehind base before = addressBehind base (before ++ [line]) := by
          rw [addressBehind_concat, SourceLine.next, if_pos hbare]
        rw [place_of_bare hlabels hbare, haddress]
        exact ih hnext
      · rcases size_cases base hfresh hbare with
          ⟨size, hsize, haddress, hright⟩ | ⟨cause, hwrong, hsize⟩
        · rw [place_of_statement lines hlabels hbare hsize, haddress]
          rcases ih (hclean.concat hright) with ⟨statements, hall, hrest⟩ |
            ⟨earlier, bad, later, cause, hsplit, hfirst, hwrong, hrest⟩
          · rw [hrest]
            exact .inl ⟨_, hall, rfl⟩
          · rw [hrest]
            exact .inr ⟨earlier, bad, later, cause, hsplit, hfirst, hwrong, rfl⟩
        · refine .inr ⟨before, line, lines, cause, ?_, hclean, hwrong, ?_⟩
          · exact (List.append_cons before line lines).symm
          · exact place_of_size hlabels hbare hsize
    · exact .inr ⟨before, line, lines, cause, rfl, hclean, hwrong, place_of_label hlabels⟩

end Placing

/-! ## The bytes -/

section Emitting

variable {labels : Labels}

/-- No name stands for two families. -/
theorem lookup_mnemonicNames {name : Text} {m : Mnemonic} (h : (name, m) ∈ mnemonicNames) :
    mnemonicNames.lookup name = some m := by
  have hlookup : ∀ entry ∈ mnemonicNames, mnemonicNames.lookup entry.1 = some entry.2 := by decide
  exact hlookup _ h

theorem mem_of_lookup {β : Type} {entries : List (Text × β)} {name : Text} {value : β}
    (h : entries.lookup name = some value) : (name, value) ∈ entries := by
  obtain ⟨before, after, hentries, -⟩ := List.lookup_eq_some_iff.mp h
  rw [hentries]
  exact List.mem_append_right _ List.mem_cons_self

/-- A text is read as an instruction exactly if its operands choose a form of its mnemonic. -/
theorem exists_instruction_iff {text : Text} :
    (∃ i, instruction labels text = .ok i) ↔ Readable labels text := by
  constructor
  · rintro ⟨i, h⟩
    unfold instruction at h
    split at h
    · cases h
    · rename_i name rest hsplit
      split at h
      · cases h
      · rename_i m hm
        have ht : ∀ t ∈ splitOperands rest, Trimmed t := fun t => trimmed_of_mem_splitOperands
        exact ⟨name, rest, m, _, _, hsplit, mem_of_lookup hm,
          denotes_of_family ht i.reads_encode h⟩
  · rintro ⟨name, rest, m, f, j, hsplit, hmem, hform⟩
    have ht : ∀ t ∈ splitOperands rest, Trimmed t := fun t => trimmed_of_mem_splitOperands
    obtain ⟨i, hi, -⟩ := hform.accepted ht
    refine ⟨i, ?_⟩
    unfold instruction
    rw [hsplit]
    dsimp only
    rw [lookup_mnemonicNames hmem]
    exact hi

/-- Operands have values up to the first one that has none. -/
theorem resolveAll_cases (labels : Labels) (operands : List Text) :
    (∃ values, resolveAll labels operands = .ok values ∧
        ∀ t ∈ operands, ∃ v, HasValue labels t v) ∨
      ∃ before t after, operands = before ++ t :: after ∧
        (∀ u ∈ before, ∃ v, HasValue labels u v) ∧ (¬ ∃ v, HasValue labels t v) ∧
        resolveAll labels operands = .error (.unknownName t) := by
  induction operands with
  | nil => exact .inl ⟨[], rfl, by simp⟩
  | cons t operands ih =>
    cases hvalue : resolve labels t with
    | error p =>
      have hnone : ¬ ∃ v, HasValue labels t v := by
        rintro ⟨v, hv⟩
        rw [resolve_eq_ok_iff.mpr hv] at hvalue
        cases hvalue
      have hname : p = .unknownName t := by
        unfold resolve at hvalue
        split at hvalue
        · cases hvalue
        · split at hvalue <;> cases hvalue
          rfl
      refine .inr ⟨[], t, operands, rfl, by simp, hnone, ?_⟩
      rw [resolveAll, hvalue, hname]
      rfl
    | ok v =>
      have hfirst : ∃ v, HasValue labels t v := ⟨v, resolve_eq_ok_iff.mp hvalue⟩
      rcases ih with ⟨values, hvalues, hall⟩ | ⟨before, u, after, rfl, hbefore, hnone, hrest⟩
      · refine .inl ⟨v :: values, ?_, List.forall_mem_cons.mpr ⟨hfirst, hall⟩⟩
        rw [resolveAll, hvalue, hvalues]
        rfl
      · have hknown : ∀ w ∈ t :: before, ∃ v, HasValue labels w v :=
          List.forall_mem_cons.mpr ⟨hfirst, hbefore⟩
        refine .inr ⟨t :: before, u, after, rfl, hknown, hnone, ?_⟩
        rw [resolveAll, hvalue, hrest]
        rfl

/-- A statement with a problem is not encodable. -/
theorem HasProblem.not_encodable {statement : Text} {p : Problem}
    (h : HasProblem labels statement p) (hne : statement ≠ []) : ¬ Encodable labels statement := by
  rintro (hempty | hvalues)
  · exact hne hempty
  · cases h with
    | @unknownName before after t form known unknown =>
      have hall : ∀ u ∈ before ++ t :: after, ∃ v, HasValue labels u v := by
        rcases form with form | form <;> rwa [form] at hvalues
      exact unknown (hall t (List.mem_append_right _ List.mem_cons_self))
    | instruction form refused =>
      rw [form] at hvalues
      obtain ⟨i, hi⟩ := exists_instruction_iff.mpr hvalues
      rw [refused] at hi
      cases hi

/-- What becomes of a statement: it is made into bytes, or it has a problem, or it is an origin
without room for its zeros. -/
inductive Emitted (labels : Labels) (s : Placed) : Except AssemblyFailure Content → Prop where
  | made {content : Content} (encodable : Encodable labels s.text) : Emitted labels s (.ok content)
  | wrong {p : Problem} (problem : HasProblem labels s.text p) :
      Emitted labels s (.error (s.failure p))
  | noRoom {r : RoomError} (origin : s.form.isOrigin = true) (full : zeros s.size = .error r) :
      Emitted labels s (.error (.room r))

/-- A directive is made into bytes if all its operands have values. -/
theorem emitted_of_operands {s : Placed} {operands : List Text}
    (h : Form.ofStatement s.text = .bytes operands ∨ Form.ofStatement s.text = .words operands)
    (make : List Int → List UInt8) :
    Emitted labels s (do
      let values ← (resolveAll labels operands).mapError s.failure
      .ok (.bytes (make values))) := by
  rcases resolveAll_cases labels operands with
    ⟨values, hvalues, hall⟩ | ⟨before, t, after, rfl, hknown, hunknown, hstop⟩
  · rw [hvalues]
    refine .made (.inr ?_)
    rcases h with h | h <;> rwa [h]
  · rw [hstop]
    exact .wrong (.unknownName h hknown hunknown)

theorem emitted_of_form {s : Placed} (h : s.form = Form.ofStatement s.text) :
    Emitted labels s (s.emit labels) := by
  unfold Placed.emit
  cases hform : s.form with
  | origin operand =>
    have horigin : s.form.isOrigin = true := by
      rw [hform]
      rfl
    cases hzeros : zeros s.size with
    | error r => exact .noRoom horigin hzeros
    | ok content =>
      refine .made (.inr ?_)
      rw [← h, hform]
      trivial
  | bytes operands => exact emitted_of_operands (.inl (h.symm.trans hform)) _
  | words operands => exact emitted_of_operands (.inr (h.symm.trans hform)) _
  | instruction =>
    cases hread : instruction labels s.text with
    | error p => exact .wrong (.instruction (h.symm.trans hform) hread)
    | ok i =>
      refine .made (.inr ?_)
      rw [← h, hform]
      exact exists_instruction_iff.mp ⟨i, hread⟩

/-- What becomes of all statements: they are made into bytes, or one line is the first that is not
encodable, or there is an origin without room. -/
inductive EmittedAll (labels : Labels) (lines : List SourceLine) (statements : List Placed) :
    Except AssemblyFailure (List Piece) → Prop where
  | made {pieces : List Piece} (encodable : ∀ line ∈ lines, Encodable labels line.statement) :
      EmittedAll labels lines statements (.ok pieces)
  | wrong (before : List SourceLine) (line : SourceLine) (after : List SourceLine) {p : Problem}
      (here : lines = before ++ line :: after)
      (first : ∀ earlier ∈ before, Encodable labels earlier.statement)
      (wrong : ¬ Encodable labels line.statement) (problem : HasProblem labels line.statement p) :
      EmittedAll labels lines statements
        (.error (.line ⟨line.number, .statement p line.statement⟩))
  | noRoom {s : Placed} {r : RoomError} (mem : s ∈ statements) (origin : s.form.isOrigin = true)
      (full : zeros s.size = .error r) : EmittedAll labels lines statements (.error (.room r))

/-- A line in front that is encodable changes nothing. -/
theorem EmittedAll.cons {lines : List SourceLine} {statements more : List Placed}
    {outcome : Except AssemblyFailure (List Piece)} (h : EmittedAll labels lines statements outcome)
    {line : SourceLine} (hline : Encodable labels line.statement)
    (hmore : ∀ s ∈ statements, s ∈ more) (f : List Piece → List Piece) :
    EmittedAll labels (line :: lines) more (outcome.map f) := by
  cases h with
  | made encodable => exact .made (List.forall_mem_cons.mpr ⟨hline, encodable⟩)
  | @wrong before bad after p here first wrong problem =>
    have hbefore : ∀ earlier ∈ line :: before, Encodable labels earlier.statement :=
      List.forall_mem_cons.mpr ⟨hline, first⟩
    refine .wrong (line :: before) bad after ?_ hbefore wrong problem
    rw [here, List.cons_append]
  | noRoom mem origin full => exact .noRoom (hmore _ mem) origin full

theorem emitAll_of_error {s : Placed} {failure : AssemblyFailure}
    (h : s.emit labels = .error failure) (ss : List Placed) :
    emitAll labels (s :: ss) = .error failure := by
  rw [emitAll, h]
  rfl

theorem emitAll_of_ok {s : Placed} {content : Content} (h : s.emit labels = .ok content)
    (ss : List Placed) :
    emitAll labels (s :: ss) = (emitAll labels ss).map (⟨s, content⟩ :: ·) := by
  rw [emitAll, h]
  cases emitAll labels ss <;> rfl

/-- The statements of a layout are made into bytes line by line. -/
theorem emittedAll_of_place (final : Labels) {address : Int} {lines : List SourceLine} {l : Layout}
    (hplace : place labels address lines = .ok l) :
    EmittedAll final lines l.statements (emitAll final l.statements) := by
  induction lines generalizing labels address l with
  | nil =>
    cases hplace
    exact .made (by simp)
  | cons line lines ih =>
    cases place_cons hplace with
    | bare _ empty others =>
      have hall := (ih others).cons (.inl empty) (fun _ hs => hs) id
      rwa [Except.map_id] at hall
    | @statement _ size rest _ nonempty _ others first =>
      -- of the first statement only its line, its text and its form matter from here on
      obtain ⟨s, hs, hform, htext, hline⟩ : ∃ s : Placed, l.statements = s :: rest ∧
          s.form = Form.ofStatement s.text ∧ s.text = line.statement ∧ s.line = line.number :=
        ⟨_, first, rfl, rfl, rfl⟩
      have hemitted : Emitted final s (s.emit final) := emitted_of_form hform
      rw [hs]
      cases hemit : s.emit final with
      | error failure =>
        rw [emitAll_of_error hemit rest]
        rw [hemit] at hemitted
        cases hemitted with
        | wrong problem =>
          rw [Placed.failure, hline, htext]
          rw [htext] at problem
          have hbad := problem.not_encodable nonempty
          exact .wrong [] line lines rfl (by simp) hbad problem
        | noRoom origin full => exact .noRoom List.mem_cons_self origin full
      | ok content =>
        rw [emitAll_of_ok hemit rest]
        rw [hemit] at hemitted
        cases hemitted with
        | made encodable =>
          exact (ih others).cons (htext ▸ encodable) (fun _ ho => List.mem_cons_of_mem s ho) _

end Emitting

/-! ## Programs -/

/-- There is room for the zeros of every origin that the layout has accepted. -/
def RoomForOrigins (source : Text) (base : Int) : Prop :=
  ∀ l, layout source base = .ok l → ∀ s ∈ l.statements, s.form.isOrigin = true →
    ∃ content, zeros s.size = .ok content

theorem roomForOrigins_of_lt {source : Text} {base : Int}
    (h : ∀ l, layout source base = .ok l → ∀ s ∈ l.statements, s.size < memoryLimit) :
    RoomForOrigins source base := by
  intro l hl s hs _
  have hsize := h l hl s hs
  have hlimits : memoryLimit ≤ countLimit := by decide
  refine ⟨.zeros s.size, ?_⟩
  rw [zeros, if_neg (by omega), if_neg (by omega)]

/-- What becomes of a program text: it is made into bytes, or a line is blamed, or there is an
origin without room. -/
inductive Verdict (source : Text) (base : Int) : Except AssemblyFailure Assembled → Prop where
  | made {a : Assembled} (placeable : Placeable base (sourceLines source))
      (encodable : ∀ line ∈ sourceLines source,
        Encodable (labelsOf base (sourceLines source)) line.statement) :
      Verdict source base (.ok a)
  | line {e : AssemblyError} (blamed : Blamed base (sourceLines source) e) :
      Verdict source base (.error (.line e))
  | noRoom {r : RoomError} (full : ¬ RoomForOrigins source base) :
      Verdict source base (.error (.room r))

/-- Behind a layout the bytes are all that is left to do. -/
theorem assemble_of_layout {source : Text} {base : Int} {l : Layout}
    (h : layout source base = .ok l) :
    assemble source base = (emitAll l.labels l.statements).map (⟨l.labels, ·⟩) := by
  simp only [assemble, h, Except.mapError, bind, Except.bind]
  cases emitAll l.labels l.statements <;> rfl

theorem assemble_of_layout_error {source : Text} {base : Int} {e : AssemblyError}
    (h : layout source base = .error e) : assemble source base = .error (.line e) := by
  rw [assemble, h]
  rfl

theorem verdict_assemble (source : Text) (base : Int) :
    Verdict source base (assemble source base) := by
  have hnone : Placeable base [] := by
    intro before line after cause hsplit
    simp at hsplit
  rcases place_cases (sourceLines source) hnone with
    ⟨statements, hall, hplace⟩ | ⟨earlier, bad, later, cause, hsplit, hfirst, hwrong, hplace⟩
  · have hlayout : layout source base = .ok ⟨labelsOf base (sourceLines source), statements⟩ :=
      hplace
    have hemitted := emittedAll_of_place (labelsOf base (sourceLines source)) hlayout
    rw [assemble_of_layout hlayout]
    dsimp only at hemitted ⊢
    cases hrun : emitAll (labelsOf base (sourceLines source)) statements with
    | ok pieces =>
      rw [hrun] at hemitted
      cases hemitted with
      | made encodable => exact .made hall encodable
    | error failure =>
      rw [hrun] at hemitted
      cases hemitted with
      | wrong before line after here first wrong problem =>
        exact .line (.encoding hall here first wrong problem)
      | noRoom mem origin full =>
        refine .noRoom ?_
        intro hroom
        obtain ⟨content, hzeros⟩ := hroom _ hlayout _ mem origin
        rw [full] at hzeros
        cases hzeros
  · have hlayout : layout source base = .error ⟨bad.number, cause⟩ := hplace
    rw [assemble_of_layout_error hlayout]
    exact .line (.placing hsplit hfirst hwrong)

/-- The line that is blamed is one of the lines. -/
theorem Blamed.mem {base : Int} {lines : List SourceLine} {e : AssemblyError}
    (h : Blamed base lines e) : ∃ line ∈ lines, line.number = e.line := by
  cases h with
  | placing here | encoding _ here =>
    refine ⟨_, ?_, rfl⟩
    rw [here]
    exact List.mem_append_right _ List.mem_cons_self

theorem assembleAloud_fst (source : Text) (base : Int) (listing : Bool) (printed : Text) :
    (assembleAloud source base listing printed).1 = assemble source base := by
  unfold assembleAloud
  cases assemble source base <;> rfl

/-- If there is room for what its origins ask for, a program text is assembled, or one of its lines
is blamed: the first one whose label or origin is wrong, and only if there is none the first one
whose operands or instruction cannot be made into bytes. It is assembled only if no line has any of
this. The number of the line that is blamed is that of a line of the text which is not blank without
its comment, and lines are looked at in the order of their numbers. A program text that is refused
prints nothing, whether or not a listing is asked for. -/
theorem assembleAloud_blames (source : Text) (base : Int) (listing : Bool) (printed : Text) :
    let outcome := assembleAloud source base listing printed
    let lines := sourceLines source
    (RoomForOrigins source base →
        (∃ a, outcome.1 = .ok a) ∨ ∃ e, outcome.1 = .error (.line e)) ∧
      (∀ a, outcome.1 = .ok a → Placeable base lines ∧
        ∀ line ∈ lines, Encodable (labelsOf base lines) line.statement) ∧
      (∀ e, outcome.1 = .error (.line e) → Blamed base lines e ∧ 1 ≤ e.line ∧
        ∃ raw, (splitOn '\n' source)[e.line - 1]? = some raw ∧ withoutComment raw ≠ []) ∧
      (∀ failure, outcome.1 = .error failure → outcome.2 = printed) ∧
      lines.Pairwise fun earlier later => earlier.number < later.number := by
  intro outcome lines
  have hfirst : outcome.1 = assemble source base := assembleAloud_fst source base listing printed
  have hverdict := verdict_assemble source base
  rw [← hfirst] at hverdict
  refine ⟨?_, ?_, ?_, ?_, sourceLines_pairwise source⟩
  · intro hroom
    cases hrun : outcome.1 with
    | ok a => exact .inl ⟨a, rfl⟩
    | error failure =>
      rw [hrun] at hverdict
      cases hverdict with
      | @line e blamed => exact .inr ⟨e, rfl⟩
      | noRoom full => exact absurd hroom full
  · intro a hrun
    rw [hrun] at hverdict
    cases hverdict with
    | made placeable encodable => exact ⟨placeable, encodable⟩
  · intro e hrun
    rw [hrun] at hverdict
    cases hverdict with
    | line blamed =>
      obtain ⟨line, hmem, hnumber⟩ := blamed.mem
      obtain ⟨hone, raw, hraw, htext, hne⟩ := mem_sourceLines_iff.mp hmem
      rw [hnumber] at hone hraw
      exact ⟨blamed, hone, raw, hraw, htext ▸ hne⟩
  · intro failure hrun
    rw [hfirst] at hrun
    show (assembleAloud source base listing printed).2 = printed
    unfold assembleAloud
    rw [hrun]

/-- A program text with blank lines, comments and lines that only have a label. It jumps to a name
that no line defines, and the line behind that has a byte out of range. -/
def lostJump : Text :=
  ("; a loop\n\n  .org 0x210 ; ahead\nloop:\n  cls\n" ++
    " again: ; and again\n jp nowhere\n ld v0, 999").toList

/-- The text with one more line at the end that defines a name again. -/
def twiceLooped : Text :=
  lostJump ++ "\n\nloop: ret ; again".toList

theorem assembleAloud_blames_lostJump :
    (RoomForOrigins lostJump 0x200 ∧
        ∃ e, assembleAloud lostJump 0x200 true [] = (.error (.line e), []) ∧ e.line = 7 ∧
          Blamed 0x200 (sourceLines lostJump) e) ∧
      ∃ e, assembleAloud twiceLooped 0x200 true [] = (.error (.line e), []) ∧ e.line = 10 ∧
        Blamed 0x200 (sourceLines twiceLooped) e := by
  have hlost : assemble lostJump 0x200 =
      .error (.line ⟨7, .statement (.unknownName "nowhere".toList) "jp nowhere".toList⟩) := by
    rfl
  have htwice : assemble twiceLooped 0x200 =
      .error (.line ⟨10, .duplicateLabel "loop".toList⟩) := by
    rfl
  have hsizes : (layout lostJump 0x200).toOption.map (fun l => l.statements.map Placed.size) =
      some [16, 2, 2, 2] := by
    rfl
  have hroom : RoomForOrigins lostJump 0x200 := by
    apply roomForOrigins_of_lt
    intro l hl s hs
    rw [hl] at hsizes
    have hsize : s.size ∈ [16, 2, 2, 2] := Option.some.inj hsizes ▸ List.mem_map_of_mem hs
    have hsmall : ∀ size ∈ [16, 2, 2, 2], size < memoryLimit := by decide
    exact hsmall _ hsize
  constructor
  · obtain ⟨hends, -, hblame, hsilent, -⟩ := assembleAloud_blames lostJump 0x200 true []
    have hrun := (assembleAloud_fst lostJump 0x200 true []).trans hlost
    rcases hends hroom with ⟨a, ha⟩ | ⟨e, he⟩
    · rw [hrun] at ha
      cases ha
    · refine ⟨hroom, e, Prod.ext he (hsilent _ he), ?_, (hblame e he).1⟩
      rw [hrun] at he
      cases he
      rfl
  · obtain ⟨-, -, hblame, hsilent, -⟩ := assembleAloud_blames twiceLooped 0x200 true []
    have hrun := (assembleAloud_fst twiceLooped 0x200 true []).trans htwice
    exact ⟨_, Prod.ext hrun (hsilent _ hrun), rfl, (hblame _ hrun).1⟩

end ChipEight.Assembly
