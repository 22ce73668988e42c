/-
# ChipEight.Proofs.Meaning -- what lines come to

Apart from the words of its errors, a part of a program matters for two things: for the labels that
are known behind it, and for the bytes that it is made into once all labels are known. The pair of
both is the `meaning` of its lines, if they can be placed.

The meaning is built up line by line (`meaning_cons`), from what each line defines, whether it has a
statement, how long that is and what bytes it stands for. The number of a line has no part in it. So
lines that agree in these points may stand for each other (`ReadsAlike`), and a part of a program may
be replaced by one with the same meaning (`meaning_append_congr`). An image is a meaning that is given
its own labels (`image_eq_meaning`).
-/
import ChipEight.Proofs.Blame
import ChipEight.Proofs.Plans

namespace ChipEight.Assembly

open Text

/-! ## Statements -/

/-- The bytes of a statement that the layout has left so much room for, all labels known. -/
def statementBytes? (known : Labels) (text : Text) (size : Nat) : Option (List UInt8) :=
  (Placed.emit known ⟨0, text, Form.ofStatement text, 0, size⟩).toOption.map Content.toList

/-- The number of its line and its address have no part in the bytes of a statement. -/
theorem toOption_emit (known : Labels) (line : Nat) (text : Text) (address : Int) (size : Nat) :
    (Placed.emit known ⟨line, text, Form.ofStatement text, address, size⟩).toOption.map
      Content.toList = statementBytes? known text size := by
  unfold statementBytes? Placed.emit
  cases Form.ofStatement text with
  | origin operand => rfl
  | bytes operands | words operands | instruction =>
    simp only [toOption_bind, toOption_mapError]

/-! ## Lines -/

/-- What lines come to that are placed from an address on, with some labels defined before: the
labels behind them, and their bytes once all labels are known. -/
def meaning (labels : Labels) (address : Int) (lines : List SourceLine) :
    Option (Labels × (Labels → Option (List UInt8))) :=
  (place labels address lines).toOption.map fun l =>
    (l.labels, fun known =>
      (emitAll known l.statements).toOption.map fun pieces => pieces.flatMap Piece.bytes)

/-- Bytes in front of what lines come to. -/
def inFront (bytes : Labels → Option (List UInt8))
    (rest : Labels × (Labels → Option (List UInt8))) : Labels × (Labels → Option (List UInt8)) :=
  (rest.1, fun known => (bytes known).bind fun bs => (rest.2 known).map (bs ++ ·))

/-- The bytes of statements are those of the first one and those of the others. -/
theorem toOption_emitAll_cons (known : Labels) (s : Placed) (ss : List Placed) :
    (emitAll known (s :: ss)).toOption.map (fun pieces => pieces.flatMap Piece.bytes) =
      ((s.emit known).toOption.map Content.toList).bind fun bs =>
        ((emitAll known ss).toOption.map fun pieces => pieces.flatMap Piece.bytes).map
          (bs ++ ·) := by
  rw [emitAll]
  cases s.emit known with
  | error e => rfl
  | ok content =>
    cases emitAll known ss <;> rfl

/-- The meaning of lines is made from the first one and the meaning of the others. -/
theorem meaning_cons (labels : Labels) (address : Int) (line : SourceLine)
    (lines : List SourceLine) :
    meaning labels address (line :: lines) =
      (defineAll labels address line.label?).toOption.bind fun labels' =>
        if line.statement = [] then meaning labels' address lines
        else ((Form.ofStatement line.statement).size address).toOption.bind fun size =>
          (meaning labels' (address + size) lines).map
            (inFront fun known => statementBytes? known line.statement size) := by
  unfold meaning
  cases hlabel : defineAll labels address line.label? with
  | error cause =>
    rw [place_of_label hlabel]
    rfl
  | ok labels' =>
    show _ = if line.statement = [] then _ else _
    by_cases hbare : line.statement = []
    · rw [if_pos hbare, place_of_bare hlabel hbare]
    · rw [if_neg hbare]
      cases hsize : (Form.ofStatement line.statement).size address with
      | error cause =>
        rw [place_of_size hlabel hbare hsize]
        rfl
      | ok size =>
        rw [place_of_statement lines hlabel hbare hsize]
        show _ = Option.map _ _
        cases place labels' (address + size) lines with
        | error e => rfl
        | ok l =>
          refine congrArg some (Prod.ext rfl (funext fun known => ?_))
          exact (toOption_emitAll_cons known _ _).trans (by rw [toOption_emit]; rfl)

/-! ## Lines that may stand for each other -/

/-- Both passes read the lines in the same way. -/
structure ReadsAlike (line line' : SourceLine) : Prop where
  label : line.label? = line'.label?
  bare : line.statement = [] ↔ line'.statement = []
  size : ∀ address, ((Form.ofStatement line.statement).size address).toOption =
    ((Form.ofStatement line'.statement).size address).toOption
  bytes : ∀ known size,
    statementBytes? known line.statement size = statementBytes? known line'.statement size

theorem ReadsAlike.of_text {line line' : SourceLine} (h : line.text = line'.text) :
    ReadsAlike line line' := by
  have hlabel : line.label? = line'.label? := by rw [SourceLine.label?, SourceLine.label?, h]
  have hstatement : line.statement = line'.statement := by
    rw [SourceLine.statement, SourceLine.statement, h]
  refine ⟨hlabel, by rw [hstatement], ?_, ?_⟩
  · intro address
    rw [hstatement]
  · intro known size
    rw [hstatement]

theorem meaning_cons_congr {line line' : SourceLine} (h : ReadsAlike line line')
    {lines lines' : List SourceLine}
    (hrest : ∀ labels address, meaning labels address lines = meaning labels address lines')
    (labels : Labels) (address : Int) :
    meaning labels address (line :: lines) = meaning labels address (line' :: lines') := by
  rw [meaning_cons, meaning_cons, h.label]
  simp only [h.bare, h.size, h.bytes, hrest]

/-- Behind the same lines, lines with the same meaning may stand for each other. -/
theorem meaning_append_congr (front : List SourceLine) {lines lines' : List SourceLine}
    (h : ∀ labels address, meaning labels address lines = meaning labels address lines')
    (labels : Labels) (address : Int) :
    meaning labels address (front ++ lines) = meaning labels address (front ++ lines') := by
  induction front generalizing labels address with
  | nil => exact h labels address
  | cons line front ih => exact meaning_cons_congr (.of_text rfl) ih labels address

/-! ## Programs -/

/-- The lines of raw ones that are not blank without their comment, all with the same number. -/
def linesOf (raws : List Text) : List SourceLine :=
  ((raws.map withoutComment).filter fun text => !text.isEmpty).map fun text => ⟨0, text⟩

theorem linesOf_append (raws raws' : List Text) :
    linesOf (raws ++ raws') = linesOf raws ++ linesOf raws' := by
  simp [linesOf]

theorem linesOf_cons_of_blank {raw : Text} (h : withoutComment raw = []) (raws : List Text) :
    linesOf (raw :: raws) = linesOf raws := by
  simp [linesOf, h]

theorem linesOf_cons {raw : Text} (h : withoutComment raw ≠ []) (raws : List Text) :
    linesOf (raw :: raws) = ⟨0, withoutComment raw⟩ :: linesOf raws := by
  simp [linesOf, h]

/-- A line that has a label or a statement is not blank. -/
theorem ne_nil_of_read {raw : Text} {label? : Option Text} {s : Text}
    (h : labelAndStatement (withoutComment raw) = (label?, s)) (hsome : (label?, s) ≠ (none, [])) :
    withoutComment raw ≠ [] := by
  intro hblank
  rw [hblank] at h
  exact hsome h.symm

/-- The numbers of the lines of a program have no part in its meaning. -/
theorem meaning_sourceLines (source : Text) (labels : Labels) (address : Int) :
    meaning labels address (sourceLines source) =
      meaning labels address (linesOf (splitOn '\n' source)) := by
  unfold sourceLines
  generalize splitOn '\n' source = raws
  generalize 1 = number
  induction raws generalizing labels address number with
  | nil => rfl
  | cons raw raws ih =>
    rw [List.zipIdx_cons, List.filterMap_cons]
    dsimp only
    split
    · rename_i hblank
      have hnone : withoutComment raw = [] := by
        split at hblank
        · assumption
        · cases hblank
      rw [linesOf_cons_of_blank hnone]
      exact ih labels address (number + 1)
    · rename_i line hline
      have hsome : withoutComment raw ≠ [] ∧ line.text = withoutComment raw := by
        split at hline
        · cases hline
        · rename_i hne
          cases hline
          exact ⟨hne, rfl⟩
      rw [linesOf_cons hsome.1]
      exact meaning_cons_congr (.of_text hsome.2) (fun l a => ih l a (number + 1)) labels address

/-- An image is the meaning of its lines, given the labels behind them. -/
theorem image_eq_meaning (source : Text) (base : Int) :
    (assemble source base).toOption.map Assembled.image =
      (meaning [] base (linesOf (splitOn '\n' source))).bind fun rest => rest.2 rest.1 := by
  rw [← meaning_sourceLines]
  show _ = Option.bind (Option.map _ (layout source base).toOption) _
  cases hlayout : layout source base with
  | error e =>
    rw [assemble_of_layout_error hlayout]
    rfl
  | ok l =>
    rw [assemble_of_layout hlayout]
    show _ = Option.map _ (emitAll l.labels l.statements).toOption
    cases emitAll l.labels l.statements <;> rfl

end ChipEight.Assembly
