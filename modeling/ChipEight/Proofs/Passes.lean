/-
# ChipEight.Proofs.Passes -- what each pass over a program does with a line

Both passes of the assembler go through the program line by line and stop at the first line that is
wrong. For a pass that does not stop, the lemmas here say what it did with the first line and that
it went on with the others: `place_cons` for the layout and `emitAll_cons` for the bytes.
-/
import ChipEight.Assembly.Image
import Mathlib.Data.List.Forall2

namespace ChipEight

namespace Assembly

open Text

/-! ## The layout -/

/-- The label that a line defines. -/
def SourceLine.label? (line : SourceLine) : Option Text :=
  (labelAndStatement line.text).1

/-- The statement of a line, empty if it has none. -/
def SourceLine.statement (line : SourceLine) : Text :=
  (labelAndStatement line.text).2

/-- What became of the first line of a program that was placed as a whole. -/
inductive Placing (labels : Labels) (address : Int) (line : SourceLine) (lines : List SourceLine)
    (l : Layout) : Prop where
  /-- It has no statement, and the other lines stand where it stands. -/
  | bare {labels' : Labels} (defined : defineAll labels address line.label? = .ok labels')
      (empty : line.statement = []) (others : place labels' address lines = .ok l)
  /-- Its statement stands at the address, and the other lines behind it. -/
  | statement {labels' : Labels} {size : Nat} {rest : List Placed}
      (defined : defineAll labels address line.label? = .ok labels')
      (nonempty : line.statement ≠ [])
      (sized : (Form.ofStatement line.statement).size address = .ok size)
      (others : place labels' (address + size) lines = .ok ⟨l.labels, rest⟩)
      (first : l.statements =
        ⟨line.number, line.statement, Form.ofStatement line.statement, address, size⟩ :: rest)

/-- A label is added behind the others, and only if it is new. -/
theorem defineAll_eq_ok {labels labels' : Labels} {address : Int} {label? : Option Text}
    (h : defineAll labels address label? = .ok labels') :
    labels' = labels ++ label?.toList.map (fun label => (label, address)) ∧
      ∀ label, label? = some label → labels.lookup label = none := by
  cases label? with
  | none =>
    cases h
    simp
  | some label =>
    simp only [defineAll, define] at h
    split at h
    · cases h
    · split at h
      · cases h
      · rename_i hnew
        cases h
        rw [Option.not_isSome_iff_eq_none] at hnew
        refine ⟨rfl, ?_⟩
        rintro _ ⟨⟩
        exact hnew

theorem place_cons {labels : Labels} {address : Int} {line : SourceLine} {lines : List SourceLine}
    {l : Layout} (h : place labels address (line :: lines) = .ok l) :
    Placing labels address line lines l := by
  simp only [place] at h
  split at h
  · cases h
  · rename_i labels' hdefine
    split at h
    · rename_i hempty
      exact .bare hdefine (List.isEmpty_iff.mp hempty) h
    · rename_i hempty
      rw [List.isEmpty_iff] at hempty
      split at h
      · cases h
      · rename_i size hsize
        split at h
        · cases h
        · rename_i rest hrest
          cases h
          exact .statement hdefine hempty hsize hrest rfl

section Labels

variable {P : Labels → Prop}
  (keeps : ∀ {labels labels' : Labels}, P labels → ∀ {address : Int} {label? : Option Text},
    defineAll labels address label? = .ok labels' → P labels')
include keeps

/-- What is kept by every definition of a label is kept by all lines together. -/
theorem labels_of_place {labels : Labels} {address : Int} {lines : List SourceLine} {l : Layout}
    (h : P labels) (hplace : place labels address lines = .ok l) : P l.labels := by
  induction lines generalizing labels address l with
  | nil =>
    cases hplace
    exact h
  | cons line lines ih =>
    cases place_cons hplace with
    | bare defined empty others => exact ih (keeps h defined) others
    | statement defined nonempty sized others first =>
      have hrest := ih (keeps h defined) others
      exact hrest

theorem labels_of_layout {source : Text} {base : Int} {l : Layout} (h : P [])
    (hlayout : layout source base = .ok l) : P l.labels :=
  labels_of_place keeps h hlayout

end Labels

/-! ## The bytes -/

/-- Statements that are all made into bytes: the first one is, and so are the others. -/
theorem emitAll_cons {labels : Labels} {s : Placed} {ss : List Placed} {pieces : List Piece}
    (h : emitAll labels (s :: ss) = .ok pieces) :
    ∃ content rest, s.emit labels = .ok content ∧ emitAll labels ss = .ok rest ∧
      pieces = ⟨s, content⟩ :: rest := by
  rw [emitAll, bind_eq_ok_iff] at h
  obtain ⟨content, hcontent, h⟩ := h
  obtain ⟨rest, hrest, h⟩ := bind_eq_ok_iff.mp h
  cases h
  exact ⟨content, rest, hcontent, hrest, rfl⟩

/-- Operands that all have a value have one value each. -/
theorem forall₂_of_resolveAll {labels : Labels} {operands : List Text} {values : List Int}
    (h : resolveAll labels operands = .ok values) :
    List.Forall₂ (fun operand value => resolve labels operand = .ok value) operands values := by
  induction operands generalizing values with
  | nil =>
    cases h
    exact .nil
  | cons operand operands ih =>
    rw [resolveAll, bind_eq_ok_iff] at h
    obtain ⟨value, hvalue, h⟩ := h
    obtain ⟨rest, hrest, h⟩ := bind_eq_ok_iff.mp h
    cases h
    exact .cons hvalue (ih hrest)

/-- An assembled program went through both passes, and the second one knew all its labels. -/
theorem assemble_eq_ok {source : Text} {base : Int} {a : Assembled}
    (h : assemble source base = .ok a) :
    ∃ statements, layout source base = .ok ⟨a.labels, statements⟩ ∧
      emitAll a.labels statements = .ok a.pieces := by
  rw [assemble, bind_eq_ok_iff] at h
  obtain ⟨l, hl, h⟩ := h
  obtain ⟨pieces, hpieces, h⟩ := bind_eq_ok_iff.mp h
  cases h
  exact ⟨l.statements, mapError_eq_ok_iff.mp hl, hpieces⟩

end Assembly

end ChipEight
