/-
# ChipEight.Proofs.LabelRows -- where a label stands in a listing

The row of a label stands in front of the first row that has its address. Addresses never go down
from line to line, so the row of a label parts the listing: above it are the rows of the lines with
smaller addresses, below it all others, and among these those of the lines behind the label
(`rows_of_label`). Whether something without bytes stands at the same address before the label makes
no difference, and no label is shown twice, because it is taken out of the labels that are left.

All this is about labels that have a row at their address. A label at the end of a program, or in
front of an origin that moves on, has none, and is not shown at all (`exists_of_labelRow_mem`).
-/
import ChipEight.Proofs.Listed
import Mathlib.Data.List.Nodup

namespace ChipEight.Assembly

open Text

/-! ## Labels that are left -/

namespace Labels.Distinct

variable {labels : Labels} (h : Distinct labels)
include h

theorem filter (keep : Text × Int → Bool) : Distinct (labels.filter keep) :=
  List.Nodup.sublist (List.filter_sublist.map Prod.fst) h

/-- A label has one value. -/
theorem eq_of_mem {label : Text} {a b : Int} (ha : (label, a) ∈ labels) (hb : (label, b) ∈ labels) :
    a = b := by
  have hlookup := h.lookup_eq_some_iff.mpr ha
  rw [h.lookup_eq_some_iff.mpr hb] at hlookup
  exact (Option.some.inj hlookup).symm

/-- A label that is not kept is not kept with another value either. -/
theorem not_mem_filter {label : Text} {a : Int} (ha : (label, a) ∈ labels) {keep : Text × Int → Bool}
    (hkeep : keep (label, a) = false) (b : Int) : (label, b) ∉ labels.filter keep := by
  intro hb
  obtain ⟨hb, hkept⟩ := List.mem_filter.mp hb
  rw [h.eq_of_mem hb ha, hkeep] at hkept
  cases hkept

end Labels.Distinct

/-! ## Rows of labels -/

theorem labelRow_inj {first second : Text} (h : labelRow first = labelRow second) :
    first = second := by
  unfold labelRow at h
  rw [List.append_assoc, List.append_assoc] at h
  exact List.append_cancel_right (List.append_cancel_left h)

theorem labelRow_ne_statementRow (label : Text) (p : Piece) : labelRow label ≠ statementRow p := by
  intro h
  have hkind := isAddressRow_labelRow label
  rw [h, isAddressRow_statementRow] at hkind
  cases hkind

/-- A label that has a row in front of the others is among them. -/
theorem labelRow_mem_map {labels : Labels} {label : Text} :
    labelRow label ∈ labels.map (fun l => labelRow l.1) ↔ ∃ a, (label, a) ∈ labels := by
  simp only [List.mem_map, Prod.exists]
  constructor
  · rintro ⟨name, a, hmem, hrow⟩
    exact ⟨a, labelRow_inj hrow ▸ hmem⟩
  · rintro ⟨a, hmem⟩
    exact ⟨label, a, hmem, rfl⟩

/-- A label that is shown has a row at its address. -/
theorem exists_of_labelRow_mem {labels : Labels} {pieces : List Piece} {label : Text}
    (h : labelRow label ∈ rows labels pieces) :
    ∃ a, (label, a) ∈ labels ∧
      ∃ p ∈ pieces, p.statement.form.isOrigin = false ∧ p.statement.address = a := by
  induction pieces generalizing labels with
  | nil => cases h
  | cons p ps ih =>
    cases horigin : p.statement.form.isOrigin with
    | true =>
      rw [rows_cons_of_origin horigin] at h
      obtain ⟨a, hmem, q, hq, hrow⟩ := ih h
      exact ⟨a, hmem, q, List.mem_cons_of_mem p hq, hrow⟩
    | false =>
      rw [rows_cons horigin, List.mem_append, List.mem_cons] at h
      rcases h with hhere | hstatement | hothers
      · obtain ⟨a, hmem⟩ := labelRow_mem_map.mp hhere
        obtain ⟨hmem, ha⟩ := List.mem_filter.mp hmem
        exact ⟨a, hmem, p, List.mem_cons_self, horigin, (beq_iff_eq.mp ha).symm⟩
      · exact absurd hstatement (labelRow_ne_statementRow label p)
      · obtain ⟨a, hmem, q, hq, hrow⟩ := ih hothers
        exact ⟨a, List.mem_of_mem_filter hmem, q, List.mem_cons_of_mem p hq, hrow⟩

/-! ## Rows above and below -/

/-- The label has exactly one row among the lines, and those with an address below it are the given
ones. -/
def ShownAbove (label : Text) (lines following : List Text) : Prop :=
  ∃ above below, lines = above ++ labelRow label :: below ∧ labelRow label ∉ above ++ below ∧
    below.filter isAddressRow = following

theorem ShownAbove.append {label : Text} {lines following front : List Text}
    (h : ShownAbove label lines following) (hfront : labelRow label ∉ front) :
    ShownAbove label (front ++ lines) following := by
  obtain ⟨above, below, rfl, hno, hbelow⟩ := h
  refine ⟨front ++ above, below, (List.append_assoc _ _ _).symm, ?_, hbelow⟩
  rw [List.append_assoc, List.mem_append, not_or]
  exact ⟨hfront, hno⟩

/-- A label is shown above what follows its own group of labels. -/
theorem shownAbove_of_mem {labels : Labels} (hlabels : labels.Distinct) {label : Text} {a : Int}
    (hmem : (label, a) ∈ labels) {lines : List Text} (hno : labelRow label ∉ lines) :
    ShownAbove label (labels.map (fun l => labelRow l.1) ++ lines) (lines.filter isAddressRow) := by
  obtain ⟨front, back, rfl⟩ := List.append_of_mem hmem
  unfold Labels.Distinct at hlabels
  rw [List.map_append, List.map_cons, List.nodup_middle, List.nodup_cons, ← List.map_append] at hlabels
  have hothers : labelRow label ∉ (front ++ back).map fun l => labelRow l.1 := by
    intro hshown
    obtain ⟨b, hb⟩ := labelRow_mem_map.mp hshown
    exact hlabels.1 (List.mem_map.mpr ⟨_, hb, rfl⟩)
  refine ⟨front.map fun l => labelRow l.1, (back.map fun l => labelRow l.1) ++ lines, ?_, ?_, ?_⟩
  · rw [List.map_append, List.map_cons, List.append_assoc, List.cons_append]
  · rw [← List.append_assoc, ← List.map_append, List.mem_append, not_or]
    exact ⟨hothers, hno⟩
  · rw [List.filter_append, filter_labelRows, List.nil_append]

/-- Below the row of a label stand the rows of all statements whose addresses are not smaller, if one
of them has the address of the label. -/
theorem rows_of_label {labels : Labels} (hlabels : labels.Distinct) {pieces : List Piece}
    (hsorted : pieces.Pairwise fun p q => p.statement.address ≤ q.statement.address) {label : Text}
    {a : Int} (hmem : (label, a) ∈ labels)
    (hrow : ∃ p ∈ pieces, p.statement.form.isOrigin = false ∧ p.statement.address = a) :
    ShownAbove label (rows labels pieces)
      (((pieces.filter fun p => !p.statement.form.isOrigin).filter
        fun p => a ≤ p.statement.address).map statementRow) := by
  -- the label is left until a statement with its address comes, and there its row is printed
  induction pieces generalizing labels with
  | nil =>
    obtain ⟨p, hp, -⟩ := hrow
    cases hp
  | cons p ps ih =>
    obtain ⟨hleast, hrest⟩ := List.pairwise_cons.mp hsorted
    obtain ⟨q, hq, hlisted, hqa⟩ := hrow
    cases horigin : p.statement.form.isOrigin with
    | true =>
      rw [rows_cons_of_origin horigin, List.filter_cons_of_neg (by simp [horigin])]
      apply ih hlabels hrest hmem
      rcases List.mem_cons.mp hq with rfl | hq
      · cases horigin.symm.trans hlisted
      · exact ⟨q, hq, hlisted, hqa⟩
    | false =>
      rw [rows_cons horigin, List.filter_cons_of_pos (by simp [horigin])]
      by_cases ha : p.statement.address = a
      · -- no statement behind this one stands before it, so all their rows are below
        have hhere : (label, a) ∈ labels.filter fun l => l.2 == p.statement.address :=
          List.mem_filter.mpr ⟨hmem, beq_iff_eq.mpr ha.symm⟩
        have hno : labelRow label ∉ statementRow p ::
            rows (labels.filter fun l => !(l.2 == p.statement.address)) ps := by
          rw [List.mem_cons, not_or]
          refine ⟨labelRow_ne_statementRow label p, fun hshown => ?_⟩
          obtain ⟨b, hb, -⟩ := exists_of_labelRow_mem hshown
          exact hlabels.not_mem_filter hmem (by simp [ha]) b hb
        have hall : ∀ r ∈ p :: ps.filter fun p => !p.statement.form.isOrigin,
            decide (a ≤ r.statement.address) = true := by
          intro r hr
          rcases List.mem_cons.mp hr with rfl | hr
          · exact decide_eq_true (Int.le_of_eq ha.symm)
          · exact decide_eq_true (ha ▸ hleast r (List.mem_of_mem_filter hr))
        have hshown := shownAbove_of_mem (hlabels.filter _) hhere hno
        rwa [List.filter_cons_of_pos (isAddressRow_statementRow p), filter_rows, ← List.map_cons,
          ← List.filter_eq_self.mpr hall] at hshown
      · have hkept : (label, a) ∈ labels.filter fun l => !(l.2 == p.statement.address) :=
          List.mem_filter.mpr ⟨hmem, by simp [Ne.symm ha]⟩
        have hothers : q ∈ ps := by
          rcases List.mem_cons.mp hq with rfl | hq
          · exact absurd hqa ha
          · exact hq
        have hless : ¬ a ≤ p.statement.address := by
          have := hleast q hothers
          omega
        have hhere : labelRow label ∉
            (labels.filter fun l => l.2 == p.statement.address).map fun l => labelRow l.1 := by
          intro hshown
          obtain ⟨b, hb⟩ := labelRow_mem_map.mp hshown
          exact hlabels.not_mem_filter hmem (by simp [Ne.symm ha]) b hb
        have hshown := ih (hlabels.filter _) hrest hkept ⟨q, hothers, hlisted, hqa⟩
        have hthis : labelRow label ∉ [statementRow p] := by
          simpa using labelRow_ne_statementRow label p
        have hshown := (hshown.append hthis).append hhere
        rwa [List.filter_cons_of_neg (by simp [hless])]

/-! ## Lines in the order of their addresses -/

namespace Run

variable {final : Labels} {address : Int} {es : List Emission} {pieces : List Piece}

theorem le_address (h : Run final address es pieces) :
    ∀ p ∈ pieces, address ≤ p.statement.address := by
  induction h with
  | nil address => simp
  | bare empty others ih => exact ih
  | statement nonempty sized emitted others ih =>
    rintro p (_ | ⟨_, hp⟩)
    · exact Int.le_refl _
    · have := ih p hp
      omega

/-- No statement stands before the statements in front of it. -/
theorem sorted (h : Run final address es pieces) :
    pieces.Pairwise fun p q => p.statement.address ≤ q.statement.address := by
  induction h with
  | nil address => exact .nil
  | bare empty others ih => exact ih
  | @statement address line size content _ _ nonempty sized emitted others ih =>
    refine .cons (fun q hq => ?_) ih
    have := others.le_address q hq
    show address ≤ q.statement.address
    omega

/-- The statements with a row are those of the lines with a row, also if it has to have a certain
address. -/
theorem exists_row_iff (h : Run final address es pieces) (a : Int) :
    (∃ p ∈ pieces, p.statement.form.isOrigin = false ∧ p.statement.address = a) ↔
      ∃ e ∈ es, e.isListed = true ∧ e.address = a := by
  have haddresses : (pieces.filter fun p => !p.statement.form.isOrigin).map
      (fun p => p.statement.address) = (es.filter Emission.isListed).map Emission.address := by
    have hfirst := congrArg (List.map Prod.fst) h.listed_eq
    rw [List.map_map, List.map_map] at hfirst
    exact hfirst
  have hmem := congrArg (a ∈ ·) haddresses
  simpa [and_assoc] using hmem

theorem rows_from_eq (h : Run final address es pieces) (a : Int) :
    ((pieces.filter fun p => !p.statement.form.isOrigin).filter
        fun p => a ≤ p.statement.address).map statementRow =
      ((es.filter Emission.isListed).filter fun e => a ≤ e.address).map fun e =>
        addressRow e.address e.bytes e.line.statement := by
  have hrows := congrArg (fun rows => (rows.filter fun row : Int × List UInt8 × Text =>
    a ≤ row.1).map fun row => addressRow row.1 row.2.1 row.2.2) h.listed_eq
  simp only [List.filter_map, List.map_map] at hrows
  exact hrows

end Run

/-- A line stands no earlier than a line in front of it. -/
theorem Account.address_le {source : Text} {base : Int} {a : Assembled} {es : List Emission}
    (h : Account source base a es) {before : List Emission} {e : Emission} {after : List Emission}
    (hes : es = before ++ e :: after) : ∀ f ∈ e :: after, e.address ≤ f.address := by
  intro f hf
  obtain ⟨front, back, hsplit⟩ := List.append_of_mem hf
  have he := h.consecutive before e after hes
  have hf := h.consecutive (before ++ front) f back (by rw [hes, hsplit, List.append_assoc])
  rw [bytesOf, List.flatMap_append, List.length_append] at hf
  rw [bytesOf] at he
  omega

/-! ## Programs -/

/-- Some line with a row of its own stands at the address. -/
def HasRowAt (es : List Emission) (address : Int) : Prop :=
  ∃ e ∈ es, e.isListed = true ∧ e.address = address

/-- The lines with a row that stand at the address or behind it. -/
def listedFrom (es : List Emission) (address : Int) : List Emission :=
  (es.filter Emission.isListed).filter fun e => address ≤ e.address

/-- The listing of a program that is assembled shows a label whose address has a row on exactly one
row of its own. It stands above the rows of all lines with the same address or a larger one, and so
above that of its own line and those of the lines behind it. A label whose address has no row is not
shown at all. -/
theorem labels_listed {source : Text} {base : Int} {a : Assembled}
    (h : assemble source base = .ok a) (printed : Text) :
    ∃ es lines, Account source base a es ∧
      (assembleAloud source base true printed).2 = printed ++ unlines lines ∧
      (∀ row ∈ lines, '\n' ∉ row) ∧
      lines.filter isAddressRow = (es.filter Emission.isListed).map (listingRow base a) ∧
      ∀ before e after label, es = before ++ e :: after → e.line.label? = some label →
        (HasRowAt es e.address →
          ShownAbove label lines ((listedFrom es e.address).map (listingRow base a)) ∧
            (e :: after).filter Emission.isListed <:+ listedFrom es e.address) ∧
        (¬ HasRowAt es e.address → labelRow label ∉ lines) := by
  obtain ⟨statements, hlayout, hemit⟩ := assemble_eq_ok h
  obtain ⟨es, hrun, hlabels, hes⟩ := account_of_passes hlayout hemit
  have hdistinct : a.labels.Distinct := distinct_of_layout hlayout
  refine ⟨es, rows a.labels a.pieces, hes, assembleAloud_listing h printed, ?_,
    hes.filter_rows_eq hrun, ?_⟩
  · rw [hlabels]
    exact hrun.newline_not_mem_rows hes.lines
  · intro before e after label hsplit hlabel
    have he : e ∈ es := hsplit ▸ List.mem_append_right before List.mem_cons_self
    have hmem : (label, e.address) ∈ a.labels := by
      rw [hlabels]
      exact mem_definitions.mpr ⟨e, he, hlabel, rfl⟩
    refine ⟨fun hrow => ⟨?_, ?_⟩, fun hno hshown => ?_⟩
    · have hpiece := (hrun.exists_row_iff e.address).mpr hrow
      have hshown := rows_of_label hdistinct hrun.sorted hmem hpiece
      rw [hrun.rows_from_eq] at hshown
      rwa [listedFrom, ← List.map_congr_left fun f hf => hes.addressRow_eq
        (List.mem_of_mem_filter (List.mem_of_mem_filter hf))]
    · have hbehind : ∀ f ∈ (e :: after).filter Emission.isListed,
          decide (e.address ≤ f.address) = true := by
        intro f hf
        exact decide_eq_true (hes.address_le hsplit f (List.mem_of_mem_filter hf))
      rw [listedFrom, hsplit, List.filter_append, List.filter_append,
        List.filter_eq_self.mpr hbehind]
      exact List.suffix_append _ _
    · obtain ⟨v, hv, hpiece⟩ := exists_of_labelRow_mem hshown
      rw [hdistinct.eq_of_mem hv hmem] at hpiece
      exact hno ((hrun.exists_row_iff e.address).mp hpiece)

/-- A program with two labels that have a row, one in front of an origin and one at the end. -/
def strandedLabels : Text :=
  "none: .db\nstart: cls\ngap: .org 0x300\n jp end\nend:".toList

theorem assemble_strandedLabels : ∃ a, assemble strandedLabels 0x200 = .ok a ∧
    a.labels = [("none".toList, 0x200), ("start".toList, 0x200), ("gap".toList, 0x202),
      ("end".toList, 0x302)] := by
  have hlabels : (assemble strandedLabels 0x200).toOption.map Assembled.labels =
      some [("none".toList, 0x200), ("start".toList, 0x200), ("gap".toList, 0x202),
        ("end".toList, 0x302)] := by decide +kernel
  cases hrun : assemble strandedLabels 0x200 with
  | error e =>
    rw [hrun] at hlabels
    cases hlabels
  | ok a =>
    rw [hrun] at hlabels
    exact ⟨a, rfl, Option.some.inj hlabels⟩

/-- The second label is defined behind a line without bytes, and shown above it all the same. -/
theorem labels_listed_behind_nothing : ∃ a es lines, assemble strandedLabels 0x200 = .ok a ∧
    (assembleAloud strandedLabels 0x200 true []).2 = unlines lines ∧ HasRowAt es 0x200 ∧
    ShownAbove "start".toList lines ((listedFrom es 0x200).map (listingRow 0x200 a)) := by
  obtain ⟨a, ha, hlabels⟩ := assemble_strandedLabels
  obtain ⟨es, lines, hes, hprinted, -, -, hshown⟩ := labels_listed ha []
  have hlookup : a.labels.lookup "start".toList = some 0x200 := by
    rw [hlabels]
    decide
  obtain ⟨before, e, after, hsplit, hlabel, hvalue⟩ := (hes.labels _ _).mp hlookup
  have haddress : e.address = 0x200 := (hes.consecutive before e after hsplit).trans hvalue.symm
  have hlisted : ∀ line ∈ sourceLines strandedLabels, line.label? = some "start".toList →
      (!line.statement.isEmpty && !(Form.ofStatement line.statement).isOrigin) = true := by
    decide +kernel
  have he : e ∈ es := hsplit ▸ List.mem_append_right before List.mem_cons_self
  have hrow : HasRowAt es e.address :=
    ⟨e, he, hlisted e.line (hes.lines ▸ List.mem_map_of_mem he) hlabel, rfl⟩
  obtain ⟨habove, -⟩ := (hshown before e after _ hsplit hlabel).1 hrow
  rw [haddress] at hrow habove
  exact ⟨a, es, lines, ha, hprinted, hrow, habove⟩

/-- Two labels are defined, but no row has their addresses, and the listing does not show them. -/
theorem stranded_labels_unlisted : ∃ a, assemble strandedLabels 0x200 = .ok a ∧
    a.labels.lookup "gap".toList = some 0x202 ∧ a.labels.lookup "end".toList = some 0x302 ∧
    ∃ lines, (assembleAloud strandedLabels 0x200 true []).2 = unlines lines ∧
      lines = [labelRow "none".toList, labelRow "start".toList, "  200              .db".toList,
        "  200  00 E0       cls".toList, "  300  13 02       jp end".toList] ∧
      labelRow "gap".toList ∉ lines ∧ labelRow "end".toList ∉ lines := by
  obtain ⟨a, ha, hlabels⟩ := assemble_strandedLabels
  refine ⟨a, ha, ?_, ?_, _, ?_, rfl, ?_, ?_⟩
  · rw [hlabels]
    decide
  · rw [hlabels]
    decide
  · decide +kernel
  · decide
  · decide

end ChipEight.Assembly
