/-
# ChipEight.Proofs.Listed -- the listing shows the image

A listing has rows of two kinds. The rows of labels start with blanks, and the others with an address
behind two blanks, so they can be told apart (`isAddressRow`). With the rows of labels left out, a
listing has one row for each statement that is no origin, in the order of the statements, whatever
labels are left when a row is reached (`filter_rows`).

Such a row is printed from the statement as it was placed. `Run.rows_eq` follows the rows and the
lines side by side: each row has the address where the bytes of its line start, and shows what the
image has there. It is `listingRow` that says so, which reads everything from the image.

The text of the listing is made of these rows and nothing else, since no row has a line feed of its
own.
-/
import ChipEight.Proofs.Blame
import ChipEight.Proofs.Digits

namespace ChipEight.Assembly

open Text Numeral

/-! ## Rows -/

/-- The row starts with an address: there is no third blank. -/
def isAddressRow (row : Text) : Bool :=
  row[2]? != some ' '

/-- A row with an address, the first bytes that stand there, and a text. -/
def addressRow (address : Int) (bytes : List UInt8) (text : Text) : Text :=
  "  ".toList ++ upperHex 3 address ++ "  ".toList ++ padRight 10 (hexColumn bytes) ++
    "  ".toList ++ text

theorem isAddressRow_addressRow (address : Int) (bytes : List UInt8) (text : Text) :
    isAddressRow (addressRow address bytes text) = true := by
  obtain ⟨c, cs, hdigits⟩ := List.exists_cons_of_ne_nil (upperHex_ne_nil 3 address)
  have hc : isBlank c = false := isBlank_of_mem_upperHex (hdigits ▸ List.mem_cons_self)
  have hblank : c ≠ ' ' := by
    rintro rfl
    exact absurd hc (by decide)
  unfold addressRow
  rw [hdigits]
  simpa [isAddressRow] using hblank

theorem isAddressRow_statementRow (p : Piece) : isAddressRow (statementRow p) = true :=
  isAddressRow_addressRow p.statement.address p.bytes p.statement.text

theorem isAddressRow_labelRow (label : Text) : isAddressRow (labelRow label) = false :=
  rfl

/-- The rows of labels have no address. -/
theorem filter_labelRows (labels : Labels) :
    (labels.map fun l => labelRow l.1).filter isAddressRow = [] := by
  rw [List.filter_map, List.map_eq_nil_iff]
  exact List.filter_eq_nil_iff.mpr fun l _ => by simp [isAddressRow_labelRow]

theorem rows_cons_of_origin {p : Piece} (h : p.statement.form.isOrigin = true) (labels : Labels)
    (ps : List Piece) : rows labels (p :: ps) = rows labels ps := by
  rw [rows, if_pos h]

theorem rows_cons {p : Piece} (h : p.statement.form.isOrigin = false) (labels : Labels)
    (ps : List Piece) :
    rows labels (p :: ps) =
      (labels.filter fun l => l.2 == p.statement.address).map (fun l => labelRow l.1) ++
        statementRow p :: rows (labels.filter fun l => !(l.2 == p.statement.address)) ps := by
  rw [rows, if_neg (by simp [h]), List.partition_eq_filter_filter]
  rfl

/-- Without the rows of labels, the rows are those of the statements that are no origins. -/
theorem filter_rows (labels : Labels) (pieces : List Piece) :
    (rows labels pieces).filter isAddressRow =
      (pieces.filter fun p => !p.statement.form.isOrigin).map statementRow := by
  -- which labels are left for the other rows does not matter, as their rows are left out
  induction pieces generalizing labels with
  | nil => rfl
  | cons p ps ih =>
    cases horigin : p.statement.form.isOrigin with
    | true =>
      rw [rows_cons_of_origin horigin, ih, List.filter_cons_of_neg (by simp [horigin])]
    | false =>
      rw [rows_cons horigin, List.filter_append, filter_labelRows, List.nil_append,
        List.filter_cons_of_pos (isAddressRow_statementRow p), ih,
        List.filter_cons_of_pos (by simp [horigin]), List.map_cons]

/-- Every row is that of a label, or that of a statement. -/
theorem mem_rows {labels : Labels} {pieces : List Piece} {row : Text} (h : row ∈ rows labels pieces) :
    (∃ l ∈ labels, row = labelRow l.1) ∨ ∃ p ∈ pieces, row = statementRow p := by
  induction pieces generalizing labels with
  | nil => cases h
  | cons p ps ih =>
    have hothers {left : Labels} (hleft : ∀ l ∈ left, l ∈ labels) (h : row ∈ rows left ps) :
        (∃ l ∈ labels, row = labelRow l.1) ∨ ∃ q ∈ p :: ps, row = statementRow q := by
      rcases ih h with ⟨l, hl, hrow⟩ | ⟨q, hq, hrow⟩
      · exact .inl ⟨l, hleft l hl, hrow⟩
      · exact .inr ⟨q, List.mem_cons_of_mem p hq, hrow⟩
    cases horigin : p.statement.form.isOrigin with
    | true =>
      rw [rows_cons_of_origin horigin] at h
      exact hothers (fun _ => id) h
    | false =>
      rw [rows_cons horigin, List.mem_append, List.mem_cons] at h
      rcases h with hhere | rfl | h
      · obtain ⟨l, hl, rfl⟩ := List.mem_map.mp hhere
        exact .inl ⟨l, List.mem_of_mem_filter hl, rfl⟩
      · exact .inr ⟨p, List.mem_cons_self, rfl⟩
      · exact hothers (fun _ => List.mem_of_mem_filter) h

/-! ## Lines and rows -/

/-- The line has a row: it has a statement, and this is no origin. -/
def Emission.isListed (e : Emission) : Bool :=
  !e.line.statement.isEmpty && !(Form.ofStatement e.line.statement).isOrigin

/-- The row that a line has to have in the listing of a program that starts at `base`. It shows what
stands in the image at the address of the line: eight bytes at most, and dots if the line has
more. -/
def listingRow (base : Int) (a : Assembled) (e : Emission) : Text :=
  let shown := a.window (e.address - base).toNat (min 8 e.bytes.length)
  let dots := if 8 < e.bytes.length then " ...".toList else []
  "  ".toList ++ upperHex 3 e.address ++ "  ".toList ++
    padRight 10 (joinWith [' '] (shown.map fun b => upperHex 2 b.toNat) ++ dots) ++
    "  ".toList ++ e.line.statement

/-- The statements that are no origins are those of the lines that have a row, one after another, each
with the address and the bytes of its line. -/
theorem Run.listed_eq {final : Labels} {address : Int} {es : List Emission} {pieces : List Piece}
    (h : Run final address es pieces) :
    (pieces.filter fun p => !p.statement.form.isOrigin).map
        (fun p => (p.statement.address, p.bytes, p.statement.text)) =
      (es.filter Emission.isListed).map fun e => (e.address, e.bytes, e.line.statement) := by
  -- a line without a statement has no piece, and the piece of an origin has no row
  induction h with
  | nil address => rfl
  | @bare _ line _ _ empty others ih =>
    rw [List.filter_cons_of_neg (by simp [Emission.isListed, empty]), ih]
  | @statement address line size content _ _ nonempty sized emitted others ih =>
    cases hform : (Form.ofStatement line.statement).isOrigin with
    | true =>
      rw [List.filter_cons_of_neg (by simp [hform]),
        List.filter_cons_of_neg (by simp [Emission.isListed, hform]), ih]
    | false =>
      rw [List.filter_cons_of_pos (by simp [hform]),
        List.filter_cons_of_pos (by simp [Emission.isListed, hform, nonempty]), List.map_cons,
        List.map_cons, ih]
      rfl

/-- So their rows are those of these lines. -/
theorem Run.rows_eq {final : Labels} {address : Int} {es : List Emission} {pieces : List Piece}
    (h : Run final address es pieces) :
    (pieces.filter fun p => !p.statement.form.isOrigin).map statementRow =
      (es.filter Emission.isListed).map fun e =>
        addressRow e.address e.bytes e.line.statement := by
  have hrows := congrArg (List.map fun row : Int × List UInt8 × Text =>
    addressRow row.1 row.2.1 row.2.2) h.listed_eq
  rw [List.map_map, List.map_map] at hrows
  exact hrows

/-- The row of a line shows the bytes that the image has at its address. -/
theorem Account.addressRow_eq {source : Text} {base : Int} {a : Assembled} {es : List Emission}
    (h : Account source base a es) {e : Emission} (he : e ∈ es) :
    addressRow e.address e.bytes e.line.statement = listingRow base a e := by
  obtain ⟨before, after, hes⟩ := List.append_of_mem he
  have haddress := h.consecutive before e after hes
  have hoffset : (e.address - base).toNat = (bytesOf before).length := by omega
  -- eight bytes of the image may go beyond the line, so the window ends with its bytes
  have hshown : a.window (bytesOf before).length (min 8 e.bytes.length) = e.bytes.take 8 := by
    have hall := h.window_eq hes
    unfold Assembled.window at hall ⊢
    rw [← List.take_take, hall]
  unfold listingRow addressRow hexColumn
  rw [hoffset, hshown]

/-! ## Line feeds -/

theorem not_mem_of_mem_sourceLines {source : Text} {line : SourceLine}
    (h : line ∈ sourceLines source) : '\n' ∉ line.text := by
  obtain ⟨-, raw, hraw, htext, -⟩ := mem_sourceLines_iff.mp h
  rw [← htext]
  intro hmem
  have hmem := mem_of_mem_cut.1 (mem_of_mem_trim hmem)
  exact not_mem_of_mem_splitOn (List.mem_of_getElem? hraw) hmem

/-- A label and a statement have the characters of their line. -/
theorem SourceLine.mem_text (line : SourceLine) {c : Char} :
    (∀ label, line.label? = some label → c ∈ label → c ∈ line.text) ∧
      (c ∈ line.statement → c ∈ line.text) := by
  unfold SourceLine.label? SourceLine.statement labelAndStatement
  have hcut := @mem_of_mem_cut ':' line.text c
  split
  · exact ⟨nofun, id⟩
  · rename_i name rest hparts
    rw [hparts] at hcut
    refine ⟨?_, fun hc => hcut.2 rest rfl (mem_of_mem_trim hc)⟩
    rintro label ⟨⟩ hc
    exact hcut.1 (mem_of_mem_trim hc)

theorem newline_not_mem_upperHex (width : Nat) (n : Int) : '\n' ∉ upperHex width n := by
  intro h
  exact absurd (isBlank_of_mem_upperHex h) (by decide)

theorem newline_not_mem_hexColumn (bytes : List UInt8) : '\n' ∉ hexColumn bytes := by
  intro h
  rw [hexColumn, List.mem_append] at h
  rcases h with h | h
  · rcases mem_joinWith h with hsep | ⟨digits, hdigits, h⟩
    · exact absurd hsep (by decide)
    · obtain ⟨b, -, rfl⟩ := List.mem_map.mp hdigits
      exact newline_not_mem_upperHex 2 b.toNat h
  · split at h
    · exact absurd h (by decide)
    · cases h

theorem newline_not_mem_statementRow {p : Piece} (h : '\n' ∉ p.statement.text) :
    '\n' ∉ statementRow p := by
  have hblanks : '\n' ∉ "  ".toList := by decide
  have hfill (width : Nat) : '\n' ∉ List.replicate width ' ' := by
    intro hmem
    exact absurd (List.eq_of_mem_replicate hmem) (by decide)
  unfold statementRow padRight
  simp only [List.mem_append, not_or]
  exact ⟨⟨⟨⟨⟨hblanks, newline_not_mem_upperHex _ _⟩, hblanks⟩,
    newline_not_mem_hexColumn _, hfill _⟩, hblanks⟩, h⟩

theorem newline_not_mem_labelRow {label : Text} (h : '\n' ∉ label) : '\n' ∉ labelRow label := by
  simp only [labelRow, List.mem_append, not_or]
  exact ⟨⟨by decide, h⟩, by decide⟩

/-- Every statement that is made into bytes is that of a line. -/
theorem Run.exists_line {final : Labels} {address : Int} {es : List Emission} {pieces : List Piece}
    (h : Run final address es pieces) {p : Piece} (hp : p ∈ pieces) :
    ∃ e ∈ es, p.statement.text = e.line.statement := by
  induction h with
  | nil address => cases hp
  | bare empty others ih =>
    obtain ⟨e, he, htext⟩ := ih hp
    exact ⟨e, List.mem_cons_of_mem _ he, htext⟩
  | statement nonempty sized emitted others ih =>
    rcases List.mem_cons.mp hp with rfl | hp
    · exact ⟨_, List.mem_cons_self, rfl⟩
    · obtain ⟨e, he, htext⟩ := ih hp
      exact ⟨e, List.mem_cons_of_mem _ he, htext⟩

/-- No row of a listing has a line feed, since no line of the source has one. -/
theorem Run.newline_not_mem_rows {source : Text} {final : Labels} {address : Int}
    {es : List Emission} {pieces : List Piece} (h : Run final address es pieces)
    (hlines : es.map Emission.line = sourceLines source) :
    ∀ row ∈ rows (definitions es) pieces, '\n' ∉ row := by
  have hplain : ∀ e ∈ es, '\n' ∉ e.line.text := by
    intro e he
    apply @not_mem_of_mem_sourceLines source
    rw [← hlines]
    exact List.mem_map_of_mem he
  intro row hrow
  rcases mem_rows hrow with ⟨l, hl, rfl⟩ | ⟨p, hp, rfl⟩
  · obtain ⟨e, he, hlabel, -⟩ := mem_definitions.mp hl
    exact newline_not_mem_labelRow fun h => hplain e he (e.line.mem_text.1 _ hlabel h)
  · obtain ⟨e, he, htext⟩ := h.exists_line hp
    apply newline_not_mem_statementRow
    rw [htext]
    exact fun h => hplain e he (e.line.mem_text.2 h)

/-! ## Programs -/

/-- The rows with an address are those of the lines that have a row. -/
theorem Account.filter_rows_eq {source : Text} {base : Int} {a : Assembled} {es : List Emission}
    (h : Account source base a es) (hrun : Run a.labels base es a.pieces) :
    (rows a.labels a.pieces).filter isAddressRow =
      (es.filter Emission.isListed).map (listingRow base a) := by
  rw [filter_rows, hrun.rows_eq]
  exact List.map_congr_left fun e he => h.addressRow_eq (List.mem_of_mem_filter he)

theorem assembleAloud_listing {source : Text} {base : Int} {a : Assembled}
    (h : assemble source base = .ok a) (printed : Text) :
    (assembleAloud source base true printed).2 = printed ++ unlines (rows a.labels a.pieces) := by
  unfold assembleAloud
  rw [h]
  rfl

/-- Whether or not a listing is asked for, a program text is assembled to the same program or
refused with the same error, and nothing is printed if no listing is asked for. The listing of a
program that is assembled has one row with an address for each line with a statement other than an
origin, in the order of the lines, and the row shows the address of the line, the bytes that the
image has there, and the statement. All other rows are those of labels. -/
theorem listing_faithful (source : Text) (base : Int) (printed : Text) :
    (∀ listing, (assembleAloud source base listing printed).1 = assemble source base) ∧
      (assembleAloud source base false printed).2 = printed ∧
      ∀ a, assemble source base = .ok a → ∃ es lines, Account source base a es ∧
        (assembleAloud source base true printed).2 = printed ++ unlines lines ∧
        (∀ row ∈ lines, '\n' ∉ row) ∧
        lines.filter isAddressRow = (es.filter Emission.isListed).map (listingRow base a) ∧
        ∀ row ∈ lines, isAddressRow row = false →
          ∃ e ∈ es, ∃ label, e.line.label? = some label ∧ row = labelRow label := by
  refine ⟨fun listing => assembleAloud_fst source base listing printed, ?_, ?_⟩
  · unfold assembleAloud
    cases assemble source base <;> rfl
  · intro a ha
    obtain ⟨statements, hlayout, hemit⟩ := assemble_eq_ok ha
    obtain ⟨es, hrun, hlabels, hes⟩ := account_of_passes hlayout hemit
    refine ⟨es, rows a.labels a.pieces, hes, assembleAloud_listing ha printed, ?_,
      hes.filter_rows_eq hrun, ?_⟩
    · rw [hlabels]
      exact hrun.newline_not_mem_rows hes.lines
    · intro row hrow hkind
      rcases mem_rows hrow with ⟨l, hl, rfl⟩ | ⟨p, -, rfl⟩
      · rw [hlabels] at hl
        obtain ⟨e, he, hlabel, -⟩ := mem_definitions.mp hl
        exact ⟨e, he, l.1, hlabel, rfl⟩
      · rw [isAddressRow_statementRow] at hkind
        cases hkind

/-- A program with a gap, a long line and a line without bytes. -/
def tabulated : Text :=
  "go: cls ; now\n.org 0x204\nrow: .db 1,2,3,4,5,6,7,8,9\n".toList ++ "none: .db\n\n .dw go".toList

/-- The listing of the program that starts at address 0x200. -/
def tabulatedListing : Text :=
  "              go:\n  200  00 E0       cls\n".toList ++
    "              row:\n  204  01 02 03 04 05 06 07 08 ...  .db 1,2,3,4,5,6,7,8,9\n".toList ++
    "              none:\n  20D              .db\n  20D  02 00       .dw go\n".toList

theorem listing_faithful_tabulated : ∃ a es lines, assemble tabulated 0x200 = .ok a ∧
    (assembleAloud tabulated 0x200 true []).2 = tabulatedListing ∧
    unlines lines = tabulatedListing ∧ Account tabulated 0x200 a es ∧
    lines.filter isAddressRow = (es.filter Emission.isListed).map (listingRow 0x200 a) := by
  have hprinted : (assembleAloud tabulated 0x200 true []).2 = tabulatedListing := by
    decide +kernel
  -- what is refused prints nothing, so this program is assembled
  obtain ⟨a, ha⟩ : ∃ a, assemble tabulated 0x200 = .ok a := by
    cases hrun : assemble tabulated 0x200 with
    | ok a => exact ⟨a, rfl⟩
    | error e =>
      rw [assembleAloud, hrun] at hprinted
      cases hprinted
  obtain ⟨-, -, hlisted⟩ := listing_faithful tabulated 0x200 []
  obtain ⟨es, lines, hes, hlines, -, hrows, -⟩ := hlisted a ha
  exact ⟨a, es, lines, ha, hprinted, hlines.symm.trans hprinted, hes, hrows⟩

end ChipEight.Assembly
